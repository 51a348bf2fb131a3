import TenantSearch.Proofs.Explanation

/-! The best notes of the leads. What is recorded of a lead has the greatest of its notes by rank
and then by the lower identifier, whether the notes are taken lead by lead or in one pass over those
of all leads, and it does not depend on their order. Its rank adds the damped ranks of these notes
to its own one, and a lead has a record exactly if that rank is above zero. -/
namespace TenantSearch

/-! ## The choice among some rows -/

section
variable {α : Type} (id : α → Uuid) {counts : α → Score → Prop}

/-- What is chosen among the rows that count: one whose rank is not zero or below, and no other such
row has a higher rank, or the same rank and a lower identifier. Without such rows it is nothing. -/
def IsChoice (counts : α → Score → Prop) : Option (α × Score) → Prop
  | none => ∀ row rank, counts row rank → rank ≤ 0
  | some (row, rank) => counts row rank ∧ ¬ rank ≤ 0 ∧
      ∀ other score, counts other score → ¬ score ≤ 0 → score.place < rank.place ∨
        score.place = rank.place ∧ (id row).bits.toNat ≤ (id other).bits.toNat

private theorem isChoice_best? {rows : List (α × Score)}
    (listed : ∀ row rank, counts row rank ↔ (row, rank) ∈ rows) :
    IsChoice id counts (best? id rows) := by
  rcases best?_spec id rows with ⟨empty, unranked⟩ | ⟨⟨row, rank⟩, chosen, found⟩
  · rw [empty]
    exact fun row rank counted => unranked (row, rank) ((listed row rank).mp counted)
  · rw [chosen]
    refine ⟨(listed row rank).mpr found.mem, found.ranked, fun other score counted ranked => ?_⟩
    have unbeaten := found.unbeaten (other, score) ((listed other score).mp counted) ranked
    rw [Bool.eq_false_iff, ne_eq, isBetter_iff] at unbeaten
    simp only at unbeaten
    omega

variable {id} {left right : Option (α × Score)}

/-- All choices have one rank and one identifier. -/
theorem IsChoice.alike (first : IsChoice id counts left) (second : IsChoice id counts right) :
    (left = none ∧ right = none) ∨ ∃ row other, left = some row ∧ right = some other ∧
      row.2 = other.2 ∧ id row.1 = id other.1 := by
  cases left with
  | none =>
    cases right with
    | none => exact .inl ⟨rfl, rfl⟩
    | some other => exact absurd (first _ _ second.1) second.2.1
  | some row =>
    cases right with
    | none => exact absurd (second _ _ first.1) first.2.1
    | some other =>
      -- Neither row comes before the other one, so they share their rank and identifier.
      have below := first.2.2 _ _ second.1 second.2.1
      have above := second.2.2 _ _ first.1 first.2.1
      exact .inr ⟨row, other, rfl, rfl, Score.place_injective (by omega),
        Uuid.eq_of_toNat_eq (by omega)⟩

private theorem IsChoice.bestScore_eq (first : IsChoice id counts left)
    (second : IsChoice id counts right) : bestScore left = bestScore right := by
  rcases first.alike second with ⟨rfl, rfl⟩ | ⟨row, other, rfl, rfl, ranks, _⟩
  · rfl
  · exact ranks

theorem IsChoice.unique (first : IsChoice id counts left) (second : IsChoice id counts right)
    (distinct : ∀ row rank other score, counts row rank → counts other score →
      id row = id other → row = other) : left = right := by
  rcases first.alike second with ⟨rfl, rfl⟩ | ⟨row, other, rfl, rfl, ranks, named⟩
  · rfl
  · exact congrArg some (Prod.ext (distinct _ _ _ _ first.1 second.1 named) ranks)

end

/-! ## One pass over the rows of all leads -/

section
variable {α : Type} (id leadId : α → Uuid)

def keepBetter (best : Option (α × Score)) (row : α × Score) : Option (α × Score) :=
  if row.2 ≤ 0 then best
  else match best with
    | none => some row
    | some current => if isBetter id row current then some row else best

theorem best?_eq_foldl (rows : List (α × Score)) :
    best? id rows = rows.foldl (keepBetter id) none :=
  rfl

/-- The best rows of the leads, after one more row. -/
def keepBest (table : Uuid → Option (α × Score)) (row : α × Score) :
    Uuid → Option (α × Score) :=
  Function.update table (leadId row.1) (keepBetter id (table (leadId row.1)) row)

private theorem keepBest_apply (table : Uuid → Option (α × Score)) (row : α × Score) (lead : Uuid) :
    keepBest id leadId table row lead =
      if leadId row.1 == lead then keepBetter id (table lead) row else table lead := by
  by_cases own : leadId row.1 = lead
  · rw [keepBest, own, Function.update_self]
    simp
  · rw [keepBest, Function.update_of_ne (Ne.symm own)]
    simp [own]

/-- A pass over the rows of all leads keeps for each lead the best one of its own rows. -/
theorem foldl_keepBest (rows : List (α × Score)) (table : Uuid → Option (α × Score))
    (lead : Uuid) : rows.foldl (keepBest id leadId) table lead =
      (rows.filter (leadId ·.1 == lead)).foldl (keepBetter id) (table lead) := by
  -- The table is generalized, as the rows of other leads change it in between.
  induction rows generalizing table with
  | nil => rfl
  | cons row rest ih =>
    rw [List.foldl_cons, ih, keepBest_apply]
    by_cases own : leadId row.1 == lead <;> simp [own]

end

namespace Corpus
variable (ranker : Ranker) (damping : Damping) (corpus : Corpus)

/-- The best notes after a pass over the notes of all leads, which leaves out those of leads that
are not live. -/
def noteTable : Uuid → Option (LeadNote × Score) :=
  corpus.leadNotes.foldl (fun table note =>
    if LeadGraph.isLive corpus.leads note.leadId then
      keepBest (·.id) (·.leadId) table (note, ranker.rankText note.body .c)
    else table) fun _ => none

/-- The best service notes after a pass over the services of all leads, which leaves out blank notes
and leads that are not live. -/
def serviceTable : Uuid → Option (LeadService × Score) :=
  corpus.leadServices.foldl (fun table service =>
    match service.consumerNote with
    | none => table
    | some text =>
      if Text.allBlank text || !LeadGraph.isLive corpus.leads service.leadId then table
      else keepBest (·.id) (·.leadId) table (service, ranker.rankText text .c)) fun _ => none

theorem noteTable_apply (lead : Uuid) : corpus.noteTable ranker lead =
    best? (·.id) ((LeadGraph.rankedNotes ranker corpus).filter (·.1.leadId == lead)) := by
  have pass := foldl_keepBest LeadNote.id LeadNote.leadId (LeadGraph.rankedNotes ranker corpus)
    (fun _ => none) lead
  rw [LeadGraph.rankedNotes, List.foldl_map, List.foldl_filter] at pass
  exact pass

theorem serviceTable_apply (lead : Uuid) : corpus.serviceTable ranker lead =
    best? (·.id) ((LeadGraph.rankedServices ranker corpus).filter (·.1.leadId == lead)) := by
  have pass := foldl_keepBest LeadService.id LeadService.leadId
    (LeadGraph.rankedServices ranker corpus) (fun _ => none) lead
  rw [LeadGraph.rankedServices, List.foldl_filterMap] at pass
  rw [best?_eq_foldl, LeadGraph.rankedServices, ← pass, serviceTable]
  refine congrArg (fun step => corpus.leadServices.foldl step (fun _ => none) lead) ?_
  funext table service
  cases service.consumerNote with
  | none => rfl
  | some text =>
    simp only
    split <;> rfl

/-! ## The records of the leads -/

structure Records (lead : Lead) (found : LeadMatch) : Prop where
  ownField : found.ownField = Lead.ownField (ranker.rank lead.fields)
  note : IsChoice (·.id) (corpus.NoteOf ranker lead.id) found.note
  serviceNote : IsChoice (·.id) (corpus.ServiceNoteOf ranker lead.id) found.serviceNote
  rank : found.rank = (ranker.rank lead.fields).score + bestScore found.note * damping.note +
    bestScore found.serviceNote * damping.serviceNote

variable {ranker damping corpus}

private theorem records_matchOf {lead : Lead} (live : lead ∈ corpus.leads) :
    corpus.Records ranker damping lead (LeadGraph.matchOf ranker damping
      (LeadGraph.rankedNotes ranker corpus) (LeadGraph.rankedServices ranker corpus) lead) := by
  refine ⟨rfl, isChoice_best? _ fun note rank => ?_, isChoice_best? _ fun service rank => ?_, rfl⟩
  · exact (@LeadGraph.mem_notesOf ranker corpus lead live (note, rank)).symm
  · exact (@LeadGraph.mem_servicesOf ranker corpus lead live (service, rank)).symm

private theorem Records.rank_unique {lead : Lead} {left right : LeadMatch}
    (first : corpus.Records ranker damping lead left)
    (second : corpus.Records ranker damping lead right) : left.rank = right.rank := by
  rw [first.rank, second.rank, first.note.bestScore_eq second.note,
    first.serviceNote.bestScore_eq second.serviceNote]

private theorem Records.notes_unique (notes : (corpus.leadNotes.map (·.id)).Nodup)
    (services : (corpus.leadServices.map (·.id)).Nodup) {lead row : Lead} (named : lead.id = row.id)
    {left right : LeadMatch} (first : corpus.Records ranker damping lead left)
    (second : corpus.Records ranker damping row right) :
    left.note = right.note ∧ left.serviceNote = right.serviceNote := by
  have note := first.note
  have service := first.serviceNote
  rw [named] at note service
  exact ⟨note.unique second.note fun _ _ _ _ one two same =>
      List.inj_on_of_nodup_map notes one.1 two.1 same,
    service.unique second.serviceNote fun _ _ _ _ one two same =>
      List.inj_on_of_nodup_map services one.1 two.1 same⟩

theorem Records.perm {other : Corpus} (notes : other.leadNotes.Perm corpus.leadNotes)
    (services : other.leadServices.Perm corpus.leadServices) {lead : Lead} {found : LeadMatch}
    (records : other.Records ranker damping lead found) :
    corpus.Records ranker damping lead found := by
  have noteOf : corpus.NoteOf ranker = other.NoteOf ranker := by
    funext lead note rank
    rw [NoteOf, NoteOf, notes.mem_iff]
  have serviceNoteOf : corpus.ServiceNoteOf ranker = other.ServiceNoteOf ranker := by
    funext lead service rank
    rw [ServiceNoteOf, ServiceNoteOf, services.mem_iff]
  obtain ⟨own, note, service, rank⟩ := records
  exact ⟨own, noteOf ▸ note, serviceNoteOf ▸ service, rank⟩

end Corpus

/-! ## Settings that pass their check -/

def Score.addBest {α : Type} (rank : Score) (best : Option (α × Score)) (factor : Score) : Score :=
  match best with
  | none => rank
  | some row => rank + row.2 * factor

private theorem Score.addBest_eq {α : Type} {rank factor : Score} (regular : rank.Regular)
    (finite : factor.Finite) (best : Option (α × Score)) :
    rank.addBest best factor = rank + bestScore best * factor := by
  cases best with
  | none =>
    have nothing : bestScore (none : Option (α × Score)) = 0 := rfl
    rw [nothing, finite.zero_mul_eq, regular.add_zero_eq, addBest]
  | some row => rfl

private theorem IsChoice.regular {α : Type} {id : α → Uuid} {counts : α → Score → Prop}
    {best : Option (α × Score)} (choice : IsChoice id counts best)
    (regular : ∀ row rank, counts row rank → rank.Regular) : (bestScore best).Regular := by
  cases best with
  | none => exact Score.regular_zero
  | some row => exact regular _ _ choice.1

private theorem Corpus.Records.rank_eq_addBest {ranker : Ranker} {damping : Damping}
    {corpus : Corpus}
    (sound : ranker.Sound) (damped : damping.Sound) {lead : Lead} {found : LeadMatch}
    (records : corpus.Records ranker damping lead found) :
    found.rank = ((ranker.rank lead.fields).score.addBest found.note damping.note).addBest
      found.serviceNote damping.serviceNote := by
  have own : (ranker.rank lead.fields).score.Regular := Ranker.regular_rank sound
  have note : (bestScore found.note).Regular := records.note.regular fun _ _ counted => by
    rw [counted.2.2]
    exact Ranker.regular_rank sound
  have share := note.mul damped.note.1 damped.note.2
  rw [records.rank, Score.addBest_eq own damped.note.1,
    Score.addBest_eq (own.add share) damped.serviceNote.1]

/-- A ranker and factors of a search with settings that pass their check. -/
inductive Ranker.Checked : Ranker → Damping → Prop
  | intro {settings : Settings} (valid : settings.check = .ok settings)
      (bounded : settings.search.maxQueryChars < Document.wordBound) {service : SearchService}
      (configured : service.settings = settings.search) {request : SearchRequest} {isAdmin : Bool}
      {query : Text} {kinds : List RecordKind}
      (planned : SearchService.plan service.settings request isAdmin = .ok (some (query, kinds))) :
      Checked (service.ranker query) settings.search.damping

private theorem Ranker.Checked.sound {ranker : Ranker} {damping : Damping}
    (checked : ranker.Checked damping) : ranker.Sound ∧ damping.Sound := by
  obtain ⟨valid, bounded, configured, planned⟩ := checked
  exact ⟨SearchService.sound_ranker_of_plan valid bounded configured planned,
    Settings.sound_damping_of_check valid⟩

namespace LeadGraph
variable (ranker : Ranker) (damping : Damping) (corpus : Corpus) (id : Uuid)

theorem records_of_match? {found : LeadMatch}
    (matched : (ofCorpus ranker damping corpus).match? id = some found) :
    found.note = corpus.noteTable ranker id ∧ found.serviceNote = corpus.serviceTable ranker id ∧
      ∃ lead ∈ corpus.leads, lead.id = id ∧ corpus.Records ranker damping lead found ∧
        0 < found.rank := by
  obtain ⟨lead, live, rfl, ranked, rfl⟩ := exists_lead_of_match? ranker damping corpus matched
  exact ⟨(corpus.noteTable_apply ranker lead.id).symm,
    (corpus.serviceTable_apply ranker lead.id).symm,
    lead, live, rfl, corpus.records_matchOf live, ranked⟩

theorem exists_match?_iff : (∃ found, (ofCorpus ranker damping corpus).match? id = some found) ↔
    ∃ lead ∈ corpus.leads, lead.id = id ∧
      ∃ found, corpus.Records ranker damping lead found ∧ 0 < found.rank := by
  constructor
  · rintro ⟨found, matched⟩
    obtain ⟨_, _, lead, live, named, records, ranked⟩ :=
      records_of_match? ranker damping corpus id matched
    exact ⟨lead, live, named, found, records, ranked⟩
  · rintro ⟨lead, live, rfl, found, records, ranked⟩
    -- The record that is made of the row may have other notes, but it has the same rank.
    rw [records.rank_unique (corpus.records_matchOf live)] at ranked
    exact exists_match? ranker damping corpus live ranked

variable {corpus}

theorem match?_perm {other : Corpus} (leads : other.leads.Perm corpus.leads)
    (notes : other.leadNotes.Perm corpus.leadNotes)
    (services : other.leadServices.Perm corpus.leadServices)
    (leadIds : (corpus.leads.map (·.id)).Nodup) (noteIds : (corpus.leadNotes.map (·.id)).Nodup)
    (serviceIds : (corpus.leadServices.map (·.id)).Nodup) :
    (ofCorpus ranker damping other).match? id = (ofCorpus ranker damping corpus).match? id := by
  refine (match?_congr ranker damping ⟨?_, fun _ => ?_, fun _ => ?_⟩).symm
  · exact Rearranged.of_perm leadIds leads.symm id
  · exact (Rearranged.of_perm noteIds notes.symm).filter _
  · exact (Rearranged.of_perm serviceIds services.symm).filter _

variable (corpus)

/-- The record of a lead has the best notes that a pass over all rows leaves for it, which are the
choices among its own notes and service notes, and a rank that adds these up; with settings that
pass their check, missing notes add nothing to it. There is a record exactly if that rank is above
zero. With distinct identifiers nothing of it depends on the order of the rows, and the notes do not
depend on the order of the leads even if these share identifiers. -/
theorem best_notes :
    (∀ found, (ofCorpus ranker damping corpus).match? id = some found →
      found.note = corpus.noteTable ranker id ∧ found.serviceNote = corpus.serviceTable ranker id ∧
      ∃ lead ∈ corpus.leads, lead.id = id ∧ corpus.Records ranker damping lead found ∧
        0 < found.rank ∧ (ranker.Checked damping → found.rank =
          ((ranker.rank lead.fields).score.addBest found.note damping.note).addBest
            found.serviceNote damping.serviceNote)) ∧
    ((∃ found, (ofCorpus ranker damping corpus).match? id = some found) ↔
      ∃ lead ∈ corpus.leads, lead.id = id ∧
        ∃ found, corpus.Records ranker damping lead found ∧ 0 < found.rank) ∧
    ∀ other : Corpus, other.leads.Perm corpus.leads → other.leadNotes.Perm corpus.leadNotes →
      other.leadServices.Perm corpus.leadServices → (corpus.leadNotes.map (·.id)).Nodup →
      (corpus.leadServices.map (·.id)).Nodup →
      (∀ found moved, (ofCorpus ranker damping corpus).match? id = some found →
        (ofCorpus ranker damping other).match? id = some moved →
        moved.note = found.note ∧ moved.serviceNote = found.serviceNote) ∧
      ((corpus.leads.map (·.id)).Nodup →
        (ofCorpus ranker damping other).match? id =
          (ofCorpus ranker damping corpus).match? id) := by
  refine ⟨fun found matched => ?_, exists_match?_iff ranker damping corpus id,
    fun other leads notes services noteIds serviceIds => ⟨fun found moved matched again => ?_,
      fun leadIds =>
        match?_perm ranker damping id leads notes services leadIds noteIds serviceIds⟩⟩
  · obtain ⟨note, service, lead, live, named, records, ranked⟩ :=
      records_of_match? ranker damping corpus id matched
    refine ⟨note, service, lead, live, named, records, ranked, fun checked => ?_⟩
    exact records.rank_eq_addBest checked.sound.1 checked.sound.2
  · obtain ⟨_, _, lead, _, named, records, _⟩ :=
      records_of_match? ranker damping corpus id matched
    obtain ⟨_, _, row, _, same, elsewhere, _⟩ :=
      records_of_match? ranker damping other id again
    exact (elsewhere.perm notes services).notes_unique noteIds serviceIds
      (same.trans named.symm) records

end LeadGraph

def Corpus.sample : Corpus :=
  { TenantRows.empty with
    leads := [⟨⟨1⟩, "Anna".toList, "Bakker".toList, none, none, none, .epoch⟩,
      ⟨⟨2⟩, "Bram".toList, "Visser".toList, none, none, none, .epoch⟩]
    leadNotes := [⟨⟨5⟩, ⟨1⟩, "new roof".toList, .epoch⟩, ⟨⟨4⟩, ⟨2⟩, "roof".toList, .epoch⟩,
      ⟨⟨3⟩, ⟨1⟩, "old roof".toList, .epoch⟩, ⟨⟨1⟩, ⟨1⟩, "call back".toList, .epoch⟩,
      ⟨⟨2⟩, ⟨9⟩, "roof".toList, .epoch⟩]
    leadServices := [⟨⟨7⟩, ⟨1⟩, some " ".toList⟩, ⟨⟨8⟩, ⟨1⟩, none⟩] }

/-- Of the two notes of the first lead that match alike, the one with the lower identifier is kept,
also when all rows are in the opposite order. -/
theorem LeadGraph.best_notes_sample :
    let settings : Settings := ⟨⟨"127.0.0.1:8080".toList, "info".toList⟩, ⟨"crm".toList, 8⟩, {}⟩
    let service : SearchService := ⟨settings.search, .dutch, Store.sample.source .none, rfl⟩
    let ranker := service.ranker "roof".toList
    let damping := settings.search.damping
    let corpus := Corpus.sample
    let other := { corpus with
      leads := corpus.leads.reverse
      leadNotes := corpus.leadNotes.reverse
      leadServices := corpus.leadServices.reverse }
    ranker.Checked damping ∧
      ∃ found, (ofCorpus ranker damping corpus).match? ⟨1⟩ = some found ∧
        found.note.map (·.1.id) = some ⟨3⟩ ∧ found.note = corpus.noteTable ranker ⟨1⟩ ∧
        (∃ lead ∈ corpus.leads, lead.id = ⟨1⟩ ∧ corpus.Records ranker damping lead found ∧
          found.rank = ((ranker.rank lead.fields).score.addBest found.note damping.note).addBest
            found.serviceNote damping.serviceNote) ∧
        (ofCorpus ranker damping other).match? ⟨1⟩ = some found := by
  intro settings service ranker damping corpus other
  have valid : settings.check = .ok settings :=
    Settings.check_defaults (by decide) (by decide) (by decide)
  have planned : SearchService.plan service.settings ⟨"roof".toList, none, none, none⟩ false =
      .ok (some ("roof".toList, _)) := rfl
  have checked : ranker.Checked damping := .intro valid (by decide) rfl planned
  have noted : ((ofCorpus ranker damping corpus).match? ⟨1⟩).map
      (fun found => found.note.map (·.1.id)) = some (some ⟨3⟩) := by decide +kernel
  obtain ⟨found, matched, note⟩ := Option.map_eq_some_iff.mp noted
  obtain ⟨recorded, _, rearranged⟩ := best_notes ranker damping corpus ⟨1⟩
  obtain ⟨table, _, lead, live, named, records, _, rank⟩ := recorded found matched
  obtain ⟨_, again⟩ := rearranged other (List.reverse_perm _) (List.reverse_perm _)
    (List.reverse_perm _) (by decide) (by decide)
  exact ⟨checked, found, matched, note, table, ⟨lead, live, named, records, rank checked⟩,
    (again (by decide)).trans matched⟩

end TenantSearch
