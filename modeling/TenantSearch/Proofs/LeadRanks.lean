import TenantSearch.Proofs.LeadGraph
import TenantSearch.Proofs.RankRange
import TenantSearch.Settings.Validate

/-! Which leads match. The rank of a lead adds its own rank and the damped ranks of its best notes,
and it tells whether any of these texts satisfies the query; the highest rank among the leads of a
partner tells whether one of them matches. -/
namespace TenantSearch
open Score (Between Reflects)

/-- Factors that keep at least a millionth. -/
def Damping.Moderate (damping : Damping) : Prop :=
  ∀ factor ∈ damping.named, Between 1e-6 1 factor.2

namespace Corpus
variable (ranker : Ranker) (corpus : Corpus)

/-- Whether a lead matches by its own fields, by one of its notes or by a note of one of its
services. -/
def Matches (lead : Lead) : Prop :=
  ranker.Satisfies lead.fields ∨
    (∃ note ∈ corpus.leadNotes, note.leadId = lead.id ∧
      ranker.Satisfies [(some note.body, .c)]) ∨
    ∃ service ∈ corpus.leadServices, service.leadId = lead.id ∧
      ∃ text, service.consumerNote = some text ∧ Text.allBlank text = false ∧
        ranker.Satisfies [(some text, .c)]

def NoteOf (lead : Uuid) (note : LeadNote) (rank : Score) : Prop :=
  note ∈ corpus.leadNotes ∧ note.leadId = lead ∧ rank = ranker.rankText note.body .c

def ServiceNoteOf (lead : Uuid) (service : LeadService) (rank : Score) : Prop :=
  service ∈ corpus.leadServices ∧ service.leadId = lead ∧
    ∃ text, service.consumerNote = some text ∧ Text.allBlank text = false ∧
      rank = ranker.rankText text .c

/-- Whether a live lead of an identifier matches. -/
def LeadMatches (id : Uuid) : Prop :=
  ∃ lead ∈ corpus.leads, lead.id = id ∧ corpus.Matches ranker lead

end Corpus

section
variable {least most : Score} (positive : 0 < least.toBits.toNat) (bounded : most.Finite)
include positive bounded

private theorem reflects_bestScore {α : Type} {id : α → Uuid} {rows : List (α × Score)}
    (condition : α → Prop) (each : ∀ row ∈ rows, Reflects least most (condition row.1) row.2) :
    Reflects least most (∃ row ∈ rows, condition row.1) (bestScore (best? id rows)) := by
  rcases best?_spec id rows with ⟨empty, unranked⟩ | ⟨best, found, isBest⟩
  · rw [empty]
    refine ⟨bounded, fun _ => rfl, ?_⟩
    rintro ⟨row, member, holds⟩
    exact absurd (unranked row member) (((each row member).not_le_zero_iff positive).mpr holds)
  · rw [found]
    have holds := ((each best isBest.mem).not_le_zero_iff positive).mp isBest.ranked
    refine ⟨bounded, ?_, fun _ => (each best isBest.mem).between holds⟩
    intro fails
    exact absurd ⟨best, isBest.mem, holds⟩ fails

private theorem reflects_maximum {α : Type} (rows : List α) {rank : α → Score}
    {condition : α → Prop} (each : ∀ row ∈ rows, Reflects least most (condition row) (rank row)) :
    Reflects least most (∃ row ∈ rows, condition row) (Score.maximum (rows.map rank)) := by
  have regular : ∀ score ∈ rows.map rank, score.Regular := by
    intro score member
    obtain ⟨row, inside, rfl⟩ := List.mem_map.mp member
    exact (each row inside).regular
  obtain ⟨among, highest⟩ := Score.maximum_spec _ regular
  refine ⟨bounded, ?_, ?_⟩
  · intro fails
    rcases List.mem_cons.mp among with zero | member
    · exact zero
    · obtain ⟨row, inside, same⟩ := List.mem_map.mp member
      rw [← same]
      exact (each row inside).zero fun holds => fails ⟨row, inside, holds⟩
  · rintro ⟨row, inside, holds⟩
    -- The maximum is a rank of some row or zero, and it is not below the rank of this row.
    have nonzero : Score.maximum (rows.map rank) ≠ 0 := by
      intro zero
      have above := highest _ (List.mem_cons_of_mem _ (List.mem_map_of_mem inside))
      have large := ((each row inside).between holds).above
      have nothing : (0 : Score).toBits.toNat = 0 := by decide
      rw [zero, (each row inside).regular.place, Score.regular_zero.place] at above
      omega
    rcases List.mem_cons.mp among with zero | member
    · exact absurd zero nonzero
    · obtain ⟨top, listed, same⟩ := List.mem_map.mp member
      rw [← same] at nonzero ⊢
      by_cases topmost : condition top
      · exact (each top listed).between topmost
      · exact absurd ((each top listed).zero topmost) nonzero

end

namespace LeadGraph

def leastMatch : Score := Ranker.leastShare * 1e-6

def highestMatch : Score := 4e35

theorem leastMatch_pos : 0 < leastMatch.toBits.toNat := by decide

private theorem match_bounds :
    let two := Ranker.highestRank + Ranker.highestRank
    two.Finite ∧ (two + Ranker.highestRank).Finite ∧
      (two + Ranker.highestRank).toBits.toNat ≤ highestMatch.toBits.toNat ∧
      highestMatch.Finite := by
  decide +kernel

theorem finite_highestMatch : highestMatch.Finite := match_bounds.2.2.2

private theorem isLive_of_eq {leads : List Lead} {lead : Lead} (live : lead ∈ leads) {id : Uuid}
    (named : id = lead.id) : isLive leads id = true :=
  List.any_eq_true.mpr ⟨lead, live, beq_iff_eq.mpr named.symm⟩

theorem mem_rankedNotes {ranker : Ranker} {corpus : Corpus} {row : LeadNote × Score} :
    row ∈ rankedNotes ranker corpus ↔ row.1 ∈ corpus.leadNotes ∧
      isLive corpus.leads row.1.leadId = true ∧ row.2 = ranker.rankText row.1.body .c := by
  obtain ⟨note, score⟩ := row
  rw [rankedNotes, List.mem_map]
  constructor
  · rintro ⟨_, kept, same⟩
    cases same
    exact ⟨(List.mem_filter.mp kept).1, (List.mem_filter.mp kept).2, rfl⟩
  · rintro ⟨inside, known, rank⟩
    exact ⟨note, List.mem_filter.mpr ⟨inside, known⟩, Prod.ext rfl rank.symm⟩

theorem mem_rankedServices {ranker : Ranker} {corpus : Corpus} {row : LeadService × Score} :
    row ∈ rankedServices ranker corpus ↔ row.1 ∈ corpus.leadServices ∧
      isLive corpus.leads row.1.leadId = true ∧ ∃ text, row.1.consumerNote = some text ∧
        Text.allBlank text = false ∧ row.2 = ranker.rankText text .c := by
  rw [rankedServices, List.mem_filterMap]
  constructor
  · rintro ⟨service, inside, made⟩
    split at made
    · next text given =>
      split at made
      · contradiction
      · next kept =>
        obtain rfl := Option.some.inj made
        simp only [Bool.or_eq_true, Bool.not_eq_true', not_or, Bool.not_eq_true,
          Bool.not_eq_false] at kept
        exact ⟨inside, kept.2, text, given, kept.1, rfl⟩
    · contradiction
  · obtain ⟨service, score⟩ := row
    rintro ⟨inside, known, text, given, shown, rank⟩
    refine ⟨service, inside, ?_⟩
    simp only at given known rank
    simp [given, shown, known, rank]

theorem mem_notesOf {ranker : Ranker} {corpus : Corpus} {lead : Lead}
    (live : lead ∈ corpus.leads) {row : LeadNote × Score} :
    row ∈ (rankedNotes ranker corpus).filter (·.1.leadId == lead.id) ↔
      corpus.NoteOf ranker lead.id row.1 row.2 := by
  rw [List.mem_filter, mem_rankedNotes, beq_iff_eq]
  constructor
  · rintro ⟨⟨inside, _, rank⟩, named⟩
    exact ⟨inside, named, rank⟩
  · rintro ⟨inside, named, rank⟩
    exact ⟨⟨inside, isLive_of_eq live named, rank⟩, named⟩

theorem mem_servicesOf {ranker : Ranker} {corpus : Corpus} {lead : Lead}
    (live : lead ∈ corpus.leads) {row : LeadService × Score} :
    row ∈ (rankedServices ranker corpus).filter (·.1.leadId == lead.id) ↔
      corpus.ServiceNoteOf ranker lead.id row.1 row.2 := by
  rw [List.mem_filter, mem_rankedServices, beq_iff_eq]
  constructor
  · rintro ⟨⟨inside, _, given⟩, named⟩
    exact ⟨inside, named, given⟩
  · rintro ⟨inside, named, given⟩
    exact ⟨⟨inside, isLive_of_eq live named, given⟩, named⟩

section
variable {ranker : Ranker} (moderate : ranker.Moderate) {damping : Damping}
  (damped : damping.Moderate) {corpus : Corpus}
include moderate

private theorem reflects_rankText (text : Text) (kind : FieldClass) :
    Reflects Ranker.leastShare Ranker.highestRank (ranker.Satisfies [(some text, kind)])
      (ranker.rankText text kind) :=
  Ranker.reflects_rank moderate

private theorem reflects_note {lead : Lead} (live : lead ∈ corpus.leads) :
    Reflects Ranker.leastShare Ranker.highestRank
      (∃ note ∈ corpus.leadNotes, note.leadId = lead.id ∧
        ranker.Satisfies [(some note.body, .c)])
      (bestScore (best? (·.id)
        ((rankedNotes ranker corpus).filter (·.1.leadId == lead.id)))) := by
  apply (reflects_bestScore Ranker.leastShare_pos Ranker.finite_highestRank
    (fun note => ranker.Satisfies [(some note.body, .c)]) fun row member => ?_).congr
  · constructor
    · rintro ⟨row, member, holds⟩
      obtain ⟨inside, named, _⟩ := (mem_notesOf live).mp member
      exact ⟨row.1, inside, named, holds⟩
    · rintro ⟨note, inside, named, holds⟩
      exact ⟨(note, ranker.rankText note.body .c),
        (mem_notesOf live).mpr ⟨inside, named, rfl⟩, holds⟩
  · rw [((mem_notesOf live).mp member).2.2]
    exact reflects_rankText moderate row.1.body .c

private theorem reflects_service {lead : Lead} (live : lead ∈ corpus.leads) :
    Reflects Ranker.leastShare Ranker.highestRank
      (∃ service ∈ corpus.leadServices, service.leadId = lead.id ∧
        ∃ text, service.consumerNote = some text ∧ Text.allBlank text = false ∧
          ranker.Satisfies [(some text, .c)])
      (bestScore (best? (·.id)
        ((rankedServices ranker corpus).filter (·.1.leadId == lead.id)))) := by
  apply (reflects_bestScore Ranker.leastShare_pos Ranker.finite_highestRank
    (fun service => ∃ text, service.consumerNote = some text ∧ Text.allBlank text = false ∧
      ranker.Satisfies [(some text, .c)]) fun row member => ?_).congr
  · constructor
    · rintro ⟨row, member, holds⟩
      obtain ⟨inside, named, _⟩ := (mem_servicesOf live).mp member
      exact ⟨row.1, inside, named, holds⟩
    · rintro ⟨service, inside, named, text, given, shown, holds⟩
      exact ⟨(service, ranker.rankText text .c),
        (mem_servicesOf live).mpr ⟨inside, named, text, given, shown, rfl⟩, text, given, shown,
        holds⟩
  · obtain ⟨_, _, text, given, shown, rank⟩ := (mem_servicesOf live).mp member
    rw [rank]
    apply (reflects_rankText moderate text .c).congr
    simp [given, shown]

include damped

theorem reflects_matchOf {lead : Lead} (live : lead ∈ corpus.leads) :
    Reflects leastMatch highestMatch (corpus.Matches ranker lead)
      (matchOf ranker damping (rankedNotes ranker corpus) (rankedServices ranker corpus)
        lead).rank := by
  have noteFactor := damped ("note", damping.note) (by simp [Damping.named])
  have serviceFactor := damped ("service_note", damping.serviceNote) (by simp [Damping.named])
  have own : Reflects leastMatch Ranker.highestRank (ranker.Satisfies lead.fields)
      (ranker.rank lead.fields).score :=
    (Ranker.reflects_rank moderate).widen (by decide) le_rfl Ranker.finite_highestRank
  have note := (reflects_note moderate live).mul noteFactor
  have service := (reflects_service moderate live).mul serviceFactor
  obtain ⟨two, three, below, top⟩ := match_bounds
  exact (((own.add note two).add service three).congr or_assoc).widen le_rfl below top

/-- The rank of an identifier tells whether a live lead of it matches. -/
theorem reflects_leadRank (id : Uuid) :
    Reflects leastMatch highestMatch (corpus.LeadMatches ranker id)
      ((ofCorpus ranker damping corpus).leadRank id) := by
  have rank (lead : Lead) (live : lead ∈ corpus.leads) :=
    reflects_matchOf moderate damped live
  cases matched : (ofCorpus ranker damping corpus).match? id with
  | none =>
    have zero : (ofCorpus ranker damping corpus).leadRank id = 0 := by simp [leadRank, matched]
    rw [zero]
    refine ⟨finite_highestMatch, fun _ => rfl, ?_⟩
    rintro ⟨lead, live, rfl, holds⟩
    -- Only leads without a rank are missing from the matches.
    obtain ⟨found, present⟩ := exists_match? ranker damping corpus live
      (((rank lead live).pos_iff leastMatch_pos).mpr holds)
    rw [matched] at present
    contradiction
  | some found =>
    have same : (ofCorpus ranker damping corpus).leadRank id = found.rank := by
      simp [leadRank, matched]
    obtain ⟨lead, live, named, above, rfl⟩ :=
      exists_lead_of_match? ranker damping corpus matched
    have holds := ((rank lead live).pos_iff leastMatch_pos).mp above
    rw [same]
    refine ⟨finite_highestMatch, ?_, fun _ => (rank lead live).between holds⟩
    intro fails
    exact absurd ⟨lead, live, named, holds⟩ fails

theorem reflects_partnerRank (id : Uuid) :
    Reflects leastMatch highestMatch
      (∃ link ∈ corpus.partnerLeads, link.partnerId = id ∧ corpus.LeadMatches ranker link.leadId)
      ((ofCorpus ranker damping corpus).partnerRank id) := by
  have each : ∀ link ∈ corpus.partnerLeads.filter (·.partnerId == id),
      Reflects leastMatch highestMatch (corpus.LeadMatches ranker link.leadId)
        ((ofCorpus ranker damping corpus).leadRank link.leadId) :=
    fun link _ => reflects_leadRank moderate damped link.leadId
  apply (reflects_maximum leastMatch_pos finite_highestMatch _ each).congr
  simp only [List.mem_filter, beq_iff_eq, and_assoc]

end

end LeadGraph

end TenantSearch
