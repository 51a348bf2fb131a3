import TenantSearch.Proofs.RelatedRank
import TenantSearch.Proofs.ScoreRange

/-! Why a record was found. The tag of a record names the first of its own fields with a part in its
rank. Only a record without such a field is tagged by something else, and then it has the note, the
service note or the lead that its tag promises: rounding may lose a rank, but never makes one. -/
namespace TenantSearch

namespace Ranker
variable (ranker : Ranker)

def ownParts (record : Record) : List (MatchedField × Score) :=
  record.fieldNames.zip (ranker.rank record.fields).parts

/-- Whether no field of a record has a part in its rank. -/
def Unranked (record : Record) : Prop :=
  ∀ part ∈ (ranker.rank record.fields).parts, ¬ 0 < part

private theorem length_parts (fields : List Field) :
    (ranker.rank fields).parts.length = fields.length := by
  rw [rank_parts, List.length_map]

variable {ranker}

private theorem unranked_of_firstHit {record : Record}
    (missed : (ranker.rank record.fields).firstHit (MatchedField.placed record.fieldNames) = none) :
    ranker.Unranked record :=
  OwnRank.not_pos_of_firstHit (by rw [length_parts, record.length_fieldNames]) missed

theorem Unranked.not_pos (sound : ranker.Sound) {record : Record}
    (unranked : ranker.Unranked record) : ¬ 0 < (ranker.rank record.fields).score := by
  rw [rank_pos_iff sound]
  rintro ⟨part, member, above⟩
  exact unranked part member above

end Ranker

namespace Corpus
variable (ranker : Ranker) (damping : Damping) (corpus : Corpus)

def HasNote (lead : Uuid) : Prop :=
  ∃ note ∈ corpus.leadNotes, note.leadId = lead ∧ 0 < ranker.rankText note.body .c

def HasServiceNote (lead : Uuid) : Prop :=
  ∃ service ∈ corpus.leadServices, service.leadId = lead ∧
    ∃ text, service.consumerNote = some text ∧ Text.allBlank text = false ∧
      0 < ranker.rankText text .c

/-- What a tag of a record says. -/
inductive Explains (record : Record) : MatchedField → Prop
  | own {field : MatchedField} (first : RanksFirst (ranker.ownParts record) field) :
      Explains record field
  | note (isLead : record.kind = .lead) (unranked : ranker.Unranked record)
      (noted : corpus.HasNote ranker record.id) : Explains record .notes
  | serviceNote (isLead : record.kind = .lead) (unranked : ranker.Unranked record)
      (unnoted : ¬ corpus.HasNote ranker record.id)
      (told : corpus.HasServiceNote ranker record.id) : Explains record .serviceNote
  | lead {lead : Lead} (notLead : record.kind ≠ .lead) (unranked : ranker.Unranked record)
      (live : lead ∈ corpus.leads) (related : corpus.Relates record lead.id)
      (ranked : 0 < (LeadGraph.ofCorpus ranker damping corpus).leadRank lead.id) :
      Explains record .lead

/-- A tag of a record is true of a live row that has its identifier. Where leads have distinct
identifiers, this is the record itself. -/
def Explained (record : Record) (tag : MatchedField) : Prop :=
  ∃ row, corpus.Holds row ∧ row.key = record.key ∧ corpus.Explains ranker damping row tag ∧
    ((corpus.leads.map (·.id)).Nodup → row = record)

end Corpus

/-! ## Leads -/

private theorem best?_cases {α : Type} (id : α → Uuid) (rows : List (α × Score))
    (regular : ∀ row ∈ rows, row.2.Regular) :
    (best? id rows = none ∧ ∀ row ∈ rows, ¬ 0 < row.2) ∨
      ∃ best ∈ rows, best? id rows = some best ∧ 0 < best.2 := by
  rcases best?_spec id rows with ⟨empty, unranked⟩ | ⟨best, found, isBest⟩
  · refine .inl ⟨empty, ?_⟩
    intro row member ranked
    exact ((regular row member).not_le_iff Score.regular_zero).mpr ranked (unranked row member)
  · exact .inr ⟨best, isBest.mem, found,
      ((regular best isBest.mem).not_le_iff Score.regular_zero).mp isBest.ranked⟩

theorem bestScore_spec {α : Type} (id : α → Uuid) (rows : List (α × Score))
    (regular : ∀ row ∈ rows, row.2.Regular) :
    (bestScore (best? id rows)).Regular ∧
      (0 < bestScore (best? id rows) → ∃ row ∈ rows, 0 < row.2) := by
  rcases best?_cases id rows regular with ⟨absent, _⟩ | ⟨row, member, found, ranked⟩
  · have nothing : ¬ (0 : Score) < 0 := by decide
    rw [absent]
    exact ⟨Score.regular_zero, fun above => absurd above nothing⟩
  · rw [found]
    exact ⟨Score.regular_of_pos ranked, fun _ => ⟨row, member, ranked⟩⟩

namespace LeadGraph

section
variable {ranker : Ranker} {corpus : Corpus} {lead : Lead} (live : lead ∈ corpus.leads)

include live in
private theorem hasNote_iff : corpus.HasNote ranker lead.id ↔
    ∃ row ∈ (rankedNotes ranker corpus).filter (·.1.leadId == lead.id), 0 < row.2 := by
  constructor
  · rintro ⟨note, inside, named, ranked⟩
    exact ⟨(note, ranker.rankText note.body .c), (mem_notesOf live).mpr ⟨inside, named, rfl⟩,
      ranked⟩
  · rintro ⟨row, member, ranked⟩
    obtain ⟨inside, named, rank⟩ := (mem_notesOf live).mp member
    exact ⟨row.1, inside, named, rank ▸ ranked⟩

include live in
private theorem hasServiceNote_iff : corpus.HasServiceNote ranker lead.id ↔
    ∃ row ∈ (rankedServices ranker corpus).filter (·.1.leadId == lead.id), 0 < row.2 := by
  constructor
  · rintro ⟨service, inside, named, text, given, shown, ranked⟩
    exact ⟨(service, ranker.rankText text .c),
      (mem_servicesOf live).mpr ⟨inside, named, text, given, shown, rfl⟩, ranked⟩
  · rintro ⟨row, member, ranked⟩
    obtain ⟨inside, named, text, given, shown, rank⟩ := (mem_servicesOf live).mp member
    exact ⟨row.1, inside, named, text, given, shown, rank ▸ ranked⟩

theorem regular_of_mem_notes (sound : ranker.Sound) (id : Uuid) :
    ∀ row ∈ (rankedNotes ranker corpus).filter (·.1.leadId == id), row.2.Regular := by
  intro row member
  rw [(mem_rankedNotes.mp (List.mem_filter.mp member).1).2.2]
  exact Ranker.regular_rank sound

theorem regular_of_mem_services (sound : ranker.Sound) (id : Uuid) :
    ∀ row ∈ (rankedServices ranker corpus).filter (·.1.leadId == id), row.2.Regular := by
  intro row member
  obtain ⟨_, _, text, _, _, rank⟩ := mem_rankedServices.mp (List.mem_filter.mp member).1
  rw [rank]
  exact Ranker.regular_rank sound

end

def noteScore (ranker : Ranker) (corpus : Corpus) (lead : Uuid) : Score :=
  bestScore (best? (·.id) ((rankedNotes ranker corpus).filter (·.1.leadId == lead)))

def serviceScore (ranker : Ranker) (corpus : Corpus) (lead : Uuid) : Score :=
  bestScore (best? (·.id) ((rankedServices ranker corpus).filter (·.1.leadId == lead)))

theorem rank_matchOf (ranker : Ranker) (damping : Damping) (corpus : Corpus) (lead : Lead) :
    (matchOf ranker damping (rankedNotes ranker corpus) (rankedServices ranker corpus) lead).rank =
      (ranker.rank lead.fields).score + noteScore ranker corpus lead.id * damping.note +
        serviceScore ranker corpus lead.id * damping.serviceNote := rfl

section
variable {ranker : Ranker} (sound : ranker.Sound) {damping : Damping} (damped : damping.Sound)
  (corpus : Corpus)
include sound

theorem noteScore_spec (lead : Uuid) : (noteScore ranker corpus lead).Regular ∧
    (0 < noteScore ranker corpus lead →
      ∃ row ∈ (rankedNotes ranker corpus).filter (·.1.leadId == lead), 0 < row.2) :=
  bestScore_spec _ _ (regular_of_mem_notes sound lead)

theorem serviceScore_spec (lead : Uuid) : (serviceScore ranker corpus lead).Regular ∧
    (0 < serviceScore ranker corpus lead →
      ∃ row ∈ (rankedServices ranker corpus).filter (·.1.leadId == lead), 0 < row.2) :=
  bestScore_spec _ _ (regular_of_mem_services sound lead)

include damped

theorem regular_parts_matchOf (lead : Lead) : (ranker.rank lead.fields).score.Regular ∧
    (noteScore ranker corpus lead.id * damping.note).Regular ∧
    (serviceScore ranker corpus lead.id * damping.serviceNote).Regular :=
  ⟨Ranker.regular_rank sound,
    (noteScore_spec sound corpus lead.id).1.mul damped.note.1 damped.note.2,
    (serviceScore_spec sound corpus lead.id).1.mul damped.serviceNote.1 damped.serviceNote.2⟩

theorem regular_matchOf (lead : Lead) :
    (matchOf ranker damping (rankedNotes ranker corpus) (rankedServices ranker corpus)
      lead).rank.Regular := by
  obtain ⟨own, note, service⟩ := regular_parts_matchOf sound damped corpus lead
  exact (own.add note).add service

variable {corpus}

theorem noted_or_told {lead : Lead} (live : lead ∈ corpus.leads)
    (unranked : ranker.Unranked (.lead lead))
    (ranked : 0 < (matchOf ranker damping (rankedNotes ranker corpus)
      (rankedServices ranker corpus) lead).rank) :
    corpus.HasNote ranker lead.id ∨ corpus.HasServiceNote ranker lead.id := by
  obtain ⟨own, noteShare, serviceShare⟩ := regular_parts_matchOf sound damped corpus lead
  obtain ⟨note, noted⟩ := noteScore_spec sound corpus lead.id
  obtain ⟨service, told⟩ := serviceScore_spec sound corpus lead.id
  rw [rank_matchOf, (own.add noteShare).add_pos_iff serviceShare, own.add_pos_iff noteShare]
    at ranked
  rw [hasNote_iff live, hasServiceNote_iff live]
  rcases ranked with (ranked | ranked) | ranked
  · exact absurd ranked (unranked.not_pos sound)
  · exact .inl (noted (note.pos_of_mul_pos damped.note.1 ranked))
  · exact .inr (told (service.pos_of_mul_pos damped.serviceNote.1 ranked))

theorem explains_of_ofLead {lead : Lead} {candidate : Candidate}
    (made : Candidate.ofLead (ofCorpus ranker damping corpus) lead = some candidate) :
    ∃ row ∈ corpus.leads, row.id = lead.id ∧
      corpus.Explains ranker damping (.lead row) candidate.matchedField := by
  obtain ⟨found, matched, rfl⟩ := Option.map_eq_some_iff.mp made
  obtain ⟨row, live, named, ranked, rfl⟩ := exists_lead_of_match? ranker damping corpus matched
  refine ⟨row, live, named, ?_⟩
  cases hit : Lead.ownField (ranker.rank row.fields) with
  | some field =>
    simp only [matchOf, hit]
    exact .own (OwnRank.ranksFirst_of_firstHit hit)
  | none =>
    have unranked : ranker.Unranked (.lead row) := Ranker.unranked_of_firstHit hit
    -- A lead that is found has one of the two, and the best note decides which of them is named.
    have evidence := noted_or_told sound damped live unranked ranked
    simp only [matchOf, hit]
    rcases best?_cases (·.id) _ (regular_of_mem_notes sound row.id)
      with ⟨empty, unnoted⟩ | ⟨best, member, found, above⟩
    · have absent : ¬ corpus.HasNote ranker row.id := by
        rw [hasNote_iff live]
        rintro ⟨note, inside, above⟩
        exact unnoted note inside above
      rw [empty]
      exact .serviceNote rfl unranked absent (evidence.resolve_left absent)
    · rw [found]
      exact .note rfl unranked ((hasNote_iff live).mpr ⟨best, member, above⟩)

end

end LeadGraph

/-! ## Records around the leads -/

namespace Candidate
variable {ranker : Ranker} (sound : ranker.Sound) {damping : Damping} {corpus : Corpus}
include sound

theorem relatedRank_pos {record : Record} (around : record.kind ∈ RecordKind.aroundLeads)
    {candidate : Candidate} (made : ofRecord ranker damping
      (LeadGraph.ofCorpus ranker damping corpus) record = some candidate)
    (unranked : ranker.Unranked record) : 0 < corpus.relatedRank ranker damping record := by
  have own : (ranker.rank record.fields).score.Regular := Ranker.regular_rank sound
  have passed := corpus.regular_relatedRank ranker damping record
  obtain ⟨ranked, _, _⟩ := ofRecord_eq_some around made
  rw [not_and_or, own.not_le_iff Score.regular_zero, passed.not_le_iff Score.regular_zero]
    at ranked
  exact ranked.resolve_left (unranked.not_pos sound)

/-- The tag of a record that is found by its own fields or with a lead is true of it. -/
theorem explains_of_aroundLeads {record : Record} (around : record.kind ∈ RecordKind.aroundLeads)
    {candidate : Candidate} (made : ofRecord ranker damping
      (LeadGraph.ofCorpus ranker damping corpus) record = some candidate) :
    corpus.Explains ranker damping record candidate.matchedField := by
  rw [(ofRecord_eq_some around made).2.2]
  cases hit : (ranker.rank record.fields).firstHit (MatchedField.placed record.fieldNames) with
  | some field => exact .own (OwnRank.ranksFirst_of_firstHit hit)
  | none =>
    have unranked := Ranker.unranked_of_firstHit hit
    have ranked := relatedRank_pos sound around made unranked
    obtain ⟨lead, live, related, rank⟩ := Corpus.exists_related_of_pos ranked
    have notLead := (RecordKind.mem_aroundLeads.mp around).2
    exact .lead notLead unranked live related (rank ▸ ranked)

theorem explained_of_ofRecord (damped : damping.Sound) {record : Record}
    (related : record.kind.isLeadRelated = true) (held : corpus.Holds record)
    {candidate : Candidate} (made : ofRecord ranker damping
      (LeadGraph.ofCorpus ranker damping corpus) record = some candidate) :
    corpus.Explained ranker damping record candidate.matchedField := by
  cases record with
  | lead lead =>
    obtain ⟨row, live, named, explains⟩ := LeadGraph.explains_of_ofLead sound damped made
    refine ⟨.lead row, live, by rw [Record.key, Record.key]; exact congrArg _ named, explains, ?_⟩
    intro distinct
    rw [List.inj_on_of_nodup_map distinct live held named]
  | quote _ _ | appointment _ | partner _ =>
    have around := RecordKind.mem_aroundLeads.mpr ⟨related, by simp [Record.kind]⟩
    exact ⟨_, held, rfl, explains_of_aroundLeads sound around made, fun _ => rfl⟩
  | catalogProduct _ | serviceType _ => contradiction

end Candidate

/-! ## Explanations of an answer -/

theorem Settings.sound_damping_of_check {settings : Settings}
    (valid : settings.check = .ok settings) : settings.search.damping.Sound := by
  intro factor listed
  obtain ⟨number, positive, _⟩ := damping_kept_of_check valid listed
  exact ⟨Score.finite_of_pos positive number, positive⟩

namespace SearchService

theorem sound_ranker_of_plan {settings : Settings} (valid : settings.check = .ok settings)
    (bounded : settings.search.maxQueryChars < Document.wordBound) {service : SearchService}
    (configured : service.settings = settings.search) {request : SearchRequest} {isAdmin : Bool}
    {query : Text} {kinds : List RecordKind}
    (planned : plan service.settings request isAdmin = .ok (some (query, kinds))) :
    (service.ranker query).Sound := by
  have short := short_of_plan planned
  rw [configured] at short
  refine ⟨?_, length_passes_le (short.trans bounded.le)⟩
  change ∀ field, (service.settings.weights.ofClass field).Finite
  rw [configured]
  exact Settings.finite_ofClass_of_check valid

private theorem exists_candidate_of_search {service : SearchService} {store : Store}
    {faults : Faults}
    (reads : service.source = store.source faults) {tenant : Uuid} {request : SearchRequest}
    {isAdmin : Bool} {outcome : SearchOutcome}
    (answered : service.search tenant request isAdmin = .ok outcome) {item : SearchItem}
    (member : item ∈ outcome.page.items) :
    ∃ query kinds, plan service.settings request isAdmin = .ok (some (query, kinds)) ∧
      ∃ candidate ∈ service.merged query (store.corpus tenant) kinds,
        item = candidate.toItem (service.ranker query) (headlineStyle service.settings) := by
  rw [search_source reads] at answered
  split at answered
  · contradiction
  · cases answered
    contradiction
  · next query kinds planned =>
    split at answered
    · contradiction
    · cases answered
      obtain ⟨candidate, shown, rfl⟩ := List.mem_map.mp member
      exact ⟨query, kinds, planned, candidate, List.mem_of_mem_drop (List.mem_of_mem_take shown),
        rfl⟩

end SearchService

namespace Store

/-- With settings that pass their check, every item of every answer that is a lead or around one
shows a record for the reason that its tag gives: the first of its own fields with a part in its
rank, and only without such a field a note, then a service note, or else a related lead. -/
theorem explained_of_mem_answer {settings : Settings} (valid : settings.check = .ok settings)
    (bounded : settings.search.maxQueryChars < Document.wordBound) (store : Store) (faults : Faults)
    (tenant : Uuid) (request : SearchRequest) (isAdmin : Bool) {outcome : SearchOutcome}
    (answered : store.answer faults settings.search tenant request isAdmin = .ok outcome) :
    ∃ service, SearchService.ofSource settings.search (store.source faults) = .ok service ∧
      let ranker := service.ranker (Text.trim request.query)
      let corpus := store.corpus tenant
      ∀ item ∈ outcome.page.items, item.kind.isLeadRelated = true →
        ∃ candidate : Candidate,
          item = candidate.toItem ranker (SearchService.headlineStyle settings.search) ∧
            corpus.Holds candidate.record ∧
            corpus.Explained ranker settings.search.damping candidate.record item.matchedField := by
  obtain ⟨language, named⟩ := Settings.language_of_check valid
  have started := SearchService.ofSource_eq_ok named (store.source faults)
  refine ⟨_, started, ?_⟩
  intro ranker corpus item member related
  rw [answer, started] at answered
  obtain ⟨query, kinds, planned, candidate, found, shown⟩ :=
    SearchService.exists_candidate_of_search rfl answered member
  obtain rfl := (SearchService.query_of_plan planned).1
  have sound : ranker.Sound := SearchService.sound_ranker_of_plan valid bounded rfl planned
  have held := SearchService.holds_of_mem_merged _ _ found
  have made := SearchService.ofRecord_of_mem_merged _ _ found
  refine ⟨candidate, shown, held, ?_⟩
  rw [shown] at related ⊢
  exact Candidate.explained_of_ofRecord sound (Settings.sound_damping_of_check valid) related held
    made

/-- The only quote of the sample is found with its lead and says so. -/
theorem explained_of_mem_answer_sample :
    let settings : Settings := ⟨⟨"127.0.0.1:8080".toList, "info".toList⟩, ⟨"crm".toList, 8⟩, {}⟩
    let request : SearchRequest := ⟨"bram".toList, some "quote".toList, none, none⟩
    settings.check = .ok settings ∧ settings.search.maxQueryChars < Document.wordBound ∧
      ∃ outcome, sample.answer .none settings.search ⟨7⟩ request false = .ok outcome ∧
        ∃ item ∈ outcome.page.items, item.kind = .quote ∧ item.matchedField = .lead ∧
          ∃ ranker candidate,
            item = Candidate.toItem ranker (SearchService.headlineStyle settings.search) candidate ∧
              (sample.corpus ⟨7⟩).Explained ranker settings.search.damping candidate.record
                .lead := by
  intro settings request
  have valid : settings.check = .ok settings :=
    Settings.check_defaults (by decide) (by decide) (by decide)
  let service : SearchService := ⟨settings.search, .dutch, sample.source .none, rfl⟩
  let corpus := sample.corpus ⟨7⟩
  let outcome := service.outcome "bram".toList request corpus [.quote]
  have planned : SearchService.plan service.settings request false =
      .ok (some ("bram".toList, [.quote])) := rfl
  have answered : sample.answer .none settings.search ⟨7⟩ request false = .ok outcome :=
    @SearchService.search_eq_outcome service sample rfl ⟨7⟩ _ _ _ _ planned
  have found : (service.candidates "bram".toList corpus [.quote]).map
      (fun candidate => (candidate.record.kind, candidate.matchedField)) = [(.quote, .lead)] := by
    decide +kernel
  obtain ⟨candidate, alone, tagged⟩ := List.map_eq_singleton_iff.mp found
  have merged : service.merged "bram".toList corpus [.quote] = [candidate] := by
    rw [SearchService.merged_eq, alone, Candidate.merge, List.mergeSort_singleton]
  let item := candidate.toItem (service.ranker "bram".toList)
    (SearchService.headlineStyle service.settings)
  have shown : item ∈ outcome.page.items := by
    apply List.mem_map_of_mem
    rw [merged]
    exact List.mem_singleton.mpr rfl
  have kind : item.kind = .quote := congrArg Prod.fst tagged
  have tag : item.matchedField = .lead := congrArg Prod.snd tagged
  obtain ⟨started, _, explained⟩ :=
    explained_of_mem_answer valid (by decide) sample .none ⟨7⟩ request false answered
  obtain ⟨other, same, _, told⟩ := explained item shown (by rw [kind]; rfl)
  rw [tag] at told
  exact ⟨valid, by decide, outcome, answered, item, shown, kind, tag, _, other, same, told⟩

end Store

end TenantSearch
