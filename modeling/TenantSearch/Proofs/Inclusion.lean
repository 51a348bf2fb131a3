import TenantSearch.Proofs.FoldedText
import TenantSearch.Proofs.LeadRanks
import TenantSearch.Proofs.TypeFilter

/-! Which records a search includes. A record around the leads is included exactly if its own texts
satisfy the query or a live lead that it is related to matches; its score, which decides it, is then
above zero and finite. -/
namespace TenantSearch
open Score (Between Reflects)

/-! ## Records and the leads around them -/

namespace Record

/-- The fields by which a record is ranked; records of the catalogue are not ranked. -/
def fields : Record → List Field
  | lead row => row.fields
  | quote row _ => [(some row.number, .a), (row.notes, .d)]
  | partner row =>
    [(some row.businessName, .a), (row.contactName, .b), (row.contactEmail, .b),
      (row.addressLine, .c), (row.postalCode, .c), (row.city, .c)]
  | appointment row => [(some row.title, .a), (row.location, .c), (row.description, .d)]
  | catalogProduct _ | serviceType _ => []

/-- A record without the lead that it may come with. -/
def alone : Record → Record
  | quote row _ => quote row none
  | record => record

end Record

namespace Corpus
variable (ranker : Ranker) (corpus : Corpus)

/-- Whether a record is related to the lead of an identifier; a lead is related to itself. -/
def Relates : Record → Uuid → Prop
  | .lead row, id => row.id = id
  | .quote row _, id => row.leadId = id
  | .partner row, id =>
    ∃ link ∈ corpus.partnerLeads, link.partnerId = row.id ∧ link.leadId = id
  | .appointment row, id => row.leadId = some id
  | .catalogProduct _, _ | .serviceType _, _ => False

/-- Whether a record is to be found: by its own fields or with a lead. -/
def Includes (record : Record) : Prop :=
  ranker.Satisfies record.fields ∨
    ∃ id, corpus.Relates record id ∧ corpus.LeadMatches ranker id

end Corpus

/-! ## Scores -/

namespace Candidate

def leastScore : Score := LeadGraph.leastMatch * 1e-6

def highestScore : Score := 6e35

theorem leastScore_pos : 0 < leastScore.toBits.toNat := by decide

private theorem score_bounds :
    let sum := Ranker.highestRank + LeadGraph.highestMatch
    sum.Finite ∧ sum.toBits.toNat ≤ highestScore.toBits.toNat ∧
      LeadGraph.highestMatch.toBits.toNat ≤ highestScore.toBits.toNat ∧ highestScore.Finite := by
  decide +kernel

/-- What becomes of a record, as a condition tells: nothing, or a candidate with a sound score. -/
structure Decides (condition : Prop) (found : Option Candidate) : Prop where
  absent : ¬ condition → found = none
  present : condition → ∃ candidate, found = some candidate ∧
    Between leastScore highestScore candidate.score

theorem Decides.holds {condition : Prop} {found : Option Candidate} {candidate : Candidate}
    (decides : Decides condition found) (made : found = some candidate) : condition := by
  by_contra fails
  rw [decides.absent fails] at made
  contradiction

theorem Decides.congr {condition other : Prop} {found : Option Candidate}
    (decides : Decides condition found) (same : condition ↔ other) : Decides other found :=
  ⟨fun fails => decides.absent fun holds => fails (same.mp holds),
    fun holds => decides.present (same.mpr holds)⟩

private theorem ofRanks_decides {own : OwnRank} {propagated factor : Score}
    {satisfied related : Prop}
    (ownRank : Reflects Ranker.leastShare Ranker.highestRank satisfied own.score)
    (leadRank : Reflects LeadGraph.leastMatch LeadGraph.highestMatch related propagated)
    (damped : Between 1e-6 1 factor) (record : Record) (fields : List (Nat × MatchedField))
    (preview : PreviewSource) :
    Decides (satisfied ∨ related) (ofRanks record own fields propagated factor preview) := by
  have first := ownRank.not_le_zero_iff Ranker.leastShare_pos
  have second := leadRank.not_le_zero_iff LeadGraph.leastMatch_pos
  have left : Reflects leastScore Ranker.highestRank satisfied own.score :=
    ownRank.widen (by decide) le_rfl Ranker.finite_highestRank
  have sum := left.add (leadRank.mul damped) score_bounds.1
  rw [ofRanks]
  constructor
  · intro fails
    rw [if_pos (by tauto)]
  · intro holds
    rw [if_neg (by tauto)]
    obtain ⟨_, below, _, top⟩ := score_bounds
    exact ⟨_, rfl, (sum.between holds).widen le_rfl below top⟩

section
variable {ranker : Ranker} (moderate : ranker.Moderate) {damping : Damping}
  (damped : damping.Moderate) {corpus : Corpus}
include moderate damped

private theorem ofLead_decides (lead : Lead) :
    Decides (corpus.LeadMatches ranker lead.id)
      (ofLead (LeadGraph.ofCorpus ranker damping corpus) lead) := by
  have rank : Reflects LeadGraph.leastMatch LeadGraph.highestMatch
      (corpus.LeadMatches ranker lead.id)
      ((LeadGraph.ofCorpus ranker damping corpus).leadRank lead.id) :=
    LeadGraph.reflects_leadRank moderate damped lead.id
  cases matched : (LeadGraph.ofCorpus ranker damping corpus).match? lead.id with
  | none =>
    have zero : (LeadGraph.ofCorpus ranker damping corpus).leadRank lead.id = 0 := by
      simp [LeadGraph.leadRank, matched]
    rw [zero] at rank
    have fails := mt (rank.pos_iff LeadGraph.leastMatch_pos).mpr (by decide)
    refine ⟨fun _ => ?_, fun holds => absurd holds fails⟩
    rw [ofLead, matched, Option.map_none]
  | some found =>
    have same : (LeadGraph.ofCorpus ranker damping corpus).leadRank lead.id = found.rank := by
      simp [LeadGraph.leadRank, matched]
    rw [same] at rank
    have holds := (rank.pos_iff LeadGraph.leastMatch_pos).mp
      (LeadGraph.pos_of_match? ranker damping corpus matched)
    refine ⟨fun fails => absurd holds fails, fun _ => ?_⟩
    rw [ofLead, matched, Option.map_some]
    obtain ⟨_, _, below, top⟩ := score_bounds
    exact ⟨_, rfl, (rank.between holds).widen (by decide) below top⟩

/-- A record around the leads is found exactly if it is to be included. -/
theorem ofRecord_decides {record : Record} (related : record.kind.isLeadRelated = true)
    (held : corpus.Holds record.alone) :
    Decides (corpus.Includes ranker record)
      (ofRecord ranker damping (LeadGraph.ofCorpus ranker damping corpus) record) := by
  have factor (name : String) (value : Score) (listed : (name, value) ∈ damping.named) :=
    damped (name, value) listed
  cases record with
  | lead lead =>
    apply (ofLead_decides moderate damped lead).congr
    constructor
    · intro holds
      exact .inr ⟨lead.id, rfl, holds⟩
    · rintro (satisfied | ⟨id, rfl, holds⟩)
      · exact ⟨lead, held, rfl, .inl satisfied⟩
      · exact holds
  | quote quote owner =>
    apply (ofRanks_decides (Ranker.reflects_rank moderate)
      (LeadGraph.reflects_leadRank moderate damped quote.leadId)
      (factor "quote" damping.quote (by simp [Damping.named])) _ _ _).congr
    apply or_congr Iff.rfl
    simp [Corpus.Relates]
  | partner partner =>
    apply (ofRanks_decides (Ranker.reflects_rank moderate)
      (LeadGraph.reflects_partnerRank moderate damped partner.id)
      (factor "partner" damping.partner (by simp [Damping.named])) _ _ _).congr
    apply or_congr Iff.rfl
    constructor
    · rintro ⟨link, inside, named, holds⟩
      exact ⟨link.leadId, ⟨link, inside, named, rfl⟩, holds⟩
    · rintro ⟨_, ⟨link, inside, named, rfl⟩, holds⟩
      exact ⟨link, inside, named, holds⟩
  | appointment appointment =>
    have propagated : Reflects LeadGraph.leastMatch LeadGraph.highestMatch
        (∃ id, appointment.leadId = some id ∧ corpus.LeadMatches ranker id)
        ((appointment.leadId.map
          (LeadGraph.ofCorpus ranker damping corpus).leadRank).getD 0) := by
      cases appointment.leadId with
      | none => exact ⟨LeadGraph.finite_highestMatch, fun _ => rfl, by simp⟩
      | some id => exact (LeadGraph.reflects_leadRank moderate damped id).congr (by simp)
    exact ofRanks_decides (Ranker.reflects_rank moderate) propagated
      (factor "appointment" damping.appointment (by simp [Damping.named])) _ _ _
  | catalogProduct product => contradiction
  | serviceType row => contradiction

end

theorem ladder_between {ranker : Ranker} {primary : Text} {secondary description : Option Text}
    {score : Score} {rung : Rung}
    (found : ranker.ladder primary secondary description = some (score, rung)) :
    Between leastScore highestScore score := by
  have score_eq {value : Score} {step : Rung} (same : some (value, step) = some (score, rung)) :
      score = value := (congrArg Prod.fst (Option.some.inj same)).symm
  have rungs : ∀ value ∈ [(1.0 : Score), 0.8, 0.6, 0.3],
      Between leastScore highestScore value := by
    decide +kernel
  have whole := rungs 1.0 (by simp)
  have part := rungs 0.3 (by simp)
  unfold Ranker.ladder at found
  simp only at found
  split_ifs at found
  · exact score_eq found ▸ whole
  · exact score_eq found ▸ whole
  · exact score_eq found ▸ rungs 0.8 (by simp)
  · exact score_eq found ▸ rungs 0.6 (by simp)
  · exact score_eq found ▸ part
  · exact score_eq found ▸ part
  · exact score_eq found ▸ part

end Candidate

/-! ## What a search includes -/

private theorem Record.kind_alone (record : Record) : record.alone.kind = record.kind := by
  cases record <;> rfl

theorem Corpus.Holds.alone {corpus : Corpus} {record : Record} (held : corpus.Holds record) :
    corpus.Holds record.alone := by
  cases record with
  | quote quote owner => exact ⟨held.1, by simp⟩
  | _ => exact held

theorem Candidate.ofRecord_alone (ranker : Ranker) (damping : Damping) (graph : LeadGraph)
    (record : Record) :
    ofRecord ranker damping graph record.alone = ofRecord ranker damping graph record := by
  cases record <;> rfl

theorem SearchService.mem_merged_alone_iff {service : SearchService} {query : Text}
    {corpus : Corpus} {kinds : List RecordKind} {record : Record} {candidate : Candidate} :
    candidate ∈ service.merged query corpus kinds ∧ candidate.record.alone = record.alone ↔
      record.kind ∈ kinds ∧ corpus.Holds record.alone ∧
        Candidate.ofRecord (service.ranker query) service.settings.damping
          (LeadGraph.ofCorpus (service.ranker query) service.settings.damping corpus) record =
            some candidate := by
  let graph := LeadGraph.ofCorpus (service.ranker query) service.settings.damping corpus
  constructor
  · rintro ⟨member, same⟩
    refine ⟨?_, same ▸ (service.holds_of_mem_merged query member).alone, ?_⟩
    · rw [← Record.kind_alone, ← same, Record.kind_alone]
      exact service.kind_of_mem_merged query member
    · rw [← Candidate.ofRecord_alone, ← same, Candidate.ofRecord_alone]
      exact service.ofRecord_of_mem_merged query member
  · rintro ⟨asked, held, found⟩
    have source := Candidate.record_ofRecord _ _ found
    refine ⟨?_, by rw [source]; cases record <;> rfl⟩
    rw [mem_merged, candidates, List.mem_flatMap]
    refine ⟨record.kind, asked, ?_⟩
    rw [Candidate.ofKind_eq, List.mem_filterMap]
    cases record with
    | quote quote _ =>
      exact ⟨.quote quote (graph.lead? quote.leadId),
        List.mem_map.mpr ⟨quote, held.1, rfl⟩, found⟩
    | _ => exact ⟨_, List.mem_map_of_mem held, found⟩

namespace SearchService
variable {service : SearchService} {query : Text} (moderate : (service.ranker query).Moderate)
  (damped : service.settings.damping.Moderate) {corpus : Corpus} {kinds : List RecordKind}
include moderate damped

private theorem decides_of_related {record : Record} (related : record.kind.isLeadRelated = true)
    (held : corpus.Holds record.alone) :
    Candidate.Decides (corpus.Includes (service.ranker query) record)
      (Candidate.ofRecord (service.ranker query) service.settings.damping
        (LeadGraph.ofCorpus (service.ranker query) service.settings.damping corpus) record) :=
  Candidate.ofRecord_decides moderate damped related held

theorem score_between {candidate : Candidate}
    (member : candidate ∈ service.merged query corpus kinds) :
    Between Candidate.leastScore Candidate.highestScore candidate.score := by
  have held := (service.holds_of_mem_merged query member).alone
  have found := service.ofRecord_of_mem_merged query member
  generalize candidate.record = record at held found
  cases record with
  | lead | quote | partner | appointment =>
    have decides := decides_of_related moderate damped rfl held
    obtain ⟨other, same, between⟩ := decides.present (decides.holds found)
    rwa [Option.some.inj (found.symm.trans same)]
  | catalogProduct | serviceType =>
    obtain ⟨⟨score, rung⟩, ladder, rfl⟩ := Option.map_eq_some_iff.mp found
    exact Candidate.ladder_between ladder

/-- A record around the leads is among the candidates exactly if it is to be included. -/
theorem exists_mem_merged_iff {record : Record} (related : record.kind.isLeadRelated = true)
    (asked : record.kind ∈ kinds) :
    (∃ candidate ∈ service.merged query corpus kinds, candidate.record.alone = record.alone) ↔
      corpus.Holds record.alone ∧ corpus.Includes (service.ranker query) record := by
  constructor
  · rintro ⟨candidate, listed⟩
    obtain ⟨_, held, found⟩ := mem_merged_alone_iff.mp listed
    exact ⟨held, (decides_of_related moderate damped related held).holds found⟩
  · rintro ⟨held, included⟩
    obtain ⟨candidate, found, _⟩ :=
      (decides_of_related moderate damped related held).present included
    exact ⟨candidate, mem_merged_alone_iff.mpr ⟨asked, held, found⟩⟩

end SearchService

/-! ## Rankers of a service -/

theorem Weights.moderate_default : ({} : Weights).Moderate := by
  intro field
  cases field <;> decide

theorem Damping.moderate_default : ({} : Damping).Moderate := by
  have every : ∀ factor ∈ ({} : Damping).named, Between 1e-6 1 factor.2 := by decide
  exact every

namespace SearchService
variable {service : SearchService} {query : Text}

theorem length_passes_le (short : query.length ≤ Document.wordBound) :
    ∀ pass ∈ (service.ranker query).passes, pass.2.exact.length ≤ 2 ^ 38 := by
  have limit : Document.wordBound = 2 ^ 32 := rfl
  have size (lexer : Lexer) : (lexer.lexemes query).length ≤ 2 ^ 38 := by
    have few := lexer.length_lexemes_le query
    omega
  intro pass member
  rcases List.mem_pair.mp member with rfl | rfl
  · exact size .generic
  · exact size (.natural service.language)

theorem moderate_ranker (weights : service.settings.weights.Moderate)
    (short : query.length ≤ Document.wordBound) : (service.ranker query).Moderate where
  weights := weights
  short := length_passes_le short
  kept := by
    intro pass member token listed
    rcases List.mem_pair.mp member with rfl | rfl <;> exact (List.mem_filter.mp listed).1

private theorem not_satisfies_of_empty (empty : (Text.fold query).any Text.isAlphanumeric = false)
    (fields : List Field) : ¬ (service.ranker query).Satisfies fields := by
  have words : Text.words (Text.fold query) = [] := by
    rw [List.eq_nil_iff_forall_not_mem]
    intro word member
    obtain ⟨nonempty, inside⟩ := Text.mem_runs member
    obtain ⟨c, rest, rfl⟩ := List.exists_cons_of_ne_nil nonempty
    obtain ⟨alphanumeric, present⟩ := inside c List.mem_cons_self
    rw [List.any_eq_false] at empty
    exact empty c present alphanumeric
  have silent (lexer : Lexer) : lexer.lexemes query = [] := by
    rw [Lexer.lexemes, words]
    rfl
  rintro ⟨pass, member, accepted⟩
  apply TokenSet.exact_ne_nil_of_accepts accepted
  rcases List.mem_pair.mp member with rfl | rfl
  · exact silent .generic
  · exact silent (.natural service.language)

theorem not_includes_of_empty (empty : (Text.fold query).any Text.isAlphanumeric = false)
    (corpus : Corpus) (record : Record) :
    ¬ corpus.Includes (service.ranker query) record := by
  have refused := @not_satisfies_of_empty service query empty
  rintro (satisfied | ⟨id, _, lead, _, _, own | ⟨note, _, _, noted⟩ | ⟨_, _, _, text, _, _, told⟩⟩)
  · exact refused _ satisfied
  · exact refused _ own
  · exact refused _ noted
  · exact refused _ told

end SearchService

theorem Corpus.leadMatches_iff {ranker : Ranker} {corpus : Corpus}
    (distinct : (corpus.leads.map (·.id)).Nodup) {lead : Lead} (live : lead ∈ corpus.leads) :
    corpus.LeadMatches ranker lead.id ↔ corpus.Matches ranker lead := by
  constructor
  · rintro ⟨other, present, same, holds⟩
    rwa [← List.inj_on_of_nodup_map distinct present live same]
  · intro holds
    exact ⟨lead, live, rfl, holds⟩

namespace SearchService

/-- A search for kinds around the leads finds exactly what is to be included: a record whose fields
satisfy the query by one of the lexers, or one that is related to a live lead which matches by its
fields, by a note or by a note of a service. Where identifiers of leads are distinct, the lead
itself has to match; and a query without a letter or a number finds no such record at all. -/
theorem search_includes {service : SearchService} {store : Store}
    (reads : service.source = store.source .none) (weights : service.settings.weights = {})
    (damping : service.settings.damping = {})
    (bounded : service.settings.maxQueryChars < Document.wordBound) (tenant : Uuid) {query : Text}
    (admissible : Admissible service.settings query) {types : Option Text} {isAdmin : Bool}
    {kinds : List RecordKind} (resolved : RecordKind.resolve types isAdmin = .ok kinds) :
    let ranker := service.ranker (Text.trim query)
    let corpus := store.corpus tenant
    let found := service.merged (Text.trim query) corpus kinds
    service.PagesOf tenant query types isAdmin found ∧
      (∀ record : Record, record.kind.isLeadRelated = true → record.kind ∈ kinds →
        ((∃ candidate ∈ found, candidate.record.alone = record.alone) ↔
          corpus.Holds record.alone ∧ corpus.Includes ranker record)) ∧
      ((corpus.leads.map (·.id)).Nodup → ∀ lead ∈ corpus.leads,
        (corpus.LeadMatches ranker lead.id ↔ corpus.Matches ranker lead)) ∧
      ((Text.fold query).any Text.isAlphanumeric = false →
        ∀ candidate ∈ found, candidate.record.kind.isLeadRelated = false) := by
  intro ranker corpus found
  have moderate : ranker.Moderate :=
    moderate_ranker (weights ▸ Weights.moderate_default) (admissible.short.trans bounded.le)
  have damped : service.settings.damping.Moderate := damping ▸ Damping.moderate_default
  refine ⟨pagesOf_merged reads tenant admissible resolved, ?_, ?_, ?_⟩
  · intro record related asked
    exact exists_mem_merged_iff moderate damped related asked
  · intro distinct lead live
    exact Corpus.leadMatches_iff distinct live
  · intro empty candidate member
    by_contra related
    rw [Bool.not_eq_false] at related
    have asked := service.kind_of_mem_merged _ member
    have included := (exists_mem_merged_iff moderate damped related asked).mp
      ⟨candidate, member, rfl⟩
    have blank : (Text.fold (Text.trim query)).any Text.isAlphanumeric = false := by
      rw [List.any_eq_false] at empty ⊢
      intro c inside
      obtain ⟨source, kept, folded⟩ := List.mem_flatMap.mp inside
      exact empty c (List.mem_flatMap.mpr ⟨source, Text.mem_of_mem_trim kept, folded⟩)
    exact not_includes_of_empty blank corpus candidate.record included.2

/-- A quote that does not match itself is found with its lead. -/
theorem search_includes_quote_of_lead :
    let service : SearchService := ⟨{}, .dutch, Store.sample.source .none, rfl⟩
    let corpus := Store.sample.corpus ⟨7⟩
    Admissible service.settings "bram".toList ∧
      RecordKind.resolve (some "quote".toList) false = .ok [.quote] ∧
      ∃ quote ∈ corpus.quotes,
        ¬ (service.ranker "bram".toList).Satisfies (Record.quote quote none).fields ∧
        ∃ candidate ∈ service.merged "bram".toList corpus [.quote],
          candidate.record.alone = .quote quote none := by
  intro service corpus
  have admissible : Admissible service.settings "bram".toList := ⟨by decide, by decide⟩
  have resolved : RecordKind.resolve (some "quote".toList) false = .ok [.quote] := rfl
  let quote : Quote :=
    ⟨⟨5⟩, ⟨2⟩, "Q-1".toList, some "For Anna".toList, 12500, "sent".toList, .epoch⟩
  have held : quote ∈ corpus.quotes := List.mem_singleton.mpr rfl
  have matching : corpus.LeadMatches (service.ranker "bram".toList) ⟨2⟩ := by
    refine ⟨⟨⟨2⟩, "Bram".toList, "Visser".toList, none, none, none, .epoch⟩, ?_, rfl, .inl ?_⟩
    · decide +kernel
    · decide +kernel
  obtain ⟨_, includes, _⟩ := search_includes rfl rfl rfl (by decide) ⟨7⟩ admissible resolved
  refine ⟨admissible, resolved, quote, held, by decide +kernel, ?_⟩
  exact (includes (.quote quote none) rfl (List.mem_singleton.mpr rfl)).mpr
    ⟨⟨held, by simp⟩, .inr ⟨⟨2⟩, rfl, matching⟩⟩

end SearchService

end TenantSearch
