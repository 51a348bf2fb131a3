import TenantSearch.Proofs.Inclusion
import TenantSearch.Proofs.RankParts

/-! The rank that leads pass on to the records around them. A record gets the highest rank among the
live leads that it is related to, and it is found by the parts of its own fields or with that
rank. -/
namespace TenantSearch

/-- Factors that are finite and above zero. -/
def Damping.Sound (damping : Damping) : Prop :=
  ∀ factor ∈ damping.named, factor.2.Finite ∧ 0 < factor.2

theorem Damping.Moderate.sound {damping : Damping} (moderate : damping.Moderate) :
    damping.Sound := fun factor listed =>
  ⟨(moderate factor listed).finite, (moderate factor listed).pos (by decide)⟩

def RecordKind.aroundLeads : List RecordKind := [.quote, .appointment, .partner]

theorem RecordKind.mem_aroundLeads {kind : RecordKind} :
    kind ∈ aroundLeads ↔ kind.isLeadRelated = true ∧ kind ≠ .lead := by
  cases kind <;> decide

/-- The factor by which the rank of a lead shrinks when a record of some kind is found with it. -/
def Damping.ofKind (damping : Damping) : RecordKind → Score
  | .quote => damping.quote
  | .appointment => damping.appointment
  | .partner => damping.partner
  | .lead | .catalogProduct | .serviceType => 1

theorem Damping.Sound.ofKind {damping : Damping} (sound : damping.Sound) {kind : RecordKind}
    (around : kind ∈ RecordKind.aroundLeads) :
    (damping.ofKind kind).Finite ∧ 0 < damping.ofKind kind := by
  simp only [RecordKind.aroundLeads, List.mem_cons, List.not_mem_nil, or_false] at around
  rcases around with rfl | rfl | rfl
  · exact sound ("quote", damping.quote) (by simp [Damping.named])
  · exact sound ("appointment", damping.appointment) (by simp [Damping.named])
  · exact sound ("partner", damping.partner) (by simp [Damping.named])

theorem Damping.Sound.note {damping : Damping} (sound : damping.Sound) :
    damping.note.Finite ∧ 0 < damping.note :=
  sound ("note", damping.note) (by simp [Damping.named])

theorem Damping.Sound.serviceNote {damping : Damping} (sound : damping.Sound) :
    damping.serviceNote.Finite ∧ 0 < damping.serviceNote :=
  sound ("service_note", damping.serviceNote) (by simp [Damping.named])

/-! ## The highest rank among the leads of a record -/

namespace Corpus

def relatedIds (corpus : Corpus) : Record → List Uuid
  | .lead row => [row.id]
  | .quote row _ => [row.leadId]
  | .partner row => (corpus.partnerLeads.filter (·.partnerId == row.id)).map (·.leadId)
  | .appointment row => row.leadId.toList
  | .catalogProduct _ | .serviceType _ => []

theorem mem_relatedIds {corpus : Corpus} {record : Record} {id : Uuid} :
    id ∈ corpus.relatedIds record ↔ corpus.Relates record id := by
  cases record with
  | lead row | quote row owner => exact List.mem_singleton.trans eq_comm
  | partner row => simp [relatedIds, Relates, and_assoc]
  | appointment row => exact Option.mem_toList.trans Option.mem_def
  | catalogProduct row | serviceType row => simp [relatedIds, Relates]

variable (ranker : Ranker) (damping : Damping) (corpus : Corpus)

/-- The highest rank among the leads that a record is related to. -/
def relatedRank (record : Record) : Score :=
  Score.maximum ((corpus.relatedIds record).map (LeadGraph.ofCorpus ranker damping corpus).leadRank)

theorem relatedRank_spec (record : Record) :
    let ranks := (corpus.relatedIds record).map (LeadGraph.ofCorpus ranker damping corpus).leadRank
    corpus.relatedRank ranker damping record ∈ 0 :: ranks ∧
      ∀ rank ∈ 0 :: ranks, rank.place ≤ (corpus.relatedRank ranker damping record).place := by
  apply Score.maximum_spec
  intro rank member
  obtain ⟨id, _, rfl⟩ := List.mem_map.mp member
  exact LeadGraph.regular_leadRank ranker damping corpus id

theorem regular_relatedRank (record : Record) :
    (corpus.relatedRank ranker damping record).Regular := by
  rcases List.mem_cons.mp (corpus.relatedRank_spec ranker damping record).1 with zero | member
  · rw [zero]
    exact Score.regular_zero
  · obtain ⟨id, _, same⟩ := List.mem_map.mp member
    rw [← same]
    exact LeadGraph.regular_leadRank ranker damping corpus id

theorem leadRank_le_relatedRank {record : Record} {id : Uuid}
    (related : corpus.Relates record id) :
    (LeadGraph.ofCorpus ranker damping corpus).leadRank id ≤
      corpus.relatedRank ranker damping record := by
  have regular := LeadGraph.regular_leadRank ranker damping corpus id
  have highest := corpus.regular_relatedRank ranker damping record
  have below := (corpus.relatedRank_spec ranker damping record).2 _
    (List.mem_cons_of_mem _ (List.mem_map_of_mem (mem_relatedIds.mpr related)))
  rw [regular.place, highest.place] at below
  rw [regular.le_iff highest]
  omega

variable {ranker damping corpus}

theorem exists_related_of_pos {record : Record}
    (ranked : 0 < corpus.relatedRank ranker damping record) :
    ∃ lead ∈ corpus.leads, corpus.Relates record lead.id ∧
      (LeadGraph.ofCorpus ranker damping corpus).leadRank lead.id =
        corpus.relatedRank ranker damping record := by
  rcases List.mem_cons.mp (corpus.relatedRank_spec ranker damping record).1 with zero | member
  · rw [zero] at ranked
    exact absurd ranked (by decide)
  obtain ⟨id, listed, same⟩ := List.mem_map.mp member
  cases matched : (LeadGraph.ofCorpus ranker damping corpus).match? id with
  | none =>
    rw [← same, LeadGraph.leadRank, matched] at ranked
    exact absurd ranked (by decide)
  | some found =>
    obtain ⟨lead, live, rfl, _⟩ := LeadGraph.exists_lead_of_match? ranker damping corpus matched
    exact ⟨lead, live, mem_relatedIds.mp listed, same⟩

end Corpus

/-! ## Records that are found with their leads -/

namespace Record

def fieldNames : Record → List MatchedField
  | lead _ => [.name, .name, .email, .phone, .city]
  | quote _ _ => [.quoteNumber, .notes]
  | partner _ => [.name, .contact, .email, .address, .address, .address]
  | appointment _ => [.title, .location, .description]
  | catalogProduct _ | serviceType _ => []

theorem length_fieldNames (record : Record) :
    record.fieldNames.length = record.fields.length := by
  cases record <;> rfl

end Record

private theorem Score.maximum_singleton {score : Score} (regular : score.Regular) :
    Score.maximum [score] = score := by
  change (if 0 < score then score else 0) = score
  split
  · rfl
  · next nothing => exact (regular.not_pos_iff.mp nothing).symm

namespace Candidate

private theorem ofRanks_eq_some {record : Record} {own : OwnRank}
    {fields : List (Nat × MatchedField)}
    {propagated factor : Score} {preview : PreviewSource} {candidate : Candidate}
    (made : ofRanks record own fields propagated factor preview = some candidate) :
    ¬ (own.score ≤ 0 ∧ propagated ≤ 0) ∧ candidate.score = own.score + propagated * factor ∧
      candidate.matchedField = (own.firstHit fields).getD .lead := by
  unfold ofRanks at made
  split at made
  · contradiction
  · next ranked =>
    obtain rfl := Option.some.inj made
    exact ⟨ranked, rfl, rfl⟩

/-- A quote, an appointment or a partner is found by one rule: by its own fields, or with the
highest rank among its leads. -/
theorem ofRecord_eq_ofRanks (ranker : Ranker) (damping : Damping) (corpus : Corpus)
    {record : Record} (around : record.kind ∈ RecordKind.aroundLeads) :
    let graph := LeadGraph.ofCorpus ranker damping corpus
    ∃ preview, ofRecord ranker damping graph record =
      ofRanks (withOwner graph record) (ranker.rank record.fields)
        (MatchedField.placed record.fieldNames) (corpus.relatedRank ranker damping record)
        (damping.ofKind record.kind) preview := by
  have regular := LeadGraph.regular_leadRank ranker damping corpus
  cases record with
  | quote quote owner =>
    rw [Corpus.relatedRank, Corpus.relatedIds, List.map_singleton,
      Score.maximum_singleton (regular quote.leadId)]
    exact ⟨_, rfl⟩
  | partner partner =>
    rw [Corpus.relatedRank, Corpus.relatedIds, List.map_map]
    exact ⟨_, rfl⟩
  | appointment appointment =>
    have passed : corpus.relatedRank ranker damping (.appointment appointment) =
        (appointment.leadId.map (LeadGraph.ofCorpus ranker damping corpus).leadRank).getD 0 := by
      rw [Corpus.relatedRank, Corpus.relatedIds]
      cases appointment.leadId with
      | none => rfl
      | some id => exact Score.maximum_singleton (regular id)
    rw [passed]
    exact ⟨_, rfl⟩
  | lead row | catalogProduct row | serviceType row =>
    simp [RecordKind.aroundLeads, Record.kind] at around

theorem ofRecord_eq_some {ranker : Ranker} {damping : Damping} {corpus : Corpus} {record : Record}
    (around : record.kind ∈ RecordKind.aroundLeads) {candidate : Candidate}
    (made : ofRecord ranker damping (LeadGraph.ofCorpus ranker damping corpus) record =
      some candidate) :
    let own := ranker.rank record.fields
    let passed := corpus.relatedRank ranker damping record
    ¬ (own.score ≤ 0 ∧ passed ≤ 0) ∧
      candidate.score = own.score + passed * damping.ofKind record.kind ∧
      candidate.matchedField =
        (own.firstHit (MatchedField.placed record.fieldNames)).getD .lead := by
  obtain ⟨preview, same⟩ := ofRecord_eq_ofRanks ranker damping corpus around
  rw [same] at made
  exact ofRanks_eq_some made

theorem exists_ofRecord {ranker : Ranker} {damping : Damping} {corpus : Corpus} {record : Record}
    (around : record.kind ∈ RecordKind.aroundLeads)
    (ranked : ¬ ((ranker.rank record.fields).score ≤ 0 ∧
      corpus.relatedRank ranker damping record ≤ 0)) :
    ∃ candidate, ofRecord ranker damping (LeadGraph.ofCorpus ranker damping corpus) record =
      some candidate := by
  obtain ⟨preview, same⟩ := ofRecord_eq_ofRanks ranker damping corpus around
  rw [same, ofRanks, if_neg ranked]
  exact ⟨_, rfl⟩

theorem score_ofLead {graph : LeadGraph} {lead : Lead} {candidate : Candidate}
    (made : ofLead graph lead = some candidate) :
    candidate.score = graph.leadRank lead.id := by
  obtain ⟨found, matched, rfl⟩ := Option.map_eq_some_iff.mp made
  rw [LeadGraph.leadRank, matched]
  rfl

theorem exists_ofLead {graph : LeadGraph} {lead : Lead} (ranked : 0 < graph.leadRank lead.id) :
    ∃ candidate, ofLead graph lead = some candidate := by
  cases matched : graph.match? lead.id with
  | none =>
    rw [LeadGraph.leadRank, matched] at ranked
    exact absurd ranked (by decide)
  | some found => exact ⟨_, by rw [ofLead, matched, Option.map_some]⟩

end Candidate

end TenantSearch
