import Mathlib.Data.Prod.Basic
import TenantSearch.Proofs.CandidateOrder
import TenantSearch.Proofs.LeadGraph

/-! The records behind candidates. A record of a corpus gives at most one candidate, and that is
about the record itself; so the candidates of two corpora are arrangements of one another when their
records are, and no two of them have one key when no two rows of a table have one identifier. -/
namespace TenantSearch

/-- The records that a corpus holds. A quote may come with a live lead, the one it was made to. -/
def Corpus.Holds (corpus : Corpus) : Record → Prop
  | .lead lead => lead ∈ corpus.leads
  | .quote quote owner =>
    quote ∈ corpus.quotes ∧ ∀ lead ∈ owner, lead ∈ corpus.leads ∧ lead.id = quote.leadId
  | .partner partner => partner ∈ corpus.partners
  | .appointment appointment => appointment ∈ corpus.appointments
  | .catalogProduct product => product ∈ corpus.catalogProducts
  | .serviceType row => row ∈ corpus.serviceTypes

/-- Within each table, no two rows have one identifier. -/
structure Corpus.UniqueIds (corpus : Corpus) : Prop where
  leads : (corpus.leads.map (·.id)).Nodup
  leadNotes : (corpus.leadNotes.map (·.id)).Nodup
  leadServices : (corpus.leadServices.map (·.id)).Nodup
  quotes : (corpus.quotes.map (·.id)).Nodup
  partners : (corpus.partners.map (·.id)).Nodup
  appointments : (corpus.appointments.map (·.id)).Nodup
  catalogProducts : (corpus.catalogProducts.map (·.id)).Nodup
  serviceTypes : (corpus.serviceTypes.map (·.id)).Nodup

namespace Candidate
variable (ranker : Ranker) (damping : Damping)

def records (corpus : Corpus) (graph : LeadGraph) : RecordKind → List Record
  | .lead => corpus.leads.map .lead
  | .quote => corpus.quotes.map fun quote => .quote quote (graph.lead? quote.leadId)
  | .partner => corpus.partners.map .partner
  | .appointment => corpus.appointments.map .appointment
  | .catalogProduct => corpus.catalogProducts.map .catalogProduct
  | .serviceType => corpus.serviceTypes.map .serviceType

def withOwner (graph : LeadGraph) : Record → Record
  | .quote quote _ => .quote quote (graph.lead? quote.leadId)
  | record => record

def ofRecord (graph : LeadGraph) : Record → Option Candidate
  | .lead lead => ofLead graph lead
  | .quote quote _ => ofQuote ranker damping graph quote
  | .partner partner => ofPartner ranker damping graph partner
  | .appointment appointment => ofAppointment ranker damping graph appointment
  | .catalogProduct product => ofCatalogProduct ranker product
  | .serviceType row => ofServiceType ranker row

theorem ofKind_eq (corpus : Corpus) (graph : LeadGraph) (kind : RecordKind) :
    ofKind ranker damping corpus graph kind =
      (records corpus graph kind).filterMap (ofRecord ranker damping graph) := by
  cases kind <;> rw [records, List.filterMap_map] <;> rfl

private theorem kind_of_mem_records {corpus : Corpus} {graph : LeadGraph} {kind : RecordKind}
    {record : Record} (member : record ∈ records corpus graph kind) : record.kind = kind := by
  cases kind <;> obtain ⟨row, _, rfl⟩ := List.mem_map.mp member <;> rfl

private theorem record_ofRanks {record : Record} {own : OwnRank}
    {fields : List (Nat × MatchedField)}
    {propagated damping : Score} {preview : PreviewSource} {candidate : Candidate}
    (found : ofRanks record own fields propagated damping preview = some candidate) :
    candidate.record = record := by
  unfold ofRanks at found
  split at found
  · contradiction
  · rw [← Option.some.inj found]

theorem record_ofRecord {graph : LeadGraph} {record : Record} {candidate : Candidate}
    (found : ofRecord ranker damping graph record = some candidate) :
    candidate.record = withOwner graph record := by
  cases record
  case lead | catalogProduct | serviceType =>
    obtain ⟨_, _, rfl⟩ := Option.map_eq_some_iff.mp found
    rfl
  all_goals exact record_ofRanks found

private theorem key_withOwner (graph : LeadGraph) (record : Record) :
    (withOwner graph record).key = record.key := by
  cases record <;> rfl

private theorem key_ofRecord {graph : LeadGraph} {record : Record} {candidate : Candidate}
    (found : ofRecord ranker damping graph record = some candidate) :
    candidate.key = record.key := by
  rw [key, record_ofRecord ranker damping found, key_withOwner]

theorem withOwner_eq_self {corpus : Corpus} {graph : LeadGraph} {kind : RecordKind}
    {record : Record} (member : record ∈ records corpus graph kind) :
    withOwner graph record = record := by
  cases kind <;> obtain ⟨row, _, rfl⟩ := List.mem_map.mp member <;> rfl

theorem exists_record {corpus : Corpus} {graph : LeadGraph} {kind : RecordKind}
    {candidate : Candidate} (member : candidate ∈ ofKind ranker damping corpus graph kind) :
    candidate.record ∈ records corpus graph kind := by
  rw [ofKind_eq] at member
  obtain ⟨record, inside, found⟩ := List.mem_filterMap.mp member
  rwa [record_ofRecord ranker damping found, withOwner_eq_self inside]

theorem kind_of_mem_ofKind {corpus : Corpus} {graph : LeadGraph} {kind : RecordKind}
    {candidate : Candidate} (member : candidate ∈ ofKind ranker damping corpus graph kind) :
    candidate.record.kind = kind :=
  kind_of_mem_records (exists_record ranker damping member)

theorem holds_of_mem_ofKind {corpus : Corpus} {kind : RecordKind} {candidate : Candidate}
    (member : candidate ∈ ofKind ranker damping corpus
      (LeadGraph.ofCorpus ranker damping corpus) kind) : corpus.Holds candidate.record := by
  have inside := exists_record ranker damping member
  generalize candidate.record = record at inside
  cases kind <;> obtain ⟨row, present, rfl⟩ := List.mem_map.mp inside
  case quote =>
    refine ⟨present, ?_⟩
    intro lead owner
    rw [LeadGraph.lead?_eq, Option.mem_def] at owner
    have among := List.mem_reverse.mp (List.mem_of_mem_head? owner)
    obtain ⟨live, named⟩ := List.mem_filter.mp among
    exact ⟨live, beq_iff_eq.mp named⟩
  all_goals exact present

/-! ## Arrangements -/

def AlikeFor (left right : LeadGraph) : Record → Prop
  | .lead lead => left.match? lead.id = right.match? lead.id
  | .quote quote _ => left.lead? quote.leadId = right.lead? quote.leadId ∧
    left.leadRank quote.leadId = right.leadRank quote.leadId
  | .partner partner => left.partnerRank partner.id = right.partnerRank partner.id
  | .appointment appointment => ∀ id ∈ appointment.leadId, left.leadRank id = right.leadRank id
  | .catalogProduct _ | .serviceType _ => True

theorem ofRecord_congr {left right : LeadGraph} {record : Record}
    (alike : AlikeFor left right record) :
    ofRecord ranker damping left record = ofRecord ranker damping right record := by
  cases record with
  | lead lead =>
    have found : left.match? lead.id = right.match? lead.id := alike
    simp only [ofRecord, ofLead, found]
  | quote quote owner => simp only [ofRecord, ofQuote, alike.1, alike.2]
  | partner partner =>
    have rank : left.partnerRank partner.id = right.partnerRank partner.id := alike
    simp only [ofRecord, ofPartner, rank]
  | appointment appointment =>
    have rank : appointment.leadId.map left.leadRank = appointment.leadId.map right.leadRank :=
      Option.map_congr alike
    simp only [ofRecord, ofAppointment, rank]
  | catalogProduct product => rfl
  | serviceType row => rfl

theorem alikeFor_of_alike {left right : LeadGraph} (alike : LeadGraph.Alike left right)
    (record : Record) : AlikeFor left right record := by
  cases record with
  | lead lead => exact alike.match? lead.id
  | quote quote owner => exact ⟨alike.lead? quote.leadId, alike.leadRank quote.leadId⟩
  | partner partner => exact alike.partnerRank partner.id
  | appointment appointment => exact fun id _ => alike.leadRank id
  | catalogProduct product => trivial
  | serviceType row => trivial

section
variable {before after : Corpus} (rows : before.SameRows after.toTenantRows)
  (leads : Rearranged (·.id) before.leads after.leads) {left right : LeadGraph}
  (alike : LeadGraph.Alike left right)
include rows leads alike

theorem records_rearranged (kind : RecordKind) :
    Rearranged Record.key (records before left kind) (records after right kind) := by
  have owners : left.lead? = right.lead? := funext alike.lead?
  have apart : Function.Injective fun id : Uuid => (kind, id) := Prod.mk_right_injective kind
  cases kind with
  | lead => exact leads.map _ _ apart fun _ => rfl
  | quote =>
    unfold records
    rw [owners]
    exact rows.quotes.map _ _ apart fun _ => rfl
  | partner => exact rows.partners.map _ _ apart fun _ => rfl
  | appointment => exact rows.appointments.map _ _ apart fun _ => rfl
  | catalogProduct => exact rows.catalogProducts.map _ _ apart fun _ => rfl
  | serviceType => exact rows.serviceTypes.map _ _ apart fun _ => rfl

/-- Corpora with the same rows have the same candidates, whatever the arrangement of the rows. -/
theorem ofKind_rearranged (kind : RecordKind) : Rearranged key
    (ofKind ranker damping before left kind) (ofKind ranker damping after right kind) := by
  have found : ofRecord ranker damping left = ofRecord ranker damping right :=
    funext fun record => ofRecord_congr ranker damping (alikeFor_of_alike alike record)
  rw [ofKind_eq, ofKind_eq, found]
  apply (records_rearranged rows leads alike kind).filterMap _ id Function.injective_id
  intro record candidate found
  exact key_ofRecord ranker damping found

end

/-! ## Distinct keys -/

section
variable {corpus : Corpus} (unique : corpus.UniqueIds)
include unique

theorem nodup_records (graph : LeadGraph) (kind : RecordKind) :
    ((records corpus graph kind).map Record.key).Nodup := by
  have apart : Function.Injective fun id : Uuid => (kind, id) := Prod.mk_right_injective kind
  have lifted {α : Type} (rows : List α) (id : α → Uuid) (make : α → Record)
      (distinct : (rows.map id).Nodup) (named : ∀ row, (make row).key = (kind, id row)) :
      ((rows.map make).map Record.key).Nodup := by
    have keys : (rows.map make).map Record.key = (rows.map id).map (kind, ·) := by
      simp [named, Function.comp_def]
    rw [keys]
    exact distinct.map apart
  cases kind with
  | lead => exact lifted _ _ _ unique.leads fun _ => rfl
  | quote => exact lifted _ _ _ unique.quotes fun _ => rfl
  | partner => exact lifted _ _ _ unique.partners fun _ => rfl
  | appointment => exact lifted _ _ _ unique.appointments fun _ => rfl
  | catalogProduct => exact lifted _ _ _ unique.catalogProducts fun _ => rfl
  | serviceType => exact lifted _ _ _ unique.serviceTypes fun _ => rfl

theorem nodup_candidates (graph : LeadGraph) {kinds : List RecordKind} (distinct : kinds.Nodup) :
    ((kinds.flatMap (ofKind ranker damping corpus graph)).map key).Nodup := by
  rw [List.map_flatMap, List.nodup_flatMap]
  constructor
  · intro kind _
    rw [ofKind_eq]
    apply (map_filterMap_sublist _).nodup (nodup_records unique graph kind)
    intro record _ candidate found
    exact key_ofRecord ranker damping found
  · apply distinct.imp
    intro first second apart key left right
    obtain ⟨a, inside, rfl⟩ := List.mem_map.mp left
    obtain ⟨b, other, same⟩ := List.mem_map.mp right
    have kinds := congrArg Prod.fst same
    change b.record.kind = a.record.kind at kinds
    rw [kind_of_mem_ofKind ranker damping inside, kind_of_mem_ofKind ranker damping other] at kinds
    exact apart kinds.symm

end

end Candidate

end TenantSearch
