import TenantSearch.Proofs.Footprint
import TenantSearch.Proofs.Inclusion
import TenantSearch.Proofs.TenantIsolation

/-! Locality of scores. What becomes of a record depends on its support: on the record itself and on
the live leads that it is related to, with their notes and their services. All other rows of a store
may differ; they can only move the record to another place in the list. -/
namespace TenantSearch

private theorem Candidate.alikeFor_ofCorpus (ranker : Ranker) (damping : Damping)
    {before after : Corpus}
    {record : Record} (related : ∀ id, before.Relates record id ↔ after.Relates record id)
    (agree : ∀ id, before.Relates record id → LeadGraph.AgreeAround before after id) :
    AlikeFor (.ofCorpus ranker damping before) (.ofCorpus ranker damping after) record := by
  cases record with
  | lead lead => exact LeadGraph.match?_congr ranker damping (agree lead.id rfl)
  | quote quote owner =>
    exact ⟨LeadGraph.lead?_congr ranker damping (agree quote.leadId rfl),
      LeadGraph.leadRank_congr ranker damping (agree quote.leadId rfl)⟩
  | partner partner =>
    apply LeadGraph.partnerRank_congr ranker damping fun id _ => related id
    intro link inside named
    exact agree link.leadId ⟨link, inside, named, rfl⟩
  | appointment appointment =>
    intro id given
    exact LeadGraph.leadRank_congr ranker damping (agree id given)
  | catalogProduct product => trivial
  | serviceType row => trivial

namespace Store

/-- Two stores agree around a lead: on its live rows and, if there is one, on the notes and the
services that a tenant has for it. -/
structure AgreeAround (tenant : Uuid) (first second : Store) (id : Uuid) : Prop where
  live : first.leads.filter (·.id == id) = second.leads.filter (·.id == id)
  notes : ∀ lead ∈ first.leads, lead.id = id → Rearranged (·.id)
    ((first.rowsOf tenant).leadNotes.filter (·.leadId == id))
    ((second.rowsOf tenant).leadNotes.filter (·.leadId == id))
  services : ∀ lead ∈ first.leads, lead.id = id → Rearranged (·.id)
    ((first.rowsOf tenant).leadServices.filter (·.leadId == id))
    ((second.rowsOf tenant).leadServices.filter (·.leadId == id))

/-- A record has the same support in two stores: both reveal it to the tenant, they relate it to the
same leads, and they agree around each of these. A lead is related to itself, a quote and an
appointment to the lead that they name, a partner to the leads that it is linked to, and a record of
the catalogue to none. -/
structure SameSupport (tenant : Uuid) (first second : Store) (record : Record) : Prop where
  here : first.Reveals tenant record.alone
  there : second.Reveals tenant record.alone
  related : ∀ id,
    (first.corpus tenant).Relates record id ↔ (second.corpus tenant).Relates record id
  around : ∀ id, (first.corpus tenant).Relates record id → AgreeAround tenant first second id

section
variable {store : Store} {tenant : Uuid} {record : Record}

private theorem holds_alone_iff :
    (store.corpus tenant).Holds record.alone ↔ store.Reveals tenant record.alone := by
  constructor
  · exact reveals_of_holds
  · intro revealed
    cases record with
    | lead lead => exact mem_corpus_leads.mpr revealed
    | quote quote owner => exact ⟨revealed.1, by simp⟩
    | partner | appointment | catalogProduct | serviceType => exact revealed

private theorem reaches_of_relates (revealed : store.Reveals tenant record.alone) {id : Uuid}
    (related : (store.corpus tenant).Relates record id) : (store.rowsOf tenant).Reaches id := by
  cases record with
  | lead lead =>
    obtain rfl : lead.id = id := related
    exact revealed.2
  | quote quote owner => exact .inr (.inl ⟨quote, revealed.1, related⟩)
  | partner partner =>
    obtain ⟨link, inside, _, named⟩ := related
    exact .inr (.inr (.inr (.inr (.inr ⟨link, inside, named⟩))))
  | appointment appointment => exact .inr (.inr (.inl ⟨appointment, revealed, related⟩))
  | catalogProduct product => exact related.elim
  | serviceType row => exact related.elim

end

section
variable {tenant : Uuid} {first second : Store}

private theorem AgreeAround.corpus {id : Uuid} (agree : AgreeAround tenant first second id)
    (here : (first.rowsOf tenant).Reaches id) (there : (second.rowsOf tenant).Reaches id) :
    LeadGraph.AgreeAround (first.corpus tenant) (second.corpus tenant) id := by
  have listed (live : LeadGraph.isLive (first.corpus tenant).leads id = true) :
      ∃ lead ∈ first.leads, lead.id = id := by
    obtain ⟨lead, inside, named⟩ := List.any_eq_true.mp live
    exact ⟨lead, (mem_corpus_leads.mp inside).1, beq_iff_eq.mp named⟩
  refine ⟨?_, ?_, ?_⟩
  · rw [filter_corpus_leads, filter_corpus_leads, if_pos (TenantRows.mem_hub.mpr here),
      if_pos (TenantRows.mem_hub.mpr there), agree.live]
  · intro live
    obtain ⟨lead, inside, named⟩ := listed live
    exact agree.notes lead inside named
  · intro live
    obtain ⟨lead, inside, named⟩ := listed live
    exact agree.services lead inside named

/-- The same becomes of a record in stores in which it has the same support. -/
theorem SameSupport.ofRecord_eq {record : Record}
    (support : SameSupport tenant first second record) (ranker : Ranker) (damping : Damping) :
    Candidate.ofRecord ranker damping (.ofCorpus ranker damping (first.corpus tenant)) record =
      Candidate.ofRecord ranker damping (.ofCorpus ranker damping (second.corpus tenant))
        record := by
  apply Candidate.ofRecord_congr
  apply Candidate.alikeFor_ofCorpus ranker damping support.related
  intro id related
  exact (support.around id related).corpus (reaches_of_relates support.here related)
    (reaches_of_relates support.there ((support.related id).mp related))

end

end Store

namespace SearchService

/-- Scoring is local. In any two stores in which a record has the same support, a search finds it in
both or in neither of them, and as one and the same candidate: with its score to the last bit, the
field that explains it, its preview, and all that is shown of it. -/
theorem search_local (service : SearchService) {tenant : Uuid} {first second : Store}
    {record : Record} (support : first.SameSupport tenant second record) {query : Text}
    (admissible : Admissible service.settings query) {types : Option Text} {isAdmin : Bool}
    {kinds : List RecordKind} (resolved : RecordKind.resolve types isAdmin = .ok kinds) :
    let found (store : Store) := service.merged (Text.trim query) (store.corpus tenant) kinds
    (∀ store : Store, (service.reading (store.source .none)).PagesOf tenant query types isAdmin
        (found store)) ∧
      ∃ made : Option Candidate, ∀ candidate,
        (candidate ∈ found first ∧ candidate.record.alone = record.alone ↔
          made = some candidate) ∧
        (candidate ∈ found second ∧ candidate.record.alone = record.alone ↔
          made = some candidate) := by
  intro found
  refine ⟨?_, ?_⟩
  · intro store
    have reads : (service.reading (store.source .none)).source = store.source .none := rfl
    exact pagesOf_merged reads tenant admissible resolved
  let ranker := service.ranker (Text.trim query)
  let becomes := Candidate.ofRecord ranker service.settings.damping
    (.ofCorpus ranker service.settings.damping (first.corpus tenant)) record
  have same := support.ofRecord_eq ranker service.settings.damping
  have heldHere := Store.holds_alone_iff.mpr support.here
  have heldThere := Store.holds_alone_iff.mpr support.there
  refine ⟨if record.kind ∈ kinds then becomes else none, ?_⟩
  intro candidate
  simp only [found, mem_merged_alone_iff, heldHere, heldThere, true_and]
  rw [← same]
  by_cases asked : record.kind ∈ kinds <;> simp [asked, becomes, ranker]

/-- A quote is found with its lead as before, although another lead is gone and a new one with a
note of its own is there. -/
theorem search_local_quote_of_lead :
    let note : LeadNote := ⟨⟨4⟩, ⟨3⟩, "Bram called".toList, .epoch⟩
    let other : Lead := ⟨⟨3⟩, "Bram".toList, "Bos".toList, none, none, none, .epoch⟩
    let changed := (Store.sample.removeLead ⟨1⟩).add ⟨7⟩
      { TenantRows.empty with leadIds := [⟨3⟩], leadNotes := [note] } [other]
    let quote : Quote :=
      ⟨⟨5⟩, ⟨2⟩, "Q-1".toList, some "For Anna".toList, 12500, "sent".toList, .epoch⟩
    let service : SearchService := ⟨{}, .dutch, Store.sample.source .none, rfl⟩
    Store.sample.SameSupport ⟨7⟩ changed (.quote quote none) ∧
      Admissible service.settings "bram".toList ∧
      RecordKind.resolve (some "quote".toList) false = .ok [.quote] ∧
      ∃ candidate ∈ service.merged "bram".toList (Store.sample.corpus ⟨7⟩) [.quote],
        candidate ∈ service.merged "bram".toList (changed.corpus ⟨7⟩) [.quote] ∧
          candidate.matchedField = .lead := by
  intro note other changed quote service
  have listed : quote ∈ (Store.sample.rowsOf ⟨7⟩).quotes := List.mem_singleton.mpr rfl
  have kept : quote ∈ (changed.rowsOf ⟨7⟩).quotes := List.mem_singleton.mpr rfl
  have support : Store.sample.SameSupport ⟨7⟩ changed (.quote quote none) := by
    refine ⟨⟨listed, by simp⟩, ⟨kept, by simp⟩, fun _ => Iff.rfl, ?_⟩
    rintro id rfl
    exact ⟨rfl, fun _ _ _ _ => rfl, fun _ _ _ _ => rfl⟩
  have admissible : Admissible service.settings "bram".toList := ⟨by decide, by decide⟩
  have resolved : RecordKind.resolve (some "quote".toList) false = .ok [.quote] := rfl
  obtain ⟨_, made, becomes⟩ := search_local service support admissible resolved
  have tagged : (Candidate.ofRecord (service.ranker "bram".toList) service.settings.damping
      (.ofCorpus (service.ranker "bram".toList) service.settings.damping
        (Store.sample.corpus ⟨7⟩)) (.quote quote none)).map (·.matchedField) = some .lead := by
    decide +kernel
  obtain ⟨candidate, found, tag⟩ := Option.map_eq_some_iff.mp tagged
  have here := mem_merged_alone_iff.mpr
    ⟨List.mem_singleton.mpr rfl, Store.holds_alone_iff.mpr support.here, found⟩
  have there := (becomes candidate).2.mpr ((becomes candidate).1.mp here)
  exact ⟨support, admissible, resolved, candidate, here.1, there.1, tag⟩

end SearchService

end TenantSearch
