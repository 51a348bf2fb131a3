import TenantSearch.Proofs.Explanation
import TenantSearch.Proofs.Footprint
import TenantSearch.Proofs.TenantIsolation

/-! Growth of a store. Rows that are added compete with those that were there, but only for the best
note of a lead and for the highest rank among the leads of a record, and sums and products of scores
keep their order even where they overflow. So whatever was found is found as before, with a score
that is at least as high. -/
namespace TenantSearch

/-! ## Rows that are still there -/

/-- Tables that are part of larger ones: every row of them is still there. -/
structure TenantRows.Within (before after : TenantRows) : Prop where
  leadIds : before.leadIds.Subperm after.leadIds
  leadNotes : before.leadNotes.Subperm after.leadNotes
  leadServices : before.leadServices.Subperm after.leadServices
  quotes : before.quotes.Subperm after.quotes
  partners : before.partners.Subperm after.partners
  partnerLeads : before.partnerLeads.Subperm after.partnerLeads
  appointments : before.appointments.Subperm after.appointments
  catalogProducts : before.catalogProducts.Subperm after.catalogProducts
  serviceTypes : before.serviceTypes.Subperm after.serviceTypes

/-- Live leads that are part of others: every one is still there, and none of the others has its
identifier. -/
structure LeadsWithin (before after : List Lead) : Prop where
  kept : before.Subperm after
  fresh : ∀ lead ∈ before, ∀ other ∈ after, other.id = lead.id → other = lead

structure Corpus.Within (before after : Corpus) : Prop where
  rows : before.toTenantRows.Within after.toTenantRows
  leads : LeadsWithin before.leads after.leads

namespace TenantRows.Within

theorem append (rows more : TenantRows) : rows.Within (rows.append more) := by
  constructor <;> exact (List.sublist_append_left _ _).subperm

theorem refl (rows : TenantRows) : rows.Within rows := by
  constructor <;> exact .refl _

variable {before after : TenantRows} (within : before.Within after)
include within

theorem reaches {id : Uuid} (reached : before.Reaches id) : after.Reaches id := by
  rcases reached with own | ⟨quote, inside, named⟩ | ⟨appointment, inside, named⟩ |
    ⟨service, inside, named⟩ | ⟨note, inside, named⟩ | ⟨link, inside, named⟩
  · exact .inl (within.leadIds.subset own)
  · exact .inr (.inl ⟨quote, within.quotes.subset inside, named⟩)
  · exact .inr (.inr (.inl ⟨appointment, within.appointments.subset inside, named⟩))
  · exact .inr (.inr (.inr (.inl ⟨service, within.leadServices.subset inside, named⟩)))
  · exact .inr (.inr (.inr (.inr (.inl ⟨note, within.leadNotes.subset inside, named⟩))))
  · exact .inr (.inr (.inr (.inr (.inr ⟨link, within.partnerLeads.subset inside, named⟩))))

end TenantRows.Within

/-! ## Leads -/

theorem bestScore_mono {α : Type} {id : α → Uuid} {rows others : List (α × Score)}
    (regular : ∀ row ∈ others, row.2.Regular) (within : rows ⊆ others) :
    (bestScore (best? id rows)).toBits.toNat ≤ (bestScore (best? id others)).toBits.toNat := by
  rcases best?_spec id rows with ⟨empty, _⟩ | ⟨best, chosen, isBest⟩
  · rw [empty]
    exact Nat.zero_le _
  · have member := within isBest.mem
    rcases best?_spec id others with ⟨_, unranked⟩ | ⟨top, found, highest⟩
    · exact absurd (unranked best member) isBest.ranked
    · have unbeaten := highest.unbeaten best member isBest.ranked
      rw [Bool.eq_false_iff, ne_eq, isBetter_iff, (regular best member).place,
        (regular top highest.mem).place] at unbeaten
      rw [chosen, found]
      change best.2.toBits.toNat ≤ top.2.toBits.toNat
      omega

namespace Corpus.Within
variable {before after : Corpus} (within : before.Within after)
include within

private theorem relates {record : Record} {id : Uuid} (related : before.Relates record id) :
    after.Relates record id := by
  cases record with
  | partner partner =>
    obtain ⟨link, inside, named⟩ := related
    exact ⟨link, within.rows.partnerLeads.subset inside, named⟩
  | _ => exact related

private theorem holds_alone {record : Record} (held : before.Holds record.alone) :
    after.Holds record.alone := by
  cases record with
  | lead lead => exact within.leads.kept.subset held
  | quote quote owner => exact ⟨within.rows.quotes.subset held.1, by simp⟩
  | partner partner => exact within.rows.partners.subset held
  | appointment appointment => exact within.rows.appointments.subset held
  | catalogProduct product => exact within.rows.catalogProducts.subset held
  | serviceType row => exact within.rows.serviceTypes.subset held

private theorem isLive {id : Uuid} (live : LeadGraph.isLive before.leads id = true) :
    LeadGraph.isLive after.leads id = true := by
  obtain ⟨lead, inside, named⟩ := List.any_eq_true.mp live
  exact List.any_eq_true.mpr ⟨lead, within.leads.kept.subset inside, named⟩

private theorem rankedNotes_subset (ranker : Ranker) :
    LeadGraph.rankedNotes ranker before ⊆ LeadGraph.rankedNotes ranker after := by
  intro row listed
  obtain ⟨inside, live, rank⟩ := LeadGraph.mem_rankedNotes.mp listed
  exact LeadGraph.mem_rankedNotes.mpr
    ⟨within.rows.leadNotes.subset inside, within.isLive live, rank⟩

private theorem rankedServices_subset (ranker : Ranker) :
    LeadGraph.rankedServices ranker before ⊆ LeadGraph.rankedServices ranker after := by
  intro row listed
  obtain ⟨inside, live, told⟩ := LeadGraph.mem_rankedServices.mp listed
  exact LeadGraph.mem_rankedServices.mpr
    ⟨within.rows.leadServices.subset inside, within.isLive live, told⟩

end Corpus.Within

section
variable {ranker : Ranker} (sound : ranker.Sound) {damping : Damping} (damped : damping.Sound)
  {before after : Corpus} (within : before.Within after)

namespace LeadGraph

include sound within in
theorem noteScore_mono (lead : Uuid) : (noteScore ranker before lead).toBits.toNat ≤
    (noteScore ranker after lead).toBits.toNat :=
  bestScore_mono (regular_of_mem_notes sound lead)
    (List.filter_subset _ (within.rankedNotes_subset ranker))

include sound within in
theorem serviceScore_mono (lead : Uuid) : (serviceScore ranker before lead).toBits.toNat ≤
    (serviceScore ranker after lead).toBits.toNat :=
  bestScore_mono (regular_of_mem_services sound lead)
    (List.filter_subset _ (within.rankedServices_subset ranker))

include sound damped within

theorem matchOf_mono (lead : Lead) :
    (matchOf ranker damping (rankedNotes ranker before) (rankedServices ranker before)
      lead).rank.toBits.toNat ≤
    (matchOf ranker damping (rankedNotes ranker after) (rankedServices ranker after)
      lead).rank.toBits.toNat := by
  obtain ⟨own, note, service⟩ := regular_parts_matchOf sound damped after lead
  have notes := (noteScore_spec sound after lead.id).1.mul_mono damped.note.1 damped.note.2
    (noteScore_mono sound within lead.id)
  have services := (serviceScore_spec sound after lead.id).1.mul_mono damped.serviceNote.1
    damped.serviceNote.2 (serviceScore_mono sound within lead.id)
  rw [rank_matchOf, rank_matchOf]
  exact (own.add note).add_mono service (own.add_mono note le_rfl notes) services

/-- No identifier of a lead loses rank, as only the lead that had it can stand for it. -/
theorem leadRank_mono (id : Uuid) :
    ((ofCorpus ranker damping before).leadRank id).toBits.toNat ≤
      ((ofCorpus ranker damping after).leadRank id).toBits.toNat := by
  cases matched : (ofCorpus ranker damping before).match? id with
  | none =>
    rw [leadRank, matched]
    exact Nat.zero_le _
  | some found =>
    obtain ⟨lead, live, rfl, ranked, rfl⟩ := exists_lead_of_match? ranker damping before matched
    have grown := matchOf_mono sound damped within lead
    have above := (regular_matchOf sound damped after lead).pos_of_le ranked grown
    obtain ⟨other, present⟩ :=
      exists_match? ranker damping after (within.leads.kept.subset live) above
    obtain ⟨row, among, named, _, rfl⟩ := exists_lead_of_match? ranker damping after present
    obtain rfl := within.leads.fresh lead live row among named
    rw [leadRank, matched, leadRank, present]
    exact grown

end LeadGraph

include sound damped within

theorem Corpus.relatedRank_mono (record : Record) :
    (before.relatedRank ranker damping record).toBits.toNat ≤
      (after.relatedRank ranker damping record).toBits.toNat := by
  rcases List.mem_cons.mp (before.relatedRank_spec ranker damping record).1 with zero | member
  · rw [zero]
    exact Nat.zero_le _
  · obtain ⟨id, listed, same⟩ := List.mem_map.mp member
    have related := within.relates (mem_relatedIds.mp listed)
    have highest := after.leadRank_le_relatedRank ranker damping related
    rw [(LeadGraph.regular_leadRank ranker damping after id).le_iff
      (after.regular_relatedRank ranker damping record)] at highest
    rw [← same]
    exact (LeadGraph.leadRank_mono sound damped within id).trans highest

/-! ## Candidates -/

namespace Candidate

omit within in
private theorem regular_score_of_aroundLeads {corpus : Corpus} {record : Record}
    (near : record.kind ∈ RecordKind.aroundLeads) {candidate : Candidate}
    (made : ofRecord ranker damping (.ofCorpus ranker damping corpus) record = some candidate) :
    candidate.score.Regular := by
  obtain ⟨_, score, _⟩ := ofRecord_eq_some near made
  obtain ⟨finite, positive⟩ := damped.ofKind near
  rw [score]
  exact (Ranker.regular_rank sound).add
    ((corpus.regular_relatedRank ranker damping record).mul finite positive)

/-- A record around the leads is still found, and with no lower score: no lead of it is lost, and
none passes on less. -/
private theorem exists_ofRecord_of_aroundLeads {record : Record}
    (near : record.kind ∈ RecordKind.aroundLeads) {candidate : Candidate}
    (made : ofRecord ranker damping (.ofCorpus ranker damping before) record = some candidate) :
    ∃ other, ofRecord ranker damping (.ofCorpus ranker damping after) record = some other ∧
      candidate.score ≤ other.score := by
  obtain ⟨ranked, score, _⟩ := ofRecord_eq_some near made
  obtain ⟨finite, positive⟩ := damped.ofKind near
  have passed := before.regular_relatedRank ranker damping record
  have higher := after.regular_relatedRank ranker damping record
  have grown := Corpus.relatedRank_mono sound damped within record
  have stays : ¬ ((ranker.rank record.fields).score ≤ 0 ∧
      after.relatedRank ranker damping record ≤ 0) := by
    rintro ⟨own, related⟩
    refine ranked ⟨own, ?_⟩
    rw [higher.le_iff Score.regular_zero] at related
    rw [passed.le_iff Score.regular_zero]
    exact grown.trans related
  obtain ⟨other, found⟩ := exists_ofRecord near stays
  refine ⟨other, found, ?_⟩
  rw [(regular_score_of_aroundLeads sound damped near made).le_iff
      (regular_score_of_aroundLeads sound damped near found), score,
    (ofRecord_eq_some near found).2.1]
  exact (Ranker.regular_rank sound).add_mono (higher.mul finite positive) le_rfl
    (higher.mul_mono finite positive grown)

private theorem exists_ofLead_of_within {lead : Lead} {candidate : Candidate}
    (made : ofLead (.ofCorpus ranker damping before) lead = some candidate) :
    ∃ other, ofLead (.ofCorpus ranker damping after) lead = some other ∧
      candidate.score ≤ other.score := by
  have rank := score_ofLead made
  have grown := LeadGraph.leadRank_mono sound damped within lead.id
  obtain ⟨found, matched, _⟩ := Option.map_eq_some_iff.mp made
  have ranked : 0 < (LeadGraph.ofCorpus ranker damping before).leadRank lead.id := by
    rw [LeadGraph.leadRank, matched]
    exact LeadGraph.pos_of_match? ranker damping before matched
  have lower := LeadGraph.regular_leadRank ranker damping before lead.id
  have higher := LeadGraph.regular_leadRank ranker damping after lead.id
  obtain ⟨other, stays⟩ := exists_ofLead (higher.pos_of_le ranked grown)
  refine ⟨other, stays, ?_⟩
  rw [rank, score_ofLead stays, lower.le_iff higher]
  exact grown

private theorem exists_ofRecord_of_within {record : Record} {candidate : Candidate}
    (made : ofRecord ranker damping (.ofCorpus ranker damping before) record = some candidate) :
    ∃ other, ofRecord ranker damping (.ofCorpus ranker damping after) record = some other ∧
      candidate.score ≤ other.score := by
  have around (near : record.kind ∈ RecordKind.aroundLeads) :=
    exists_ofRecord_of_aroundLeads sound damped within near made
  cases record with
  | lead lead => exact exists_ofLead_of_within sound damped within made
  | quote | partner | appointment =>
    exact around (by simp [RecordKind.aroundLeads, Record.kind])
  | catalogProduct | serviceType =>
    -- The catalogue has no leads, so the same candidate is made of the row.
    obtain ⟨⟨score, rung⟩, ladder, rfl⟩ := Option.map_eq_some_iff.mp made
    have regular := (ladder_between ladder).finite.regular
    exact ⟨_, made, (regular.le_iff regular).mpr le_rfl⟩

private theorem isSome_ofRecord_of_within {record : Record}
    (made : (ofRecord ranker damping (.ofCorpus ranker damping before) record).isSome = true) :
    (ofRecord ranker damping (.ofCorpus ranker damping after) record).isSome = true := by
  obtain ⟨candidate, found⟩ := Option.isSome_iff_exists.mp made
  obtain ⟨other, stays, _⟩ := exists_ofRecord_of_within sound damped within found
  exact Option.isSome_iff_exists.mpr ⟨other, stays⟩

omit sound damped in
private theorem records_alone_subperm (left right : LeadGraph) (kind : RecordKind) :
    ((records before left kind).map Record.alone).Subperm
      ((records after right kind).map Record.alone) := by
  have lifted {α : Type} {rows others : List α} (kept : rows.Subperm others) (make : α → Record) :
      (rows.map make).Subperm (others.map make) := by
    obtain ⟨same, permuted, sublist⟩ := kept
    exact ⟨same.map make, permuted.map make, sublist.map make⟩
  cases kind <;> simp only [records, List.map_map]
  · exact lifted within.leads.kept _
  · exact lifted within.rows.quotes fun quote => .quote quote none
  · exact lifted within.rows.partners _
  · exact lifted within.rows.appointments _
  · exact lifted within.rows.catalogProducts _
  · exact lifted within.rows.serviceTypes _

private theorem length_ofKind_le (kind : RecordKind) :
    (ofKind ranker damping before (.ofCorpus ranker damping before) kind).length ≤
      (ofKind ranker damping after (.ofCorpus ranker damping after) kind).length := by
  have counted (corpus : Corpus) :
      (ofKind ranker damping corpus (.ofCorpus ranker damping corpus) kind).length =
        ((records corpus (.ofCorpus ranker damping corpus) kind).map Record.alone).countP
          fun record =>
            (ofRecord ranker damping (.ofCorpus ranker damping corpus) record).isSome := by
    rw [ofKind_eq, List.length_filterMap_eq_countP, List.countP_map]
    simp only [Function.comp_def, ofRecord_alone]
  rw [counted, counted]
  exact (List.countP_mono_left fun record _ =>
    isSome_ofRecord_of_within sound damped within).trans
      ((records_alone_subperm within _ _ kind).countP_le _)

end Candidate

end

/-! ## Searches -/

namespace SearchService
variable {service : SearchService} {query : Text} (sound : (service.ranker query).Sound)
  (damped : service.settings.damping.Sound) {before after : Corpus}
  (within : before.Within after) {kinds : List RecordKind}
include sound damped within

theorem exists_mem_merged_of_within {candidate : Candidate}
    (member : candidate ∈ service.merged query before kinds) :
    ∃ other ∈ service.merged query after kinds,
      other.record.alone = candidate.record.alone ∧ candidate.score ≤ other.score := by
  obtain ⟨asked, held, found⟩ := mem_merged_alone_iff.mp ⟨member, rfl⟩
  obtain ⟨other, made, higher⟩ := Candidate.exists_ofRecord_of_within sound damped within found
  obtain ⟨inside, same⟩ := mem_merged_alone_iff.mpr ⟨asked, within.holds_alone held, made⟩
  exact ⟨other, inside, same, higher⟩

theorem length_merged_le :
    (service.merged query before kinds).length ≤ (service.merged query after kinds).length := by
  rw [merged_eq, merged_eq, (Candidate.merge_perm _).length_eq, (Candidate.merge_perm _).length_eq,
    candidates, candidates, List.length_flatMap, List.length_flatMap]
  exact List.sum_le_sum fun kind _ => Candidate.length_ofKind_le sound damped within kind

end SearchService

/-! ## Stores -/

namespace Store

/-- A store has grown for a tenant: every row of its tables is still there, and every live lead, and
what was added gives no identifier of a live lead to another one. -/
structure Grows (tenant : Uuid) (before after : Store) : Prop where
  rows : (before.rowsOf tenant).Within (after.rowsOf tenant)
  leads : LeadsWithin before.leads after.leads

private theorem Grows.corpus {tenant : Uuid} {before after : Store}
    (grown : Grows tenant before after) : (before.corpus tenant).Within (after.corpus tenant) := by
  refine ⟨grown.rows, ?_, ?_⟩
  · have reached (lead : Lead) (known : (before.rowsOf tenant).hub.contains lead.id = true) :
        (after.rowsOf tenant).hub.contains lead.id = true := by
      rw [List.contains_iff_mem, TenantRows.mem_hub] at known ⊢
      exact grown.rows.reaches known
    exact (List.monotone_filter_right before.leads reached).subperm.trans
      (grown.leads.kept.filter _)
  · intro lead live other among named
    exact grown.leads.fresh lead (mem_corpus_leads.mp live).1 other (mem_corpus_leads.mp among).1
      named

private theorem rowsOf_add_self (store : Store) (tenant : Uuid) (rows : TenantRows)
    (leads : List Lead) :
    (store.add tenant rows leads).rowsOf tenant = (store.rowsOf tenant).append rows := by
  simp [rowsOf, add]

theorem grows_add (store : Store) (tenant other : Uuid) (rows : TenantRows) {leads : List Lead}
    (distinct : ((store.leads ++ leads).map (·.id)).Nodup) :
    Grows tenant store (store.add other rows leads) := by
  refine ⟨?_, (List.sublist_append_left _ _).subperm, ?_⟩
  · by_cases own : tenant = other
    · rw [own, rowsOf_add_self]
      exact TenantRows.Within.append _ _
    · rw [rowsOf_add_of_ne own]
      exact TenantRows.Within.refl _
  · intro lead live added among named
    exact List.inj_on_of_nodup_map distinct among (List.mem_append_left leads live) named

end Store

namespace SearchService

/-- Adding data never hides or demotes a match. With settings that pass their check, when a store
has grown for a tenant, every search that was answered is still answered, and counts no less. Every
record that was found is found again, with a score that is at least as high. -/
theorem search_grows {settings : Settings} (valid : settings.check = .ok settings)
    (bounded : settings.search.maxQueryChars < Document.wordBound) {service : SearchService}
    (configured : service.settings = settings.search) {tenant : Uuid} {before after : Store}
    (grown : before.Grows tenant after) (request : SearchRequest) (isAdmin : Bool) :
    let answer (store : Store) :=
      (service.reading (store.source .none)).search tenant request isAdmin
    (∀ outcome, answer before = .ok outcome →
        ∃ other, answer after = .ok other ∧ outcome.page.total ≤ other.page.total) ∧
      ∀ query kinds, plan service.settings request isAdmin = .ok (some (query, kinds)) →
        let found (store : Store) := service.merged query (store.corpus tenant) kinds
        (∀ store, ∃ outcome, answer store = .ok outcome ∧
          outcome.page = service.page query request.limit request.offset (found store)) ∧
        ∀ candidate ∈ found before, ∃ other ∈ found after,
          other.record.alone = candidate.record.alone ∧ candidate.score ≤ other.score := by
  intro answer
  have answered {query : Text} {kinds : List RecordKind}
      (planned : plan service.settings request isAdmin = .ok (some (query, kinds)))
      (store : Store) : answer store =
        .ok (service.outcome query request (store.corpus tenant) kinds) :=
    @search_eq_outcome (service.reading (store.source .none)) store rfl tenant request isAdmin query
      kinds planned
  have sound {query : Text} {kinds : List RecordKind}
      (planned : plan service.settings request isAdmin = .ok (some (query, kinds))) :
      (service.ranker query).Sound := sound_ranker_of_plan valid bounded configured planned
  have damped : service.settings.damping.Sound := by
    rw [configured]
    exact Settings.sound_damping_of_check valid
  constructor
  · intro outcome shown
    rcases cases_of_search shown with ⟨planned, rfl⟩ | ⟨query, kinds, _, planned, _⟩
    · exact ⟨.empty, settles_of_plan_none tenant planned (after.source .none), le_rfl⟩
    · obtain rfl := Except.ok.inj ((answered planned before).symm.trans shown)
      exact ⟨_, answered planned after, length_merged_le (sound planned) damped grown.corpus⟩
  · intro query kinds planned found
    refine ⟨fun store => ⟨_, answered planned store, rfl⟩, ?_⟩
    intro candidate member
    exact exists_mem_merged_of_within (sound planned) damped grown.corpus member

/-- A quote that names Anna is still found when the lead that it was made to gets a note that names
her, and another Anna becomes a lead. -/
theorem search_grows_quote_of_noted_lead :
    let settings : Settings := ⟨⟨"127.0.0.1:8080".toList, "info".toList⟩, ⟨"crm".toList, 8⟩, {}⟩
    let service : SearchService := ⟨settings.search, .dutch, Store.sample.source .none, rfl⟩
    let note : LeadNote := ⟨⟨4⟩, ⟨2⟩, "Anna called".toList, .epoch⟩
    let namesake : Lead := ⟨⟨3⟩, "Anna".toList, "Smit".toList, none, none, none, .epoch⟩
    let grown := Store.sample.add ⟨7⟩
      { TenantRows.empty with leadIds := [⟨3⟩], leadNotes := [note] } [namesake]
    let request : SearchRequest := ⟨"anna".toList, none, none, none⟩
    let found (store : Store) :=
      service.merged "anna".toList (store.corpus ⟨7⟩) (RecordKind.visible none false)
    settings.check = .ok settings ∧ Store.sample.Grows ⟨7⟩ grown ∧
      plan service.settings request false =
        .ok (some ("anna".toList, RecordKind.visible none false)) ∧
      ∃ candidate ∈ found Store.sample, ∃ other ∈ found grown, candidate.record.kind = .quote ∧
        other.record.alone = candidate.record.alone ∧ candidate.score ≤ other.score := by
  intro settings service note namesake grown request found
  have valid : settings.check = .ok settings :=
    Settings.check_defaults (by decide) (by decide) (by decide)
  have added : Store.sample.Grows ⟨7⟩ grown := Store.grows_add Store.sample ⟨7⟩ ⟨7⟩ _ (by decide)
  have planned : plan service.settings request false =
      .ok (some ("anna".toList, RecordKind.visible none false)) := rfl
  have listed : RecordKind.quote ∈
      (service.candidates "anna".toList (Store.sample.corpus ⟨7⟩)
        (RecordKind.visible none false)).map (·.record.kind) := by
    decide +kernel
  obtain ⟨candidate, inside, kind⟩ := List.mem_map.mp listed
  have member : candidate ∈ found Store.sample := (service.mem_merged _).mpr inside
  have configured : service.settings = settings.search := rfl
  obtain ⟨_, kept⟩ := search_grows valid (by decide) configured added request false
  obtain ⟨other, stays, same, higher⟩ := (kept _ _ planned).2 candidate member
  exact ⟨valid, added, planned, candidate, member, other, stays, kind, same, higher⟩

end SearchService

end TenantSearch
