import TenantSearch.Proofs.Explanation
import TenantSearch.Proofs.Footprint

/-! Leads that are gone. When a lead is deleted, the rows that name it stay. They have no effect: a
search shows the same without the notes, the services and the links of leads that are not live, and
without repetitions of links. A row around such a lead is found on its own fields or not at all. -/
namespace TenantSearch

/-- Tables without the notes, the services and the links of leads that fail a test, and in which no
link and none of the tenant's own leads is repeated. -/
def TenantRows.prune (rows : TenantRows) (isLive : Uuid → Bool) : TenantRows :=
  { rows with
    leadIds := rows.leadIds.eraseDups
    leadNotes := rows.leadNotes.filter fun note => isLive note.leadId
    leadServices := rows.leadServices.filter fun service => isLive service.leadId
    partnerLeads := (rows.partnerLeads.filter fun link => isLive link.leadId).eraseDups }

private theorem TenantRows.reaches_prune {rows : TenantRows} {isLive : Uuid → Bool} {id : Uuid}
    (live : isLive id = true) : (rows.prune isLive).Reaches id ↔ rows.Reaches id := by
  have kept {α : Type} (table : List α) (leadId : α → Uuid) :
      (∃ row ∈ table.filter fun row => isLive (leadId row), leadId row = id) ↔
        ∃ row ∈ table, leadId row = id := by
    constructor
    · rintro ⟨row, member, named⟩
      exact ⟨row, List.mem_of_mem_filter member, named⟩
    · rintro ⟨row, member, rfl⟩
      exact ⟨row, List.mem_filter.mpr ⟨member, live⟩, rfl⟩
  simp only [Reaches, prune, List.mem_eraseDups, kept]

def Corpus.prune (corpus : Corpus) (isLive : Uuid → Bool) : Corpus :=
  { corpus.toTenantRows.prune isLive with leads := corpus.leads }

/-! ## What is found -/

section
variable {corpus : Corpus} {isLive : Uuid → Bool}
  (live : ∀ id, LeadGraph.isLive corpus.leads id = true → isLive id = true)
include live

private theorem LeadGraph.agreeAround_prune (id : Uuid) :
    AgreeAround corpus (corpus.prune isLive) id := by
  have kept {α : Type} (table : List α) (leadId : α → Uuid)
      (present : LeadGraph.isLive corpus.leads id = true) :
      table.filter (leadId · == id) =
        (table.filter fun row => isLive (leadId row)).filter (leadId · == id) := by
    rw [List.filter_filter]
    apply List.filter_congr
    intro row _
    by_cases named : leadId row = id <;> simp [named, live id present]
  refine ⟨rfl, ?_, ?_⟩
  · intro present value
    exact congrArg (List.filter _) (kept corpus.leadNotes (·.leadId) present)
  · intro present value
    exact congrArg (List.filter _) (kept corpus.leadServices (·.leadId) present)

/-- Leads and partners are looked up in the graph of a pruned corpus as they are in the whole. -/
theorem LeadGraph.alike_prune (ranker : Ranker) (damping : Damping) :
    Alike (ofCorpus ranker damping corpus) (ofCorpus ranker damping (corpus.prune isLive)) := by
  have agree := agreeAround_prune live
  refine ⟨fun id => lead?_congr ranker damping (agree id),
    fun id => match?_congr ranker damping (agree id), ?_⟩
  intro id
  apply partnerRank_congr ranker damping _ fun link _ _ => agree link.leadId
  intro lead present
  have present : LeadGraph.isLive corpus.leads lead = true := or_self_iff.mp present
  simp only [Corpus.prune, TenantRows.prune, List.mem_eraseDups, List.mem_filter]
  constructor
  · rintro ⟨link, inside, named, rfl⟩
    exact ⟨link, ⟨inside, live _ present⟩, named, rfl⟩
  · rintro ⟨link, ⟨inside, _⟩, named, same⟩
    exact ⟨link, inside, named, same⟩

theorem SearchService.merged_prune (service : SearchService) (query : Text)
    (kinds : List RecordKind) :
    service.merged query (corpus.prune isLive) kinds = service.merged query corpus kinds := by
  have alike := LeadGraph.alike_prune live (service.ranker query) service.settings.damping
  rw [merged_eq, merged_eq]
  congr 1
  apply List.flatMap_congr
  intro kind _
  have becomes (record : Record) := Candidate.ofRecord_congr (service.ranker query)
    service.settings.damping (Candidate.alikeFor_of_alike alike record)
  -- The records themselves stay: neither the leads nor the tables that are found are pruned.
  rw [Candidate.ofKind_eq, Candidate.ofKind_eq, ← funext becomes]
  rfl

end

/-! ## Rows around leads that are gone -/

theorem Candidate.found_alone {ranker : Ranker} (sound : ranker.Sound) {damping : Damping}
    (damped : damping.Sound) {corpus : Corpus} {candidate : Candidate}
    (around : candidate.record.kind ∈ RecordKind.aroundLeads)
    (made : ofRecord ranker damping (LeadGraph.ofCorpus ranker damping corpus) candidate.record =
      some candidate)
    (gone : ∀ lead ∈ corpus.leads, ¬ corpus.Relates candidate.record lead.id) :
    candidate.score = (ranker.rank candidate.record.fields).score ∧
      RanksFirst (ranker.ownParts candidate.record) candidate.matchedField := by
  have own : (ranker.rank candidate.record.fields).score.Regular := Ranker.regular_rank sound
  have nothing : corpus.relatedRank ranker damping candidate.record = 0 := by
    rw [← (corpus.regular_relatedRank ranker damping candidate.record).not_pos_iff]
    intro ranked
    obtain ⟨lead, live, related, _⟩ := Corpus.exists_related_of_pos ranked
    exact gone lead live related
  refine ⟨?_, ?_⟩
  · rw [(ofRecord_eq_some around made).2.1, nothing, (damped.ofKind around).1.zero_mul_eq,
      own.add_zero_eq]
  · have notLead := (RecordKind.mem_aroundLeads.mp around).2
    have explains := explains_of_aroundLeads sound around made
    generalize candidate.matchedField = tag at explains ⊢
    cases explains with
    | own first => exact first
    | note isLead _ _ => exact absurd isLead notLead
    | serviceNote isLead _ _ _ => exact absurd isLead notLead
    | lead _ _ live related _ => exact absurd related (gone _ live)

theorem Record.subtitle_quote_alone (quote : Quote) :
    (Record.quote quote none).subtitle = some (renderAmount quote.totalCents) := by
  simp [subtitle, joinParts, renderAmount]

namespace Store

/-- A store without the notes, the services and the links that a tenant has for leads that are not
live, and without repetitions among its links and its own leads. -/
def prune (store : Store) (tenant : Uuid) : Store :=
  { store with tenants := store.tenants.map fun (name, rows) =>
      (name, if name = tenant then rows.prune (LeadGraph.isLive store.leads) else rows) }

private theorem rowsOf_prune (store : Store) (tenant : Uuid) :
    (store.prune tenant).rowsOf tenant =
      (store.rowsOf tenant).prune (LeadGraph.isLive store.leads) := by
  unfold rowsOf prune
  induction store.tenants with
  | nil => rfl
  | cons entry rest ih =>
    obtain ⟨name, rows⟩ := entry
    by_cases own : tenant = name
    · simp [own]
    · have apart : (tenant == name) = false := beq_false_of_ne own
      simpa only [List.map_cons, List.lookup_cons, apart] using ih

private theorem isLive_of_corpus {store : Store} {tenant id : Uuid}
    (live : LeadGraph.isLive (store.corpus tenant).leads id = true) :
    LeadGraph.isLive store.leads id = true := by
  obtain ⟨lead, inside, named⟩ := List.any_eq_true.mp live
  exact List.any_eq_true.mpr ⟨lead, List.mem_of_mem_filter inside, named⟩

theorem corpus_prune (store : Store) (tenant : Uuid) :
    (store.prune tenant).corpus tenant =
      (store.corpus tenant).prune (LeadGraph.isLive store.leads) := by
  -- Only leads that are not live may be out of reach now.
  have leads : ((store.prune tenant).corpus tenant).leads = (store.corpus tenant).leads := by
    apply List.filter_congr
    intro lead inside
    have live : LeadGraph.isLive store.leads lead.id = true :=
      List.any_eq_true.mpr ⟨lead, inside, beq_self_eq_true lead.id⟩
    rw [Bool.eq_iff_iff, List.contains_iff_mem, List.contains_iff_mem, TenantRows.mem_hub,
      TenantRows.mem_hub, rowsOf_prune, TenantRows.reaches_prune live]
  calc (store.prune tenant).corpus tenant
    _ = ⟨(store.prune tenant).rowsOf tenant, ((store.prune tenant).corpus tenant).leads⟩ := rfl
    _ = (store.corpus tenant).prune (LeadGraph.isLive store.leads) := by
      rw [leads, rowsOf_prune]
      rfl

end Store

namespace SearchService

/-- The relations of leads that are not live have no effect. A search shows the same page, and
counts the same, when the notes, the services and the links of such leads are deleted and
repetitions are left out. With settings that pass their check, a quote, an appointment or a partner
that no live lead is related to is found on its own fields only: they are its whole score, its tag
is the first of them that has a part in it, and a quote shows the amount alone below its number. -/
theorem search_prune (service : SearchService) (store : Store) (tenant : Uuid)
    (request : SearchRequest) (isAdmin : Bool) :
    let answer (store : Store) :=
      (service.reading (store.source .none)).search tenant request isAdmin
    (answer (store.prune tenant)).map (·.page) = (answer store).map (·.page) ∧
      ∀ settings : Settings, settings.check = .ok settings → service.settings = settings.search →
        settings.search.maxQueryChars < Document.wordBound →
        ∀ query kinds, plan service.settings request isAdmin = .ok (some (query, kinds)) →
          let ranker := service.ranker query
          let found := service.merged query (store.corpus tenant) kinds
          (answer store).map (·.page) =
              .ok (service.page query request.limit request.offset found) ∧
            ∀ candidate ∈ found, candidate.record.kind ∈ RecordKind.aroundLeads →
              (∀ lead ∈ store.leads,
                ¬ (store.corpus tenant).Relates candidate.record lead.id) →
              candidate.score = (ranker.rank candidate.record.fields).score ∧
                RanksFirst (ranker.ownParts candidate.record) candidate.matchedField ∧
                ∀ quote owner, candidate.record = .quote quote owner →
                  candidate.record.subtitle = some (renderAmount quote.totalCents) := by
  intro answer
  have shows {query : Text} {kinds : List RecordKind} (store : Store)
      (planned : plan service.settings request isAdmin = .ok (some (query, kinds))) :
      (answer store).map (·.page) = .ok (service.page query request.limit request.offset
        (service.merged query (store.corpus tenant) kinds)) :=
    congrArg (Except.map (·.page)) (@search_eq_outcome
      (service.reading (store.source .none)) store rfl tenant request isAdmin query kinds planned)
  refine ⟨?_, ?_⟩
  · cases planned : plan service.settings request isAdmin with
    | error error =>
      have settled := settles_of_plan_error tenant planned
      exact congrArg _ ((settled _).trans (settled _).symm)
    | ok verdict =>
      cases verdict with
      | none =>
        have settled := settles_of_plan_none tenant planned
        exact congrArg _ ((settled _).trans (settled _).symm)
      | some covered =>
        obtain ⟨query, kinds⟩ := covered
        rw [shows _ planned, shows _ planned, Store.corpus_prune,
          merged_prune fun id => Store.isLive_of_corpus]
  · intro settings valid configured bounded query kinds planned ranker found
    refine ⟨shows store planned, ?_⟩
    have sound : ranker.Sound := sound_ranker_of_plan valid bounded configured planned
    have damped : service.settings.damping.Sound :=
      configured ▸ Settings.sound_damping_of_check valid
    intro candidate member around gone
    have held := service.holds_of_mem_merged query member
    obtain ⟨score, first⟩ := Candidate.found_alone sound damped around
      (service.ofRecord_of_mem_merged query member)
      fun lead live => gone lead (List.mem_of_mem_filter live)
    refine ⟨score, first, ?_⟩
    intro quote owner isQuote
    rw [isQuote] at held gone ⊢
    cases owner with
    | none => exact Record.subtitle_quote_alone quote
    | some lead =>
      obtain ⟨live, named⟩ := held.2 lead rfl
      exact absurd named.symm (gone lead (List.mem_of_mem_filter live))

/-- A quote that names Anna is found on its notes, and with the amount alone, after the lead that it
was made to is gone. A note that names her too stays with that lead and has no effect. -/
theorem search_prune_quote_of_gone_lead :
    let settings : Settings := ⟨⟨"127.0.0.1:8080".toList, "info".toList⟩, ⟨"crm".toList, 8⟩, {}⟩
    let note : LeadNote := ⟨⟨4⟩, ⟨2⟩, "Anna called".toList, .epoch⟩
    let store := (Store.sample.removeLead ⟨2⟩).add ⟨7⟩
      { TenantRows.empty with leadIds := [⟨1⟩], leadNotes := [note] } []
    let service : SearchService := ⟨settings.search, .dutch, store.source .none, rfl⟩
    let request : SearchRequest := ⟨"anna".toList, some "quote".toList, none, none⟩
    let answer (store : Store) := (service.reading (store.source .none)).search ⟨7⟩ request false
    settings.check = .ok settings ∧
      plan service.settings request false = .ok (some ("anna".toList, [.quote])) ∧
      note ∈ (store.rowsOf ⟨7⟩).leadNotes ∧ note ∉ ((store.prune ⟨7⟩).rowsOf ⟨7⟩).leadNotes ∧
      (answer (store.prune ⟨7⟩)).map (·.page) = (answer store).map (·.page) ∧
      ∃ candidate ∈ service.merged "anna".toList (store.corpus ⟨7⟩) [.quote],
        candidate.matchedField = .notes ∧
          candidate.record.subtitle = some "125.00".toList := by
  intro settings note store service request answer
  have valid : settings.check = .ok settings :=
    Settings.check_defaults (by decide) (by decide) (by decide)
  have planned : plan service.settings request false = .ok (some ("anna".toList, [.quote])) := rfl
  have listed : (service.candidates "anna".toList (store.corpus ⟨7⟩) [.quote]).map
      (fun candidate => (candidate.record, candidate.matchedField)) =
        (store.rowsOf ⟨7⟩).quotes.map fun quote => (.quote quote none, .notes) := by
    decide +kernel
  obtain ⟨candidate, alone, found⟩ := List.map_eq_singleton_iff.mp listed
  have member : candidate ∈ service.merged "anna".toList (store.corpus ⟨7⟩) [.quote] := by
    rw [mem_merged, alone]
    exact List.mem_singleton.mpr rfl
  have isQuote : candidate.record = .quote ⟨⟨5⟩, ⟨2⟩, "Q-1".toList, some "For Anna".toList, 12500,
      "sent".toList, .epoch⟩ none := congrArg Prod.fst found
  have onNotes : candidate.matchedField = .notes := congrArg Prod.snd found
  have gone : ∀ lead ∈ store.leads, ¬ (store.corpus ⟨7⟩).Relates candidate.record lead.id := by
    rw [isQuote]
    exact (by decide : ∀ lead ∈ store.leads, ¬ (⟨2⟩ : Uuid) = lead.id)
  obtain ⟨same, own⟩ := search_prune service store ⟨7⟩ request false
  obtain ⟨_, _, amount⟩ := (own settings valid rfl (by decide) _ _ planned).2 candidate member
    (by rw [isQuote]; decide) gone
  exact ⟨valid, planned, by decide, by decide, same, candidate, member, onNotes, amount _ _ isQuote⟩

end SearchService

end TenantSearch
