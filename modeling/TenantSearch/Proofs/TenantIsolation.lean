import TenantSearch.Proofs.Answer

/-! Isolation of tenants. What a tenant is told depends only on its own tables and on the live leads
that these reach, and everything it is shown is one of those rows. -/
namespace TenantSearch

namespace Store

/-- Two stores agree for a tenant: on its tables, and on the live leads of every identifier that
these reach. They may differ in all other leads and in the tables of all other tenants. -/
structure AgreeFor (tenant : Uuid) (first second : Store) : Prop where
  rows : first.rowsOf tenant = second.rowsOf tenant
  leads : ∀ id, (first.rowsOf tenant).Reaches id →
    first.leads.filter (·.id == id) = second.leads.filter (·.id == id)

/-- The records that a tenant may see: the rows of its tables, and the live leads that they reach.
-/
def Reveals (store : Store) (tenant : Uuid) : Record → Prop
  | .lead lead => lead ∈ store.leads ∧ (store.rowsOf tenant).Reaches lead.id
  | .quote quote owner => quote ∈ (store.rowsOf tenant).quotes ∧
    ∀ lead ∈ owner, lead ∈ store.leads ∧ lead.id = quote.leadId
  | .partner partner => partner ∈ (store.rowsOf tenant).partners
  | .appointment appointment => appointment ∈ (store.rowsOf tenant).appointments
  | .catalogProduct product => product ∈ (store.rowsOf tenant).catalogProducts
  | .serviceType row => row ∈ (store.rowsOf tenant).serviceTypes

theorem mem_corpus_leads {store : Store} {tenant : Uuid} {lead : Lead} :
    lead ∈ (store.corpus tenant).leads ↔
      lead ∈ store.leads ∧ (store.rowsOf tenant).Reaches lead.id := by
  simp [corpus, leadsOf, TenantRows.mem_hub]

theorem reveals_of_holds {store : Store} {tenant : Uuid} {record : Record}
    (held : (store.corpus tenant).Holds record) : store.Reveals tenant record := by
  cases record with
  | lead lead => exact mem_corpus_leads.mp held
  | quote quote owner =>
    refine ⟨held.1, ?_⟩
    intro lead present
    obtain ⟨live, named⟩ := held.2 lead present
    exact ⟨(mem_corpus_leads.mp live).1, named⟩
  | partner | appointment | catalogProduct | serviceType => exact held

theorem filter_corpus_leads (store : Store) (tenant id : Uuid) :
    (store.corpus tenant).leads.filter (·.id == id) =
      if id ∈ (store.rowsOf tenant).hub then store.leads.filter (·.id == id) else [] := by
  change (store.leads.filter _).filter _ = _
  rw [List.filter_filter]
  split
  · next reached =>
    apply List.filter_congr
    intro lead _
    by_cases named : lead.id = id <;> simp [named, reached]
  · next unreached =>
    rw [List.filter_eq_nil_iff]
    intro lead _
    by_cases named : lead.id = id <;> simp [named, unreached]

private theorem AgreeFor.leads_rearranged {tenant : Uuid} {first second : Store}
    (agree : AgreeFor tenant first second) :
    Rearranged (·.id) (first.corpus tenant).leads (second.corpus tenant).leads := by
  intro id
  rw [filter_corpus_leads, filter_corpus_leads, ← agree.rows]
  split
  · next reached => exact agree.leads id (TenantRows.mem_hub.mp reached)
  · rfl

theorem rowsOf_add_of_ne {tenant other : Uuid} (apart : tenant ≠ other) (store : Store)
    (rows : TenantRows) (leads : List Lead) :
    (store.add other rows leads).rowsOf tenant = store.rowsOf tenant := by
  have differ : (tenant == other) = false := beq_false_of_ne apart
  have kept (tenants : List (Uuid × TenantRows)) :
      (tenants.filter (·.1 != other)).lookup tenant = tenants.lookup tenant := by
    induction tenants with
    | nil => rfl
    | cons entry rest ih =>
      obtain ⟨name, tables⟩ := entry
      by_cases removed : name = other
      · simpa [removed, List.lookup_cons, differ] using ih
      · simp [removed, List.lookup_cons, ih]
  simp [rowsOf, add, List.lookup_cons, differ, kept]

theorem agreeFor_add {tenant other : Uuid} (apart : tenant ≠ other) {store : Store}
    (rows : TenantRows) {leads : List Lead}
    (unreached : ∀ lead ∈ leads, ¬ (store.rowsOf tenant).Reaches lead.id) :
    AgreeFor tenant store (store.add other rows leads) := by
  refine ⟨(rowsOf_add_of_ne apart store rows leads).symm, ?_⟩
  intro id reached
  have absent : leads.filter (·.id == id) = [] := by
    rw [List.filter_eq_nil_iff]
    intro lead member named
    rw [← beq_iff_eq.mp named] at reached
    exact unreached lead member reached
  simp [add, absent]

end Store

/-- An item shows a record: all that it tells, but for what the search adds, is told of the record.
-/
structure SearchItem.Shows (item : SearchItem) (record : Record) : Prop where
  id : item.id = record.id
  kind : item.kind = record.kind
  title : item.title = record.title
  subtitle : item.subtitle = record.subtitle
  status : item.status = record.status
  link : item.link = record.link
  createdAt : item.createdAt = record.createdAt

namespace SearchService

theorem exists_mem_of_mem_page {service : SearchService} {query : Text} {limit offset : Option Int}
    {found : List Candidate} {item : SearchItem}
    (member : item ∈ (service.page query limit offset found).items) :
    ∃ candidate ∈ found, item.Shows candidate.record := by
  obtain ⟨candidate, shown, rfl⟩ := List.mem_map.mp member
  exact ⟨candidate, List.mem_of_mem_drop (List.mem_of_mem_take shown),
    ⟨rfl, rfl, rfl, rfl, rfl, rfl, rfl⟩⟩

end SearchService

namespace Store

theorem reveals_of_mem_answer {store : Store} {faults : Faults} {settings : SearchSettings}
    {tenant : Uuid} {request : SearchRequest} {isAdmin : Bool} {outcome : SearchOutcome}
    (answered : store.answer faults settings tenant request isAdmin = .ok outcome)
    {item : SearchItem} (member : item ∈ outcome.page.items) :
    ∃ record, store.Reveals tenant record ∧ item.Shows record := by
  unfold answer at answered
  cases named : Language.parse? settings.language with
  | none =>
    rw [SearchService.ofSource_eq_error named] at answered
    contradiction
  | some language =>
    rw [SearchService.ofSource_eq_ok named] at answered
    change SearchService.search _ tenant request isAdmin = _ at answered
    rw [SearchService.search_source rfl] at answered
    split at answered
    · contradiction
    · cases answered
      contradiction
    · split at answered
      · contradiction
      · cases answered
        obtain ⟨candidate, found, shown⟩ := SearchService.exists_mem_of_mem_page member
        have held := SearchService.holds_of_mem_merged _ _ found
        exact ⟨candidate.record, reveals_of_holds held, shown⟩

/-- Isolation of tenants: stores that agree for a tenant give it one answer, whatever else they
hold, and each item of that answer shows a row of the tenant or a live lead that its rows reach. -/
theorem answer_isolated {first second : Store} {tenant : Uuid}
    (agree : AgreeFor tenant first second) (faults : Faults) (settings : SearchSettings)
    (request : SearchRequest) (isAdmin : Bool) :
    first.answer faults settings tenant request isAdmin =
        second.answer faults settings tenant request isAdmin ∧
      ∀ outcome, first.answer faults settings tenant request isAdmin = .ok outcome →
        ∀ item ∈ outcome.page.items,
          ∃ record, first.Reveals tenant record ∧ item.Shows record := by
  constructor
  · apply answer_congr _ agree.leads_rearranged
    rw [agree.rows]
    exact TenantRows.SameRows.refl _
  · intro outcome answered item member
    exact reveals_of_mem_answer answered member

theorem answer_isolated_from_namesake :
    let namesake : Lead := ⟨⟨3⟩, "Anna".toList, "Smit".toList, none, none, none, .epoch⟩
    let grown := sample.add ⟨8⟩ { TenantRows.empty with leadIds := [⟨3⟩] } [namesake]
    AgreeFor ⟨7⟩ sample grown ∧
      sample.answer .none {} ⟨7⟩ ⟨"anna".toList, none, none, none⟩ false =
        grown.answer .none {} ⟨7⟩ ⟨"anna".toList, none, none, none⟩ false := by
  intro namesake grown
  have agree : AgreeFor ⟨7⟩ sample grown := by
    apply agreeFor_add (by decide)
    intro lead member
    rw [List.mem_singleton.mp member, ← TenantRows.mem_hub]
    decide
  exact ⟨agree, (answer_isolated agree .none {} ⟨"anna".toList, none, none, none⟩ false).1⟩

end Store

end TenantSearch
