import TenantSearch.Proofs.Answer

/-! Filters by kind. A search with a filter shows what the search over all visible kinds shows, with
the other kinds left out: the tables that it does not fetch and the order in which it goes through
the kinds make no difference. -/
namespace TenantSearch.SearchService

/-- A search shows the pages of a list, whatever the limit and the offset. -/
def PagesOf (service : SearchService) (tenant : Uuid) (query : Text) (types : Option Text)
    (isAdmin : Bool) (found : List Candidate) : Prop :=
  ∀ limit offset, ∃ outcome,
    service.search tenant ⟨query, types, limit, offset⟩ isAdmin = .ok outcome ∧
      outcome.page = service.page (Text.trim query) limit offset found

structure Admissible (settings : SearchSettings) (query : Text) : Prop where
  long : settings.minQueryChars ≤ (Text.trim query).length
  short : (Text.trim query).length ≤ settings.maxQueryChars

section
variable {service : SearchService} {store : Store} (reads : service.source = store.source .none)
  (tenant : Uuid) {query : Text} (admissible : Admissible service.settings query)
  {isAdmin : Bool}
include reads admissible

theorem pagesOf_merged {types : Option Text} {kinds : List RecordKind}
    (resolved : RecordKind.resolve types isAdmin = .ok kinds) :
    service.PagesOf tenant query types isAdmin
      (service.merged (Text.trim query) (store.corpus tenant) kinds) := by
  intro limit offset
  let request : SearchRequest := ⟨query, types, limit, offset⟩
  have planned : plan service.settings request isAdmin =
      .ok (if kinds.isEmpty then none else some (Text.trim query, kinds)) := by
    rw [plan_eq_resolve admissible.long admissible.short, resolved]
  cases kinds with
  | nil =>
    -- Nothing is searched, and nothing would have been found.
    refine ⟨.empty, search_eq_empty reads tenant planned, ?_⟩
    have nothing : service.merged (Text.trim query) (store.corpus tenant) [] = [] := by
      simp [merged, Candidate.merge]
    rw [nothing]
    simp [page, SearchOutcome.empty, SearchPage.empty]
  | cons kind rest => exact ⟨_, search_eq_outcome reads tenant planned, rfl⟩

end

private theorem visible_perm {filter : Option Text} {named : Option (List RecordKind)}
    (accepted : RecordKind.requested filter = .ok named) (isAdmin : Bool) :
    (RecordKind.visible named isAdmin).Perm
      ((RecordKind.visible none isAdmin).filter (named.getD RecordKind.all).contains) := by
  rw [RecordKind.visible_eq_filter, RecordKind.visible_eq_filter, List.filter_filter]
  have distinct := (RecordKind.nodup_of_requested accepted).filter
    fun kind => isAdmin || !kind.isAdminOnly
  have whole : RecordKind.all.Nodup := by decide
  apply (List.perm_ext_iff_of_nodup distinct (whole.filter _)).mpr
  intro kind
  simp [RecordKind.mem_all]

private theorem merged_visible (service : SearchService) (query : Text) (corpus : Corpus)
    {filter : Option Text} {named : Option (List RecordKind)}
    (accepted : RecordKind.requested filter = .ok named) (isAdmin : Bool) :
    service.merged query corpus (RecordKind.visible named isAdmin) =
      (service.merged query corpus (RecordKind.visible none isAdmin)).filter fun candidate =>
        (named.getD RecordKind.all).contains candidate.record.kind := by
  rw [service.merged_perm query corpus (visible_perm accepted isAdmin), ← filter_merged]

/-- A filter is a projection: a search with it shows the pages of the list that is shown without it,
restricted to the kinds that it names. Every other filter with the same tokens, in whatever order,
however often, and with whatever white space around them, gives the same pages. -/
theorem filter_projects {service : SearchService} {store : Store}
    (reads : service.source = store.source .none) (tenant : Uuid) {query : Text}
    (admissible : Admissible service.settings query) (isAdmin : Bool) {filter : Text}
    {named : Option (List RecordKind)}
    (accepted : RecordKind.requested (some filter) = .ok named) :
    let all := service.merged (Text.trim query) (store.corpus tenant)
      (RecordKind.visible none isAdmin)
    let kept := all.filter fun candidate =>
      (named.getD RecordKind.all).contains candidate.record.kind
    service.PagesOf tenant query none isAdmin all ∧
      service.PagesOf tenant query (some filter) isAdmin kept ∧
      ∀ other, (∀ token, token ∈ RecordKind.tokens other ↔ token ∈ RecordKind.tokens filter) →
        service.PagesOf tenant query (some other) isAdmin kept := by
  intro all kept
  refine ⟨pagesOf_merged reads tenant admissible rfl, ?_, ?_⟩
  · have resolved : RecordKind.resolve (some filter) isAdmin =
        .ok (RecordKind.visible named isAdmin) := by
      rw [RecordKind.resolve, accepted]
      rfl
    have pages := pagesOf_merged reads tenant admissible resolved
    rwa [merged_visible service _ _ accepted] at pages
  · intro other same
    obtain ⟨others, read, permuted⟩ := RecordKind.requested_congr same accepted
    have resolved : RecordKind.resolve (some other) isAdmin =
        .ok (RecordKind.visible others isAdmin) := by
      rw [RecordKind.resolve, read]
      rfl
    have pages := pagesOf_merged reads tenant admissible resolved
    have members : (others.getD RecordKind.all).contains =
        (named.getD RecordKind.all).contains := by
      funext kind
      rw [Bool.eq_iff_iff, List.contains_iff_mem, List.contains_iff_mem, permuted.mem_iff]
    rwa [merged_visible service _ _ read, members] at pages

theorem filter_projects_reordered :
    let service : SearchService := ⟨{}, .dutch, Store.sample.source .none, rfl⟩
    let all := service.merged "anna".toList (Store.sample.corpus ⟨7⟩) (RecordKind.visible none true)
    Admissible service.settings "anna".toList ∧
      RecordKind.requested (some "quote,lead".toList) = .ok (some [.quote, .lead]) ∧
      service.PagesOf ⟨7⟩ "anna".toList (some " lead, quote ,lead".toList) true
        (all.filter fun candidate => [.quote, .lead].contains candidate.record.kind) := by
  intro service all
  have admissible : Admissible service.settings "anna".toList := ⟨by decide, by decide⟩
  have accepted : RecordKind.requested (some "quote,lead".toList) =
      .ok (some [.quote, .lead]) := rfl
  obtain ⟨_, _, others⟩ := filter_projects rfl ⟨7⟩ admissible true accepted
  have same (token : Text) : token ∈ RecordKind.tokens " lead, quote ,lead".toList ↔
      token ∈ RecordKind.tokens "quote,lead".toList := by
    change token ∈ ["lead".toList, "quote".toList, "lead".toList] ↔
      token ∈ ["quote".toList, "lead".toList]
    simp only [List.mem_cons, List.not_mem_nil, or_false]
    tauto
  exact ⟨admissible, accepted, others _ same⟩

end TenantSearch.SearchService
