import TenantSearch.Proofs.Answer
import TenantSearch.Proofs.Links
import TenantSearch.Proofs.ValidSettings

/-! Pages of a search. Every limit and offset select a slice of one list, the merged candidates of
all kinds that are searched; pages of one size, read until one is empty, give the whole list. -/
namespace TenantSearch

private theorem flatMap_windows {α : Type} (rows : List α) (size count : Nat) :
    (List.range count).flatMap (fun index => (rows.drop (index * size)).take size) =
      rows.take (count * size) := by
  induction count with
  | zero => simp
  | succ count ih =>
    rw [List.range_succ, List.flatMap_append, ih, Nat.succ_mul, List.take_add]
    simp

/-! ## Page sizes -/

/-- The size of the pages for a limit: the limit itself, but no more than the highest one, and the
default where no limit above zero is given. -/
structure IsPageSize (settings : SearchSettings) (limit : Option Int) (size : Nat) : Prop where
  asked : ∀ given ∈ limit, 1 ≤ given → given ≤ settings.maxLimit → size = given
  capped : ∀ given ∈ limit, settings.maxLimit < given → size = settings.maxLimit
  refused : ∀ given ∈ limit, given ≤ 0 → size = settings.defaultLimit
  missing : limit = none → size = settings.defaultLimit
  positive : 1 ≤ size
  bounded : size ≤ settings.maxLimit

theorem isPageSize_pageSize {settings : SearchSettings} (positive : 0 < settings.defaultLimit)
    (inside : settings.defaultLimit ≤ settings.maxLimit) (limit : Option Int) :
    IsPageSize settings limit (SearchService.pageSize settings limit) := by
  cases limit with
  | none =>
    constructor <;> simp [SearchService.pageSize, inside]
    omega
  | some limit =>
    by_cases above : 0 < limit
    · constructor <;> simp [SearchService.pageSize, above] <;> omega
    · constructor <;> simp [SearchService.pageSize, above, inside] <;> omega

/-! ## The list behind the pages -/

namespace Candidate

/-- A list has all of some candidates, and none of them before one that precedes it. -/
structure Merges (found candidates : List Candidate) : Prop where
  perm : found.Perm candidates
  ordered : found.Pairwise fun a b => ¬ Precedes b a

/-- A list in which the comparison of candidates is a strict total order and descends, and nothing
is listed twice. -/
structure StrictlyListed (found : List Candidate) : Prop where
  total : IsStrictTotalOrder {candidate // candidate ∈ found} fun a b => order a.1 b.1 = .lt
  descending : found.Pairwise Precedes
  keys : (found.map fun candidate => (candidate.record.kind, candidate.record.id)).Nodup
  links : (found.map (·.record.link)).Nodup

theorem merges_merge (candidates : List Candidate) : Merges (merge candidates) candidates :=
  ⟨merge_perm candidates, pairwise_merge candidates⟩

theorem strictlyListed_merge {candidates : List Candidate}
    (distinct : (candidates.map key).Nodup) : StrictlyListed (merge candidates) := by
  have keys : ((merge candidates).map key).Nodup :=
    ((merge_perm candidates).map key).nodup_iff.mpr distinct
  refine ⟨?_, pairwise_precedes_merge distinct, keys, ?_⟩
  · refine { trichotomous := ?_, irrefl := ?_, trans := ?_ }
    · intro a b left right
      rw [order_eq_lt] at left right
      exact Subtype.ext (List.inj_on_of_nodup_map keys a.2 b.2 (key_eq_of_not_precedes left right))
    · intro a below
      exact Precedes.irrefl a.1 (order_eq_lt.mp below)
    · intro a b c left right
      exact order_eq_lt.mpr ((order_eq_lt.mp left).trans (order_eq_lt.mp right))
  · apply List.pairwise_map.mpr
    apply (List.pairwise_map.mp keys).imp
    intro a b apart same
    exact apart (Record.key_eq_of_link_eq same)

end Candidate

/-! ## Pages -/

namespace SearchService

/-- A page shows a slice of a list: from an offset on, no more than a number of candidates. -/
structure IsPage (service : SearchService) (query : Text) (found : List Candidate) (size : Nat)
    (offset : Option Int) (page : SearchPage) : Prop where
  total : page.total = found.length
  items : page.items = ((found.drop (max (offset.getD 0) 0).toNat).take size).map
    (Candidate.toItem (service.ranker query) (headlineStyle service.settings))
  empty : page.items = [] ↔ found.length ≤ max (offset.getD 0) 0

def shown (service : SearchService) (tenant : Uuid) (request : SearchRequest) (isAdmin : Bool) :
    List SearchItem :=
  match service.search tenant request isAdmin with
  | .ok outcome => outcome.page.items
  | .error _ => []

private theorem isPage_page (service : SearchService) (query : Text) (found : List Candidate)
    (limit offset : Option Int) (positive : 1 ≤ pageSize service.settings limit) :
    IsPage service query found (pageSize service.settings limit) offset
      (service.page query limit offset found) := by
  have start : (offset.getD 0).toNat = (max (offset.getD 0) 0).toNat := by omega
  refine ⟨rfl, ?_, ?_⟩
  · rw [← start]
    rfl
  · simp only [page, List.map_eq_nil_iff, List.take_eq_nil_iff, List.drop_eq_nil_iff]
    omega

private theorem flatMap_shown {service : SearchService} {query : Text} {found : List Candidate}
    {size : Nat} (positive : 1 ≤ size) {shown : Nat → List SearchItem}
    (pages : ∀ index, ∃ page, IsPage service query found size (some (index * size : Nat)) page ∧
      shown index = page.items) :
    ∃ count, (∀ index, shown index = [] ↔ count ≤ index) ∧
      (List.range count).flatMap shown = found.map
        (Candidate.toItem (service.ranker query) (headlineStyle service.settings)) := by
  -- The number of pages that are needed, with the last one perhaps not full.
  refine ⟨(found.length + size - 1) / size, ?_, ?_⟩
  · intro index
    obtain ⟨page, slice, equal⟩ := pages index
    rw [equal, slice.empty, Option.getD_some, Nat.div_le_iff_le_mul_add_pred positive,
      Nat.mul_comm size index]
    omega
  · have windows : shown = fun index => ((found.drop (index * size)).take size).map
        (Candidate.toItem (service.ranker query) (headlineStyle service.settings)) := by
      funext index
      obtain ⟨page, slice, equal⟩ := pages index
      have start : (max ((index * size : Nat) : Int) 0).toNat = index * size := by omega
      rw [equal, slice.items, Option.getD_some, start]
    have whole : found.length ≤ (found.length + size - 1) / size * size := by
      have last := Nat.lt_div_mul_add positive (a := found.length + size - 1)
      omega
    rw [windows, ← List.map_flatMap, flatMap_windows, List.take_of_length_le whole]

/-- A search shows a list page by page. Each offset gives its slice of the list, and the pages that
follow one another, up to the first empty one, give the whole list. -/
structure Paged (service : SearchService) (tenant : Uuid) (request : SearchRequest)
    (isAdmin : Bool) (query : Text) (found : List Candidate) (size : Nat) : Prop where
  slices : ∀ offset, ∃ outcome,
    service.search tenant { request with offset := offset } isAdmin = .ok outcome ∧
      IsPage service query found size offset outcome.page
  whole : ∃ count,
    (∀ index : Nat, service.shown tenant
      { request with offset := some (index * size : Nat) } isAdmin = [] ↔ count ≤ index) ∧
    (List.range count).flatMap (fun index => service.shown tenant
      { request with offset := some (index * size : Nat) } isAdmin) = found.map
        (Candidate.toItem (service.ranker query) (headlineStyle service.settings))

theorem paged_merged {service : SearchService} {store : Store}
    (reads : service.source = store.source .none) (tenant : Uuid) {request : SearchRequest}
    {isAdmin : Bool} {query : Text} {kinds : List RecordKind}
    (planned : plan service.settings request isAdmin = .ok (some (query, kinds)))
    (positive : 1 ≤ pageSize service.settings request.limit) :
    Paged service tenant request isAdmin query
      (service.merged query (store.corpus tenant) kinds)
      (pageSize service.settings request.limit) := by
  have answered (offset : Option Int) :
      service.search tenant { request with offset := offset } isAdmin = .ok
        (service.outcome query { request with offset := offset } (store.corpus tenant) kinds) :=
    search_eq_outcome reads tenant planned
  have paged (offset : Option Int) := isPage_page service query
    (service.merged query (store.corpus tenant) kinds) request.limit offset positive
  refine ⟨fun offset => ⟨_, answered offset, paged offset⟩, flatMap_shown positive ?_⟩
  intro index
  refine ⟨_, paged _, ?_⟩
  rw [shown, answered]
  rfl

/-- Order, pages and totals of a search that is run with valid settings. Whatever the limit, it
shows one list page by page: the candidates of all kinds that it covers, in their order. -/
theorem search_pages {settings : Settings} (valid : settings.check = .ok settings) (store : Store)
    (tenant : Uuid) {request : SearchRequest} {isAdmin : Bool} {query : Text}
    {kinds : List RecordKind}
    (planned : plan settings.search request isAdmin = .ok (some (query, kinds))) :
    ∃ service, ofSource settings.search (store.source .none) = .ok service ∧
      let found := service.merged query (store.corpus tenant) kinds
      Candidate.Merges found (service.candidates query (store.corpus tenant) kinds) ∧
      (∀ limit, ∃ size, IsPageSize settings.search limit size ∧
        Paged service tenant { request with limit := limit } isAdmin query found size) ∧
      ((store.corpus tenant).UniqueIds → Candidate.StrictlyListed found) := by
  obtain ⟨language, named⟩ := Settings.language_of_check valid
  obtain ⟨positive, inside⟩ := Settings.default_limit_of_check valid
  refine ⟨_, ofSource_eq_ok named _, Candidate.merges_merge _, ?_, ?_⟩
  · intro limit
    have sized := isPageSize_pageSize positive inside limit
    exact ⟨_, sized, paged_merged rfl tenant planned sized.positive⟩
  · intro unique
    have distinct := nodup_of_resolve (query_of_plan planned).2
    exact Candidate.strictlyListed_merge (Candidate.nodup_candidates _ _ unique _ distinct)

theorem search_pages_sample :
    let settings : Settings := ⟨⟨"127.0.0.1:8080".toList, "info".toList⟩, ⟨"crm".toList, 8⟩, {}⟩
    let kinds := RecordKind.visible none false
    settings.check = .ok settings ∧
      plan settings.search ⟨" anna".toList, none, none, none⟩ false =
        .ok (some ("anna".toList, kinds)) ∧
      ∃ service, ofSource settings.search (Store.sample.source .none) = .ok service ∧
        Candidate.StrictlyListed
          (service.merged "anna".toList (Store.sample.corpus ⟨7⟩) kinds) := by
  intro settings kinds
  have valid : settings.check = .ok settings :=
    Settings.check_defaults (by decide) (by decide) (by decide)
  have planned : plan settings.search ⟨" anna".toList, none, none, none⟩ false =
      .ok (some ("anna".toList, kinds)) := rfl
  have unique : (Store.sample.corpus ⟨7⟩).UniqueIds := by
    constructor <;> decide
  obtain ⟨service, started, _, _, strict⟩ := search_pages valid Store.sample ⟨7⟩ planned
  exact ⟨valid, planned, service, started, strict unique⟩

end SearchService

end TenantSearch
