import TenantSearch.Proofs.Merged
import TenantSearch.Proofs.RequestedKinds

/-! The answer of a search over a store in memory. Checking the request comes first, then the
faults, then the rows: the merged list of the whole corpus of the tenant and one page of it. Stores
with the same rows for a tenant give that tenant one answer. -/
namespace TenantSearch

namespace SearchService

theorem ofSource_eq_ok {settings : SearchSettings} {language : Language}
    (named : Language.parse? settings.language = some language) (source : RowSource) :
    ofSource settings source = .ok ⟨settings, language, source, named⟩ := by
  unfold ofSource
  split
  · next other found =>
    obtain rfl : language = other := Option.some.inj (named.symm.trans found)
    rfl
  · next absent => simp [absent] at named

theorem ofSource_eq_error {settings : SearchSettings}
    (unnamed : Language.parse? settings.language = none) (source : RowSource) :
    ofSource settings source = .error (.unsupportedLanguage settings.language) := by
  unfold ofSource
  split
  · next other found => simp [found] at unnamed
  · rfl

/-! ## The request -/

theorem plan_eq_resolve {settings : SearchSettings} {request : SearchRequest}
    (long : settings.minQueryChars ≤ (Text.trim request.query).length)
    (short : (Text.trim request.query).length ≤ settings.maxQueryChars) (isAdmin : Bool) :
    plan settings request isAdmin =
      match RecordKind.resolve request.types isAdmin with
      | .error token => .error (.unknownKind token)
      | .ok kinds =>
        .ok (if kinds.isEmpty then none else some (Text.trim request.query, kinds)) := by
  cases resolved : RecordKind.resolve request.types isAdmin <;>
    simp only [plan, Nat.not_lt.mpr long, Nat.not_lt.mpr short, if_false, resolved]

theorem query_of_plan {settings : SearchSettings} {request : SearchRequest} {isAdmin : Bool}
    {query : Text} {kinds : List RecordKind}
    (planned : plan settings request isAdmin = .ok (some (query, kinds))) :
    query = Text.trim request.query ∧ RecordKind.resolve request.types isAdmin = .ok kinds := by
  unfold plan at planned
  simp only at planned
  split at planned
  · cases planned
  split at planned
  · cases planned
  split at planned
  · cases planned
  · next listed resolved =>
    split at planned
    · cases planned
    · cases planned
      exact ⟨rfl, resolved⟩

theorem nodup_of_resolve {filter : Option Text} {isAdmin : Bool} {kinds : List RecordKind}
    (resolved : RecordKind.resolve filter isAdmin = .ok kinds) : kinds.Nodup := by
  obtain ⟨named, read, rfl⟩ := RecordKind.resolve_eq_ok.mp resolved
  rw [RecordKind.visible_eq_filter]
  exact (RecordKind.nodup_of_requested read).filter _

/-! ## The outcome -/

section
variable (service : SearchService) (query : Text)

def page (limit offset : Option Int) (found : List Candidate) : SearchPage where
  items := ((found.drop (offset.getD 0).toNat).take (pageSize service.settings limit)).map
    (Candidate.toItem (service.ranker query) (headlineStyle service.settings))
  total := found.length

def outcome (request : SearchRequest) (corpus : Corpus) (kinds : List RecordKind) :
    SearchOutcome where
  page := service.page query request.limit request.offset (service.merged query corpus kinds)
  fetched := Fetch.all.filter (Fetch.isNeeded kinds)
  hub := if Fetch.leads.isNeeded kinds then some corpus.toTenantRows.hub else none

end

section
variable {service : SearchService} {store : Store} {faults : Faults}
  (reads : service.source = store.source faults) (tenant : Uuid) (request : SearchRequest)
  (isAdmin : Bool)
include reads

theorem search_source : service.search tenant request isAdmin =
    match plan service.settings request isAdmin with
    | .error error => .error error
    | .ok none => .ok .empty
    | .ok (some (query, kinds)) =>
      match faults.ending? service.settings.queryTimeoutMs kinds with
      | some error => .error error
      | none => .ok (service.outcome query request (store.corpus tenant) kinds) := by
  unfold search
  cases plan service.settings request isAdmin with
  | error error => rfl
  | ok planned =>
    cases planned with
    | none => rfl
    | some planned =>
      obtain ⟨query, kinds⟩ := planned
      change (service.source.load _ tenant kinds).bind _ = _
      rw [reads, RowSource.load_source]
      simp only
      cases faults.ending? service.settings.queryTimeoutMs kinds with
      | some error => rfl
      | none =>
        simp only [outcome, page, ← service.merged_neededFor query (store.corpus tenant) kinds]
        rfl

end

theorem search_eq_outcome {service : SearchService} {store : Store}
    (reads : service.source = store.source .none) (tenant : Uuid) {request : SearchRequest}
    {isAdmin : Bool} {query : Text} {kinds : List RecordKind}
    (planned : plan service.settings request isAdmin = .ok (some (query, kinds))) :
    service.search tenant request isAdmin =
      .ok (service.outcome query request (store.corpus tenant) kinds) := by
  rw [search_source reads, planned]
  simp only [Faults.none_ending?]

theorem search_eq_empty {service : SearchService} {store : Store} {faults : Faults}
    (reads : service.source = store.source faults) (tenant : Uuid) {request : SearchRequest}
    {isAdmin : Bool} (planned : plan service.settings request isAdmin = .ok none) :
    service.search tenant request isAdmin = .ok .empty := by
  rw [search_source reads, planned]

theorem outcome_congr (service : SearchService) (query : Text) (request : SearchRequest)
    {before after : Corpus} (rows : before.SameRows after.toTenantRows)
    (leads : Rearranged (·.id) before.leads after.leads) (kinds : List RecordKind) :
    service.outcome query request before kinds = service.outcome query request after kinds := by
  simp only [outcome, service.merged_congr query rows leads kinds, rows.hub_eq]

end SearchService

namespace Store

/-- The answer to a search in a store, with the faults of its fetches. -/
def answer (store : Store) (faults : Faults) (settings : SearchSettings) (tenant : Uuid)
    (request : SearchRequest) (isAdmin : Bool) : Except SearchError SearchOutcome :=
  (SearchService.ofSource settings (store.source faults)).bind fun service =>
    service.search tenant request isAdmin

/-- Stores with the same rows for a tenant, and the same live leads that these reach, give that
tenant the same answers. -/
theorem answer_congr {before after : Store} {tenant : Uuid}
    (rows : (before.rowsOf tenant).SameRows (after.rowsOf tenant))
    (leads : Rearranged (·.id) (before.corpus tenant).leads (after.corpus tenant).leads)
    (faults : Faults) (settings : SearchSettings) (request : SearchRequest) (isAdmin : Bool) :
    before.answer faults settings tenant request isAdmin =
      after.answer faults settings tenant request isAdmin := by
  unfold answer
  cases named : Language.parse? settings.language with
  | none => rw [SearchService.ofSource_eq_error named, SearchService.ofSource_eq_error named]
  | some language =>
    rw [SearchService.ofSource_eq_ok named, SearchService.ofSource_eq_ok named]
    change SearchService.search _ tenant request isAdmin =
      SearchService.search _ tenant request isAdmin
    rw [SearchService.search_source rfl, SearchService.search_source rfl]
    simp only
    cases SearchService.plan settings request isAdmin with
    | error error => rfl
    | ok planned =>
      cases planned with
      | none => rfl
      | some planned =>
        obtain ⟨query, kinds⟩ := planned
        have tables : (before.corpus tenant).SameRows (after.corpus tenant).toTenantRows := rows
        have same := SearchService.outcome_congr
          ⟨settings, language, before.source faults, named⟩ query request tables leads kinds
        simp only [same]
        rfl

/-- A small store: one of its leads belongs to a tenant, and the other one has a quote of it. -/
def sample : Store where
  leads := [⟨⟨1⟩, "Anna".toList, "Bakker".toList, none, none, some "Utrecht".toList, .epoch⟩,
    ⟨⟨2⟩, "Bram".toList, "Visser".toList, none, none, none, .epoch⟩]
  tenants := [(⟨7⟩, { TenantRows.empty with
    leadIds := [⟨1⟩]
    quotes := [⟨⟨5⟩, ⟨2⟩, "Q-1".toList, some "For Anna".toList, 12500, "sent".toList, .epoch⟩] })]

end Store

end TenantSearch
