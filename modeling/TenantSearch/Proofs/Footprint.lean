import TenantSearch.Proofs.Outage
import TenantSearch.Proofs.TypeFilter

/-! What a search reads. Most requests that give nothing are settled before anything is fetched, so
their answer is the same for every source. Any other search makes exactly the fetches that the kinds
in it call for, and asks for exactly the leads that the tables of the tenant reach. -/
namespace TenantSearch

/-- Whether the records of some kinds are found with the rows of a fetch. -/
def Fetch.Serves (kinds : List RecordKind) : Fetch → Prop
  | .partners => .partner ∈ kinds
  | .catalogProducts => .catalogProduct ∈ kinds
  | .serviceTypes => .serviceType ∈ kinds
  | .tenantLeadIds | .leadNotes | .leadServices | .quotes | .appointments | .partnerLeads
  | .leads => .lead ∈ kinds ∨ .quote ∈ kinds ∨ .partner ∈ kinds ∨ .appointment ∈ kinds

private theorem RecordKind.any_isLeadRelated {kinds : List RecordKind} :
    kinds.any (·.isLeadRelated) = true ↔
      .lead ∈ kinds ∨ .quote ∈ kinds ∨ .partner ∈ kinds ∨ .appointment ∈ kinds := by
  rw [List.any_eq_true]
  constructor
  · rintro ⟨kind, member, related⟩
    cases kind <;> simp_all [isLeadRelated]
  · rintro (member | member | member | member) <;> exact ⟨_, member, rfl⟩

theorem Fetch.isNeeded_iff {kinds : List RecordKind} {fetch : Fetch} :
    fetch.isNeeded kinds = true ↔ fetch.Serves kinds := by
  cases fetch <;>
    first | exact List.contains_iff_mem | exact RecordKind.any_isLeadRelated

private theorem Fetch.mem_all (fetch : Fetch) : fetch ∈ all := by
  cases fetch <;> decide

private theorem Faults.ending?_silent (fetch : Fetch) (timeoutMs : Nat) (kinds : List RecordKind) :
    (Faults.mk [] [fetch]).ending? timeoutMs kinds =
      if fetch.isNeeded kinds then some (.timedOut timeoutMs) else Option.none := by
  have sound (other : Fetch) : (Faults.mk [] [fetch]).failure? other = Option.none := by
    simp [failure?]
  have first : (Faults.mk [] [fetch]).first? kinds = Option.none := by
    simp [first?, sound]
  rw [ending?, first]
  simp only [sound, Option.map_none]
  cases fetch <;> simp [stall, Fetch.atOnce, List.any_filter, Fetch.isNeeded]

namespace RowSource

private theorem load_silent (store : Store) (tenant : Uuid) (fetch : Fetch) (timeoutMs : Nat)
    (kinds : List RecordKind) :
    (store.source ⟨[], [fetch]⟩).load timeoutMs tenant kinds =
      if fetch.isNeeded kinds then .error (.timedOut timeoutMs)
      else (store.source .none).load timeoutMs tenant kinds := by
  rw [load_source, load_source, Faults.ending?_silent, Faults.none_ending?]
  by_cases needed : fetch.isNeeded kinds = true <;> simp only [needed] <;> rfl

/-- A source that does not answer when it is asked for the leads of exactly these identifiers. -/
def withholding (source : RowSource) (ids : List Uuid) : RowSource :=
  { source with leads := fun asked => if asked = ids then .silent else source.leads asked }

private theorem load_withholding {source : RowSource} {tenant : Uuid}
    (answers : source.AnswersAll tenant)
    (ids : List Uuid) (timeoutMs : Nat) (kinds : List RecordKind) :
    (source.withholding ids).load timeoutMs tenant kinds =
      if Fetch.leads.isNeeded kinds ∧ (source.firstReplies tenant kinds).rows.hub = ids then
        .error (.timedOut timeoutMs)
      else source.load timeoutMs tenant kinds := by
  -- Only the fetch of the leads is withheld, and it is not among those that are made at once.
  have same : (source.withholding ids).branches tenant kinds = source.branches tenant kinds := by
    apply List.map_congr_left
    intro fetch listed
    have first := (List.mem_filter.mp listed).1
    cases fetch <;> first | rfl | exact absurd first (by decide)
  have ready : poll ((source.during .nowhere).branches tenant kinds) = .ready :=
    poll_of_spares answers fun fetch _ => Outage.spares_nowhere fetch
  change poll (source.branches tenant kinds) = .ready at ready
  have rows : (source.withholding ids).firstReplies tenant kinds =
      source.firstReplies tenant kinds := rfl
  rw [load_eq_poll, same, ready, load_of_answers answers timeoutMs, rows]
  simp only [withholding]
  by_cases needed : Fetch.leads.isNeeded kinds = true
  · by_cases asked : (source.firstReplies tenant kinds).rows.hub = ids
    · simp only [needed, asked, if_true, and_self]
    · simp only [needed, asked, if_true, if_false, and_false]
  · simp only [needed, Bool.false_eq_true, if_false, false_and]

private theorem hub_firstReplies (store : Store) (tenant : Uuid) {kinds : List RecordKind}
    (needed : Fetch.leads.isNeeded kinds = true) :
    ((store.source .none).firstReplies tenant kinds).rows.hub = (store.rowsOf tenant).hub := by
  rw [rows_firstReplies store tenant fun _ _ _ => ⟨rfl, rfl⟩, hub_neededFor _ needed]
  rfl

end RowSource

namespace SearchService

def reading (service : SearchService) (source : RowSource) : SearchService :=
  { service with source := source }

/-- An answer that a service gives without reading anything: it is the same for every source. -/
def Settles (service : SearchService) (tenant : Uuid) (request : SearchRequest) (isAdmin : Bool)
    (answer : Except SearchError SearchOutcome) : Prop :=
  ∀ source, (service.reading source).search tenant request isAdmin = answer

def Refuses (service : SearchService) (tenant : Uuid) (request : SearchRequest) (isAdmin : Bool)
    (complaint : Text) : Prop :=
  ∃ error, service.Settles tenant request isAdmin (.error error) ∧
    error.complaint? = some complaint

section
variable {service : SearchService} (tenant : Uuid) {request : SearchRequest} {isAdmin : Bool}

theorem settles_of_plan_none (planned : plan service.settings request isAdmin = .ok none) :
    service.Settles tenant request isAdmin (.ok .empty) := by
  intro source
  unfold search
  rw [show plan (service.reading source).settings request isAdmin = .ok none from planned]
  rfl

theorem settles_of_plan_error {error : SearchError}
    (planned : plan service.settings request isAdmin = .error error) :
    service.Settles tenant request isAdmin (.error error) := by
  intro source
  unfold search
  rw [show plan (service.reading source).settings request isAdmin = .error error from planned]
  rfl

private theorem search_reading {query : Text} {kinds : List RecordKind}
    (planned : plan service.settings request isAdmin = .ok (some (query, kinds)))
    (source : RowSource) : (service.reading source).search tenant request isAdmin =
      (source.load service.settings.queryTimeoutMs tenant kinds).map
        (service.outcomeOf query request kinds) :=
  @search_of_plan (service.reading source) tenant request isAdmin query kinds planned

variable {tenant} in
theorem cases_of_search {outcome : SearchOutcome}
    (answered : service.search tenant request isAdmin = .ok outcome) :
    plan service.settings request isAdmin = .ok none ∧ outcome = .empty ∨
      ∃ query kinds loaded, plan service.settings request isAdmin = .ok (some (query, kinds)) ∧
        outcome = service.outcomeOf query request kinds loaded := by
  cases planned : plan service.settings request isAdmin with
  | error error =>
    have settled := settles_of_plan_error tenant planned service.source
    exact absurd (settled.symm.trans answered) (by simp)
  | ok verdict =>
    cases verdict with
    | none =>
      have settled := settles_of_plan_none tenant planned service.source
      exact .inl ⟨rfl, (Except.ok.inj (settled.symm.trans answered)).symm⟩
    | some covered =>
      obtain ⟨query, kinds⟩ := covered
      rw [search_of_plan tenant planned] at answered
      cases loading : service.source.load service.settings.queryTimeoutMs tenant kinds with
      | error error => simp [loading, Except.map] at answered
      | ok loaded =>
        rw [loading] at answered
        exact .inr ⟨query, kinds, loaded, rfl, (Except.ok.inj answered).symm⟩

theorem search_reading_congr {source : RowSource}
    (loads : ∀ query kinds, plan service.settings request isAdmin = .ok (some (query, kinds)) →
      source.load service.settings.queryTimeoutMs tenant kinds =
        service.source.load service.settings.queryTimeoutMs tenant kinds) :
    (service.reading source).search tenant request isAdmin =
      service.search tenant request isAdmin := by
  cases planned : plan service.settings request isAdmin with
  | error error =>
    have settled := settles_of_plan_error tenant planned
    exact (settled source).trans (settled service.source).symm
  | ok verdict =>
    cases verdict with
    | none =>
      have settled := settles_of_plan_none tenant planned
      exact (settled source).trans (settled service.source).symm
    | some covered =>
      rw [search_reading tenant planned, search_of_plan tenant planned, loads _ _ planned]

/-- A source that keeps loading waiting under a condition, and is like one that answers otherwise,
lets a search run out of time exactly under that condition. -/
theorem search_timedOut_iff {query : Text} {kinds : List RecordKind}
    (planned : plan service.settings request isAdmin = .ok (some (query, kinds)))
    {source calm : RowSource} (answers : calm.AnswersAll tenant) {condition : Prop}
    [Decidable condition]
    (loading : source.load service.settings.queryTimeoutMs tenant kinds =
      if condition then .error (.timedOut service.settings.queryTimeoutMs)
      else calm.load service.settings.queryTimeoutMs tenant kinds) :
    (service.reading source).search tenant request isAdmin =
      .error (.timedOut service.settings.queryTimeoutMs) ↔ condition := by
  have spared : ∀ fetch ∈ Fetch.neededAtOnce kinds, Outage.nowhere.Spares fetch :=
    fun fetch _ => Outage.spares_nowhere fetch
  obtain ⟨loaded, _, ready⟩ := RowSource.exists_load_of_spares answers
    service.settings.queryTimeoutMs spared fun _ => Outage.spares_nowhere .leads
  rw [search_reading tenant planned, loading, ready]
  by_cases holds : condition <;> simp [holds, Except.map]

end

/-- What a search of a store reads: the fetches that serve its kinds, and the leads that the tables
of the tenant reach. A fetch is made exactly if the search waits for it, so its silence would let
the time run out. -/
structure Footprint (service : SearchService) (store : Store) (tenant : Uuid)
    (request : SearchRequest) (isAdmin : Bool) (kinds : List RecordKind)
    (outcome : SearchOutcome) : Prop where
  answered : (service.reading (store.source .none)).search tenant request isAdmin = .ok outcome
  fetched : ∀ fetch, fetch ∈ outcome.fetched ↔ fetch.Serves kinds
  awaited : ∀ fetch, fetch ∈ outcome.fetched ↔
    (service.reading (store.source ⟨[], [fetch]⟩)).search tenant request isAdmin =
      .error (.timedOut service.settings.queryTimeoutMs)
  asked : .leads ∈ outcome.fetched → ∃ ids, outcome.hub = some ids ∧
    ids.Pairwise (fun a b => compare a b = .lt) ∧
    (∀ id, id ∈ ids ↔ (store.rowsOf tenant).Reaches id) ∧
    ∀ others, others = ids ↔
      (service.reading ((store.source .none).withholding others)).search tenant request isAdmin =
        .error (.timedOut service.settings.queryTimeoutMs)
  unasked : .leads ∉ outcome.fetched → outcome.hub = none

theorem exists_footprint {service : SearchService} (store : Store) (tenant : Uuid)
    {request : SearchRequest} {isAdmin : Bool} {query : Text} {kinds : List RecordKind}
    (planned : plan service.settings request isAdmin = .ok (some (query, kinds))) :
    ∃ outcome, Footprint service store tenant request isAdmin kinds outcome := by
  have answers := RowSource.answersAll_source tenant store
  have made (fetch : Fetch) :
      fetch ∈ Fetch.all.filter (Fetch.isNeeded kinds) ↔ fetch.isNeeded kinds = true := by
    rw [List.mem_filter, and_iff_right fetch.mem_all]
  have answered := @search_eq_outcome (service.reading (store.source .none)) store rfl tenant
    request isAdmin query kinds planned
  refine ⟨_, answered, ?_, ?_, ?_, ?_⟩
  · intro fetch
    exact (made fetch).trans Fetch.isNeeded_iff
  · intro fetch
    exact (made fetch).trans
      (search_timedOut_iff tenant planned answers (RowSource.load_silent ..)).symm
  · intro listed
    have needed := (made .leads).mp listed
    refine ⟨(store.rowsOf tenant).hub, if_pos needed, pairwise_ascending _,
      fun id => TenantRows.mem_hub, ?_⟩
    intro others
    rw [search_timedOut_iff tenant planned answers
      (RowSource.load_withholding answers others service.settings.queryTimeoutMs kinds),
      RowSource.hub_firstReplies store tenant needed, and_iff_right needed, eq_comm]
  · intro absent
    exact if_neg fun needed => absent ((made .leads).mpr needed)

/-- The verdict on a request, in the order of its checks, and what is read for it. A query that is
too short finds nothing, whatever the filter; one that is too long is refused, and then a filter by
its first unknown token; where no kind is left that the caller may see, nothing is found. None of
this reads anything. Any other search of a store leaves the footprint of its kinds. -/
theorem search_footprint (service : SearchService) (tenant : Uuid) (request : SearchRequest)
    (isAdmin : Bool) :
    let query := Text.trim request.query
    let settings := service.settings
    (query.length < settings.minQueryChars →
        service.Settles tenant request isAdmin (.ok .empty)) ∧
      (settings.minQueryChars ≤ query.length → settings.maxQueryChars < query.length →
        service.Refuses tenant request isAdmin ("query must be at most ".toList ++
          Nat.toDigits 10 settings.maxQueryChars ++ " characters.".toList)) ∧
      (Admissible settings request.query →
        (∀ filter ∈ request.types, ∀ before token after,
          RecordKind.tokens filter = before ++ token :: after →
          (∀ known ∈ before, ∃ kind, RecordKind.parse? known = some kind) →
          RecordKind.parse? token = none →
            service.Refuses tenant request isAdmin
              ("Unknown entity type '".toList ++ token ++ "' in types filter.".toList)) ∧
        ((∀ filter ∈ request.types, ∀ token ∈ RecordKind.tokens filter,
            ∃ kind, RecordKind.parse? token = some kind) →
          ∃ kinds, RecordKind.resolve request.types isAdmin = .ok kinds ∧
            (kinds = [] → service.Settles tenant request isAdmin (.ok .empty)) ∧
            (kinds ≠ [] → ∀ store, ∃ outcome,
              Footprint service store tenant request isAdmin kinds outcome))) := by
  intro query settings
  refine ⟨?_, ?_, ?_⟩
  · intro short
    exact settles_of_plan_none tenant (if_pos short)
  · intro enough long
    refine ⟨.queryTooLong settings.maxQueryChars, settles_of_plan_error tenant ?_, rfl⟩
    exact (if_neg (not_lt.mpr enough)).trans (if_pos long)
  · intro admissible
    have planned := plan_eq_resolve admissible.long admissible.short isAdmin
    constructor
    · intro filter given before token after split known unnamed
      have refused : RecordKind.resolve request.types isAdmin = .error token := by
        rw [Option.mem_def.mp given, RecordKind.resolve_eq_error, RecordKind.ofTokens_eq_error]
        exact ⟨before, after, split, known, unnamed⟩
      rw [refused] at planned
      exact ⟨.unknownKind token, settles_of_plan_error tenant planned, rfl⟩
    · intro named
      obtain ⟨kinds, resolved⟩ := RecordKind.exists_resolve named isAdmin
      rw [resolved] at planned
      refine ⟨kinds, resolved, ?_, ?_⟩
      · rintro rfl
        exact settles_of_plan_none tenant planned
      · intro nonempty store
        have searched : kinds.isEmpty = false := by simpa using nonempty
        simp only [searched, Bool.false_eq_true, if_false] at planned
        exact exists_footprint store tenant planned

end SearchService

end TenantSearch
