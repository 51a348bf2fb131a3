import TenantSearch.Proofs.Answer

/-! Searching while fetches fail. In an outage some fetches fail at once, each with an error, and
some never answer. The fetches of a search are polled in their order, so the first failure among
those that it needs ends it, even where others stay silent; silence ends it once the time is up; and
an outage that leaves all needed fetches alone changes nothing. -/
namespace TenantSearch

/-- Which fetches fail at once, each with its error, and which never answer. -/
structure Outage where
  failing : Fetch → Option StoreError
  silent : Fetch → Bool

namespace Outage

/-- What becomes of a reply. Silence wins over failure. -/
def apply {α : Type} (outage : Outage) (fetch : Fetch) (reply : Reply α) : Reply α :=
  if outage.silent fetch then .silent
  else match outage.failing fetch with
    | some error => .failed error
    | none => reply

def Fails (outage : Outage) (fetch : Fetch) (error : StoreError) : Prop :=
  outage.silent fetch = false ∧ outage.failing fetch = some error

def Hangs (outage : Outage) (fetch : Fetch) : Prop := outage.silent fetch = true

def Spares (outage : Outage) (fetch : Fetch) : Prop :=
  outage.silent fetch = false ∧ outage.failing fetch = none

section
variable {α : Type} {outage : Outage} {fetch : Fetch} {reply : Reply α}

private theorem apply_of_fails {error : StoreError} (fails : outage.Fails fetch error) :
    outage.apply fetch reply = .failed error := by
  simp only [apply, fails.1, Bool.false_eq_true, if_false, fails.2]

private theorem apply_of_hangs (hangs : outage.Hangs fetch) : outage.apply fetch reply = .silent :=
  if_pos hangs

private theorem apply_of_spares (spares : outage.Spares fetch) :
    outage.apply fetch reply = reply := by
  simp only [apply, spares.1, Bool.false_eq_true, if_false, spares.2]

private theorem discard_apply :
    (outage.apply fetch reply).discard = outage.apply fetch reply.discard := by
  unfold apply
  split
  · rfl
  · cases outage.failing fetch <;> rfl

end

private theorem fails_or_hangs_or_spares (outage : Outage) (fetch : Fetch) :
    (∃ error, outage.Fails fetch error) ∨ outage.Hangs fetch ∨ outage.Spares fetch := by
  cases silent : outage.silent fetch with
  | true => exact .inr (.inl silent)
  | false =>
    cases failing : outage.failing fetch with
    | some error => exact .inl ⟨error, silent, failing⟩
    | none => exact .inr (.inr ⟨silent, failing⟩)

def nowhere : Outage := ⟨fun _ => none, fun _ => false⟩

theorem spares_nowhere (fetch : Fetch) : nowhere.Spares fetch := ⟨rfl, rfl⟩

end Outage

def RowSource.during (source : RowSource) (outage : Outage) : RowSource where
  tenantLeadIds tenant := outage.apply .tenantLeadIds (source.tenantLeadIds tenant)
  leads ids := outage.apply .leads (source.leads ids)
  leadNotes tenant := outage.apply .leadNotes (source.leadNotes tenant)
  leadServices tenant := outage.apply .leadServices (source.leadServices tenant)
  quotes tenant := outage.apply .quotes (source.quotes tenant)
  partners tenant := outage.apply .partners (source.partners tenant)
  partnerLeads tenant := outage.apply .partnerLeads (source.partnerLeads tenant)
  appointments tenant := outage.apply .appointments (source.appointments tenant)
  catalogProducts tenant := outage.apply .catalogProducts (source.catalogProducts tenant)
  serviceTypes tenant := outage.apply .serviceTypes (source.serviceTypes tenant)

/-! ## Polling -/

inductive Poll where
  | ready
  | pending
  | failed (fetch : Fetch) (error : StoreError)

/-- Polls fetches one after the other. The first one that has failed ends the poll. One that does
not answer leaves it pending, and those after it are polled all the same. -/
def poll : List (Fetch × Reply Unit) → Poll
  | [] => .ready
  | (_, .rows _) :: rest => poll rest
  | (fetch, .failed error) :: _ => .failed fetch error
  | (_, .silent) :: rest =>
    match poll rest with
    | .ready => .pending
    | later => later

/-- A poll comes to the first failure; without one it is pending exactly if a fetch is silent. -/
theorem poll_eq (branches : List (Fetch × Reply Unit)) :
    poll branches =
      match branches.findSome? fun (fetch, reply) => reply.error?.map (fetch, ·) with
      | some (fetch, error) => .failed fetch error
      | none => if branches.any (·.2.isSilent) then .pending else .ready := by
  induction branches with
  | nil => rfl
  | cons branch rest ih =>
    obtain ⟨fetch, reply⟩ := branch
    cases reply with
    | rows found => exact ih
    | failed error => rfl
    | silent =>
      -- A silent fetch has no error, so the rest decides unless all of it is ready.
      have passed : ((fetch, Reply.silent) :: rest).findSome? (fun (fetch, reply) =>
          reply.error?.map (fetch, ·)) =
          rest.findSome? fun (fetch, reply) => reply.error?.map (fetch, ·) := rfl
      have stalled : ((fetch, Reply.silent) :: rest).any (·.2.isSilent) = true := rfl
      rw [poll, ih, passed, stalled]
      cases rest.findSome? fun (fetch, reply) => reply.error?.map (fetch, ·) with
      | some failure => rfl
      | none => cases rest.any (·.2.isSilent) <;> rfl

/-! ## Loading in an outage -/

def Fetch.neededAtOnce (kinds : List RecordKind) : List Fetch := atOnce.filter (isNeeded kinds)

private theorem Reply.error?_discard {α : Type} (reply : Reply α) :
    reply.discard.error? = reply.error? := by
  cases reply <;> rfl

private theorem Reply.isSilent_discard {α : Type} (reply : Reply α) :
    reply.discard.isSilent = reply.isSilent := by
  cases reply <;> rfl

namespace RowSource
variable (source : RowSource) (tenant : Uuid) (kinds : List RecordKind)

def branches : List (Fetch × Reply Unit) :=
  (Fetch.neededAtOnce kinds).map fun fetch => (fetch, source.fetch fetch tenant [])

private theorem findSome?_branches :
    ((source.branches tenant kinds).findSome? fun (fetch, reply) => reply.error?.map (fetch, ·)) =
      (source.firstReplies tenant kinds).errors.findSome? fun (fetch, error) =>
        error.map (fetch, ·) := by
  -- What is not asked for counts as answered, so only the needed fetches can have an error.
  have listed : (source.firstReplies tenant kinds).errors =
      Fetch.atOnce.map fun fetch =>
        (fetch, if fetch.isNeeded kinds then (source.fetch fetch tenant []).error? else none) := by
    simp only [FirstReplies.errors, firstReplies, error?_onlyIf, Fetch.atOnce, List.map_cons,
      List.map_nil, fetch, Reply.error?_discard]
  rw [branches, Fetch.neededAtOnce, listed, ← List.head?_filterMap, ← List.head?_filterMap,
    List.filterMap_map, List.filterMap_map, List.filterMap_filter]
  congr 2
  funext fetch
  by_cases needed : fetch.isNeeded kinds <;> simp [needed]

private theorem any_isSilent_branches : (source.branches tenant kinds).any (·.2.isSilent) =
    (source.firstReplies tenant kinds).anySilent := by
  simp only [FirstReplies.anySilent, firstReplies, isSilent_onlyIf, branches,
    Fetch.neededAtOnce, List.any_map, List.any_filter]
  simp [Fetch.atOnce, Bool.or_assoc, fetch, Reply.isSilent_discard]

/-- Loading polls the fetches that are made at once; if all of them are ready, it asks for the leads
that their rows reach. -/
theorem load_eq_poll (timeoutMs : Nat) : source.load timeoutMs tenant kinds =
    match poll (source.branches tenant kinds) with
    | .failed fetch error => .error (.fetchFailed fetch error)
    | .pending => .error (.timedOut timeoutMs)
    | .ready =>
      let rows := (source.firstReplies tenant kinds).rows
      if Fetch.leads.isNeeded kinds then
        match source.leads rows.hub with
        | .failed error => .error (.fetchFailed .leads error)
        | .silent => .error (.timedOut timeoutMs)
        | .rows leads => .ok (⟨rows, leads⟩, some rows.hub)
      else .ok (⟨rows, []⟩, none) := by
  rw [load, poll_eq, findSome?_branches, any_isSilent_branches]
  cases (source.firstReplies tenant kinds).errors.findSome? fun (fetch, error) =>
    error.map (fetch, ·) with
  | some failure => rfl
  | none =>
    cases (source.firstReplies tenant kinds).anySilent with
    | true => rfl
    | false => rfl

/-- A source that answers every fetch for a tenant with rows. -/
def AnswersAll : Prop :=
  ∀ fetch ids, (source.fetch fetch tenant ids).error? = none ∧
    (source.fetch fetch tenant ids).isSilent = false

theorem answersAll_source (store : Store) : (store.source .none).AnswersAll tenant := by
  intro fetch ids
  cases fetch <;> exact ⟨rfl, rfl⟩

private theorem fetch_during (outage : Outage) (fetch : Fetch) (ids : List Uuid) :
    (source.during outage).fetch fetch tenant ids =
      outage.apply fetch (source.fetch fetch tenant ids) := by
  cases fetch <;> exact Outage.discard_apply

section
variable {source tenant kinds} (answers : source.AnswersAll tenant) {outage : Outage}
  (timeoutMs : Nat)

include answers in
private theorem error?_during {fetch : Fetch} (sound : ∀ error, ¬ outage.Fails fetch error)
    (ids : List Uuid) : ((source.during outage).fetch fetch tenant ids).error? = none := by
  rw [fetch_during]
  rcases outage.fails_or_hangs_or_spares fetch with ⟨error, fails⟩ | hangs | spares
  · exact absurd fails (sound error)
  · rw [Outage.apply_of_hangs hangs]
    rfl
  · rw [Outage.apply_of_spares spares]
    exact (answers fetch ids).1

include answers in
theorem load_of_fails {before after : List Fetch} {fetch : Fetch} {error : StoreError}
    (needed : Fetch.neededAtOnce kinds = before ++ fetch :: after)
    (sound : ∀ earlier ∈ before, ∀ error, ¬ outage.Fails earlier error)
    (fails : outage.Fails fetch error) :
    (source.during outage).load timeoutMs tenant kinds = .error (.fetchFailed fetch error) := by
  have passed : (before.map fun fetch =>
      (fetch, (source.during outage).fetch fetch tenant [])).findSome?
        (fun (fetch, reply) => reply.error?.map (fetch, ·)) = none := by
    rw [List.findSome?_eq_none_iff]
    intro branch member
    obtain ⟨earlier, listed, rfl⟩ := List.mem_map.mp member
    simp only [error?_during answers (sound earlier listed), Option.map_none]
  have ended : (source.during outage).fetch fetch tenant [] = .failed error := by
    rw [fetch_during, Outage.apply_of_fails fails]
  rw [load_eq_poll, poll_eq, branches, needed, List.map_append, List.findSome?_append, passed,
    List.map_cons, List.findSome?_cons, ended]
  rfl

include answers in
theorem load_of_hangs
    (sound : ∀ fetch ∈ Fetch.neededAtOnce kinds, ∀ error,
      ¬ outage.Fails fetch error)
    (hangs : ∃ fetch ∈ Fetch.neededAtOnce kinds, outage.Hangs fetch) :
    (source.during outage).load timeoutMs tenant kinds = .error (.timedOut timeoutMs) := by
  have passed : ((source.during outage).branches tenant kinds).findSome?
      (fun (fetch, reply) => reply.error?.map (fetch, ·)) = none := by
    rw [List.findSome?_eq_none_iff]
    intro branch member
    obtain ⟨fetch, listed, rfl⟩ := List.mem_map.mp member
    simp only [error?_during answers (sound fetch listed), Option.map_none]
  have stalled : ((source.during outage).branches tenant kinds).any (·.2.isSilent) = true := by
    obtain ⟨fetch, listed, hangs⟩ := hangs
    rw [List.any_eq_true]
    refine ⟨_, List.mem_map_of_mem listed, ?_⟩
    rw [fetch_during, Outage.apply_of_hangs hangs]
    rfl
  rw [load_eq_poll, poll_eq, passed, stalled]
  rfl

private theorem firstReplies_during (spares : ∀ fetch ∈ Fetch.neededAtOnce kinds,
    outage.Spares fetch) :
    (source.during outage).firstReplies tenant kinds = source.firstReplies tenant kinds := by
  have same {α : Type} (fetch : Fetch) (member : fetch ∈ Fetch.atOnce) (reply : Reply α) :
      (outage.apply fetch reply).onlyIf (fetch.isNeeded kinds) =
        reply.onlyIf (fetch.isNeeded kinds) := by
    by_cases needed : fetch.isNeeded kinds = true
    · rw [Outage.apply_of_spares (spares fetch (List.mem_filter.mpr ⟨member, needed⟩))]
    · rw [Bool.not_eq_true] at needed
      rw [needed]
      rfl
  simp only [firstReplies, during]
  rw [same .tenantLeadIds (by decide), same .leadNotes (by decide), same .leadServices (by decide),
    same .quotes (by decide), same .appointments (by decide), same .partnerLeads (by decide),
    same .partners (by decide), same .catalogProducts (by decide),
    same .serviceTypes (by decide)]

include answers in
theorem poll_of_spares (spares : ∀ fetch ∈ Fetch.neededAtOnce kinds,
    outage.Spares fetch) : poll ((source.during outage).branches tenant kinds) = .ready := by
  have same : (source.during outage).branches tenant kinds = source.branches tenant kinds := by
    apply List.map_congr_left
    intro fetch listed
    rw [fetch_during, Outage.apply_of_spares (spares fetch listed)]
  have passed : (source.branches tenant kinds).findSome?
      (fun (fetch, reply) => reply.error?.map (fetch, ·)) = none := by
    rw [List.findSome?_eq_none_iff]
    intro branch member
    obtain ⟨fetch, _, rfl⟩ := List.mem_map.mp member
    simp only [(answers fetch []).1, Option.map_none]
  have spoken : (source.branches tenant kinds).any (·.2.isSilent) = false := by
    rw [List.any_eq_false]
    intro branch member
    obtain ⟨fetch, _, rfl⟩ := List.mem_map.mp member
    simp only [(answers fetch []).2, Bool.false_eq_true, not_false_eq_true]
  rw [same, poll_eq, passed, spoken]
  rfl

include answers in
private theorem load_of_spares (spares : ∀ fetch ∈ Fetch.neededAtOnce kinds, outage.Spares fetch) :
    (source.during outage).load timeoutMs tenant kinds =
      let rows := (source.firstReplies tenant kinds).rows
      if Fetch.leads.isNeeded kinds then
        match outage.apply .leads (source.leads rows.hub) with
        | .failed error => .error (.fetchFailed .leads error)
        | .silent => .error (.timedOut timeoutMs)
        | .rows leads => .ok (⟨rows, leads⟩, some rows.hub)
      else .ok (⟨rows, []⟩, none) := by
  rw [load_eq_poll, poll_of_spares answers spares, firstReplies_during spares]
  rfl

include answers in
theorem load_of_answers : source.load timeoutMs tenant kinds =
      let rows := (source.firstReplies tenant kinds).rows
      if Fetch.leads.isNeeded kinds then
        match source.leads rows.hub with
        | .failed error => .error (.fetchFailed .leads error)
        | .silent => .error (.timedOut timeoutMs)
        | .rows leads => .ok (⟨rows, leads⟩, some rows.hub)
      else .ok (⟨rows, []⟩, none) := by
  have loaded : (source.during .nowhere).load timeoutMs tenant kinds = _ :=
    load_of_spares answers timeoutMs fun fetch _ => Outage.spares_nowhere fetch
  exact loaded

include answers in
/-- An outage that spares every needed fetch leaves loading as it is without it. -/
theorem exists_load_of_spares (spares : ∀ fetch ∈ Fetch.neededAtOnce kinds, outage.Spares fetch)
    (leads : Fetch.leads.isNeeded kinds = true → outage.Spares .leads) :
    ∃ loaded, (source.during outage).load timeoutMs tenant kinds = .ok loaded ∧
      source.load timeoutMs tenant kinds = .ok loaded := by
  rw [load_of_spares answers timeoutMs spares, load_of_answers answers timeoutMs]
  by_cases needed : Fetch.leads.isNeeded kinds = true
  · simp only [needed, if_true]
    rw [Outage.apply_of_spares (leads needed)]
    obtain ⟨sound, spoken⟩ := answers .leads (source.firstReplies tenant kinds).rows.hub
    simp only [fetch, Reply.error?_discard, Reply.isSilent_discard] at sound spoken
    generalize source.leads _ = reply at sound spoken
    cases reply with
    | rows found => exact ⟨_, rfl, rfl⟩
    | failed error => contradiction
    | silent => contradiction
  · simp only [needed, Bool.false_eq_true, if_false]
    exact ⟨_, rfl, rfl⟩

end

end RowSource

/-! ## Searching in an outage -/

namespace SearchService

def during (service : SearchService) (outage : Outage) : SearchService :=
  { service with source := service.source.during outage }

def ReportsFailure (answer : Except SearchError SearchOutcome) (operation : String)
    (cause : StoreError) : Prop :=
  ∃ error, answer = .error error ∧ error.failure? = some (operation, cause)

def outcomeOf (service : SearchService) (query : Text) (request : SearchRequest)
    (kinds : List RecordKind) (loaded : Corpus × Option (List Uuid)) : SearchOutcome where
  page := service.page query request.limit request.offset
    (service.merged query loaded.1 kinds)
  fetched := Fetch.all.filter (Fetch.isNeeded kinds)
  hub := loaded.2

theorem search_of_plan {service : SearchService} (tenant : Uuid) {request : SearchRequest}
    {isAdmin : Bool} {query : Text} {kinds : List RecordKind}
    (planned : plan service.settings request isAdmin = .ok (some (query, kinds))) :
    service.search tenant request isAdmin =
      (service.source.load service.settings.queryTimeoutMs tenant kinds).map
        (service.outcomeOf query request kinds) := by
  unfold search
  rw [planned]
  change (service.source.load service.settings.queryTimeoutMs tenant kinds).bind _ = _
  cases service.source.load service.settings.queryTimeoutMs tenant kinds <;> rfl

/-- A search over a source that answers every fetch, in an outage. The first fetch that fails among
those made at once is reported with its error, even where others stay silent; if none fails, a
silent one lets the time run out; if all of them are spared, it is up to the leads, where these are
needed; and if they are spared as well, the answer is the one without the outage. -/
theorem search_during {service : SearchService} {tenant : Uuid}
    (answers : service.source.AnswersAll tenant) (outage : Outage) {request : SearchRequest}
    {isAdmin : Bool} {query : Text} {kinds : List RecordKind}
    (planned : plan service.settings request isAdmin = .ok (some (query, kinds))) :
    let answer := (service.during outage).search tenant request isAdmin
    let needed := Fetch.neededAtOnce kinds
    let timeout := StoreError.timeout service.settings.queryTimeoutMs
    (∀ before fetch after error, needed = before ++ fetch :: after →
        (∀ earlier ∈ before, ∀ cause, ¬ outage.Fails earlier cause) → outage.Fails fetch error →
          ReportsFailure answer ("global_search." ++ fetch.name) error) ∧
      ((∀ fetch ∈ needed, ∀ cause, ¬ outage.Fails fetch cause) →
        (∃ fetch ∈ needed, outage.Hangs fetch) → ReportsFailure answer "global_search" timeout) ∧
      ((∀ fetch ∈ needed, outage.Spares fetch) → kinds.any (·.isLeadRelated) = true →
        (outage.Hangs .leads → ReportsFailure answer "global_search" timeout) ∧
          ∀ error, outage.Fails .leads error →
            ReportsFailure answer "global_search.leads" error) ∧
      ((∀ fetch ∈ needed, outage.Spares fetch) →
        (kinds.any (·.isLeadRelated) = true → outage.Spares .leads) →
          ∃ outcome, answer = .ok outcome ∧
            service.search tenant request isAdmin = .ok outcome) := by
  intro answer needed timeout
  have loading : answer =
      ((service.source.during outage).load service.settings.queryTimeoutMs tenant kinds).map
        (service.outcomeOf query request kinds) :=
    @search_of_plan (service.during outage) tenant request isAdmin query kinds planned
  refine ⟨?_, ?_, ?_, ?_⟩
  · intro before fetch after error split sound fails
    rw [loading, RowSource.load_of_fails answers _ split sound fails]
    exact ⟨_, rfl, rfl⟩
  · intro sound hangs
    rw [loading, RowSource.load_of_hangs answers _ sound hangs]
    exact ⟨_, rfl, rfl⟩
  · intro spares related
    have asked : Fetch.leads.isNeeded kinds = true := related
    rw [loading, RowSource.load_of_spares answers _ spares]
    simp only [asked, if_true]
    constructor
    · intro hangs
      rw [Outage.apply_of_hangs hangs]
      exact ⟨_, rfl, rfl⟩
    · intro error fails
      rw [Outage.apply_of_fails fails]
      exact ⟨_, rfl, rfl⟩
  · intro spares leads
    obtain ⟨loaded, disturbed, calm⟩ :=
      RowSource.exists_load_of_spares answers service.settings.queryTimeoutMs spares leads
    rw [loading, disturbed, search_of_plan tenant planned, calm]
    exact ⟨_, rfl, rfl⟩

/-- Quotes fail before appointments do, and it does not matter that notes never come. -/
theorem search_during_failing_quotes :
    let service : SearchService := ⟨{}, .dutch, Store.sample.source .none, rfl⟩
    let request : SearchRequest := ⟨"anna".toList, some "quote".toList, none, none⟩
    let outage : Outage :=
      { failing := fun fetch =>
          if fetch = .quotes then some .closedPool
          else if fetch = .appointments then some (.timeout 5) else none
        silent := fun fetch => fetch == .leadNotes }
    service.source.AnswersAll ⟨7⟩ ∧
      plan service.settings request false = .ok (some ("anna".toList, [.quote])) ∧
      ReportsFailure ((service.during outage).search ⟨7⟩ request false) "global_search.quotes"
        .closedPool := by
  intro service request outage
  have answers := RowSource.answersAll_source ⟨7⟩ Store.sample
  have planned : plan service.settings request false = .ok (some ("anna".toList, [.quote])) := rfl
  refine ⟨answers, planned, ?_⟩
  have sound : ∀ earlier ∈ [Fetch.tenantLeadIds, .leadNotes, .leadServices], ∀ cause,
      ¬ outage.Fails earlier cause := by
    simp [Outage.Fails, outage]
  exact (search_during answers outage planned).1 [.tenantLeadIds, .leadNotes, .leadServices]
    .quotes [.appointments, .partnerLeads] .closedPool rfl sound ⟨rfl, rfl⟩

end SearchService

end TenantSearch
