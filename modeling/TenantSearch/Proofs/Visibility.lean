import TenantSearch.Proofs.Footprint
import TenantSearch.Proofs.TenantIsolation

/-! What only administrators may see. The kinds that are kept for them are left out of every other
search before anything is fetched, so the types of services of a store, and what becomes of fetching
them, make no difference to anything that another caller is told. -/
namespace TenantSearch

namespace RecordKind

theorem not_isAdminOnly_of_resolve {filter : Option Text} {kinds : List RecordKind}
    (resolved : resolve filter false = .ok kinds) : ∀ kind ∈ kinds, kind.isAdminOnly = false := by
  obtain ⟨named, _, rfl⟩ := resolve_eq_ok.mp resolved
  intro kind listed
  rw [visible_eq_filter, List.mem_filter] at listed
  simpa using listed.2

end RecordKind

namespace RowSource

/-- A source with other replies to the fetch of the types of services: other rows, a failure, or
silence. -/
def withServiceTypes (source : RowSource) (replies : Uuid → Reply ServiceType) : RowSource :=
  { source with serviceTypes := replies }

section
variable (source : RowSource) (replies : Uuid → Reply ServiceType) (tenant : Uuid)
  {kinds : List RecordKind} (hidden : .serviceType ∉ kinds)
include hidden

private theorem firstReplies_withServiceTypes :
    (source.withServiceTypes replies).firstReplies tenant kinds =
      source.firstReplies tenant kinds := by
  have unneeded : Fetch.serviceTypes.isNeeded kinds = false :=
    Bool.eq_false_iff.mpr fun needed => hidden (Fetch.isNeeded_iff.mp needed)
  simp only [firstReplies, withServiceTypes, unneeded, Reply.onlyIf, Bool.false_eq_true, if_false]

private theorem load_withServiceTypes (timeoutMs : Nat) :
    (source.withServiceTypes replies).load timeoutMs tenant kinds =
      source.load timeoutMs tenant kinds := by
  simp only [load, source.firstReplies_withServiceTypes replies tenant hidden]
  rfl

end

end RowSource

namespace SearchService

/-- A caller who is no administrator learns nothing of the types of services, whatever the filter
names. The answer is the same for any other rows of their table, and if fetching them failed or
never ended; no search fetches them; and the list whose pages are shown and counted has none. -/
theorem searchAs_hides_serviceTypes (service : SearchService) (tenant : Uuid) {roles : List Text}
    (outside : adminRole ∉ roles) (request : SearchRequest) :
    let answer := service.searchAs tenant roles request
    (∀ replies,
        (service.reading (service.source.withServiceTypes replies)).searchAs tenant roles request =
          answer) ∧
      (∀ query kinds,
        plan service.settings request (roles.contains adminRole) = .ok (some (query, kinds)) →
          .serviceTypes ∉ Fetch.neededAtOnce kinds) ∧
      ∀ outcome, answer = .ok outcome →
        .serviceTypes ∉ outcome.fetched ∧
          (∀ item ∈ outcome.page.items, item.kind ≠ .serviceType) ∧
          ∃ found : List Candidate,
            (∀ candidate ∈ found, candidate.record.kind ≠ .serviceType) ∧
            outcome.page =
              service.page (Text.trim request.query) request.limit request.offset found := by
  intro answer
  have caller : roles.contains adminRole = false := by simpa using outside
  have hidden (query : Text) (kinds : List RecordKind)
      (planned : plan service.settings request (roles.contains adminRole) =
        .ok (some (query, kinds))) : .serviceType ∉ kinds := by
    rw [caller] at planned
    intro listed
    have kept := RecordKind.not_isAdminOnly_of_resolve (query_of_plan planned).2 _ listed
    contradiction
  have unfetched {kinds : List RecordKind} (absent : .serviceType ∉ kinds) (fetches : List Fetch) :
      .serviceTypes ∉ fetches.filter (Fetch.isNeeded kinds) :=
    fun listed => absent (Fetch.isNeeded_iff.mp (List.mem_filter.mp listed).2)
  refine ⟨?_, ?_, ?_⟩
  · intro replies
    apply search_reading_congr
    intro query kinds planned
    exact service.source.load_withServiceTypes replies tenant (hidden query kinds planned) _
  · intro query kinds planned
    exact unfetched (hidden query kinds planned) Fetch.atOnce
  · intro outcome answered
    rcases cases_of_search answered with ⟨_, rfl⟩ | ⟨query, kinds, loaded, planned, rfl⟩
    · refine ⟨by simp [SearchOutcome.empty], by simp [SearchOutcome.empty, SearchPage.empty], [],
        by simp, ?_⟩
      simp [page, SearchOutcome.empty, SearchPage.empty]
    · have absent := hidden query kinds planned
      have kinds_of_found : ∀ candidate ∈ service.merged query loaded.1 kinds,
          candidate.record.kind ≠ .serviceType := by
        intro candidate member same
        exact absent (same ▸ service.kind_of_mem_merged query member)
      refine ⟨unfetched absent Fetch.all, ?_, service.merged query loaded.1 kinds,
        kinds_of_found, ?_⟩
      · intro item shown
        obtain ⟨candidate, member, shows⟩ := exists_mem_of_mem_page shown
        rw [shows.kind]
        exact kinds_of_found candidate member
      · rw [← (query_of_plan planned).1]
        rfl

/-- An editor who asks for types of services finds a lead only, also while fetching them hangs. -/
theorem searchAs_hides_serviceTypes_from_editor :
    let cleaning : ServiceType := ⟨⟨9⟩, "Anna".toList, "anna".toList, none, true, .epoch⟩
    let store := Store.sample.add ⟨7⟩ { TenantRows.empty with serviceTypes := [cleaning] } []
    let service : SearchService := ⟨{}, .dutch, store.source .none, rfl⟩
    let roles := ["editor".toList]
    let request : SearchRequest :=
      ⟨"anna".toList, some "service_type, lead".toList, none, none⟩
    adminRole ∉ roles ∧
      (service.reading (store.source ⟨[], [.serviceTypes]⟩)).searchAs ⟨7⟩ roles request =
        service.searchAs ⟨7⟩ roles request ∧
      ∃ outcome, service.searchAs ⟨7⟩ roles request = .ok outcome ∧
        .serviceTypes ∉ outcome.fetched ∧ outcome.page.total = 1 := by
  intro cleaning store service roles request
  have outside : adminRole ∉ roles := by decide
  obtain ⟨same, _, told⟩ := searchAs_hides_serviceTypes service ⟨7⟩ outside request
  have hanging : store.source ⟨[], [.serviceTypes]⟩ =
      service.source.withServiceTypes fun _ => .silent := rfl
  have planned : plan service.settings request (roles.contains adminRole) =
      .ok (some ("anna".toList, [.lead])) := rfl
  have answered := @search_eq_outcome service store rfl ⟨7⟩ request _ _ _ planned
  refine ⟨outside, ?_, _, answered, (told _ answered).1, ?_⟩
  · rw [hanging]
    exact same fun _ => .silent
  · change (service.merged "anna".toList (store.corpus ⟨7⟩) [.lead]).length = 1
    rw [merged_eq, (Candidate.merge_perm _).length_eq]
    decide +kernel

end SearchService

end TenantSearch
