import TenantSearch.Proofs.Inclusion
import TenantSearch.Proofs.ValidWeights

/-! The scores of an answer. The rules for settings keep every weight and every factor in range by
itself, but not the sums and products that scores are made of: huge weights make a score infinite.
With weights and factors of a moderate size every score is above zero and finite. -/
namespace TenantSearch

namespace SearchService

theorem short_of_plan {settings : SearchSettings} {request : SearchRequest} {isAdmin : Bool}
    {query : Text} {kinds : List RecordKind}
    (planned : plan settings request isAdmin = .ok (some (query, kinds))) :
    query.length ≤ settings.maxQueryChars := by
  have same := (query_of_plan planned).1
  unfold plan at planned
  simp only at planned
  split at planned
  · cases planned
  split at planned
  · cases planned
  · next short =>
    rw [same]
    exact not_lt.mp short

private theorem exists_score_of_mem_page {service : SearchService} {query : Text}
    {limit offset : Option Int} {found : List Candidate} {item : SearchItem}
    (member : item ∈ (service.page query limit offset found).items) :
    ∃ candidate ∈ found, item.score = candidate.score := by
  obtain ⟨candidate, shown, rfl⟩ := List.mem_map.mp member
  exact ⟨candidate, List.mem_of_mem_drop (List.mem_of_mem_take shown), rfl⟩

end SearchService

namespace Store

/-- With weights and factors of a moderate size, every item of every answer has a score above zero
that is finite. -/
theorem score_pos_of_mem_answer {settings : Settings} (valid : settings.check = .ok settings)
    (bounded : settings.search.maxQueryChars < Document.wordBound)
    (highest : settings.search.weights.a ≤ 1e12) (lowest : 1e-18 ≤ settings.search.weights.d)
    (least : 1e-6 ≤ settings.search.damping.partner) (store : Store) (faults : Faults)
    (tenant : Uuid) (request : SearchRequest) (isAdmin : Bool) {outcome : SearchOutcome}
    (answered : store.answer faults settings.search tenant request isAdmin = .ok outcome) :
    ∀ item ∈ outcome.page.items, 0 < item.score ∧ item.score.isFinite = true := by
  intro item member
  obtain ⟨language, named⟩ := Settings.language_of_check valid
  rw [answer, SearchService.ofSource_eq_ok named] at answered
  change SearchService.search _ tenant request isAdmin = _ at answered
  rw [SearchService.search_source rfl] at answered
  split at answered
  · contradiction
  · cases answered
    contradiction
  · next query kinds planned =>
    split at answered
    · contradiction
    · cases answered
      obtain ⟨candidate, found, same⟩ := SearchService.exists_score_of_mem_page member
      have short := SearchService.short_of_plan planned
      have between := SearchService.score_between
        (SearchService.moderate_ranker (Settings.moderate_weights_of_check valid highest lowest)
          (short.trans bounded.le))
        (Settings.moderate_damping_of_check valid least) found
      rw [same]
      exact ⟨between.pos Candidate.leastScore_pos, between.finite.isFinite⟩

theorem score_pos_of_mem_answer_sample :
    let settings : Settings := ⟨⟨"127.0.0.1:8080".toList, "info".toList⟩, ⟨"crm".toList, 8⟩, {}⟩
    settings.check = .ok settings ∧
      ∃ outcome, sample.answer .none settings.search ⟨7⟩ ⟨"anna".toList, none, none, none⟩ false =
        .ok outcome ∧ outcome.page.items ≠ [] ∧
        ∀ item ∈ outcome.page.items, 0 < item.score ∧ item.score.isFinite = true := by
  intro settings
  have valid : settings.check = .ok settings :=
    Settings.check_defaults (by decide) (by decide) (by decide)
  let service : SearchService := ⟨settings.search, .dutch, sample.source .none, rfl⟩
  let outcome := service.outcome "anna".toList ⟨"anna".toList, none, none, none⟩
    (sample.corpus ⟨7⟩) (RecordKind.visible none false)
  have planned : SearchService.plan service.settings ⟨"anna".toList, none, none, none⟩ false =
      .ok (some ("anna".toList, RecordKind.visible none false)) := rfl
  have answered : sample.answer .none settings.search ⟨7⟩ ⟨"anna".toList, none, none, none⟩ false =
      .ok outcome := @SearchService.search_eq_outcome service sample rfl ⟨7⟩ _ _ _ _ planned
  refine ⟨valid, outcome, answered, ?_, ?_⟩
  · have count : (service.candidates "anna".toList (sample.corpus ⟨7⟩)
        (RecordKind.visible none false)).length = 2 := by decide +kernel
    have total : (service.merged "anna".toList (sample.corpus ⟨7⟩)
        (RecordKind.visible none false)).length = 2 := by
      rw [SearchService.merged_eq, (Candidate.merge_perm _).length_eq, count]
    have size : outcome.page.items.length = 2 := by
      change ((((service.merged _ _ _).drop 0).take 10).map _).length = 2
      rw [List.length_map, List.drop_zero, List.length_take, total]
      rfl
    exact List.ne_nil_of_length_eq_add_one size
  · exact score_pos_of_mem_answer valid (by decide) (by decide) (by decide) (by decide) sample .none
      ⟨7⟩ ⟨"anna".toList, none, none, none⟩ false answered

end Store

/-- The rules allow weights with which scores overflow: both lexers find the same name. -/
example :
    let weights : Weights := { a := 3e38 }
    let ranker : Ranker := ⟨.ofText .dutch 3 "anna".toList, .dutch, weights⟩
    (∀ rule ∈ weights.rules, rule.2 = true) ∧
      (ranker.rank [(some "Anna".toList, .a)]).score.isFinite = false := by
  decide +kernel

end TenantSearch
