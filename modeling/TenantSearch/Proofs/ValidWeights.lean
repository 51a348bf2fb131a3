import TenantSearch.Proofs.LeadRanks
import TenantSearch.Proofs.ValidSettings

/-! What valid settings say of weights and of the factors by which ranks shrink: all of them are
finite and above zero, and they stand in their order. One bound at each end of the order then makes
all of them moderate. -/
namespace TenantSearch

namespace Settings
variable {settings : Settings} (valid : settings.check = .ok settings)
include valid

private theorem weight_of_check {name : String} {weight : Score}
    (listed : (name, weight) ∈ settings.search.weights.named) : weight.Finite := by
  have rule : (SettingsRule.weightPositive name, weight.isFinite && decide (0 < weight)) ∈
      settings.search.rules := by
    simp only [SearchSettings.rules, Weights.rules, List.mem_append]
    exact .inl (.inl (.inr (.inl (List.mem_map.mpr ⟨_, listed, rfl⟩))))
  have kept := search_kept_of_check valid rule
  rw [Bool.and_eq_true, decide_eq_true_eq] at kept
  exact Score.finite_of_pos kept.2 kept.1

theorem finite_ofClass_of_check (field : FieldClass) :
    (settings.search.weights.ofClass field).Finite := by
  cases field
  · exact weight_of_check valid (List.mem_of_getElem? (i := 0) rfl)
  · exact weight_of_check valid (List.mem_of_getElem? (i := 1) rfl)
  · exact weight_of_check valid (List.mem_of_getElem? (i := 2) rfl)
  · exact weight_of_check valid (List.mem_of_getElem? (i := 3) rfl)

theorem moderate_weights_of_check (highest : settings.search.weights.a ≤ 1e12)
    (lowest : 1e-18 ≤ settings.search.weights.d) : settings.search.weights.Moderate := by
  have rule : (SettingsRule.weightsInOrder,
      decide (settings.search.weights.b ≤ settings.search.weights.a) &&
        decide (settings.search.weights.c ≤ settings.search.weights.b) &&
        decide (settings.search.weights.d ≤ settings.search.weights.c)) ∈
      settings.search.rules := by
    simp [SearchSettings.rules, Weights.rules]
  have kept := search_kept_of_check valid rule
  simp only [Bool.and_eq_true, decide_eq_true_eq] at kept
  obtain ⟨⟨ba, cb⟩, dc⟩ := kept
  have weight (field : FieldClass) := (finite_ofClass_of_check valid field).regular
  have top : Score.Finite 1e12 := by decide
  have bottom : Score.Finite 1e-18 := by decide
  have first := ((weight .b).le_iff (weight .a)).mp ba
  have second := ((weight .c).le_iff (weight .b)).mp cb
  have third := ((weight .d).le_iff (weight .c)).mp dc
  have above := ((weight .a).le_iff top.regular).mp highest
  have below := (bottom.regular.le_iff (weight .d)).mp lowest
  intro field
  refine ⟨?_, ?_, top⟩ <;> cases field <;> omega

theorem damping_kept_of_check {name : String} {factor : Score}
    (listed : (name, factor) ∈ settings.search.damping.named) :
    factor.isFinite = true ∧ 0 < factor ∧ factor < 1 := by
  have rule : (SettingsRule.dampingInRange name,
      factor.isFinite && decide (0 < factor) && decide (factor < 1)) ∈
      settings.search.rules := by
    simp only [SearchSettings.rules, Damping.rules, List.mem_append]
    exact .inl (.inr (.inl (List.mem_map.mpr ⟨_, listed, rfl⟩)))
  have kept := search_kept_of_check valid rule
  simpa only [Bool.and_eq_true, decide_eq_true_eq, and_assoc] using kept

private theorem damping_of_check {name : String} {factor : Score}
    (listed : (name, factor) ∈ settings.search.damping.named) :
    factor.Finite ∧ factor.toBits.toNat ≤ (1 : Score).toBits.toNat := by
  obtain ⟨number, positive, below⟩ := damping_kept_of_check valid listed
  have finite := Score.finite_of_pos positive number
  have one : Score.Finite 1 := by decide
  exact ⟨finite, ((finite.regular.lt_iff one.regular).mp below).le⟩

private theorem damping_ordered_of_check {higher lower : String × Score}
    (listed : (higher, lower) ∈ settings.search.damping.named.zip
      settings.search.damping.named.tail) :
    lower.2.toBits.toNat ≤ higher.2.toBits.toNat := by
  have rule : (SettingsRule.dampingInOrder higher.1 lower.1, decide (lower.2 < higher.2)) ∈
      settings.search.rules := by
    simp only [SearchSettings.rules, Damping.rules, List.mem_append]
    exact .inl (.inr (.inr (List.mem_map.mpr ⟨_, listed, rfl⟩)))
  have kept := of_decide_eq_true (search_kept_of_check valid rule)
  obtain ⟨first, second⟩ := List.of_mem_zip listed
  have above := (damping_of_check valid first).1.regular
  have below := (damping_of_check valid (List.mem_of_mem_tail second)).1.regular
  exact ((below.lt_iff above).mp kept).le

theorem moderate_damping_of_check (least : 1e-6 ≤ settings.search.damping.partner) :
    settings.search.damping.Moderate := by
  -- The factors in their order: each of them is at most the one before it.
  have first := damping_ordered_of_check valid (List.mem_of_getElem? (i := 0) rfl)
  have second := damping_ordered_of_check valid (List.mem_of_getElem? (i := 1) rfl)
  have third := damping_ordered_of_check valid (List.mem_of_getElem? (i := 2) rfl)
  have fourth := damping_ordered_of_check valid (List.mem_of_getElem? (i := 3) rfl)
  have partner := (damping_of_check valid (List.mem_of_getElem? (i := 4) rfl)).1
  have bottom : Score.Finite 1e-6 := by decide
  rw [bottom.regular.le_iff partner.regular] at least
  intro factor listed
  refine ⟨?_, (damping_of_check valid listed).2, by decide⟩
  simp only [Damping.named, List.mem_cons, List.not_mem_nil, or_false] at listed
  simp only at first second third fourth
  rcases listed with rfl | rfl | rfl | rfl | rfl <;> simp only <;> omega

end Settings

end TenantSearch
