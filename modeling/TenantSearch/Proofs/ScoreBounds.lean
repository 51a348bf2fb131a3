import TenantSearch.Proofs.ScoreArithmetic

/-! Bounds of scores. Zero is neutral to a sum and takes up a product or a quotient; and the bounds
of a sum, a product or a quotient are found by the same arithmetic on the bounds of its parts. So a
score that is built from many parts is kept above zero and finite by a few steps on constants. -/
namespace TenantSearch.Score
open Float.Model Float.Model.UnpackedFloat Rounding

/-! ## Zero and comparison with it -/

theorem eq_of_toBits {a b : Score} (same : a.toBits.toNat = b.toBits.toNat) : a = b :=
  Float32.toBits_inj.mp (UInt32.toNat_inj.mp same)

theorem value_zero : (0 : Score).value = 0 := by
  have unpacked : (0 : Score).toModel.unpack = .zero .positive := by rfl
  rw [value, unpacked]

theorem Finite.add_zero_eq {score : Score} (finite : score.Finite) : score + 0 = score := by
  apply eq_of_toBits
  rw [toBits_add finite (by decide), value_zero, add_zero, code_value finite]

theorem Finite.zero_add_eq {score : Score} (finite : score.Finite) : 0 + score = score := by
  apply eq_of_toBits
  rw [toBits_add (by decide) finite, value_zero, zero_add, code_value finite]

theorem Finite.mul_zero_eq {score : Score} (finite : score.Finite) : score * 0 = 0 := by
  apply eq_of_toBits
  rw [toBits_mul finite (by decide), value_zero, mul_zero, code_zero]
  rfl

theorem Finite.zero_mul_eq {score : Score} (finite : score.Finite) : 0 * score = 0 := by
  apply eq_of_toBits
  rw [toBits_mul (by decide) finite, value_zero, zero_mul, code_zero]
  rfl

theorem Finite.mul_one_eq {score : Score} (finite : score.Finite) : score * 1 = score := by
  apply eq_of_toBits
  rw [toBits_mul finite (by decide), value_one, mul_one, code_value finite]

theorem Regular.zero_div_eq {score : Score} (regular : score.Regular)
    (positive : 0 < score.toBits.toNat) : 0 / score = 0 := by
  have formed := score.shape
  rw [regular.sign, regular.magnitude] at formed
  change Float32.ofModel (Float32.Model.pack
    (UnpackedFloat.div .binary32 (.zero .positive) score.toModel.unpack)) = 0
  unfold Regular at regular
  generalize score.toModel.unpack = number at formed
  cases formed with
  | zero nothing => omega
  | notANumber beyond => omega
  | _ => rfl

theorem finite_of_pos {score : Score} (positive : 0 < score) (number : score.isFinite = true) :
    score.Finite := by
  have regular := regular_of_pos positive
  have formed := score.shape
  rw [regular.sign, regular.magnitude] at formed
  change score.toModel.unpack.isFinite = true at number
  unfold Finite
  generalize score.toModel.unpack = value at formed number
  cases formed with
  | zero nothing => omega
  | subnormal _ small => omega
  | normal _ _ finite => exact finite
  | infinity all => contradiction
  | notANumber beyond => contradiction

theorem Finite.isFinite {score : Score} (finite : score.Finite) : score.isFinite = true := by
  have formed := score.shape
  rw [finite.regular.sign, finite.regular.magnitude] at formed
  change score.toModel.unpack.isFinite = true
  unfold Finite at finite
  generalize score.toModel.unpack = value at formed
  cases formed with
  | infinity all => omega
  | notANumber beyond => omega
  | _ => rfl

theorem Regular.lt_iff {a b : Score} (left : a.Regular) (right : b.Regular) :
    a < b ↔ a.toBits.toNat < b.toBits.toNat := by
  rw [left.lt_iff_place_lt right, left.place, right.place]
  omega

theorem Regular.pos_iff {score : Score} (regular : score.Regular) :
    0 < score ↔ 0 < score.toBits.toNat := by
  have zero : (0 : Score).toBits.toNat = 0 := by decide
  rw [regular_zero.lt_iff regular, zero]

theorem Regular.not_le_iff {a b : Score} (left : a.Regular) (right : b.Regular) :
    ¬ a ≤ b ↔ b < a := by
  have first := a.shape
  have second := b.shape
  rw [left.sign, left.magnitude] at first
  rw [right.sign, right.magnitude] at second
  have compared : a ≤ b ↔ (a.toModel.unpack.compare b.toModel.unpack).any (·.isLE) = true := by
    change decide (a.toModel ≤ b.toModel) = true ↔ _
    rw [decide_eq_true_iff]
    rfl
  have signs : compare Sign.positive Sign.positive = .eq := rfl
  rw [compared, right.lt_iff left]
  unfold Regular at left right
  generalize a.toModel.unpack = x at first
  generalize b.toModel.unpack = y at second
  cases first <;> cases second <;>
    simp only [UnpackedFloat.compare, Option.any_some, Ordering.isLE_iff_ne_gt, not_not, signs,
      ← Ordering.swap_eq_lt, Ordering.swap_then, Int.compare_swap, Nat.compare_swap, compare_lex,
      Ordering.swap_lt, Ordering.swap_eq, reduceCtorEq, true_iff, false_iff]
  all_goals omega

theorem Regular.le_iff {a b : Score} (left : a.Regular) (right : b.Regular) :
    a ≤ b ↔ a.toBits.toNat ≤ b.toBits.toNat := by
  rw [← not_iff_not, left.not_le_iff right, right.lt_iff left, not_le]

/-! ## Intervals -/

/-- A score between two finite ones. -/
structure Between (low high score : Score) : Prop where
  above : low.toBits.toNat ≤ score.toBits.toNat
  below : score.toBits.toNat ≤ high.toBits.toNat
  bounded : high.Finite

instance (low high score : Score) : Decidable (Between low high score) :=
  decidable_of_iff (low.toBits.toNat ≤ score.toBits.toNat ∧
    score.toBits.toNat ≤ high.toBits.toNat ∧ high.Finite)
    ⟨fun ⟨above, below, bounded⟩ => ⟨above, below, bounded⟩,
      fun between => ⟨between.above, between.below, between.bounded⟩⟩

namespace Between
variable {low high score : Score}

theorem finite (between : Between low high score) : score.Finite :=
  between.bounded.of_le between.below

theorem finite_low (between : Between low high score) : low.Finite :=
  between.finite.of_le between.above

theorem low_le (between : Between low high score) : low.value ≤ score.value :=
  (value_le_value between.finite_low between.finite).mpr between.above

theorem le_high (between : Between low high score) : score.value ≤ high.value :=
  (value_le_value between.finite between.bounded).mpr between.below

theorem pos (between : Between low high score) (positive : 0 < low.toBits.toNat) : 0 < score :=
  between.finite.regular.pos_iff.mpr (positive.trans_le between.above)

theorem widen (between : Between low high score) {least most : Score}
    (below : least.toBits.toNat ≤ low.toBits.toNat) (above : high.toBits.toNat ≤ most.toBits.toNat)
    (bounded : most.Finite) : Between least most score :=
  ⟨below.trans between.above, between.below.trans above, bounded⟩

variable {least most other : Score}

theorem add (left : Between low high score) (right : Between least most other)
    (bounded : (high + most).Finite) : Between (low + least) (high + most) (score + other) where
  above := by
    rw [toBits_add left.finite_low right.finite_low, toBits_add left.finite right.finite]
    exact code_mono (add_le_add left.low_le right.low_le)
  below := by
    rw [toBits_add left.finite right.finite, toBits_add left.bounded right.bounded]
    exact code_mono (add_le_add left.le_high right.le_high)
  bounded := bounded

theorem mul (left : Between low high score) (right : Between least most other)
    (bounded : (high * most).Finite) : Between (low * least) (high * most) (score * other) where
  above := by
    rw [toBits_mul left.finite_low right.finite_low, toBits_mul left.finite right.finite]
    exact code_mono (mul_le_mul left.low_le right.low_le (value_nonneg _) (value_nonneg _))
  below := by
    rw [toBits_mul left.finite right.finite, toBits_mul left.bounded right.bounded]
    exact code_mono (mul_le_mul left.le_high right.le_high (value_nonneg _) (value_nonneg _))
  bounded := bounded

theorem div (left : Between low high score) (right : Between least most other)
    (positive : 0 < least.value) (bounded : (high / least).Finite) :
    Between (low / most) (high / least) (score / other) := by
  have divisor : 0 < other.value := positive.trans_le right.low_le
  have largest : 0 < most.value := divisor.trans_le right.le_high
  refine ⟨?_, ?_, bounded⟩
  · rw [toBits_div left.finite_low right.bounded largest,
      toBits_div left.finite right.finite divisor]
    exact code_mono (div_le_div₀ (value_nonneg _) left.low_le divisor right.le_high)
  · rw [toBits_div left.finite right.finite divisor,
      toBits_div left.bounded right.finite_low positive]
    exact code_mono (div_le_div₀ (value_nonneg _) left.le_high positive right.low_le)

theorem ofNat {n least most : ℕ} (above : least ≤ n) (below : n ≤ most)
    (bounded : Score.Finite (Float32.ofNat most)) :
    Between (Float32.ofNat least) (Float32.ofNat most) (Float32.ofNat n) where
  above := by
    rw [toBits_ofNat, toBits_ofNat]
    exact code_mono (by exact_mod_cast above)
  below := by
    rw [toBits_ofNat, toBits_ofNat]
    exact code_mono (by exact_mod_cast below)
  bounded := bounded

end Between

private theorem regular_ofNat (n : ℕ) : Regular (Float32.ofNat n) := by
  unfold Regular
  rw [toBits_ofNat]
  exact min_le_left _ _

theorem zero_div_ofNat {n : ℕ} (positive : 0 < n) : (0 : Score) / Float32.ofNat n = 0 := by
  apply (regular_ofNat n).zero_div_eq
  have one : 0 < (Float32.ofNat 1).toBits.toNat := by decide
  apply one.trans_le
  rw [toBits_ofNat, toBits_ofNat]
  exact code_mono (by exact_mod_cast positive)

/-! ## Sums -/

private theorem Between.foldl_add {least part top : Score} (absorbed : top + part = top)
    {scores : List Score} (small : ∀ score ∈ scores, Between 0 part score) {start : Score}
    (inside : Between least top start) : Between least top (scores.foldl (· + ·) start) := by
  -- The sum so far stays in its interval, as the upper end takes up whatever is added to it.
  induction scores generalizing start with
  | nil => exact inside
  | cons score rest ih =>
    apply ih fun score member => small score (List.mem_cons_of_mem _ member)
    have next := inside.add (small score List.mem_cons_self) (absorbed.symm ▸ inside.bounded)
    rwa [inside.finite_low.add_zero_eq, absorbed] at next

/-- However many small scores are added, they stay below a score that takes each of them up. -/
theorem Between.sum {part top : Score} (absorbed : top + part = top) (bounded : top.Finite)
    {scores : List Score} (small : ∀ score ∈ scores, Between 0 part score) :
    Between 0 top (Score.sum scores) :=
  Between.foldl_add absorbed small ⟨le_rfl, Nat.zero_le _, bounded⟩

theorem Between.sum_of_mem {least part top : Score} (absorbed : top + part = top)
    (bounded : top.Finite) {scores : List Score} (small : ∀ score ∈ scores, Between 0 part score)
    {score : Score} (member : score ∈ scores) (large : Between least part score) :
    Between least top (Score.sum scores) := by
  obtain ⟨before, after, rfl⟩ := List.append_of_mem member
  rw [Score.sum, List.foldl_append, List.foldl_cons]
  apply Between.foldl_add absorbed fun other inside => small other (by simp [inside])
  have start := Between.sum absorbed bounded fun other (inside : other ∈ before) =>
    small other (by simp [inside])
  have next := start.add large (absorbed.symm ▸ bounded)
  rwa [large.finite_low.zero_add_eq, absorbed] at next

/-! ## Scores of conditions -/

/-- A score that tells whether a condition holds: it is zero if not, and else within bounds. -/
structure Reflects (least most : Score) (condition : Prop) (score : Score) : Prop where
  bounded : most.Finite
  zero : ¬ condition → score = 0
  between : condition → Between least most score

namespace Reflects
variable {least most score : Score} {condition : Prop}
  (reflects : Reflects least most condition score)
include reflects

private theorem whole : Between 0 most score := by
  by_cases holds : condition
  · exact (reflects.between holds).widen (Nat.zero_le _) le_rfl reflects.bounded
  · rw [reflects.zero holds]
    exact ⟨le_rfl, Nat.zero_le _, reflects.bounded⟩

theorem regular : score.Regular := reflects.whole.finite.regular

theorem pos_iff (positive : 0 < least.toBits.toNat) : 0 < score ↔ condition := by
  constructor
  · intro above
    by_contra fails
    rw [reflects.zero fails] at above
    exact absurd above (by decide)
  · intro holds
    exact (reflects.between holds).pos positive

theorem not_le_zero_iff (positive : 0 < least.toBits.toNat) : ¬ score ≤ 0 ↔ condition := by
  rw [reflects.regular.not_le_iff regular_zero, reflects.pos_iff positive]

theorem congr {other : Prop} (same : condition ↔ other) : Reflects least most other score :=
  ⟨reflects.bounded, fun fails => reflects.zero fun holds => fails (same.mp holds),
    fun holds => reflects.between (same.mpr holds)⟩

theorem widen {lower higher : Score} (below : lower.toBits.toNat ≤ least.toBits.toNat)
    (above : most.toBits.toNat ≤ higher.toBits.toNat) (bounded : higher.Finite) :
    Reflects lower higher condition score :=
  ⟨bounded, reflects.zero, fun holds => (reflects.between holds).widen below above bounded⟩

theorem add {other : Score} {further : Prop} {higher : Score}
    (right : Reflects least higher further other) (bounded : (most + higher).Finite) :
    Reflects least (most + higher) (condition ∨ further) (score + other) := by
  refine ⟨bounded, ?_, ?_⟩
  · intro fails
    rw [reflects.zero fun holds => fails (.inl holds), right.zero fun holds => fails (.inr holds)]
    rfl
  · rintro (holds | holds)
    · have sum := (reflects.between holds).add right.whole bounded
      rwa [(reflects.between holds).finite_low.add_zero_eq] at sum
    · have sum := reflects.whole.add (right.between holds) bounded
      rwa [(right.between holds).finite_low.zero_add_eq] at sum

theorem mul {factor lowest : Score} (damping : Between lowest 1 factor) :
    Reflects (least * lowest) most condition (score * factor) := by
  have one : most * 1 = most := reflects.bounded.mul_one_eq
  refine ⟨reflects.bounded, ?_, ?_⟩
  · intro fails
    rw [reflects.zero fails, damping.finite.zero_mul_eq]
  · intro holds
    have product := (reflects.between holds).mul damping (by rw [one]; exact reflects.bounded)
    rwa [one] at product

end Reflects

end TenantSearch.Score
