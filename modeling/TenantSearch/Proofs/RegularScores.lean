import TenantSearch.Proofs.ScoreBounds

/-! Scores that may have overflown. Weights of any size give ranks that are zero, positive or
infinite, and sums, products and quotients keep them so: no step gives a negative score or one that
is not a number. A sum is above zero exactly if one of its parts is, whatever was rounded. -/
namespace TenantSearch.Score
open Float.Model Float.Model.UnpackedFloat Rounding

private theorem code_le (x : ℚ) : code x ≤ 255 * 2 ^ 23 := min_le_left _ _

theorem Regular.finite_or {score : Score} (regular : score.Regular) :
    score.Finite ∨ score.toModel.unpack = .infinity .positive := by
  have formed := score.shape
  rw [regular.sign, regular.magnitude] at formed
  unfold Regular at regular
  unfold Finite
  generalize score.toModel.unpack = number at formed
  cases formed with
  | zero nothing => exact .inl (by omega)
  | subnormal _ small => exact .inl (by omega)
  | normal _ _ finite => exact .inl finite
  | infinity all => exact .inr rfl
  | notANumber beyond => omega

theorem Regular.eq_zero_or_pos {score : Score} (regular : score.Regular) :
    score = 0 ∨ 0 < score := by
  rcases Nat.eq_zero_or_pos score.toBits.toNat with nothing | above
  · exact .inl (eq_of_toBits nothing)
  · exact .inr (regular.pos_iff.mpr above)

theorem Regular.pos_of_le {a b : Score} (right : b.Regular) (positive : 0 < a)
    (below : a.toBits.toNat ≤ b.toBits.toNat) : 0 < b := by
  rw [(regular_of_pos positive).pos_iff] at positive
  exact right.pos_iff.mpr (positive.trans_le below)

theorem Regular.not_pos_iff {score : Score} (regular : score.Regular) :
    ¬ 0 < score ↔ score = 0 := by
  constructor
  · exact regular.eq_zero_or_pos.resolve_right
  · rintro rfl
    decide

private theorem Finite.unpack {score : Score} (finite : score.Finite) :
    score.toModel.unpack = .zero .positive ∨
      ∃ mantissa place positive,
        score.toModel.unpack = .finite .positive mantissa place positive := by
  rcases finite.written with ⟨zero, _⟩ | ⟨mantissa, place, written⟩
  · exact .inl zero
  · exact .inr ⟨mantissa, place, written.positive, written.unpacked⟩

theorem Finite.written_of_pos {score : Score} (finite : score.Finite) (positive : 0 < score) :
    ∃ mantissa place, score.Written mantissa place := by
  rcases finite.written with ⟨_, nothing⟩ | written
  · rw [finite.regular.pos_iff, nothing] at positive
    exact absurd positive (lt_irrefl 0)
  · exact written

theorem Finite.value_pos {score : Score} (finite : score.Finite) (positive : 0 < score) :
    0 < score.value := by
  obtain ⟨mantissa, place, written⟩ := finite.written_of_pos positive
  have whole := written.positive
  rw [written.value]
  positivity

/-! ## Sums -/

private theorem Regular.add_overflows_or {a b : Score} (left : a.Regular) (right : b.Regular) :
    (a + b).toBits.toNat = 255 * 2 ^ 23 ∨ a.Finite ∧ b.Finite := by
  change (UnpackedFloat.pack .binary32
    (UnpackedFloat.add .binary32 a.toModel.unpack b.toModel.unpack)).toNat = _ ∨ _
  rcases left.finite_or with finite | infinite
  · rcases right.finite_or with other | infinite
    · exact .inr ⟨finite, other⟩
    · rcases finite.unpack with zero | ⟨m, e, positive, written⟩
      · exact .inl (by rw [infinite, zero]; rfl)
      · exact .inl (by rw [infinite, written]; rfl)
  · rw [infinite]
    rcases right.finite_or with finite | other
    · rcases finite.unpack with zero | ⟨m, e, positive, written⟩
      · exact .inl (by rw [zero]; rfl)
      · exact .inl (by rw [written]; rfl)
    · exact .inl (by rw [other]; rfl)

theorem Regular.add {a b : Score} (left : a.Regular) (right : b.Regular) : (a + b).Regular := by
  unfold Regular
  rcases left.add_overflows_or right with infinite | ⟨first, second⟩
  · exact infinite.le
  · rw [toBits_add first second]
    exact code_le _

theorem Regular.le_add {a b : Score} (left : a.Regular) (right : b.Regular) :
    a.toBits.toNat ≤ (a + b).toBits.toNat ∧ b.toBits.toNat ≤ (a + b).toBits.toNat := by
  rcases left.add_overflows_or right with infinite | ⟨first, second⟩
  · rw [infinite]
    exact ⟨left, right⟩
  · rw [toBits_add first second, ← code_value first, ← code_value second]
    exact ⟨code_mono (le_add_of_nonneg_right b.value_nonneg),
      code_mono (le_add_of_nonneg_left a.value_nonneg)⟩

theorem Regular.add_pos_iff {a b : Score} (left : a.Regular) (right : b.Regular) :
    0 < a + b ↔ 0 < a ∨ 0 < b := by
  constructor
  · intro above
    by_contra neither
    rw [not_or, left.not_pos_iff, right.not_pos_iff] at neither
    rw [neither.1, neither.2] at above
    exact absurd above (by decide)
  · obtain ⟨first, second⟩ := left.le_add right
    rw [(left.add right).pos_iff, left.pos_iff, right.pos_iff]
    omega

theorem Regular.add_mono {a b c d : Score} (left : c.Regular) (right : d.Regular)
    (first : a.toBits.toNat ≤ c.toBits.toNat) (second : b.toBits.toNat ≤ d.toBits.toNat) :
    (a + b).toBits.toNat ≤ (c + d).toBits.toNat := by
  rcases left.add_overflows_or right with infinite | ⟨number, other⟩
  · have regular : a.Regular := first.trans left
    rw [infinite]
    exact regular.add (second.trans right)
  · have low := number.of_le first
    have small := other.of_le second
    rw [toBits_add low small, toBits_add number other]
    exact code_mono (add_le_add ((value_le_value low number).mpr first)
      ((value_le_value small other).mpr second))

theorem Regular.zero_add_eq {score : Score} (regular : score.Regular) : 0 + score = score := by
  rcases regular.finite_or with finite | infinite
  · exact finite.zero_add_eq
  · apply eq_of_toBits
    rw [← pack_unpack score, infinite]
    change (UnpackedFloat.pack .binary32
      (UnpackedFloat.add .binary32 (.zero .positive) score.toModel.unpack)).toNat = _
    rw [infinite]
    rfl

theorem Regular.add_zero_eq {score : Score} (regular : score.Regular) : score + 0 = score := by
  rcases regular.finite_or with finite | infinite
  · exact finite.add_zero_eq
  · apply eq_of_toBits
    rw [← pack_unpack score, infinite]
    change (UnpackedFloat.pack .binary32
      (UnpackedFloat.add .binary32 score.toModel.unpack (.zero .positive))).toNat = _
    rw [infinite]
    rfl

theorem regular_sum {scores : List Score} (regular : ∀ score ∈ scores, Regular score) :
    (sum scores).Regular := by
  induction scores using List.reverseRecOn with
  | nil => exact regular_zero
  | append_singleton scores last ih =>
    rw [sum, List.foldl_append]
    exact (ih fun score member => regular score (by simp [member])).add (regular last (by simp))

theorem Regular.sum_cons {score : Score} (regular : score.Regular) (scores : List Score) :
    sum (score :: scores) = scores.foldl (· + ·) score := by
  rw [sum, List.foldl_cons, regular.zero_add_eq]

theorem sum_pos_iff {scores : List Score} (regular : ∀ score ∈ scores, Regular score) :
    0 < sum scores ↔ ∃ score ∈ scores, 0 < score := by
  induction scores using List.reverseRecOn with
  | nil =>
    simp only [List.not_mem_nil, false_and, exists_false, iff_false]
    decide
  | append_singleton scores last ih =>
    have rest : ∀ score ∈ scores, Regular score :=
      fun score member => regular score (by simp [member])
    have whole : sum (scores ++ [last]) = sum scores + last := by
      rw [sum, List.foldl_append]
      rfl
    rw [whole, (regular_sum rest).add_pos_iff (regular last (by simp)), ih rest]
    simp [or_and_right, exists_or]

/-- Fewer and smaller parts give no larger sum, even where it overflows. -/
theorem foldl_add_mono {α : Type} {fewer items : List α} (within : fewer.Sublist items)
    {small large : α → Score} (regular : ∀ item ∈ items, (large item).Regular)
    (each : ∀ item ∈ fewer, (small item).toBits.toNat ≤ (large item).toBits.toNat)
    {low high : Score} (start : high.Regular) (below : low.toBits.toNat ≤ high.toBits.toNat) :
    ((fewer.map small).foldl (· + ·) low).toBits.toNat ≤
      ((items.map large).foldl (· + ·) high).toBits.toNat := by
  -- Both sums so far stay in order, whichever items the shorter one leaves out.
  induction within generalizing low high with
  | slnil => exact below
  | cons item _ ih =>
    have first := regular item List.mem_cons_self
    exact ih (fun other later => regular other (List.mem_cons_of_mem _ later)) each
      (start.add first) (below.trans (start.le_add first).1)
  | cons_cons item _ ih =>
    have first := regular item List.mem_cons_self
    exact ih (fun other later => regular other (List.mem_cons_of_mem _ later))
      (fun other later => each other (List.mem_cons_of_mem _ later)) (start.add first)
      (start.add_mono first below (each item List.mem_cons_self))

/-! ## Products and quotients -/

theorem Finite.mul {a b : Score} (left : a.Finite) (right : b.Finite) : (a * b).Regular := by
  unfold Regular
  rw [toBits_mul left right]
  exact code_le _

theorem Finite.mul_mono {score low high : Score} (finite : score.Finite) (above : high.Finite)
    (below : low.toBits.toNat ≤ high.toBits.toNat) :
    (score * low).toBits.toNat ≤ (score * high).toBits.toNat := by
  have least := above.of_le below
  rw [toBits_mul finite least, toBits_mul finite above]
  exact code_mono (mul_le_mul_of_nonneg_left ((value_le_value least above).mpr below)
    score.value_nonneg)

section
variable {score factor : Score} (regular : score.Regular) (finite : factor.Finite)
  (positive : 0 < factor)
include regular finite positive

private theorem Regular.mul_overflows_or :
    (score * factor).toBits.toNat = 255 * 2 ^ 23 ∨ score.Finite := by
  rcases regular.finite_or with number | infinite
  · exact .inr number
  · obtain ⟨m, e, written⟩ := finite.written_of_pos positive
    left
    change (UnpackedFloat.pack .binary32
      (UnpackedFloat.mul .binary32 score.toModel.unpack factor.toModel.unpack)).toNat = _
    rw [infinite, written.unpacked]
    rfl

theorem Regular.mul : (score * factor).Regular := by
  rcases regular.mul_overflows_or finite positive with infinite | number
  · exact infinite.le
  · exact number.mul finite

theorem Regular.mul_mono {lower : Score} (below : lower.toBits.toNat ≤ score.toBits.toNat) :
    (lower * factor).toBits.toNat ≤ (score * factor).toBits.toNat := by
  rcases regular.mul_overflows_or finite positive with infinite | number
  · have least : lower.Regular := below.trans regular
    rw [infinite]
    exact least.mul finite positive
  · have low := number.of_le below
    rw [toBits_mul low finite, toBits_mul number finite]
    exact code_mono (mul_le_mul_of_nonneg_right ((value_le_value low number).mpr below)
      factor.value_nonneg)

private theorem Regular.div_overflows_or :
    (score / factor).toBits.toNat = 255 * 2 ^ 23 ∨ score.Finite := by
  rcases regular.finite_or with number | infinite
  · exact .inr number
  · obtain ⟨m, e, written⟩ := finite.written_of_pos positive
    left
    change (UnpackedFloat.pack .binary32
      (UnpackedFloat.div .binary32 score.toModel.unpack factor.toModel.unpack)).toNat = _
    rw [infinite, written.unpacked]
    rfl

theorem Regular.div : (score / factor).Regular := by
  rcases regular.div_overflows_or finite positive with infinite | number
  · exact infinite.le
  · unfold Regular
    rw [toBits_div number finite (finite.value_pos positive)]
    exact code_le _

theorem Regular.div_mono {lower : Score} (below : lower.toBits.toNat ≤ score.toBits.toNat) :
    (lower / factor).toBits.toNat ≤ (score / factor).toBits.toNat := by
  have divisor := finite.value_pos positive
  rcases regular.div_overflows_or finite positive with infinite | number
  · have least : lower.Regular := below.trans regular
    rw [infinite]
    exact least.div finite positive
  · have low := number.of_le below
    rw [toBits_div low finite divisor, toBits_div number finite divisor]
    exact code_mono (div_le_div_of_nonneg_right ((value_le_value low number).mpr below)
      divisor.le)

end

theorem Regular.pos_of_mul_pos {score factor : Score} (regular : score.Regular)
    (finite : factor.Finite) (above : 0 < score * factor) : 0 < score := by
  by_contra nothing
  rw [regular.not_pos_iff.mp nothing, finite.zero_mul_eq] at above
  exact absurd above (by decide)

end TenantSearch.Score
