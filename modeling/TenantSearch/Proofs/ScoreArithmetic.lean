import TenantSearch.Proofs.ScoreOrder
import TenantSearch.Proofs.Rounding

/-! Arithmetic on scores. A finite score that is not negative has a value; the sum, the product and
the quotient of such scores are the scores nearest to those of their values, and the score of a
whole number is the one nearest to it. -/
namespace TenantSearch.Score
open Float.Model Float.Model.UnpackedFloat Rounding

/-! ## Values -/

/-- A finite score that is not negative. Negative zero is left out. -/
def Finite (score : Score) : Prop := score.toBits.toNat < 255 * 2 ^ 23

instance (score : Score) : Decidable score.Finite := inferInstanceAs (Decidable (_ < _))

theorem Finite.regular {score : Score} (finite : score.Finite) : score.Regular :=
  Nat.le_of_lt finite

/-- The number that a finite score stands for; its sign is left out. -/
def value (score : Score) : ℚ :=
  match score.toModel.unpack with
  | .finite _ mantissa exponent _ => mantissa * 2 ^ exponent
  | _ => 0

theorem value_nonneg (score : Score) : 0 ≤ score.value := by
  unfold value
  split
  · positivity
  · exact le_rfl

/-- The mantissa and the exponent of a finite score above zero. -/
structure Written (score : Score) (mantissa : ℕ) (place : ℤ) : Prop where
  positive : 0 < mantissa
  unpacked : score.toModel.unpack = .finite .positive mantissa place positive
  short : mantissa < 2 ^ 24
  least : -149 ≤ place
  full : -149 < place → 2 ^ 23 ≤ mantissa
  bits : score.toBits.toNat = (place + 149).toNat * 2 ^ 23 + mantissa

theorem Finite.written {score : Score} (finite : score.Finite) :
    (score.toModel.unpack = .zero .positive ∧ score.toBits.toNat = 0) ∨
      ∃ mantissa place, score.Written mantissa place := by
  have formed := score.shape
  rw [finite.regular.sign, finite.regular.magnitude] at formed
  unfold Finite at finite
  generalize unpacked : score.toModel.unpack = number at formed
  cases formed with
  | zero nothing => exact .inl ⟨rfl, nothing⟩
  | subnormal positive small whole least =>
    exact .inr ⟨_, _, positive, unpacked, by omega, by omega, by omega, by omega⟩
  | normal positive large below whole scale =>
    exact .inr ⟨_, _, positive, unpacked, by omega, by omega, by omega, by omega⟩
  | infinity all => omega
  | notANumber beyond => omega

theorem Written.value {score : Score} {mantissa : ℕ} {place : ℤ}
    (written : score.Written mantissa place) : score.value = mantissa * 2 ^ place := by
  rw [Score.value, written.unpacked]

private theorem Written.located {score : Score} {mantissa : ℕ} {place : ℤ}
    (written : score.Written mantissa place) :
    Locates mantissa .exact (score.value / 2 ^ place) := by
  rw [written.value, Locates, mul_div_cancel_right₀ _ (by positivity)]

private theorem Written.log2 {score : Score} {mantissa : ℕ} {place : ℤ}
    (written : score.Written mantissa place) :
    mantissa.log2 ≤ 23 ∧ (-149 < place → 23 ≤ mantissa.log2) :=
  ⟨Nat.le_of_lt_succ ((Nat.log2_lt written.positive.ne').mpr written.short),
    fun large => (Nat.le_log2 written.positive.ne').mpr (written.full large)⟩

private theorem Written.exponent {score : Score} {mantissa : ℕ} {place : ℤ}
    (written : score.Written mantissa place) : exponent score.value = place := by
  have least := written.least
  obtain ⟨short, full⟩ := written.log2
  have target := targetExponent_eq score.value_nonneg written.located
  rw [targetExponent_eq_max] at target
  rw [← target (by omega)]
  omega

theorem code_zero : code 0 = 0 := by
  have small : Rounding.exponent 0 = -149 := if_pos (by positivity)
  have nearest : roundEven (scaled 0) = 0 := by
    rw [scaled, zero_div]
    exact roundEven_natCast 0
  rw [code, small, nearest]
  rfl

/-- A finite score is the score nearest to its value. -/
theorem code_value {score : Score} (finite : score.Finite) :
    code score.value = score.toBits.toNat := by
  rcases finite.written with ⟨unpacked, nothing⟩ | ⟨mantissa, place, written⟩
  · have zero : score.value = 0 := by rw [value, unpacked]
    rw [zero, nothing, code_zero]
  · have units : scaled score.value = mantissa := by
      rw [scaled, written.exponent, written.value, mul_div_cancel_right₀ _ (by positivity)]
    unfold Finite at finite
    rw [code, units, roundEven_natCast, written.exponent, ← written.bits]
    omega

theorem value_le_value {a b : Score} (left : a.Finite) (right : b.Finite) :
    a.value ≤ b.value ↔ a.toBits.toNat ≤ b.toBits.toNat := by
  constructor
  · intro below
    rw [← code_value left, ← code_value right]
    exact code_mono below
  · intro below
    by_contra above
    have same := code_mono (not_le.mp above).le
    rw [code_value left, code_value right] at same
    have equal : a = b := Float32.toBits_inj.mp (UInt32.toNat_inj.mp (le_antisymm below same))
    exact above (by rw [equal])

/-! ## Operations -/

theorem pack_unpack (score : Score) :
    (UnpackedFloat.pack .binary32 score.toModel.unpack).toNat = score.toBits.toNat := by
  have same := pack_unpack_of_valid score.toModel.valid
  exact congrArg BitVec.toNat same

private theorem log2_shiftLeft {mantissa : ℕ} (positive : 0 < mantissa) (places : ℕ) :
    (mantissa <<< places).log2 = mantissa.log2 + places := by
  obtain ⟨lowest, highest⟩ := (Nat.log2_eq_iff positive.ne').mp rfl
  rw [Nat.shiftLeft_eq]
  apply (Nat.log2_eq_iff (by positivity)).mpr
  rw [Nat.pow_add, Nat.add_right_comm, Nat.pow_add]
  exact ⟨by gcongr, by gcongr⟩

private theorem pack_round {mantissa : ℕ} {place : ℤ} (positive : 0 < mantissa) :
    (UnpackedFloat.pack .binary32 (UnpackedFloat.round .binary32 .positive mantissa place)).toNat =
      code (mantissa * 2 ^ place) := by
  unfold UnpackedFloat.round decreaseExponent
  rw [targetExponent_eq_max]
  simp only
  generalize span : (place - max ((mantissa.log2 : ℤ) + place - 23) (-149)).toNat = places
  apply pack_roundWithAccuracy (by positivity)
  · rw [Locates, Nat.shiftLeft_eq, zpow_sub₀ (by norm_num), zpow_natCast]
    push_cast
    field_simp
  · rw [targetExponent_eq_max, log2_shiftLeft positive]
    omega

private theorem pack_normalize {mantissa : ℕ} {place : ℤ} :
    (UnpackedFloat.pack .binary32
      (UnpackedFloat.normalize .binary32 mantissa place .positive)).toNat =
      code (mantissa * 2 ^ place) := by
  rcases Nat.eq_zero_or_pos mantissa with rfl | positive
  · simp only [Nat.cast_zero, zero_mul, code_zero]
    rfl
  · have above : compare (mantissa : ℤ) 0 = .gt := Int.compare_eq_gt.mpr (by omega)
    rw [UnpackedFloat.normalize, above, Int.toNat_natCast]
    exact pack_round positive

private theorem decreaseExponent_value (mantissa : ℕ) {place lower : ℤ} (below : lower ≤ place) :
    ((decreaseExponent mantissa place lower).1 : ℚ) * 2 ^ lower = mantissa * 2 ^ place := by
  have span : place = lower + ((place - lower).toNat : ℤ) := by omega
  rw [decreaseExponent, Nat.shiftLeft_eq]
  conv_rhs => rw [span, zpow_add₀ (by norm_num), zpow_natCast]
  push_cast
  ring

/-- The sum of two scores is the score nearest to the sum of their values. -/
theorem toBits_add {a b : Score} (left : a.Finite) (right : b.Finite) :
    (a + b).toBits.toNat = code (a.value + b.value) := by
  change (UnpackedFloat.pack .binary32
    (UnpackedFloat.add .binary32 a.toModel.unpack b.toModel.unpack)).toNat = _
  rcases left.written with ⟨zero, _⟩ | ⟨m, e, written⟩
  · have nothing : a.value = 0 := by rw [value, zero]
    rw [nothing, zero_add, code_value right, ← pack_unpack, zero]
    rcases right.written with ⟨zero, _⟩ | ⟨n, f, other⟩
    · rw [zero]; rfl
    · rw [other.unpacked]; rfl
  · rcases right.written with ⟨zero, _⟩ | ⟨n, f, other⟩
    · have nothing : b.value = 0 := by rw [value, zero]
      rw [nothing, add_zero, code_value left, ← pack_unpack, zero, written.unpacked]
      rfl
    · rw [written.unpacked, other.unpacked, written.value, other.value,
        ← decreaseExponent_value m (min_le_left e f), ← decreaseExponent_value n (min_le_right e f),
        ← add_mul]
      exact_mod_cast pack_normalize

private theorem mul_finite {m n : ℕ} {e f : ℤ} (left : 0 < m) (right : 0 < n) :
    UnpackedFloat.mul .binary32 (.finite .positive m e left) (.finite .positive n f right) =
      roundWithAccuracy .binary32 .positive (m * n) (e + f) .exact := rfl

theorem toBits_mul {a b : Score} (left : a.Finite) (right : b.Finite) :
    (a * b).toBits.toNat = code (a.value * b.value) := by
  change (UnpackedFloat.pack .binary32
    (UnpackedFloat.mul .binary32 a.toModel.unpack b.toModel.unpack)).toNat = _
  rcases left.written with ⟨zero, _⟩ | ⟨m, e, written⟩
  · have nothing : a.value = 0 := by rw [value, zero]
    rw [nothing, zero_mul, code_zero, zero]
    rcases right.written with ⟨zero, _⟩ | ⟨n, f, other⟩
    · rw [zero]; rfl
    · rw [other.unpacked]; rfl
  · rcases right.written with ⟨zero, _⟩ | ⟨n, f, other⟩
    · have nothing : b.value = 0 := by rw [value, zero]
      rw [nothing, mul_zero, code_zero, zero, written.unpacked]
      rfl
    · rw [written.unpacked, other.unpacked, mul_finite, written.value, other.value]
      apply pack_roundWithAccuracy (by positivity)
      · rw [Locates, zpow_add₀ (by norm_num)]
        push_cast
        field_simp
      · -- A product of two mantissas is short only if both of them are.
        rw [targetExponent_eq_max]
        have least := written.least
        have lowest := other.least
        by_cases small : e = -149 ∧ f = -149
        · omega
        · have long : 2 ^ 23 ≤ m * n := by
            rcases lt_or_ge (-149) e with large | _
            · exact (written.full large).trans (Nat.le_mul_of_pos_right m other.positive)
            · exact (other.full (by omega)).trans (Nat.le_mul_of_pos_left n written.positive)
          have log := (Nat.le_log2 (by omega)).mpr long
          omega

private theorem locates_fraction (numerator : ℕ) {denominator : ℕ} (positive : 0 < denominator) :
    Locates (numerator / denominator)
      (accuracyOfFraction (numerator % denominator) denominator)
      (numerator / denominator : ℚ) := by
  have rest := Nat.mod_lt numerator positive
  have size : (0 : ℚ) < denominator := by exact_mod_cast positive
  have whole : (numerator / denominator : ℚ) =
      (numerator / denominator : ℕ) + (numerator % denominator : ℕ) / denominator := by
    have parts : (numerator : ℚ) =
        denominator * (numerator / denominator : ℕ) + (numerator % denominator : ℕ) := by
      exact_mod_cast (Nat.div_add_mod numerator denominator).symm
    field_simp
    linarith
  rw [whole]
  generalize numerator / denominator = quotient
  generalize numerator % denominator = remainder at rest ⊢
  unfold accuracyOfFraction
  split_ifs with exact
  · simp [Locates, exact]
  · have part : (0 : ℚ) < remainder / denominator := by
      have := Nat.pos_of_ne_zero exact
      positivity
    have below : (remainder / denominator : ℚ) < 1 := by
      rw [div_lt_one size]
      exact_mod_cast rest
    rcases lt_trichotomy (2 * remainder) denominator with less | equal | more
    · rw [Nat.compare_eq_lt.mpr less]
      have half : (remainder / denominator : ℚ) < 1 / 2 := by
        rw [div_lt_div_iff₀ size (by norm_num)]
        have : (2 * remainder : ℚ) < denominator := by exact_mod_cast less
        linarith
      exact ⟨by linarith, by linarith⟩
    · rw [Nat.compare_eq_eq.mpr equal]
      have half : (remainder / denominator : ℚ) = 1 / 2 := by
        rw [div_eq_div_iff size.ne' (by norm_num)]
        have : (2 * remainder : ℚ) = denominator := by exact_mod_cast equal
        linarith
      rw [Locates, half]
    · rw [Nat.compare_eq_gt.mpr more]
      have half : (1 / 2 : ℚ) < remainder / denominator := by
        rw [div_lt_div_iff₀ (by norm_num) size]
        have : (denominator : ℚ) < 2 * remainder := by exact_mod_cast more
        linarith
      exact ⟨by linarith, by linarith⟩

theorem toBits_div {a b : Score} (left : a.Finite) (right : b.Finite) (positive : 0 < b.value) :
    (a / b).toBits.toNat = code (a.value / b.value) := by
  change (UnpackedFloat.pack .binary32
    (UnpackedFloat.div .binary32 a.toModel.unpack b.toModel.unpack)).toNat = _
  rcases right.written with ⟨zero, _⟩ | ⟨n, f, other⟩
  · rw [value, zero] at positive
    exact absurd positive (lt_irrefl 0)
  rcases left.written with ⟨zero, _⟩ | ⟨m, e, written⟩
  · have nothing : a.value = 0 := by rw [value, zero]
    rw [nothing, zero_div, code_zero, zero, other.unpacked]
    rfl
  rw [written.unpacked, other.unpacked, written.value, other.value]
  simp only [UnpackedFloat.div, divCore]
  have total : totalExponent m e - totalExponent n f = (m.log2 + e : ℤ) - (n.log2 + f) := by
    simp only [totalExponent]
    ring
  have target : Format.binary32.targetExponent (totalExponent m e - totalExponent n f) =
      max ((m.log2 + e : ℤ) - (n.log2 + f) - 24) (-149) := by
    rw [total]
    rfl
  rw [target]
  generalize place : min (e - f) (max ((m.log2 + e : ℤ) - (n.log2 + f) - 24) (-149)) = lower
  generalize span : (e - f - lower).toNat = places
  apply pack_roundWithAccuracy (by positivity)
  · have scaled : (m * 2 ^ e / (n * 2 ^ f) / 2 ^ lower : ℚ) = ((m <<< places : ℕ) : ℚ) / n := by
      have units : e = f + lower + places := by omega
      rw [units, zpow_add₀ (by norm_num), zpow_add₀ (by norm_num), zpow_natCast, Nat.shiftLeft_eq]
      push_cast
      field_simp
    rw [scaled]
    exact locates_fraction _ other.positive
  · rw [targetExponent_eq_max]
    by_cases small : lower ≤ -149
    · omega
    · -- The quotient was given as many places as a mantissa has.
      have long : 2 ^ 23 ≤ m <<< places / n := by
        rw [Nat.le_div_iff_mul_le other.positive, Nat.shiftLeft_eq]
        calc 2 ^ 23 * n ≤ 2 ^ 23 * 2 ^ (n.log2 + 1) := by gcongr; exact Nat.lt_log2_self.le
          _ = 2 ^ (23 + (n.log2 + 1)) := (Nat.pow_add ..).symm
          _ ≤ 2 ^ (m.log2 + places) := Nat.pow_le_pow_right (by norm_num) (by omega)
          _ = 2 ^ m.log2 * 2 ^ places := Nat.pow_add ..
          _ ≤ m * 2 ^ places := by gcongr; exact Nat.log2_self_le written.positive.ne'
      have log := (Nat.le_log2 (by omega)).mpr long
      omega

theorem value_one : (1 : Score).value = 1 := by
  have unpacked : (1 : Score).toModel.unpack = .finite .positive (2 ^ 23) (-23) (by decide) := by
    rfl
  rw [value, unpacked]
  norm_num

theorem Finite.of_le {a b : Score} (finite : b.Finite)
    (below : a.toBits.toNat ≤ b.toBits.toNat) : a.Finite :=
  Nat.lt_of_le_of_lt below finite

private theorem toBits_toFloat32 (n : UInt64) : n.toFloat32.toBits.toNat = code n.toNat := by
  have packed := @pack_normalize n.toNat 0
  rw [zpow_zero, mul_one] at packed
  exact packed

theorem toBits_ofNat (n : ℕ) : (Float32.ofNat n).toBits.toNat = code n := by
  change (Float32.ofScientific n false 0).toBits.toNat = code n
  simp only [Float32.ofScientific, Bool.false_eq_true, if_false]
  split_ifs with small
  · have word := toBits_toFloat32 n.toUInt64
    rw [UInt64.toNat_ofNat_of_lt' (by simp only [UInt64.size]; omega)] at word
    have top : (8388608 : Score).value = 2 ^ 23 := by
      have unpacked : (8388608 : Score).toModel.unpack =
        .finite .positive (2 ^ 23) 0 (by decide) := by rfl
      rw [value, unpacked]
      norm_num
    have finite : Score.Finite n.toUInt64.toFloat32 := by
      apply Finite.of_le (b := 8388608) (by decide)
      rw [word, ← code_value (by decide), top]
      exact code_mono (by exact_mod_cast small.1.le)
    have unit : Float32.exactlyRepresentablePowersOfTen[0] = (1 : Score) := by decide
    rw [unit, toBits_mul finite (by decide), value_one, mul_one, code_value finite, word]
  · change (UnpackedFloat.pack .binary32 (UnpackedFloat.ofScientific .binary32 n 0)).toNat = code n
    unfold UnpackedFloat.ofScientific
    rcases Nat.eq_zero_or_pos n with rfl | positive
    · rw [dif_pos rfl, Nat.cast_zero, code_zero]
      rfl
    have limit : ¬ (0 : ℤ) > 2 ^ Format.binary32.exponentBits := by decide
    have floor : ¬ (0 : ℤ) < -(2 ^ Format.binary32.exponentBits + n.log2) := by omega
    rw [dif_neg positive.ne', if_neg limit, if_neg floor, if_pos le_rfl, mul_finite]
    apply pack_roundWithAccuracy (by positivity)
    · rw [Locates, Nat.shiftLeft_eq]
      have width : (Format.binary32.mantissaBits : ℤ) = (24 : ℕ) := rfl
      have bits : Format.binary32.mantissaBits = 24 := rfl
      rw [width, bits, add_zero, zpow_neg, zpow_natCast]
      push_cast
      field_simp
      norm_num
    · have one : n <<< Format.binary32.mantissaBits * 10 ^ Int.toNat 0 = n <<< 24 := by
        change n <<< 24 * 1 = _
        omega
      have width : (Format.binary32.mantissaBits : ℤ) = 24 := rfl
      rw [targetExponent_eq_max, one, log2_shiftLeft positive, width]
      omega

end TenantSearch.Score
