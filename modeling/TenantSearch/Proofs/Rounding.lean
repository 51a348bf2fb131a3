import Mathlib
import TenantSearch.Score

/-! Rounding to nearest even, as it ends every step of arithmetic on scores. A number that is not
negative has a code: the bits of the score nearest to it. Larger numbers have larger codes, so
rounding never turns an order around; and the code of a number is what the arithmetic packs. -/
namespace TenantSearch.Rounding
open Float.Model Float.Model.UnpackedFloat

/-! ## Whole numbers -/

/-- The whole number nearest to a number that is not negative, the even one of two. -/
def roundEven (x : ℚ) : ℕ :=
  if x < ⌊x⌋₊ + 1 / 2 then ⌊x⌋₊ else if ⌊x⌋₊ + 1 / 2 < x then ⌊x⌋₊ + 1 else ⌊x⌋₊ + ⌊x⌋₊ % 2

private theorem floor_le_roundEven (x : ℚ) : ⌊x⌋₊ ≤ roundEven x := by
  unfold roundEven
  split_ifs <;> omega

private theorem roundEven_le_floor (x : ℚ) : roundEven x ≤ ⌊x⌋₊ + 1 := by
  unfold roundEven
  split_ifs <;> omega

theorem roundEven_mono {x y : ℚ} (below : x ≤ y) : roundEven x ≤ roundEven y := by
  rcases (Nat.floor_mono below).lt_or_eq with less | same
  · -- Rounding up in one unit goes no further than the floor in the next one.
    have first := roundEven_le_floor x
    have second := floor_le_roundEven y
    omega
  · unfold roundEven
    rw [← same]
    split_ifs <;> first | omega | linarith

theorem roundEven_natCast (n : ℕ) : roundEven n = n := by
  simp [roundEven]

private theorem roundEven_le {x : ℚ} {n : ℕ} (below : x ≤ n) : roundEven x ≤ n :=
  (roundEven_mono below).trans_eq (roundEven_natCast n)

private theorem le_roundEven {x : ℚ} {n : ℕ} (above : n ≤ x) : n ≤ roundEven x :=
  (roundEven_natCast n).symm.trans_le (roundEven_mono above)

/-! ## Mantissas -/

/-- A number lies at a mantissa or above it, as far as the accuracy tells. -/
def Locates (mantissa : ℕ) : Accuracy → ℚ → Prop
  | .exact, x => x = mantissa
  | .inexact .lt, x => (mantissa : ℚ) < x ∧ x < mantissa + 1 / 2
  | .inexact .eq, x => x = mantissa + 1 / 2
  | .inexact .gt, x => (mantissa : ℚ) + 1 / 2 < x ∧ x < mantissa + 1

private theorem Locates.floor {mantissa : ℕ} {accuracy : Accuracy} {x : ℚ}
    (located : Locates mantissa accuracy x) : ⌊x⌋₊ = mantissa := by
  have bounds : (mantissa : ℚ) ≤ x ∧ x < mantissa + 1 := by
    cases accuracy with
    | exact => simp only [Locates] at located; constructor <;> linarith
    | inexact side => cases side <;> simp only [Locates] at located <;> constructor <;> linarith
  have positive : 0 ≤ x := le_trans (Nat.cast_nonneg mantissa) bounds.1
  exact (Nat.floor_eq_iff positive).mpr bounds

private theorem Locates.rounded {mantissa : ℕ} {accuracy : Accuracy} {x : ℚ}
    (located : Locates mantissa accuracy x) :
    accuracy.roundToNearestEven mantissa = roundEven x := by
  have whole := located.floor
  unfold roundEven
  rw [whole]
  cases accuracy with
  | exact =>
    have below : x < mantissa + 1 / 2 := by simp only [Locates] at located; linarith
    rw [if_pos below]
    rfl
  | inexact side =>
    cases side with
    | lt =>
      rw [if_pos located.2]
      rfl
    | eq =>
      have tied : x = mantissa + 1 / 2 := located
      rw [if_neg tied.not_lt, if_neg tied.not_gt]
      rfl
    | gt =>
      rw [if_neg (not_lt.mpr located.1.le), if_pos located.1]
      rfl

private theorem Locates.halve {em : ExtendedMantissa} {x : ℚ}
    (located : Locates em.mantissa em.accuracy x) :
    Locates em.shiftRightOne.mantissa em.shiftRightOne.accuracy (x / 2) := by
  obtain ⟨mantissa, round, sticky⟩ := em
  have parts : ((mantissa : ℕ) : ℚ) = 2 * (mantissa / 2 : ℕ) + (mantissa % 2 : ℕ) := by
    exact_mod_cast (Nat.div_add_mod mantissa 2).symm
  rcases Nat.mod_two_eq_zero_or_one mantissa with even | odd
  · rw [even, Nat.cast_zero, add_zero] at parts
    cases round <;> cases sticky <;>
      simp only [ExtendedMantissa.shiftRightOne, ExtendedMantissa.accuracy, Locates, even, parts,
        bne_self_eq_false, Bool.or_false, Bool.or_true] at located ⊢ <;>
      first | linarith | exact ⟨by linarith, by linarith⟩
  · rw [odd, Nat.cast_one] at parts
    have bit : (1 != 0) = true := rfl
    cases round <;> cases sticky <;>
      simp only [ExtendedMantissa.shiftRightOne, ExtendedMantissa.accuracy, Locates, odd, parts,
        bit, Bool.or_false, Bool.or_true] at located ⊢ <;>
      first | linarith | exact ⟨by linarith, by linarith⟩

private theorem Locates.shift {em : ExtendedMantissa} {x : ℚ}
    (located : Locates em.mantissa em.accuracy x) (places : ℕ) :
    Locates (em >>> places).mantissa (em >>> places).accuracy (x / 2 ^ places) := by
  induction places with
  | zero => simpa [HShiftRight.hShiftRight, Nat.repeat] using located
  | succ places ih =>
    rw [pow_succ, ← div_div]
    exact ih.halve

/-! ## Codes -/

def exponent (x : ℚ) : ℤ := if x < 2 ^ (-126 : ℤ) then -149 else Int.log 2 x - 23

def scaled (x : ℚ) : ℚ := x / 2 ^ exponent x

/-- The bits of the score nearest to a number that is not negative. -/
def code (x : ℚ) : ℕ :=
  min (255 * 2 ^ 23) ((exponent x + 149).toNat * 2 ^ 23 + roundEven (scaled x))

private theorem exponent_ge (x : ℚ) : -149 ≤ exponent x := by
  unfold exponent
  split_ifs with small
  · exact le_rfl
  · have positive : 0 < x := lt_of_lt_of_le (by positivity) (not_lt.mp small)
    have least := (Int.zpow_le_iff_le_log (b := 2) (by decide) positive).mp (not_lt.mp small)
    omega

private theorem two_pow_le_scaled {x : ℚ} (large : -149 < exponent x) : 2 ^ 23 ≤ scaled x := by
  unfold scaled
  have normal : ¬ x < 2 ^ (-126 : ℤ) := by
    intro small
    rw [exponent, if_pos small] at large
    exact large.false
  have positive : 0 < x := lt_of_lt_of_le (by positivity) (not_lt.mp normal)
  have lowest := Int.zpow_log_le_self (b := 2) (by decide) positive
  have place : exponent x = Int.log 2 x - 23 := if_neg normal
  rw [le_div_iff₀ (by positivity), place, ← zpow_natCast, ← zpow_add₀ (by norm_num)]
  calc (2 : ℚ) ^ (((23 : ℕ) : ℤ) + (Int.log 2 x - 23)) = 2 ^ Int.log 2 x := by congr 1; norm_num
    _ ≤ x := by exact_mod_cast lowest

private theorem scaled_lt (x : ℚ) : scaled x < 2 ^ 24 := by
  unfold scaled
  rw [div_lt_iff₀ (by positivity), ← zpow_natCast, ← zpow_add₀ (by norm_num)]
  by_cases small : x < 2 ^ (-126 : ℤ)
  · have place : exponent x = -149 := if_pos small
    rw [place]
    exact small.trans (by norm_num)
  · have place : exponent x = Int.log 2 x - 23 := if_neg small
    have highest := Int.lt_zpow_succ_log_self (b := 2) (by decide) x
    calc x < (2 : ℚ) ^ (Int.log 2 x + 1) := by exact_mod_cast highest
      _ = _ := by rw [place]; congr 1; norm_num; ring

private theorem exponent_mono {x y : ℚ} (below : x ≤ y) : exponent x ≤ exponent y := by
  by_cases small : x < 2 ^ (-126 : ℤ)
  · have place : exponent x = -149 := if_pos small
    rw [place]
    exact exponent_ge y
  · have large : ¬ y < 2 ^ (-126 : ℤ) := fun less => small (below.trans_lt less)
    have positive : 0 < x := lt_of_lt_of_le (by positivity) (not_lt.mp small)
    rw [exponent, exponent, if_neg small, if_neg large]
    have mono := Int.log_mono_right (b := 2) positive below
    omega

private theorem roundEven_scaled_le (x : ℚ) : roundEven (scaled x) ≤ 2 ^ 24 :=
  roundEven_le (by exact_mod_cast (scaled_lt x).le)

private theorem two_pow_le_roundEven {x : ℚ} (large : -149 < exponent x) :
    2 ^ 23 ≤ roundEven (scaled x) :=
  le_roundEven (by exact_mod_cast two_pow_le_scaled large)

theorem code_mono {x y : ℚ} (below : x ≤ y) : code x ≤ code y := by
  unfold code
  apply min_le_min_left
  have least := exponent_ge x
  rcases (exponent_mono below).lt_or_eq with less | same
  · -- A full mantissa is carried into the next exponent, so codes do not overlap.
    have high := two_pow_le_roundEven (lt_of_le_of_lt least less)
    have low := roundEven_scaled_le x
    omega
  · have ordered : scaled x ≤ scaled y := by
      unfold scaled
      rw [same]
      exact div_le_div_of_nonneg_right below (by positivity)
    have mono := roundEven_mono ordered
    omega

/-! ## Packing -/

private theorem packComponents_toNat (exponent : BitVec 8) (mantissa : BitVec 23) :
    (packComponents .binary32 .positive exponent mantissa).toNat =
      exponent.toNat * 2 ^ 23 + mantissa.toNat := by
  change ((0#1 ++ exponent) ++ mantissa : BitVec (1 + 8 + 23)).toNat = _
  rw [BitVec.toNat_append, ← Nat.shiftLeft_add_eq_or_of_lt mantissa.isLt, BitVec.toNat_append,
    Nat.shiftLeft_eq]
  simp

private theorem pack_finite {mantissa : ℕ} {place : ℤ} (positive : 0 < mantissa)
    (short : mantissa < 2 ^ 24) (least : -149 ≤ place)
    (full : -149 < place → 2 ^ 23 ≤ mantissa) :
    (UnpackedFloat.pack .binary32 (.finite .positive mantissa place positive)).toNat =
      min (255 * 2 ^ 23) ((place + 149).toNat * 2 ^ 23 + mantissa) := by
  have bias : (Format.binary32.exponentBias : ℤ) = 127 := rfl
  have width : (Format.binary32.mantissaBitsWithoutImplicit : ℤ) = 23 := rfl
  have bits : Format.binary32.mantissaBits = 24 := rfl
  simp only [UnpackedFloat.pack, bias, width, bits]
  split_ifs with beyond normal
  · have infinity : (packedInfinity .binary32 .positive).toNat = 255 * 2 ^ 23 := by decide
    rw [infinity]
    have high := full (by omega)
    omega
  · have bounds := (Nat.log2_eq_iff positive.ne').mp (by omega : mantissa.log2 = 23)
    rw [packComponents_toNat, BitVec.toNat_ofNat, BitVec.toNat_ofNat]
    change (place + 127 + 23).toNat % 2 ^ 8 * 2 ^ 23 + mantissa % 2 ^ 23 = _
    omega
  · have low : mantissa < 2 ^ 23 := by
      by_contra high
      exact normal (by rw [(Nat.log2_eq_iff positive.ne').mpr ⟨not_lt.mp high, short⟩])
    rw [packComponents_toNat, BitVec.toNat_ofNat]
    change 0 * 2 ^ 23 + mantissa % 2 ^ 23 = _
    omega

theorem targetExponent_eq_max (mantissa : ℕ) (place : ℤ) :
    Format.binary32.targetExponent (totalExponent mantissa place) =
      max (mantissa.log2 + place - 23) (-149) := by
  have least : Format.binary32.minExponent = -149 := rfl
  have bits : (Format.binary32.mantissaBits : ℤ) = 24 := rfl
  rw [Format.targetExponent, totalExponent, least, bits]
  congr 1
  ring

theorem targetExponent_eq {mantissa : ℕ} {place : ℤ} {accuracy : Accuracy} {x : ℚ} (nonneg : 0 ≤ x)
    (located : Locates mantissa accuracy (x / 2 ^ place))
    (low : place ≤ Format.binary32.targetExponent (totalExponent mantissa place)) :
    Format.binary32.targetExponent (totalExponent mantissa place) = exponent x := by
  rw [targetExponent_eq_max] at low ⊢
  have unit : (0 : ℚ) < 2 ^ place := by positivity
  have bounds := (Nat.floor_eq_iff (by positivity)).mp located.floor
  rw [le_div_iff₀ unit, div_lt_iff₀ unit] at bounds
  rcases Nat.eq_zero_or_pos mantissa with rfl | positive
  · have small : x < 2 ^ (-126 : ℤ) := by
      rw [Nat.cast_zero, zero_add, one_mul] at bounds
      apply bounds.2.trans
      apply zpow_lt_zpow_right₀ (by norm_num)
      rw [Nat.log2_zero] at low
      omega
    rw [exponent, if_pos small, Nat.log2_zero]
    rw [Nat.log2_zero] at low
    omega
  · have lowest : (2 : ℚ) ^ (mantissa.log2 + place) ≤ x := by
      rw [zpow_add₀ (by norm_num), zpow_natCast]
      refine le_trans ?_ bounds.1
      gcongr
      exact_mod_cast Nat.log2_self_le positive.ne'
    have highest : x < (2 : ℚ) ^ (mantissa.log2 + place + 1) := by
      refine bounds.2.trans_le ?_
      rw [add_right_comm, zpow_add₀ (by norm_num)]
      gcongr
      exact_mod_cast Nat.lt_log2_self
    have size : 0 < x := lt_of_lt_of_le (by positivity) lowest
    unfold exponent
    split_ifs with small
    · have less := (zpow_lt_zpow_iff_right₀ (by norm_num)).mp (lowest.trans_lt small)
      omega
    · have large := (zpow_lt_zpow_iff_right₀ (by norm_num)).mp ((not_lt.mp small).trans_lt highest)
      have above := (Int.zpow_le_iff_le_log (b := 2) (by decide) size).mp (by exact_mod_cast lowest)
      have below := (Int.lt_zpow_iff_log_lt (b := 2) (by decide) size).mp
        (by exact_mod_cast highest)
      omega

private theorem shift_short {mantissa : ℕ} {place : ℤ} (short : mantissa < 2 ^ 24)
    (least : -149 ≤ place) :
    shiftToTargetExponent .binary32 mantissa place .exact = (⟨mantissa, false, false⟩, place) := by
  have places : mantissa.log2 ≤ 23 := by
    rcases Nat.eq_zero_or_pos mantissa with rfl | positive
    · simp
    · exact Nat.le_of_lt_succ ((Nat.log2_lt positive.ne').mpr short)
  have unshifted : (max ((mantissa.log2 : ℤ) + place - 23) (-149) - place).toNat = 0 := by omega
  simp only [shiftToTargetExponent, targetExponent_eq_max, shiftToExponent, unshifted]
  simp [HShiftRight.hShiftRight, Nat.repeat, ExtendedMantissa.ofMantissaAndAccuracy]

private theorem shift_carry {place : ℤ} (least : -149 ≤ place) :
    shiftToTargetExponent .binary32 (2 ^ 24) place .exact =
      (⟨2 ^ 23, false, false⟩, place + 1) := by
  have one : (max (((2 ^ 24 : ℕ).log2 : ℤ) + place - 23) (-149) - place).toNat = 1 := by
    rw [Nat.log2_two_pow]
    omega
  simp only [shiftToTargetExponent, targetExponent_eq_max, shiftToExponent, one]
  simp [HShiftRight.hShiftRight, Nat.repeat, ExtendedMantissa.ofMantissaAndAccuracy,
    ExtendedMantissa.shiftRightOne]

private theorem shift_located {mantissa : ℕ} {place : ℤ} {accuracy : Accuracy} {x : ℚ}
    (nonneg : 0 ≤ x) (located : Locates mantissa accuracy (x / 2 ^ place))
    (low : place ≤ Format.binary32.targetExponent (totalExponent mantissa place)) :
    ∃ em, shiftToTargetExponent .binary32 mantissa place accuracy = (em, exponent x) ∧
      em.roundedMantissa = roundEven (scaled x) := by
  have target := targetExponent_eq nonneg located low
  rw [target] at low
  let places := (exponent x - place).toNat
  have span : (places : ℤ) = exponent x - place := Int.toNat_of_nonneg (by omega)
  let start := ExtendedMantissa.ofMantissaAndAccuracy mantissa accuracy
  have begun : Locates start.mantissa start.accuracy (x / 2 ^ place) := by
    cases accuracy with
    | exact => exact located
    | inexact side => cases side <;> exact located
  have units : x / 2 ^ place / 2 ^ places = scaled x := by
    rw [scaled, div_div, ← zpow_natCast, ← zpow_add₀ (by norm_num), span]
    congr 2
    ring
  have shifted := begun.shift places
  rw [units] at shifted
  refine ⟨start >>> places, ?_, shifted.rounded⟩
  simp only [shiftToTargetExponent, target, shiftToExponent]
  congr 1
  omega

/-- What the arithmetic packs is the code of the exact number. -/
theorem pack_roundWithAccuracy {mantissa : ℕ} {place : ℤ} {accuracy : Accuracy} {x : ℚ}
    (nonneg : 0 ≤ x) (located : Locates mantissa accuracy (x / 2 ^ place))
    (low : place ≤ Format.binary32.targetExponent (totalExponent mantissa place)) :
    (UnpackedFloat.pack .binary32
      (roundWithAccuracy .binary32 .positive mantissa place accuracy)).toNat = code x := by
  obtain ⟨em, shifted, rounded⟩ := shift_located nonneg located low
  have least := exponent_ge x
  have full (large : -149 < exponent x) := two_pow_le_roundEven large
  simp only [roundWithAccuracy, shifted, rounded]
  unfold code
  rcases (roundEven_scaled_le x).lt_or_eq with short | carry
  · simp only [shift_short short least]
    split_ifs with zero
    · have small : ¬ -149 < exponent x := fun large => by have := full large; omega
      have nothing : (UnpackedFloat.pack .binary32 (.zero .positive)).toNat = 0 := by decide
      rw [nothing]
      omega
    · exact pack_finite _ short least full
  · simp only [carry, shift_carry least]
    rw [dif_neg (by decide), pack_finite _ (by decide) (by omega) fun _ => le_rfl]
    omega

end TenantSearch.Rounding
