import Mathlib
import TenantSearch.Score

/-! The order of scores. Between scores that are not negative, comparing numbers, comparing bits and
comparing places in the total order are the same thing. Hence the largest of some scores is a matter
of which scores there are, not of their order. -/
namespace TenantSearch.Score
open Float.Model Float.Model.UnpackedFloat

/-! ## The fields of a score -/

private theorem unpackMantissa_toNat (bits : BitVec 32) :
    (@unpackMantissa .binary32 bits).toNat = bits.toNat % 2 ^ 23 := by
  rw [@unpackMantissa_def .binary32, BitVec.extractLsb'_toNat, Nat.shiftRight_zero]

private theorem unpackExponent_toNat (bits : BitVec 32) :
    (@unpackExponent .binary32 bits).toNat = bits.toNat / 2 ^ 23 % 2 ^ 8 := by
  rw [@unpackExponent_def .binary32, BitVec.extractLsb'_toNat, Nat.shiftRight_eq_div_pow]

private theorem unpackSign_toNat (bits : BitVec 32) :
    (@unpackSign .binary32 bits).toNat = bits.toNat / 2 ^ 31 := by
  have bound : bits.toNat < 2 ^ 32 := bits.isLt
  rw [@unpackSign_def .binary32, BitVec.extractLsb'_toNat, Nat.shiftRight_eq_div_pow]
  change bits.toNat / 2 ^ 31 % 2 = _
  omega

def magnitude (score : Score) : Nat := score.toBits.toNat % 2 ^ 31

def sign (score : Score) : Sign := if score.toBits.toNat < 2 ^ 31 then .positive else .negative

/-- What a score with a sign and a magnitude stands for. -/
inductive Shape (sign : Sign) (magnitude : Nat) : UnpackedFloat → Prop
  | zero (nothing : magnitude = 0) : Shape sign magnitude (.zero sign)
  | subnormal {mantissa : Nat} {exponent : Int} (positive : 0 < mantissa)
      (small : magnitude < 2 ^ 23) (whole : mantissa = magnitude) (least : exponent = -149) :
      Shape sign magnitude (.finite sign mantissa exponent positive)
  | normal {mantissa : Nat} {exponent : Int} (positive : 0 < mantissa)
      (large : 2 ^ 23 ≤ magnitude) (finite : magnitude < 255 * 2 ^ 23)
      (whole : mantissa = 2 ^ 23 + magnitude % 2 ^ 23)
      (scale : exponent = magnitude / 2 ^ 23 - 150) :
      Shape sign magnitude (.finite sign mantissa exponent positive)
  | infinity (all : magnitude = 255 * 2 ^ 23) : Shape sign magnitude (.infinity sign)
  | notANumber (beyond : 255 * 2 ^ 23 < magnitude) : Shape sign magnitude .notANumber

theorem shape (score : Score) : Shape score.sign score.magnitude score.toModel.unpack := by
  have mantissa := unpackMantissa_toNat score.toBits.toBitVec
  have exponent := unpackExponent_toNat score.toBits.toBitVec
  have leading := unpackSign_toNat score.toBits.toBitVec
  rw [UInt32.toNat_toBitVec] at mantissa exponent leading
  have bound := score.toBits.toNat_lt
  have signed : Sign.ofBitVec (@unpackSign .binary32 score.toBits.toBitVec) =
      score.sign := by
    simp only [Sign.ofBitVec, sign, ← BitVec.toNat_inj, leading, BitVec.toNat_ofNat]
    congr 1
    apply propext
    omega
  have parts : score.magnitude = score.toBits.toNat % 2 ^ 31 := rfl
  have fraction : (@unpackMantissa .binary32 score.toBits.toBitVec = 0#23) ↔
      score.magnitude % 2 ^ 23 = 0 := by
    rw [← BitVec.toNat_inj, mantissa, BitVec.toNat_ofNat, Nat.zero_mod]
    omega
  have full : (@unpackExponent .binary32 score.toBits.toBitVec = -1#8) ↔
      255 * 2 ^ 23 ≤ score.magnitude := by
    have ones : (-1#8).toNat = 255 := rfl
    rw [← BitVec.toNat_inj, exponent, ones]
    omega
  have empty : (@unpackExponent .binary32 score.toBits.toBitVec = 0#8) ↔
      score.magnitude < 2 ^ 23 := by
    rw [← BitVec.toNat_inj, exponent, BitVec.toNat_ofNat, Nat.zero_mod]
    omega
  have bias : (Format.binary32.exponentBias : Int) = 127 := rfl
  have width : (Format.binary32.mantissaBitsWithoutImplicit : Int) = 23 := rfl
  have implicit : (1#1 ++ @unpackMantissa .binary32 score.toBits.toBitVec).toNat =
      2 ^ 23 + score.toBits.toNat % 2 ^ 23 := by
    have inside := (@unpackMantissa .binary32 score.toBits.toBitVec).isLt
    rw [BitVec.toNat_append, ← Nat.shiftLeft_add_eq_or_of_lt inside, mantissa]
    rfl
  change Shape _ _ (UnpackedFloat.unpack Format.binary32 score.toBits.toBitVec)
  simp only [UnpackedFloat.unpack, signed, full, empty, fraction]
  split
  · split
    · exact .infinity (by omega)
    · exact .notANumber (by omega)
  · split
    · split
      · exact .zero (by omega)
      · apply Shape.subnormal
        · omega
        · omega
        · rw [exponent, bias, width]; omega
    · apply Shape.normal
      · omega
      · omega
      · rw [implicit]; omega
      · rw [exponent, bias, width]; omega

/-! ## The total order -/

private theorem isNaN_iff {score : Score} :
    score.isNaN = true ↔ 255 * 2 ^ 23 < score.magnitude := by
  have formed := score.shape
  change score.toModel.unpack.isNaN = true ↔ _
  generalize score.toModel.unpack = value at formed
  cases formed <;> simp [UnpackedFloat.isNaN] <;> omega

private theorem eq_of_isNaN {a b : Score} (left : a.isNaN = true) (right : b.isNaN = true) :
    a = b := by
  have packed {score : Score} (invalid : score.isNaN = true) :
      score.toBits.toBitVec = packedNaN .binary32 := by
    have beyond := isNaN_iff.mp invalid
    unfold magnitude at beyond
    have mantissa := unpackMantissa_toNat score.toBits.toBitVec
    have exponent := unpackExponent_toNat score.toBits.toBitVec
    rw [UInt32.toNat_toBitVec] at mantissa exponent
    apply score.toModel.valid.eq_packedNaN
    · have ones : (-1#8).toNat = 255 := rfl
      change @unpackExponent .binary32 score.toBits.toBitVec = -1#8
      rw [← BitVec.toNat_inj, exponent, ones]
      omega
    · change @unpackMantissa .binary32 score.toBits.toBitVec ≠ 0#23
      rw [ne_eq, ← BitVec.toNat_inj, mantissa, BitVec.toNat_ofNat, Nat.zero_mod]
      omega
  exact Float32.toBits_inj.mp (UInt32.toBitVec_inj.mp ((packed left).trans (packed right).symm))

theorem place_injective : Function.Injective place := by
  have within {score : Score} (number : score.isNaN = false) :
      score.toBits.toNat < 2 ^ 32 ∧ (2 ^ 31 ≤ score.toBits.toNat →
        score.toBits.toNat ≤ 2 ^ 31 + 255 * 2 ^ 23) := by
    have small := mt isNaN_iff.mpr (Bool.not_eq_true _ ▸ number)
    have bound := score.toBits.toNat_lt
    unfold magnitude at small
    omega
  intro a b same
  -- The place of what is not a number is below those of all numbers.
  cases left : a.isNaN <;> cases right : b.isNaN
  · have first := within left
    have second := within right
    simp only [place, bits, left, right, Bool.false_eq_true, if_false] at same
    have codes : a.toBits.toNat = b.toBits.toNat := by
      split at same <;> split at same <;> omega
    exact Float32.toBits_inj.mp (UInt32.toNat_inj.mp codes)
  · have first := within left
    simp only [place, bits, left, right, Bool.false_eq_true, if_false, if_true] at same
    split at same <;> split at same <;> omega
  · have second := within right
    simp only [place, bits, left, right, Bool.false_eq_true, if_false, if_true] at same
    split at same <;> split at same <;> omega
  · exact eq_of_isNaN left right

/-! ## Comparison -/

/-- A number, perhaps infinite, that is not negative. Negative zero is left out. -/
def Regular (score : Score) : Prop := score.toBits.toNat ≤ 255 * 2 ^ 23

theorem regular_zero : Regular 0 := by
  unfold Regular
  decide

private theorem lt_iff_compare {a b : Score} :
    a < b ↔ a.toModel.unpack.compare b.toModel.unpack = some .lt := by
  change decide (a.toModel < b.toModel) = true ↔ _
  rw [decide_eq_true_iff]
  exact beq_iff_eq

theorem regular_of_pos {score : Score} (positive : 0 < score) : Regular score := by
  have above : (UnpackedFloat.zero .positive).compare score.toModel.unpack = some .lt :=
    lt_iff_compare.mp positive
  have bound := score.toBits.toNat_lt
  have formed := score.shape
  unfold Regular
  generalize score.toModel.unpack = value at above formed
  by_cases upright : score.toBits.toNat < 2 ^ 31
  · have whole : score.magnitude = score.toBits.toNat := by unfold magnitude; omega
    rw [whole] at formed
    cases formed with
    | zero nothing => omega
    | subnormal _ small => omega
    | normal _ _ finite => omega
    | infinity all => omega
    | notANumber beyond => simp [UnpackedFloat.compare] at above
  · have negative : score.sign = .negative := if_neg upright
    rw [negative] at formed
    cases formed <;> simp [UnpackedFloat.compare] at above

theorem Regular.sign {score : Score} (regular : Regular score) : score.sign = .positive := by
  unfold Regular at regular
  exact if_pos (by omega)

theorem Regular.magnitude {score : Score} (regular : Regular score) :
    score.magnitude = score.toBits.toNat := by
  unfold Regular at regular
  unfold Score.magnitude
  omega

theorem Regular.place {score : Score} (regular : Regular score) :
    score.place = score.toBits.toNat := by
  have formed := score.shape
  rw [regular.sign, regular.magnitude] at formed
  unfold Regular at regular
  have number : score.isNaN = false := by
    change score.toModel.unpack.isNaN = false
    generalize score.toModel.unpack = value at formed
    cases formed with
    | notANumber beyond => omega
    | _ => rfl
  have bits : score.bits = score.toBits.toNat := by
    rw [Score.bits, number, if_neg Bool.false_ne_true]
  rw [Score.place, bits, if_pos (by omega)]

theorem compare_lex {d e : Int} {m n : Nat} :
    (compare d e).then (compare m n) = .lt ↔ d < e ∨ d = e ∧ m < n := by
  rw [Ordering.then_eq_lt, Int.compare_eq_lt, Int.compare_eq_eq, Nat.compare_eq_lt]

/-- Regular scores compare as their places do. -/
theorem Regular.lt_iff_place_lt {a b : Score} (left : Regular a) (right : Regular b) :
    a < b ↔ a.place < b.place := by
  have first := a.shape
  have second := b.shape
  rw [left.sign, left.magnitude] at first
  rw [right.sign, right.magnitude] at second
  rw [left.place, right.place, lt_iff_compare]
  unfold Regular at left right
  generalize a.toModel.unpack = x at first ⊢
  generalize b.toModel.unpack = y at second ⊢
  cases first <;> cases second <;>
    simp only [UnpackedFloat.compare, Option.some.injEq, compare_lex, reduceCtorEq, true_iff,
      false_iff]
  all_goals omega

/-! ## The largest score -/

private theorem fold_maximum (scores : List Score) (best : Score) (start : Regular best)
    (regular : ∀ score ∈ scores, Regular score) :
    let top := scores.foldl (fun best score => if best < score then score else best) best
    top ∈ best :: scores ∧ ∀ score ∈ best :: scores, score.place ≤ top.place := by
  induction scores generalizing best with
  | nil => simp
  | cons first rest ih =>
    have head := regular first (by simp)
    have below := start.lt_iff_place_lt head
    have next : Regular (if best < first then first else best) := by
      split
      · exact head
      · exact start
    obtain ⟨member, above⟩ := ih _ next fun score inside => regular score (by simp [inside])
    simp only [List.foldl_cons]
    generalize rest.foldl (fun best score => if best < score then score else best) _ = top
      at member above
    have highest := above _ List.mem_cons_self
    by_cases higher : best < first
    · rw [if_pos higher] at member above highest
      have less := below.mp higher
      refine ⟨List.mem_cons_of_mem best member, ?_⟩
      intro score inside
      rcases List.mem_cons.mp inside with rfl | later
      · omega
      · exact above score later
    · rw [if_neg higher] at member above highest
      rw [below] at higher
      constructor
      · rcases List.mem_cons.mp member with equal | later
        · simp [equal]
        · simp [later]
      · intro score inside
        rcases List.mem_cons.mp inside with rfl | later
        · exact highest
        · rcases List.mem_cons.mp later with rfl | last
          · omega
          · exact above score (by simp [last])

theorem maximum_spec (scores : List Score) (regular : ∀ score ∈ scores, Regular score) :
    maximum scores ∈ 0 :: scores ∧ ∀ score ∈ 0 :: scores, score.place ≤ (maximum scores).place :=
  fold_maximum scores 0 regular_zero regular

theorem maximum_congr {first second : List Score} (regular : ∀ score ∈ first, Regular score)
    (same : ∀ score, score ∈ 0 :: first ↔ score ∈ 0 :: second) :
    maximum first = maximum second := by
  have sound : ∀ score ∈ 0 :: first, Regular score := by
    intro score member
    rcases List.mem_cons.mp member with rfl | later
    · exact regular_zero
    · exact regular score later
  have others : ∀ score ∈ second, Regular score :=
    fun score member => sound score ((same score).mpr (List.mem_cons_of_mem 0 member))
  obtain ⟨left, above⟩ := maximum_spec first regular
  obtain ⟨right, higher⟩ := maximum_spec second others
  apply place_injective
  exact Int.le_antisymm (higher _ ((same _).mp left)) (above _ ((same _).mpr right))

end TenantSearch.Score
