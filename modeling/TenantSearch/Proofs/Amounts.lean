import Mathlib.Algebra.Order.Field.Rat
import Mathlib.Tactic.NormNum
import Mathlib.Tactic.Ring
import TenantSearch.Proofs.DecimalDigits
import TenantSearch.Record.Display

/-! Amounts and their texts. An amount of cents is written as a decimal number with two places. The
form of such a text is spelled out, and what is written is the only text of that form for its
amount; read as a decimal number, it is a hundredth of the cents. A store keeps cents as words of 64
bits, and calculating with such words, with and without a sign, gives what whole numbers give. -/
namespace TenantSearch.Amount
open Text (decimal Digits Numeral numeral_toDigits digits_padded)

/-! ## Spellings -/

/-- The text of an amount without a sign and its cents: whole units, a point and two digits. -/
inductive Unsigned : Text → ℕ → Prop
  | intro {whole places : Text} {units cents : ℕ} (numeral : Numeral whole units)
      (digits : Digits 2 places cents) : Unsigned (whole ++ '.' :: places) (100 * units + cents)

/-- The texts of amounts and their cents: a minus sign stands in front of what is below zero, and
only there. -/
inductive Spells : Text → ℤ → Prop
  | plain {text : Text} {cents : ℕ} (unsigned : Unsigned text cents) : Spells text cents
  | negative {text : Text} {cents : ℕ} (unsigned : Unsigned text cents) (positive : 0 < cents) :
      Spells ('-' :: text) (-cents)

def renderSize (size : ℕ) : Text :=
  Nat.toDigits 10 (size / 100) ++ '.' :: Text.padded 2 (size % 100)

/-- What is written of an amount, as a whole number of any size. -/
def written (cents : ℤ) : Text :=
  (if cents < 0 then ['-'] else []) ++ renderSize cents.natAbs

private theorem unsigned_renderSize (size : ℕ) : Unsigned (renderSize size) size := by
  have places : Digits 2 (Text.padded 2 (size % 100)) (size % 100) :=
    digits_padded (by decide) (Nat.mod_lt size (by decide))
  have spelled := Unsigned.intro (numeral_toDigits (size / 100)) places
  rwa [Nat.div_add_mod] at spelled

private theorem Unsigned.eq_renderSize {text : Text} {size : ℕ} (spelled : Unsigned text size) :
    text = renderSize size := by
  obtain @⟨whole, places, units, cents, numeral, digits⟩ := spelled
  have short : cents < 100 := digits.lt
  rw [renderSize, numeral.eq_toDigits, digits.unique (digits_padded (by decide) digits.lt),
    Nat.mul_add_div (by decide), Nat.div_eq_of_lt short, Nat.add_zero, Nat.mul_add_mod,
    Nat.mod_eq_of_lt short]

/-- An amount is spelled by what is written of it, and by nothing else. -/
theorem spells_iff {text : Text} {cents : ℤ} : Spells text cents ↔ text = written cents := by
  rw [written]
  constructor
  · intro spelled
    cases spelled with
    | plain unsigned =>
      rw [if_neg (by omega), Int.natAbs_natCast, List.nil_append, unsigned.eq_renderSize]
    | negative unsigned positive =>
      rw [if_pos (by omega), Int.natAbs_neg, Int.natAbs_natCast, List.singleton_append,
        unsigned.eq_renderSize]
  · rintro rfl
    have unsigned := unsigned_renderSize cents.natAbs
    split
    · next below =>
      have spelled := Spells.negative unsigned (by omega)
      rwa [show -(cents.natAbs : ℤ) = cents by omega] at spelled
    · next above =>
      have spelled := Spells.plain unsigned
      rwa [show (cents.natAbs : ℤ) = cents by omega] at spelled

private theorem Unsigned.isDigit_or_eq_point {text : Text} {size : ℕ}
    (spelled : Unsigned text size) : ∀ c ∈ text, c.isDigit = true ∨ c = '.' := by
  obtain ⟨numeral, digits⟩ := spelled
  intro c member
  rcases List.mem_append.mp member with front | back
  · exact .inl (numeral.all c front)
  · rcases List.mem_cons.mp back with point | inside
    · exact .inr point
    · exact .inl (digits.all c inside)

private theorem Unsigned.minus_not_mem {text : Text} {size : ℕ} (spelled : Unsigned text size) :
    '-' ∉ text := by
  intro member
  rcases spelled.isDigit_or_eq_point '-' member with digit | point
  · exact absurd digit (by decide)
  · exact absurd point (by decide)

theorem Spells.minus_mem_iff {text : Text} {cents : ℤ} (spelled : Spells text cents) :
    '-' ∈ text ↔ cents < 0 := by
  cases spelled with
  | plain unsigned =>
    constructor
    · exact fun member => absurd member unsigned.minus_not_mem
    · omega
  | negative unsigned positive => simpa using positive

/-! ## Reading -/

def unsigned? (text : Text) : Option ℚ :=
  let whole := text.takeWhile Char.isDigit
  match text.dropWhile Char.isDigit with
  | '.' :: places =>
    if whole.isEmpty || places.isEmpty || !places.all Char.isDigit then none
    else some (decimal whole + decimal places / 10 ^ places.length)
  | _ => none

/-- Reads a decimal number. -/
def number? : Text → Option ℚ
  | '-' :: text => (unsigned? text).map (-·)
  | text => unsigned? text

private theorem Unsigned.unsigned?_eq {text : Text} {size : ℕ} (spelled : Unsigned text size) :
    unsigned? text = some ((size : ℚ) / 100) := by
  obtain @⟨whole, places, units, cents, numeral, digits⟩ := spelled
  have front : (whole ++ '.' :: places).takeWhile Char.isDigit = whole := by
    rw [List.takeWhile_append_of_pos numeral.all, List.takeWhile_cons_of_neg (by decide),
      List.append_nil]
  have back : (whole ++ '.' :: places).dropWhile Char.isDigit = '.' :: places := by
    rw [List.dropWhile_append_of_pos numeral.all, List.dropWhile_cons_of_neg (by decide)]
  have given : ¬ (whole.isEmpty || places.isEmpty || !places.all Char.isDigit) = true := by
    have every : places.all Char.isDigit = true := List.all_eq_true.mpr digits.all
    have two : places ≠ [] := List.ne_nil_of_length_pos (by rw [digits.length]; decide)
    simp [numeral.nonempty, two, every]
  rw [unsigned?, front, back]
  simp only
  rw [if_neg given, numeral.value, digits.value, digits.length]
  congr 1
  push_cast
  ring

theorem Spells.number?_eq {text : Text} {cents : ℤ} (spelled : Spells text cents) :
    number? text = some ((cents : ℚ) / 100) := by
  cases spelled with
  | plain unsigned =>
    have same : number? text = unsigned? text := by
      unfold number?
      split
      · exact absurd List.mem_cons_self unsigned.minus_not_mem
      · rfl
    rw [same, unsigned.unsigned?_eq, Int.cast_natCast]
  | negative unsigned positive =>
    rw [number?, unsigned.unsigned?_eq, Option.map_some, Int.cast_neg, Int.cast_natCast, neg_div]

/-! ## Words of 64 bits -/

theorem toNat_magnitude (cents : Int64) : (magnitude cents).toNat = cents.toInt.natAbs := by
  have word : (magnitude cents).toNat = cents.toBitVec.abs.toNat := rfl
  rw [word, BitVec.toNat_abs, ← Int64.toInt_toBitVec]
  by_cases negative : cents.toBitVec.msb = true
  · rw [if_pos negative, BitVec.toInt_eq_msb_cond, if_pos negative]
    omega
  · rw [if_neg negative, BitVec.toInt_eq_msb_cond, if_neg negative, Int.natAbs_natCast]

theorem renderAmount_eq (cents : Int64) : renderAmount cents = written cents.toInt := by
  have below : cents < 0 ↔ cents.toInt < 0 := Int64.lt_iff_toInt_lt
  have units : (magnitude cents / 100).toNat = cents.toInt.natAbs / 100 := by
    rw [UInt64.toNat_div, toNat_magnitude]
    rfl
  have rest : (magnitude cents % 100).toNat = cents.toInt.natAbs % 100 := by
    rw [UInt64.toNat_mod, toNat_magnitude]
    rfl
  simp only [renderAmount, written, renderSize, units, rest, below, List.append_assoc]

/-! ## Amounts -/

theorem written_injective : Function.Injective written := by
  intro first second same
  have left := (spells_iff.mpr (Eq.refl (written first))).number?_eq
  have right := (spells_iff.mpr (Eq.refl (written second))).number?_eq
  rw [same, right] at left
  have equal := (div_left_inj' (by norm_num)).mp (Option.some.inj left)
  exact (Int.cast_inj.mp equal).symm

theorem renderAmount_injective : Function.Injective renderAmount := by
  intro first second same
  rw [renderAmount_eq, renderAmount_eq] at same
  exact Int64.toInt_inj.mp (written_injective same)

/-- Amounts are written exactly. On words of 64 bits the size and the text are those of the whole
number that the word stands for, so nothing overflows, and different words have different texts.
What is written is the one spelling of its amount, has a minus sign exactly if the amount is below
zero, and is read as the decimal number that is a hundredth of the cents; so different amounts have
different texts. -/
theorem amounts_written :
    (∀ word : Int64, (magnitude word).toNat = word.toInt.natAbs ∧
      renderAmount word = written word.toInt ∧
      ∀ other, renderAmount other = renderAmount word ↔ other = word) ∧
    ∀ cents : ℤ,
      (∀ text, Spells text cents ↔ text = written cents) ∧
      ('-' ∈ written cents ↔ cents < 0) ∧
      (∃ amount, number? (written cents) = some amount ∧ amount * 100 = cents) ∧
      ∀ other, written other = written cents ↔ other = cents := by
  refine ⟨fun word => ⟨toNat_magnitude word, renderAmount_eq word, ?_⟩, fun cents => ?_⟩
  · exact fun other => renderAmount_injective.eq_iff
  have spelled : Spells (written cents) cents := spells_iff.mpr rfl
  refine ⟨fun text => spells_iff, spelled.minus_mem_iff, ?_, ?_⟩
  · exact ⟨cents / 100, spelled.number?_eq, by ring⟩
  · exact fun other => written_injective.eq_iff

/-- The size of the least word is that word again where it has a sign. -/
example : Int64.minValue.abs = Int64.minValue ∧
    renderAmount Int64.minValue = "-92233720368547758.08".toList := by decide +kernel

end TenantSearch.Amount
