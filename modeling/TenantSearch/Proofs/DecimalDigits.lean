import Mathlib.Data.List.Basic
import Mathlib.Data.List.Induction
import Mathlib.Tactic.Ring
import TenantSearch.Text.Decimal

/-! Decimal digits as numbers. Digits that are read give a number below the power of ten of their
length, and a number that is written with a fixed width is read back from in front of any text. A
number is written in one way with a fixed width, and in one way without needless zeros. -/
namespace TenantSearch.Text

private theorem decimal_eq_ofDigitChars (digits : Text) :
    decimal digits = Nat.ofDigitChars 10 digits 0 := rfl

theorem decimal_append (first second : Text) :
    decimal (first ++ second) = decimal first * 10 ^ second.length + decimal second := by
  simp only [decimal_eq_ofDigitChars]
  rw [Nat.ofDigitChars_append, Nat.ofDigitChars_eq_ofDigitChars_zero, Nat.mul_comm]

theorem decimal_replicate_zero (count : ℕ) : decimal (List.replicate count '0') = 0 := by
  rw [decimal_eq_ofDigitChars, Nat.ofDigitChars_replicate_zero, Nat.mul_zero]

private theorem decimal_singleton_lt {c : Char} (digit : c.isDigit = true) : decimal [c] < 10 := by
  simp only [Char.isDigit, Bool.and_eq_true, decide_eq_true_eq] at digit
  have below : c.toNat ≤ '9'.toNat := digit.2
  change 10 * 0 + (c.toNat - '0'.toNat) < 10
  have zero : '0'.toNat = 48 := rfl
  have nine : '9'.toNat = 57 := rfl
  omega

theorem decimal_lt {digits : Text} (all : ∀ c ∈ digits, c.isDigit = true) :
    decimal digits < 10 ^ digits.length := by
  induction digits using List.reverseRecOn with
  | nil => decide
  | append_singleton digits last ih =>
    have rest := ih fun c inside => all c (List.mem_append_left _ inside)
    have one := decimal_singleton_lt (all last (by simp))
    rw [decimal_append, List.length_append, List.length_singleton, pow_one, pow_succ]
    omega

/-! ## Fixed width -/

theorem decimal_padded (width number : ℕ) : decimal (padded width number) = number := by
  rw [padded, decimal_append, decimal_replicate_zero, Nat.zero_mul, Nat.zero_add,
    decimal_eq_ofDigitChars, Nat.ofDigitChars_ten_toDigits]

theorem isDigit_of_mem_padded {width number : ℕ} : ∀ c ∈ padded width number, c.isDigit = true := by
  intro c member
  rcases List.mem_append.mp member with zero | digit
  · rw [List.eq_of_mem_replicate zero]
    rfl
  · exact Nat.isDigit_of_mem_toDigits (by decide) (by decide) digit

theorem length_padded {width number : ℕ} (wide : 0 < width) (below : number < 10 ^ width) :
    (padded width number).length = width := by
  have short := (Nat.length_toDigits_le_iff (b := 10) (by decide) wide).mpr below
  rw [padded, List.length_append, List.length_replicate]
  omega

/-! ## Reading -/

/-- A number of decimal digits, and the number that they are. -/
structure Digits (count : ℕ) (digits : Text) (number : ℕ) : Prop where
  length : digits.length = count
  all : ∀ c ∈ digits, c.isDigit = true
  value : decimal digits = number

theorem Digits.lt {count number : ℕ} {digits : Text} (read : Digits count digits number) :
    number < 10 ^ count := by
  rw [← read.value, ← read.length]
  exact decimal_lt read.all

theorem digits_padded {width number : ℕ} (wide : 0 < width) (below : number < 10 ^ width) :
    Digits width (padded width number) number :=
  ⟨length_padded wide below, isDigit_of_mem_padded, decimal_padded width number⟩

theorem digits?_eq_some {count number : ℕ} {text rest : Text} :
    digits? count text = some (number, rest) ↔
      ∃ digits, Digits count digits number ∧ text = digits ++ rest := by
  simp only [digits?]
  constructor
  · intro read
    split at read
    · next found =>
      rw [Bool.and_eq_true, decide_eq_true_eq, List.all_eq_true] at found
      obtain ⟨rfl, rfl⟩ := Prod.mk.inj (Option.some.inj read)
      exact ⟨text.take count, ⟨found.1, found.2, rfl⟩, (List.take_append_drop count text).symm⟩
    · contradiction
  · rintro ⟨digits, ⟨rfl, all, rfl⟩, rfl⟩
    have whole : digits.all Char.isDigit = true := List.all_eq_true.mpr all
    rw [List.take_left, List.drop_left, whole]
    simp

theorem Digits.digits?_append {count number : ℕ} {digits : Text}
    (read : Digits count digits number) (rest : Text) :
    digits? count (digits ++ rest) = some (number, rest) :=
  digits?_eq_some.mpr ⟨digits, read, rfl⟩

theorem literal?_eq_some {expected : Char} {text rest : Text} :
    literal? expected text = some rest ↔ text = expected :: rest := by
  cases text with
  | nil => simp [literal?]
  | cons c others =>
    by_cases same : c = expected <;> simp [literal?, same]

theorem literal?_cons (c : Char) (rest : Text) : literal? c (c :: rest) = some rest :=
  literal?_eq_some.mpr rfl

section
variable {α : Type} {text : Text} {result : α}

theorem bind_found {β : Type} {reading : Option β} {found : β} (read : reading = some found)
    (next : β → Option α) : (reading >>= next) = next found := by
  rw [read]
  rfl

theorem exists_of_digits? {count : ℕ} {next : ℕ × Text → Option α}
    (read : (digits? count text >>= next) = some result) :
    ∃ number digits rest, Digits count digits number ∧ text = digits ++ rest ∧
      next (number, rest) = some result := by
  obtain ⟨⟨number, rest⟩, found, after⟩ := Option.bind_eq_some_iff.mp read
  obtain ⟨digits, exact, same⟩ := digits?_eq_some.mp found
  exact ⟨number, digits, rest, exact, same, after⟩

theorem exists_of_literal? {expected : Char} {next : Text → Option α}
    (read : (literal? expected text >>= next) = some result) :
    ∃ rest, text = expected :: rest ∧ next rest = some result := by
  obtain ⟨rest, found, after⟩ := Option.bind_eq_some_iff.mp read
  exact ⟨rest, literal?_eq_some.mp found, after⟩

end

/-! ## Numerals -/

/-- A whole number as it is written: decimal digits, and no zero in front of others. -/
structure Numeral (digits : Text) (number : ℕ) : Prop where
  nonempty : digits ≠ []
  all : ∀ c ∈ digits, c.isDigit = true
  plain : digits.head? = some '0' → digits = ['0']
  value : decimal digits = number

private theorem toDigits_decimal_singleton {c : Char} (digit : c.isDigit = true) :
    Nat.toDigits 10 (decimal [c]) = [c] := by
  have below := decimal_singleton_lt digit
  simp only [Char.isDigit, Bool.and_eq_true, decide_eq_true_eq] at digit
  have above : '0'.toNat ≤ c.toNat := digit.1
  have zero : '0'.toNat = 48 := rfl
  have size : decimal [c] = c.toNat - 48 := Nat.zero_add _
  rw [Nat.toDigits_of_lt_base below, List.singleton_inj, ← Char.toNat_inj,
    Nat.toNat_digitChar_of_lt_ten below, size]
  omega

theorem numeral_toDigits (number : ℕ) : Numeral (Nat.toDigits 10 number) number where
  nonempty := Nat.toDigits_ne_nil
  all _ member := Nat.isDigit_of_mem_toDigits (by decide) (by decide) member
  plain := by
    induction number using Nat.strongRecOn with
    | ind number ih =>
      intro first
      by_cases short : number < 10
      · rw [Nat.toDigits_of_lt_base short] at first ⊢
        exact congrArg (fun c => [c]) (Option.some.inj first)
      · -- The digits in front of the last one are those of a number above zero.
        rw [Nat.toDigits_of_base_le (by decide) (by omega),
          List.head?_append_of_ne_nil _ Nat.toDigits_ne_nil] at first
        have value := @Nat.ofDigitChars_ten_toDigits (number / 10)
        rw [ih (number / 10) (by omega) first] at value
        have zero : Nat.ofDigitChars 10 ['0'] 0 = 0 := rfl
        omega
  value := Nat.ofDigitChars_ten_toDigits

/-- A number is written in one way. -/
theorem Numeral.eq_toDigits {digits : Text} {number : ℕ} (written : Numeral digits number) :
    digits = Nat.toDigits 10 number := by
  induction digits using List.reverseRecOn generalizing number with
  | nil => exact absurd rfl written.nonempty
  | append_singleton digits last ih =>
    obtain ⟨_, all, plain, rfl⟩ := written
    have single := toDigits_decimal_singleton (all last (by simp))
    by_cases alone : digits = []
    · rw [alone, List.nil_append, single]
    · rw [List.head?_append_of_ne_nil _ alone] at plain
      have first : digits.head? ≠ some '0' := by
        intro zero
        have short := congrArg List.length (plain zero)
        rw [List.length_append, List.length_singleton, List.length_singleton] at short
        exact alone (List.eq_nil_of_length_eq_zero (by omega))
      have start : digits = Nat.toDigits 10 (decimal digits) :=
        ih ⟨alone, fun c inside => all c (List.mem_append_left _ inside),
          fun zero => absurd zero first, rfl⟩
      have positive : 0 < decimal digits := by
        refine Nat.pos_of_ne_zero fun nothing => first ?_
        rw [start, nothing, Nat.toDigits_zero, List.head?_cons]
      calc digits ++ [last]
        _ = Nat.toDigits 10 (decimal digits) ++ Nat.toDigits 10 (decimal [last]) := by
          rw [← start, single]
        _ = Nat.toDigits 10 (10 * decimal digits + decimal [last]) :=
          Nat.toDigits_append_toDigits (by decide) positive
            (decimal_singleton_lt (all last (by simp)))
        _ = Nat.toDigits 10 (decimal (digits ++ [last])) := by
          rw [decimal_append, List.length_singleton, pow_one, Nat.mul_comm]

theorem Digits.unique {count number : ℕ} {first second : Text} (left : Digits count first number)
    (right : Digits count second number) : first = second := by
  -- Behind a one, the digits are those of a number that does not begin with a zero.
  have behind {digits : Text} (read : Digits count digits number) :
      Numeral ('1' :: digits) (10 ^ count + number) := by
    refine ⟨by simp, ?_, by simp, ?_⟩
    · intro c member
      rcases List.mem_cons.mp member with rfl | inside
      · rfl
      · exact read.all c inside
    · have parts := decimal_append ['1'] digits
      rw [read.length, read.value] at parts
      exact parts.trans (congrArg (· + number) (Nat.one_mul _))
  have same := (behind left).eq_toDigits.trans (behind right).eq_toDigits.symm
  exact (List.cons.inj same).2

end TenantSearch.Text
