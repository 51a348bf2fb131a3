import TenantSearch.Proofs.CandidateOrder
import TenantSearch.Record.Display

/-! Links tell records apart: the path of a link gives the kind of its record, and the rest the
written form of the identifier, from which every digit can be read off. -/
namespace TenantSearch

namespace Uuid

theorem hexDigit?_hexDigit : ∀ value, value < 16 → hexDigit? (hexDigit value) = some value := by
  decide

private theorem hexDigit_inj {a b : Nat} (left : a < 16) (right : b < 16)
    (same : hexDigit a = hexDigit b) : a = b := by
  have read := hexDigit?_hexDigit a left
  rw [same, hexDigit?_hexDigit b right] at read
  exact (Option.some.inj read).symm

@[simp] private theorem length_digits (id : Uuid) : id.digits.length = 32 := by
  simp [digits]

private theorem testBit_eq_digit (number bit : Nat) :
    number.testBit bit = ((number >>> (4 * (bit / 4))) % 16).testBit (bit % 4) := by
  have inside : bit % 4 < 4 := Nat.mod_lt bit (by decide)
  change _ = ((number >>> (4 * (bit / 4))) % 2 ^ 4).testBit (bit % 4)
  rw [Nat.testBit_mod_two_pow, Nat.testBit_shiftRight, Nat.div_add_mod]
  simp [inside]

private theorem digits_injective {a b : Uuid} (same : a.digits = b.digits) : a = b := by
  apply eq_of_toNat_eq
  apply Nat.eq_of_testBit_eq
  intro bit
  by_cases beyond : 128 ≤ bit
  · have bound : 2 ^ 128 ≤ 2 ^ bit := Nat.pow_le_pow_right (by decide) beyond
    rw [Nat.testBit_lt_two_pow (Nat.lt_of_lt_of_le a.bits.isLt bound),
      Nat.testBit_lt_two_pow (Nat.lt_of_lt_of_le b.bits.isLt bound)]
  · have digit := List.map_inj_left.mp same (31 - bit / 4) (List.mem_range.mpr (by omega))
    have place : 31 - (31 - bit / 4) = bit / 4 := by omega
    rw [place] at digit
    have equal := hexDigit_inj (Nat.mod_lt _ (by decide)) (Nat.mod_lt _ (by decide)) digit
    rw [testBit_eq_digit, testBit_eq_digit b.bits.toNat, equal]

@[simp] private theorem length_render (id : Uuid) : id.render.length = 36 := by
  simp [render]

private theorem regroup (digits : Text) : digits.take 8 ++ ((digits.drop 8).take 4 ++
    ((digits.drop 12).take 4 ++ ((digits.drop 16).take 4 ++ digits.drop 20))) = digits := by
  have join (start : Nat) :
      (digits.drop start).take 4 ++ digits.drop (start + 4) = digits.drop start := by
    rw [← List.drop_drop, List.take_append_drop]
  rw [join 16, join 12, join 8, List.take_append_drop]

theorem render_injective {a b : Uuid} (same : a.render = b.render) : a = b := by
  apply digits_injective
  obtain ⟨same, fifth⟩ := List.append_inj' same (by simp)
  obtain ⟨same, fourth⟩ := List.append_inj' same (by simp)
  obtain ⟨same, third⟩ := List.append_inj' same (by simp)
  obtain ⟨first, second⟩ := List.append_inj' same (by simp)
  rw [← regroup a.digits, first, (List.cons.inj second).2, (List.cons.inj third).2,
    (List.cons.inj fourth).2, (List.cons.inj fifth).2, regroup]

end Uuid

theorem RecordKind.eq_of_path_eq {a b : RecordKind} (same : a.path.toList = b.path.toList) :
    a = b := by
  revert same
  cases a <;> cases b <;> decide

theorem Record.key_eq_of_link_eq {a b : Record} (same : a.link = b.link) : a.key = b.key := by
  obtain ⟨path, id⟩ := List.append_inj' same (by simp)
  have kinds : a.kind = b.kind := RecordKind.eq_of_path_eq path
  have ids : a.id = b.id := Uuid.render_injective (List.cons.inj id).2
  exact Prod.ext kinds ids

end TenantSearch
