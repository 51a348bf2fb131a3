import TenantSearch.Text.Basic

/-! Identifiers of 128 bits, written in hexadecimal. -/
namespace TenantSearch

structure Uuid where
  bits : BitVec 128
  deriving DecidableEq, Repr

namespace Uuid

def zero : Uuid := ⟨0⟩

instance : Inhabited Uuid := ⟨zero⟩

/-- Identifiers are ordered as numbers, which is the order of their written forms. -/
instance : Ord Uuid := ⟨fun a b => compare a.bits.toNat b.bits.toNat⟩

def hexDigit? (c : Char) : Option Nat :=
  if '0' ≤ c ∧ c ≤ '9' then some (c.toNat - '0'.toNat)
  else if 'a' ≤ c ∧ c ≤ 'f' then some (c.toNat - 'a'.toNat + 10)
  else if 'A' ≤ c ∧ c ≤ 'F' then some (c.toNat - 'A'.toNat + 10)
  else none

def hexDigit (value : Nat) : Char :=
  if value < 10 then Char.ofNat ('0'.toNat + value) else Char.ofNat ('a'.toNat + (value - 10))

def ofDigits? (text : Text) : Option Uuid :=
  if text.length = 32 then
    (text.mapM hexDigit?).map fun digits =>
      ⟨BitVec.ofNat 128 (digits.foldl (fun number digit => 16 * number + digit) 0)⟩
  else none

def ofGroups? (text : Text) : Option Uuid :=
  let groups := text.splitOn '-'
  if groups.map List.length = [8, 4, 4, 4, 12] then ofDigits? groups.flatten else none

def between? (opening closing : String) (text : Text) : Option Text :=
  let inner := (text.drop opening.length).take (text.length - opening.length - closing.length)
  if (text.take opening.length).map Char.toLower = opening.toList ∧
      text.drop (opening.length + inner.length) = closing.toList then some inner else none

/-- Reads an identifier: its digits alone, in groups, in groups between braces, or in groups as a
uniform resource name. -/
def parse? (text : Text) : Option Uuid :=
  ofDigits? text <|> ofGroups? text <|> (between? "\x7b" "\x7d" text).bind ofGroups? <|>
    (between? "urn:uuid:" "" text).bind ofGroups?

def digits (id : Uuid) : Text :=
  (List.range 32).map fun index => hexDigit ((id.bits.toNat >>> (4 * (31 - index))) % 16)

def render (id : Uuid) : Text :=
  let digits := id.digits
  digits.take 8 ++ '-' :: (digits.drop 8).take 4 ++ '-' :: (digits.drop 12).take 4 ++
    '-' :: (digits.drop 16).take 4 ++ '-' :: digits.drop 20

end Uuid

end TenantSearch
