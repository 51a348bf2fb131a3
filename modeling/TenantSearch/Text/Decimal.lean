import TenantSearch.Text.Basic

/-! Decimal numbers and single characters inside a text: how they are read from its start, and how a
number is written with a fixed width. A reader gives what it has read and the rest of the text. -/
namespace TenantSearch.Text

def decimal (digits : Text) : Nat :=
  digits.foldl (fun number c => 10 * number + (c.toNat - '0'.toNat)) 0

def digits? (count : Nat) (text : Text) : Option (Nat × Text) :=
  let digits := text.take count
  if digits.length = count && digits.all Char.isDigit then some (decimal digits, text.drop count)
  else none

def literal? (expected : Char) : Text → Option Text
  | c :: rest => if c = expected then some rest else none
  | [] => none

def padded (width number : Nat) : Text :=
  let digits := Nat.toDigits 10 number
  List.replicate (width - digits.length) '0' ++ digits

end TenantSearch.Text
