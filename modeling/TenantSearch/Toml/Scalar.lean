import TenantSearch.Document
import TenantSearch.Timestamp

/-! The unquoted values of TOML: booleans, integers, floats, dates and times. Each is a run of
characters without a blank, up to the one that may stand between a date and a time. -/
namespace TenantSearch.Toml

def digit? (radix : Nat) (c : Char) : Option Nat :=
  let value :=
    if c.isDigit then c.toNat - '0'.toNat
    else if 'a' ≤ c ∧ c ≤ 'f' then c.toNat - 'a'.toNat + 10
    else if 'A' ≤ c ∧ c ≤ 'F' then c.toNat - 'A'.toNat + 10
    else 16
  if value < radix then some value else none

/-- Whether a text is digits, with single underscores allowed between two of them. -/
def isDigits (radix : Nat) : Text → Bool
  | [] => false
  | [c] => (digit? radix c).isSome
  | c :: '_' :: rest => (digit? radix c).isSome && isDigits radix rest
  | c :: rest => (digit? radix c).isSome && isDigits radix rest

def number (radix : Nat) (text : Text) : Nat :=
  (text.filterMap (digit? radix)).foldl (fun number digit => radix * number + digit) 0

def signed : Text → Bool × Text
  | '+' :: rest => (false, rest)
  | '-' :: rest => (true, rest)
  | rest => (false, rest)

def isPlainInteger (text : Text) : Bool :=
  isDigits 10 text && (text.length == 1 || text.head? != some '0')

/-- An integer that any reader can hold: 128 bits, with or without a sign. -/
def held? (value : Int) : Option Document :=
  if -0x80000000000000000000000000000000 ≤ value ∧ value < 0x100000000000000000000000000000000 then
    some (.integer value)
  else none

def integer? (text : Text) : Option Document :=
  match text with
  | '0' :: 'x' :: digits => if isDigits 16 digits then held? (number 16 digits) else none
  | '0' :: 'o' :: digits => if isDigits 8 digits then held? (number 8 digits) else none
  | '0' :: 'b' :: digits => if isDigits 2 digits then held? (number 2 digits) else none
  | _ =>
    let (negative, digits) := signed text
    if isPlainInteger digits then
      held? (if negative then -(number 10 digits : Int) else number 10 digits)
    else none

def scaled (digits : Nat) (exponent : Int) : Float :=
  if exponent < 0 then Float.ofScientific digits true exponent.natAbs
  else Float.ofScientific digits false exponent.natAbs

def magnitude? (text : Text) : Option Float := do
  let isExponent (c : Char) : Bool := c == 'e' || c == 'E'
  let mantissa := text.takeWhile (!isExponent ·)
  let exponent := text.dropWhile (!isExponent ·)
  let whole := mantissa.takeWhile (· != '.')
  let point := mantissa.dropWhile (· != '.')
  if !isPlainInteger whole || (point.isEmpty && exponent.isEmpty) then none
  else
    let places ← match point with
      | [] => some []
      | _ :: places => if isDigits 10 places then some places else none
    let shift ← match exponent with
      | [] => some 0
      | _ :: power =>
        let (negative, digits) := signed power
        if isDigits 10 digits then
          some (if negative then -(number 10 digits : Int) else number 10 digits)
        else none
    let digits := number 10 (whole ++ places)
    let count := (places.filter (·.isDigit)).length
    -- beyond these powers of ten every number of so few digits is zero or too large
    let power := shift - count
    let size : Int := (Nat.toDigits 10 digits).length
    let value :=
      if digits = 0 || power + size < -400 then 0
      else if 400 < power + size then Float.ofScientific 1 false 400
      else scaled digits power
    if value.isInf then none else some value

/-- Reads a float, infinite and undefined ones included. One that is too large is refused. -/
def decimal? (text : Text) : Option Document :=
  let (negative, rest) := signed text
  let value? :=
    if rest = "inf".toList then some (1.0 / 0.0 : Float)
    else if rest = "nan".toList then some (0.0 / 0.0 : Float)
    else magnitude? rest
  value?.map fun value => .decimal (if negative then -value else value)

def date? (text : Text) : Option Text := do
  let (year, rest) ← Text.digits? 4 text
  let (month, rest) ← Text.digits? 2 (← Text.literal? '-' rest)
  let (day, rest) ← Text.digits? 2 (← Text.literal? '-' rest)
  if 1 ≤ month && month ≤ 12 && 1 ≤ day && day ≤ Timestamp.daysInMonth year month then some rest
  else none

def time? (text : Text) : Option Text := do
  let (hour, rest) ← Text.digits? 2 text
  let (minute, rest) ← Text.digits? 2 (← Text.literal? ':' rest)
  if 23 < hour || 59 < minute then none
  else match rest with
    | ':' :: seconds =>
      let (second, rest) ← Text.digits? 2 seconds
      if 60 < second then none else (Timestamp.fraction? rest).map (·.2)
    | _ => some rest

def isMoment (text : Text) : Bool :=
  match date? text with
  | some [] => true
  | some (separator :: rest) =>
    (separator == 'T' || separator == 't' || separator == ' ') &&
      match time? rest with
      | some [] => true
      | some offset => (Timestamp.offset? offset).isSome
      | none => false
  | none => time? text == some []

def scalar? (text : Text) : Option Document :=
  if text = "true".toList then some (.bool true)
  else if text = "false".toList then some (.bool false)
  else if isMoment text then some .moment
  else integer? text <|> decimal? text

end TenantSearch.Toml
