import TenantSearch.Text.Decimal

/-! Points in time as RFC 3339 writes them: a date and a time of day in the Gregorian calendar with
an offset from UTC, which is kept. -/
namespace TenantSearch

structure Timestamp where
  year : Nat
  month : Nat
  day : Nat
  hour : Nat
  minute : Nat
  second : Nat
  nanosecond : Nat
  /-- Minutes by which the local time is ahead of UTC. -/
  offset : Int
  deriving DecidableEq, Repr

namespace Timestamp
open Text (decimal digits? literal? padded)

def epoch : Timestamp := ⟨1970, 1, 1, 0, 0, 0, 0, 0⟩

instance : Inhabited Timestamp := ⟨epoch⟩

def isLeapYear (year : Nat) : Bool :=
  year % 4 == 0 && (year % 100 != 0 || year % 400 == 0)

def daysInMonth (year month : Nat) : Nat :=
  if month = 2 then if isLeapYear year then 29 else 28
  else if month = 4 ∨ month = 6 ∨ month = 9 ∨ month = 11 then 30
  else 31

/-- The number of days from the first day of the year 0 to a date. -/
def dayNumber (year month day : Nat) : Nat :=
  let last := year - 1
  let before := if year = 0 then 0 else 365 * year + last / 4 - last / 100 + last / 400 + 1
  (List.range (month - 1)).foldl (fun days index => days + daysInMonth year (index + 1)) before +
    (day - 1)

def utcMinutes (time : Timestamp) : Int :=
  1440 * dayNumber time.year time.month time.day + 60 * time.hour + time.minute - time.offset

/-- The point in time, in nanoseconds from the start of the year 0 in UTC. -/
def instant (time : Timestamp) : Int :=
  1000000000 * (60 * time.utcMinutes + time.second) + time.nanosecond

/-- Whether a time lies in the last minute, in UTC, of the last day of a month: the next minute is
the first one of a month. -/
def endsMonth (time : Timestamp) : Bool :=
  let next := time.utcMinutes + 1
  next % 1440 == 0 &&
    [time.year - 1, time.year, time.year + 1].any fun year =>
      (List.range 12).any fun index => 1440 * (dayNumber year (index + 1) 1 : Int) == next

/-! ## Reading -/

def nanoseconds (fraction : Text) : Nat :=
  decimal ((fraction ++ List.replicate 9 '0').take 9)

def fraction? : Text → Option (Nat × Text)
  | '.' :: rest =>
    let fraction := rest.takeWhile Char.isDigit
    if fraction.isEmpty then none else some (nanoseconds fraction, rest.dropWhile Char.isDigit)
  | rest => some (0, rest)

def offset? : Text → Option Int
  | ['Z'] | ['z'] => some 0
  | sign :: rest => do
    let (hours, rest) ← digits? 2 rest
    let rest ← literal? ':' rest
    let (minutes, rest) ← digits? 2 rest
    if !rest.isEmpty || 23 < hours || 59 < minutes then none
    else if sign = '+' then some (60 * hours + minutes)
    else if sign = '-' then some (-(60 * hours + minutes))
    else none
  | [] => none

def separator? : Text → Option Text
  | c :: rest => if c.toNat < 128 then some rest else none
  | [] => none

/-- Reads a timestamp. A leap second is only accepted where one can be, in the last minute of a
month in UTC, and becomes the last nanosecond before it. -/
def parse? (text : Text) : Option Timestamp := do
  let (year, rest) ← digits? 4 text
  let (month, rest) ← digits? 2 (← literal? '-' rest)
  let (day, rest) ← digits? 2 (← literal? '-' rest)
  let (hour, rest) ← digits? 2 (← separator? rest)
  let (minute, rest) ← digits? 2 (← literal? ':' rest)
  let (second, rest) ← digits? 2 (← literal? ':' rest)
  let (nanosecond, rest) ← fraction? rest
  let offset ← offset? rest
  if month < 1 || 12 < month || day < 1 || daysInMonth year month < day then none
  else if 23 < hour || 59 < minute || 60 < second then none
  else if second < 60 then some ⟨year, month, day, hour, minute, second, nanosecond, offset⟩
  else
    let time : Timestamp := ⟨year, month, day, hour, minute, 59, 999999999, offset⟩
    if time.endsMonth then some time else none

/-! ## Writing -/

def withoutFinalZeros (digits : Text) : Text := (digits.reverse.dropWhile (· == '0')).reverse

/-- The written form: no fraction when it is zero, no zeros at its end, and Z for no offset. -/
def render (time : Timestamp) : Text :=
  let fraction :=
    if time.nanosecond = 0 then [] else '.' :: withoutFinalZeros (padded 9 time.nanosecond)
  let offset :=
    if time.offset = 0 then ['Z']
    else
      let minutes := time.offset.natAbs
      (if time.offset < 0 then '-' else '+') :: padded 2 (minutes / 60) ++
        ':' :: padded 2 (minutes % 60)
  padded 4 time.year ++ '-' :: padded 2 time.month ++ '-' :: padded 2 time.day ++
    'T' :: padded 2 time.hour ++ ':' :: padded 2 time.minute ++ ':' :: padded 2 time.second ++
    fraction ++ offset

/-- The written form, if there is one: it has no place for a fifth digit of the year or for an
offset of a day. -/
def render? (time : Timestamp) : Option Text :=
  if 9999 < time.year || 1440 ≤ time.offset.natAbs then none else some time.render

def renderMinute (time : Timestamp) : Text :=
  padded 4 time.year ++ '-' :: padded 2 time.month ++ '-' :: padded 2 time.day ++
    ' ' :: padded 2 time.hour ++ ':' :: padded 2 time.minute

end Timestamp

end TenantSearch
