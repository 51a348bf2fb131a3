import TenantSearch.Text.Basic
import TenantSearch.Text.WordBreak.Property

/-! Word boundaries by the rules of Unicode Standard Annex #29. A text is cut into segments: words,
runs of spaces, and single characters with the marks that follow them. The cut is made from left to
right; a segment grows as long as the rules forbid a boundary behind it. -/
namespace TenantSearch.Text.WordBreak

/-- What the end of a growing segment is. Marks, format characters and joiners do not change it. -/
inductive Tail where
  /-- A letter, Hebrew ones apart. -/
  | letter
  | hebrew
  | numeric
  | katakana
  | connector
  /-- One regional indicator that may still pair up. -/
  | flagHalf
  | flag
  | spaces
  /-- A joiner at the start of the segment. -/
  | joiner
  /-- A pictographic character behind a joiner. -/
  | pictograph
  /-- Any other character that marks follow. -/
  | marked
  /-- A single quote behind a Hebrew letter: it belongs to the word in any case. -/
  | hebrewQuote
  /-- Punctuation behind a letter that only a letter may follow; `kept` characters stay if none
  does. -/
  | midLetter (kept : Nat)
  /-- A double quote behind a Hebrew letter that only such a letter may follow. -/
  | midHebrew (kept : Nat)
  /-- Punctuation behind a digit that only a digit may follow. -/
  | midNumber (kept : Nat)
  deriving DecidableEq, Repr

def Property.isPassedOver : Property → Bool
  | .extend | .format | .joiner => true
  | _ => false

/-- How a segment of `size` characters takes up a character of the given class: the end that it
gets, or none at a boundary. -/
def Tail.next? (tail : Tail) (size : Nat) (passedOver : Bool) (next : Property) : Option Tail :=
  match tail, next with
  | .letter, .letter | .hebrew, .letter | .numeric, .letter | .connector, .letter
  | .hebrewQuote, .letter | .midLetter _, .letter => some .letter
  | .letter, .hebrewLetter | .hebrew, .hebrewLetter | .numeric, .hebrewLetter
  | .connector, .hebrewLetter | .hebrewQuote, .hebrewLetter | .midLetter _, .hebrewLetter
  | .midHebrew _, .hebrewLetter => some .hebrew
  | .letter, .numeric | .hebrew, .numeric | .numeric, .numeric | .connector, .numeric
  | .midNumber _, .numeric => some .numeric
  | .letter, .connector | .hebrew, .connector | .numeric, .connector | .katakana, .connector
  | .connector, .connector => some .connector
  | .katakana, .katakana | .connector, .katakana => some .katakana
  | .flagHalf, .regionalIndicator => some .flag
  | .spaces, .space => if passedOver then none else some .spaces
  | .hebrew, .singleQuote => some .hebrewQuote
  | .hebrew, .doubleQuote => some (.midHebrew size)
  | .letter, .singleQuote | .letter, .midLetter | .letter, .midNumberLetter
  | .hebrew, .midLetter | .hebrew, .midNumberLetter => some (.midLetter size)
  | .numeric, .singleQuote | .numeric, .midNumber | .numeric, .midNumberLetter =>
    some (.midNumber size)
  | _, _ => none

/-- How many characters of a segment of `size` characters stay in it when it cannot grow. -/
def Tail.settled (tail : Tail) (size : Nat) : Nat :=
  match tail with
  | .midLetter kept | .midHebrew kept | .midNumber kept => kept
  | _ => size

/-- The length of a segment that has `size` characters so far. `passedOver` tells whether marks
have been passed over in it and `joined` whether its last character is a joiner. -/
def grow (tail : Tail) (passedOver joined : Bool) (size : Nat) : List Char → Nat
  | [] => tail.settled size
  | c :: rest =>
    let next := property c
    if next.isPassedOver then grow tail true (next == .joiner) (size + 1) rest
    else if joined && isPictographic c then grow .pictograph passedOver false (size + 1) rest
    else match tail.next? size passedOver next with
      | some tail => grow tail passedOver false (size + 1) rest
      | none => tail.settled size

def Tail.start? (first : Property) (next : Option Property) : Option Tail :=
  match first with
  | .letter => some .letter
  | .hebrewLetter => some .hebrew
  | .numeric => some .numeric
  | .katakana => some .katakana
  | .connector => some .connector
  | .regionalIndicator => some .flagHalf
  | .joiner => some .joiner
  | .space => some .spaces
  | .carriageReturn | .lineFeed | .newline => none
  | _ => if next.any Property.isPassedOver then some .marked else none

def firstLength (c : Char) (rest : List Char) : Nat :=
  let next := rest.head?.map property
  match property c, next with
  | .carriageReturn, some .lineFeed => 2
  | first, next =>
    match Tail.start? first next with
    | some tail => grow tail false (first == .joiner) 1 rest
    | none => 1

def segments : Text → List Text
  | [] => []
  | c :: rest =>
    let length := firstLength c rest - 1
    (c :: rest.take length) :: segments (rest.drop length)
termination_by text => text.length
decreasing_by simp only [List.length_cons, List.length_drop]; omega

end TenantSearch.Text.WordBreak
