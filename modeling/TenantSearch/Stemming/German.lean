import TenantSearch.Stemming.Region
import TenantSearch.Stemming.Suffix

/-! The German stemmer. While a word is stemmed, a capital U or Y stands for the letter between two
vowels, where it is no vowel. -/
namespace TenantSearch.Stemming.German

private def vowel : Char → Bool := oneOf "aeiouyäöü"

private def markGlides (previous : Option Char) : List Char → List Char
  | [] => []
  | c :: rest =>
    let between := previous.any vowel && rest.head?.any vowel
    let marked := if between && c == 'u' then 'U' else if between && c == 'y' then 'Y' else c
    marked :: markGlides (some marked) rest

private def spellOut (c : Char) : List Char := if c == 'ß' then ['s', 's'] else [c]

private def plain : Char → Char
  | 'Y' => 'y'
  | 'U' | 'ü' => 'u'
  | 'ä' => 'a'
  | 'ö' => 'o'
  | c => c

private def inflection (r1 : Nat) (word : List Char) : List Char :=
  match longest? 0 [(["em", "ern", "er"], 0), (["e", "en", "es"], 1), (["s"], 2)] word with
  | some (group, stem) =>
    if stem.length < r1 then word
    else if group = 0 then stem
    else if group = 1 then if endsIn "niss" stem then stem.dropLast else stem
    else if stem.getLast?.any (oneOf "bdfghklmnrt") then stem else word
  | none => word

private def comparison (r1 : Nat) (word : List Char) : List Char :=
  match longest? 0 [(["en", "er", "est"], true), (["st"], false)] word with
  | some (always, stem) =>
    if stem.length < r1 then word
    else if always || (3 < stem.length && stem.getLast?.any (oneOf "bdfghklmnt")) then stem
    else word
  | none => word

private def derivation (r1 r2 : Nat) (word : List Char) : List Char :=
  match longest? 0 [(["end", "ung"], 0), (["ig", "ik", "isch"], 1), (["lich", "heit"], 2),
      (["keit"], 3)] word with
  | some (group, stem) =>
    if stem.length < r2 then word
    else match group with
      | 0 =>
        match before? "ig" stem with
        | some shorter =>
          if shorter.getLast? != some 'e' && r2 ≤ shorter.length then shorter else stem
        | none => stem
      | 1 => if stem.getLast? != some 'e' then stem else word
      | 2 => if endsIn "er" stem then without "er" r1 stem else without "en" r1 stem
      | _ => withoutLongest ["lich", "ig"] r2 stem
  | none => word

def stem (word : List Char) : List Char :=
  let word := markGlides none (word.flatMap spellOut)
  let r1 := if word.length < 3 then word.length else firstRegion vowel word
  let r2 := if word.length < 3 then word.length else secondRegion vowel word
  let r1 := if word.length < 3 then r1 else max 3 r1
  (derivation r1 r2 (comparison r1 (inflection r1 word))).map plain

end TenantSearch.Stemming.German
