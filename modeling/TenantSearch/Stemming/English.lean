import TenantSearch.Stemming.Region
import TenantSearch.Stemming.Suffix

/-! The English stemmer. While a word is stemmed, a capital Y stands for the letter where it is a
consonant. -/
namespace TenantSearch.Stemming.English

private def vowel : Char → Bool := oneOf "aeiouy"

private def whole : List (String × String) := [
  ("skis", "ski"), ("skies", "sky"), ("dying", "die"), ("lying", "lie"), ("tying", "tie"),
  ("idly", "idl"), ("gently", "gentl"), ("ugly", "ugli"), ("early", "earli"), ("only", "onli"),
  ("singly", "singl"), ("sky", "sky"), ("news", "news"), ("howe", "howe"), ("atlas", "atlas"),
  ("cosmos", "cosmos"), ("bias", "bias"), ("andes", "andes")]

private def invariable : List String :=
  ["inning", "outing", "canning", "herring", "earring", "proceed", "exceed", "succeed"]

private def dropQuote : List Char → List Char
  | '\'' :: rest => rest
  | word => word

private def capitalY : List Char → List Char
  | 'y' :: rest => 'Y' :: rest
  | word => word

private def markConsonants (previous : Option Char) : List Char → List Char
  | [] => []
  | c :: rest =>
    let marked := if c == 'y' && previous.any vowel then 'Y' else c
    marked :: markConsonants (some marked) rest

private def exceptionalPrefix (word : List Char) : Option (List Char) :=
  ["gener", "commun", "arsen"].findSome? fun start =>
    if start.toList.isPrefixOf word then some (word.drop start.length) else none

private def mainRegion (word : List Char) : Option (List Char) :=
  match exceptionalPrefix word with
  | some rest => some rest
  | none => pastSyllable? vowel word

private def endsShort (word : List Char) : Bool :=
  match word.reverse with
  | [c, v] => !vowel c && vowel v
  | c :: v :: b :: _ => !oneOf "aeiouywxY" c && vowel v && !vowel b
  | _ => false

private def dropPossessive (word : List Char) : List Char :=
  applyRules [(["'", "'s", "'s'"], some)] word

private def singular : List Char → List Char :=
  applyRules [
    (["sses"], fun stem => some (ending stem "ss")),
    (["ied", "ies"], fun stem => some (ending stem (if 2 ≤ stem.length then "i" else "ie"))),
    (["s"], fun stem => if stem.dropLast.any vowel then some stem else none),
    (["us", "ss"], fun _ => none)]

private def restoreE (r1 : Nat) (stem : List Char) : List Char :=
  match longest? 0 [(["at", "bl", "iz"], true),
      (["bb", "dd", "ff", "gg", "mm", "nn", "pp", "rr", "tt"], false)] stem with
  | some (true, _) => ending stem "e"
  | some (false, _) => stem.dropLast
  | none => if stem.length == r1 && endsShort stem then ending stem "e" else stem

private def dropTense (r1 : Nat) : List Char → List Char :=
  applyRules [
    (["eed", "eedly"], replacing r1 "ee"),
    (["ed", "edly", "ing", "ingly"], fun stem =>
      if stem.any vowel then some (restoreE r1 stem) else none)]

private def finalI (word : List Char) : List Char :=
  match word.reverse with
  | y :: c :: b :: rest =>
    if (y == 'y' || y == 'Y') && !vowel c then ('i' :: c :: b :: rest).reverse else word
  | _ => word

private def shortenDouble (r1 : Nat) : List Char → List Char :=
  applyRules [
    (["tional"], replacing r1 "tion"), (["enci"], replacing r1 "ence"),
    (["anci"], replacing r1 "ance"), (["abli"], replacing r1 "able"),
    (["entli"], replacing r1 "ent"), (["izer", "ization"], replacing r1 "ize"),
    (["ational", "ation", "ator"], replacing r1 "ate"),
    (["alism", "aliti", "alli"], replacing r1 "al"),
    (["fulness"], replacing r1 "ful"), (["ousli", "ousness"], replacing r1 "ous"),
    (["iveness", "iviti"], replacing r1 "ive"), (["biliti", "bli"], replacing r1 "ble"),
    (["ogi"], fun stem => if stem.getLast? == some 'l' then replacing r1 "og" stem else none),
    (["fulli"], replacing r1 "ful"), (["lessli"], replacing r1 "less"),
    (["li"], fun stem =>
      if stem.getLast?.any (oneOf "cdeghkmnrt") then inRegion r1 stem else none)]

private def shortenSuffix (r1 r2 : Nat) : List Char → List Char :=
  applyRules [
    (["tional"], replacing r1 "tion"), (["ational"], replacing r1 "ate"),
    (["alize"], replacing r1 "al"), (["icate", "iciti", "ical"], replacing r1 "ic"),
    (["ful", "ness"], inRegion r1),
    (["ative"], fun stem => (inRegion r1 stem).bind (inRegion r2))]

private def dropSuffix (r2 : Nat) : List Char → List Char :=
  applyRules [
    (["al", "ance", "ence", "er", "ic", "able", "ible", "ant", "ement", "ment", "ent", "ism", "ate",
      "iti", "ous", "ive", "ize"], inRegion r2),
    (["ion"], fun stem => if stem.getLast?.any (oneOf "st") then inRegion r2 stem else none)]

private def dropFinal (r1 r2 : Nat) : List Char → List Char :=
  applyRules [
    (["e"], fun stem =>
      if r2 ≤ stem.length || (r1 ≤ stem.length && !endsShort stem) then some stem else none),
    (["l"], fun stem => if r2 ≤ stem.length && stem.getLast? == some 'l' then some stem else none)]

def stem (word : List Char) : List Char :=
  match whole.find? (·.1.toList == word) with
  | some (_, irregular) => irregular.toList
  | none =>
    if word.length < 3 then word
    else
      let plain := dropQuote word
      let marked := markConsonants none (capitalY plain)
      let main := mainRegion marked
      let r1 := startOf marked main
      let r2 := startOf marked (main.bind (pastSyllable? vowel))
      let noun := singular (dropPossessive marked)
      let result :=
        if invariable.any (·.toList == noun) then noun
        else dropFinal r1 r2 <| dropSuffix r2 <| shortenSuffix r1 r2 <| shortenDouble r1 <|
          finalI <| dropTense r1 noun
      if marked == plain then result else result.map fun c => if c == 'Y' then 'y' else c

end TenantSearch.Stemming.English
