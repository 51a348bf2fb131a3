import TenantSearch.Stemming.Region
import TenantSearch.Stemming.Suffix

/-! The Dutch stemmer, by the rules with doubled vowels and consonants undone. While a word is
stemmed, a capital I or Y stands for the letter where it is no vowel. -/
namespace TenantSearch.Stemming.Dutch

private def vowel : Char → Bool := oneOf "aeiouyè"

private def unaccented : Char → Char
  | 'ä' | 'á' => 'a'
  | 'ë' | 'é' => 'e'
  | 'ï' | 'í' => 'i'
  | 'ö' | 'ó' => 'o'
  | 'ü' | 'ú' => 'u'
  | c => c

private def markGlides (previous : Option Char) : List Char → List Char
  | [] => []
  | c :: rest =>
    let marked :=
      if !previous.any vowel then c
      else if c == 'i' && rest.head?.any vowel then 'I'
      else if c == 'y' then 'Y'
      else c
    marked :: markGlides (some marked) rest

private def capitalY : List Char → List Char
  | 'y' :: rest => 'Y' :: rest
  | word => word

private def plain : Char → Char
  | 'Y' => 'y'
  | 'I' => 'i'
  | c => c

private def mainRegion (word : List Char) : Nat :=
  match pastSyllable? vowel word with
  | none => word.length
  | some rest =>
    let start := word.length - rest.length
    if (word.take start).foldl (· + ·.utf8Size) 0 < 3 then 3 else start

private def undouble (word : List Char) : List Char :=
  if endsIn "kk" word || endsIn "dd" word || endsIn "tt" word then word.dropLast else word

private def endsInNonVowel (word : List Char) : Bool := word.getLast?.any (!vowel ·)

/-- The stem before an ending in -en, with a doubled consonant undone; the word if the ending must
stay. -/
private def withoutEn (r1 : Nat) (stem word : List Char) : List Char :=
  if r1 ≤ stem.length && endsInNonVowel stem && !endsIn "gem" stem then undouble stem else word

private def dropInflection (r1 : Nat) (word : List Char) : List Char :=
  match longest? 0 [(["heden"], 0), (["en", "ene"], 1), (["s", "se"], 2)] word with
  | some (0, stem) => if r1 ≤ stem.length then ending stem "heid" else word
  | some (1, stem) => withoutEn r1 stem word
  | some (_, stem) =>
    if r1 ≤ stem.length && stem.getLast?.any (fun c => !vowel c && c != 'j') then stem else word
  | none => word

private def dropE (r1 : Nat) (word : List Char) : List Char × Bool :=
  match before? "e" word with
  | some stem =>
    if r1 ≤ stem.length && endsInNonVowel stem then (undouble stem, true) else (word, false)
  | none => (word, false)

private def dropHeid (r1 r2 : Nat) (word : List Char) : List Char :=
  match before? "heid" word with
  | some stem =>
    if r2 ≤ stem.length && stem.getLast? != some 'c' then
      match before? "en" stem with
      | some shorter => withoutEn r1 shorter stem
      | none => stem
    else word
  | none => word

private def dropDerivation (r1 r2 : Nat) (foundE : Bool) (word : List Char) : List Char :=
  match longest? 0 [(["end", "ing"], 0), (["ig"], 1), (["lijk"], 2), (["baar"], 3), (["bar"], 4)]
      word with
  | some (group, stem) =>
    if stem.length < r2 then word
    else match group with
      | 0 =>
        match before? "ig" stem with
        | some shorter =>
          if r2 ≤ shorter.length && shorter.getLast? != some 'e' then shorter else undouble stem
        | none => undouble stem
      | 1 => if stem.getLast? != some 'e' then stem else word
      | 2 => (dropE r1 stem).1
      | 3 => stem
      | _ => if foundE then stem else word
  | none => word

private def undoubleVowel (word : List Char) : List Char :=
  match word.reverse with
  | last :: a :: b :: c :: rest =>
    if !vowel last && last != 'I' && a == b && oneOf "aeou" a && !vowel c then
      (last :: a :: c :: rest).reverse
    else word
  | _ => word

def stem (word : List Char) : List Char :=
  let word := markGlides none (capitalY (word.map unaccented))
  let r1 := mainRegion word
  let r2 := secondRegion vowel word
  let (word, foundE) := dropE r1 (dropInflection r1 word)
  (undoubleVowel (dropDerivation r1 r2 foundE (dropHeid r1 r2 word))).map plain

end TenantSearch.Stemming.Dutch
