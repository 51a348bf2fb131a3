import TenantSearch.Stemming.Region
import TenantSearch.Stemming.Suffix

/-! The French stemmer. While a word is stemmed, a capital I, U or Y stands for the letter where it
is no vowel, and a vowel with a diaeresis is written with a capital H before it. -/
namespace TenantSearch.Stemming.French

private def vowel : Char → Bool := oneOf "aeiouyâàëéêèïîôûù"

private def markFrom (c : Char) : List Char → List Char
  | [] => emit c none
  | d :: rest =>
    let marked :=
      if vowel c && d == 'u' && rest.head?.any vowel then 'U'
      else if vowel c && d == 'i' && rest.head?.any vowel then 'I'
      else if vowel c && d == 'y' then 'Y'
      else if c == 'q' && d == 'u' then 'U'
      else d
    emit c (some marked) ++ markFrom marked rest
where
  emit (c : Char) (next : Option Char) : List Char :=
    match c with
    | 'y' => if next.any vowel then ['Y'] else ['y']
    | 'ë' => ['H', 'e']
    | 'ï' => ['H', 'i']
    | _ => [c]

private def markGlides : List Char → List Char
  | [] => []
  | c :: rest => markFrom c rest

private def unmark : List Char → List Char
  | [] => []
  | 'H' :: 'e' :: rest => 'ë' :: unmark rest
  | 'H' :: 'i' :: rest => 'ï' :: unmark rest
  | 'H' :: rest => unmark rest
  | 'I' :: rest => 'i' :: unmark rest
  | 'U' :: rest => 'u' :: unmark rest
  | 'Y' :: rest => 'y' :: unmark rest
  | c :: rest => c :: unmark rest

/-- The start of the verb region: behind the third letter if the word starts with two vowels or
with one of three exceptional syllables, else behind the first vowel that is not the first
letter. -/
private def mainRegion (word : List Char) : Nat :=
  let threeDown := match word with
    | a :: b :: _ :: _ => vowel a && vowel b
    | _ => false
  if threeDown || ["par", "col", "tap"].any (·.toList.isPrefixOf word) then 3
  else match word with
    | [] => 0
    | _ :: rest => startOf word (past? vowel rest)

/-- What a standard suffix does: it is replaced and the verb suffixes are left alone, or it is
replaced and they are tried on what is left. -/
private inductive Outcome where
  | done (word : List Char)
  | again (word : List Char)

private def dropOr (suffix : String) (start : Nat) (replacement : String) (word : List Char) :
    List Char :=
  match before? suffix word with
  | some stem => if start ≤ stem.length then stem else ending stem replacement
  | none => word

private def afterEment (rv r1 r2 : Nat) (word : List Char) : List Char :=
  match longest? 0 [(["iv"], 0), (["eus"], 1), (["abl", "iqU"], 2), (["ièr", "Ièr"], 3)] word with
  | some (0, stem) => if r2 ≤ stem.length then without "at" r2 stem else word
  | some (1, stem) =>
    if r2 ≤ stem.length then stem
    else if r1 ≤ stem.length then ending stem "eux" else word
  | some (2, stem) => if r2 ≤ stem.length then stem else word
  | some (_, stem) => if rv ≤ stem.length then ending stem "i" else word
  | none => word

private def afterIte (r2 : Nat) (word : List Char) : List Char :=
  match longest? 0 [(["abil"], 0), (["ic"], 1), (["iv"], 2)] word with
  | some (0, _) => dropOr "abil" r2 "abl" word
  | some (1, _) => dropOr "ic" r2 "iqU" word
  | some (_, _) => without "iv" r2 word
  | none => word

private def afterIf (r2 : Nat) (word : List Char) : List Char :=
  match (before? "at" word).bind (inRegion r2) with
  | some stem => dropOr "ic" r2 "iqU" stem
  | none => word

private def standardRules (rv r1 r2 : Nat) : List (List String × (List Char → Option Outcome)) :=
  let finish (start : Nat) (change : List Char → List Char) (stem : List Char) : Option Outcome :=
    (inRegion start stem).map (.done <| change ·)
  let again (start : Nat) (replacement : String) (stem : List Char) : Option Outcome :=
    (inRegion start stem).map (.again <| ending · replacement)
  [ (["ance", "iqUe", "isme", "able", "iste", "eux", "ances", "iqUes", "ismes", "ables", "istes"],
      finish r2 id),
    (["atrice", "ateur", "ation", "atrices", "ateurs", "ations"], finish r2 (dropOr "ic" r2 "iqU")),
    (["logie", "logies"], finish r2 (ending · "log")),
    (["usion", "ution", "usions", "utions"], finish r2 (ending · "u")),
    (["ence", "ences"], finish r2 (ending · "ent")),
    (["ement", "ements"], finish rv (afterEment rv r1 r2)),
    (["ité", "ités"], finish r2 (afterIte r2)),
    (["if", "ive", "ifs", "ives"], finish r2 (afterIf r2)),
    (["eaux"], finish 0 (ending · "eau")),
    (["aux"], finish r1 (ending · "al")),
    (["euse", "euses"], fun stem =>
      if r2 ≤ stem.length then some (.done stem) else finish r1 (ending · "eux") stem),
    (["issement", "issements"], fun stem =>
      if stem.getLast?.any (!vowel ·) then finish r1 id stem else none),
    (["amment"], again rv "ant"),
    (["emment"], again rv "ent"),
    (["ment", "ments"], fun stem =>
      if stem.getLast?.any vowel then again (rv + 1) "" stem else none)]

private def standard (rv r1 r2 : Nat) (word : List Char) : Option Outcome :=
  match longest? 0 (standardRules rv r1 r2) word with
  | some (rule, stem) => rule stem
  | none => none

private def verbInI (rv : Nat) (word : List Char) : Option (List Char) :=
  match longest? rv [(["îmes", "ît", "îtes", "i", "ie", "ies", "ir", "ira", "irai", "iraIent",
      "irais", "irait", "iras", "irent", "irez", "iriez", "irions", "irons", "iront", "is",
      "issaIent", "issais", "issait", "issant", "issante", "issantes", "issants", "isse", "issent",
      "isses", "issez", "issiez", "issions", "issons", "it"], ())] word with
  | some (_, stem) =>
    -- the letter before the suffix must lie in the verb region as well
    if rv < stem.length && stem.getLast?.any (fun c => !vowel c && c != 'H') then some stem
    else none
  | none => none

private def verb (rv r2 : Nat) (word : List Char) : Option (List Char) :=
  match longest? rv [(["ions"], 0),
      (["é", "ée", "ées", "és", "èrent", "er", "era", "erai", "eraIent", "erais", "erait", "eras",
        "erez", "eriez", "erions", "erons", "eront", "ez", "iez"], 1),
      (["âmes", "ât", "âtes", "a", "ai", "aIent", "ais", "ait", "ant", "ante", "antes", "ants",
        "as", "asse", "assent", "asses", "assiez", "assions"], 2)] word with
  | some (0, stem) => inRegion r2 stem
  | some (1, stem) => some stem
  | some (_, stem) => some (without "e" rv stem)
  | none => none

private def residual (rv r2 : Nat) (word : List Char) : List Char :=
  let word := match before? "s" word with
    | some stem =>
      if endsIn "Hi" stem || stem.getLast?.any (!oneOf "aiouès" ·) then stem else word
    | none => word
  match longest? rv [(["ion"], 0), (["ier", "ière", "Ier", "Ière"], 1), (["e"], 2)] word with
  | some (0, stem) =>
    if r2 ≤ stem.length && rv < stem.length && stem.getLast?.any (oneOf "st") then stem else word
  | some (1, stem) => ending stem "i"
  | some (_, stem) => stem
  | none => word

private def undouble (word : List Char) : List Char :=
  if ["enn", "onn", "ett", "ell", "eill"].any (endsIn · word) then word.dropLast else word

private def unaccent (word : List Char) : List Char :=
  let consonants := word.reverse.takeWhile (!vowel ·)
  match word.reverse.dropWhile (!vowel ·) with
  | c :: rest =>
    if !consonants.isEmpty && (c == 'é' || c == 'è') then
      rest.reverse ++ 'e' :: consonants.reverse
    else word
  | [] => word

private def softEnd (word : List Char) : List Char :=
  match word.reverse with
  | 'Y' :: rest => ('i' :: rest).reverse
  | 'ç' :: rest => ('c' :: rest).reverse
  | _ => word

def stem (word : List Char) : List Char :=
  let word := markGlides word
  let rv := mainRegion word
  let r1 := firstRegion vowel word
  let r2 := secondRegion vowel word
  let verbal (word : List Char) : List Char :=
    match verbInI rv word with
    | some stem => softEnd stem
    | none =>
      match verb rv r2 word with
      | some stem => softEnd stem
      | none => residual rv r2 word
  let shortened := match standard rv r1 r2 word with
    | some (.done stem) => softEnd stem
    | some (.again stem) => verbal stem
    | none => verbal word
  unmark (unaccent (undouble shortened))

end TenantSearch.Stemming.French
