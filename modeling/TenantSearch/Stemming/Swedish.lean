import TenantSearch.Stemming.Region
import TenantSearch.Stemming.Suffix

/-! The Swedish stemmer. -/
namespace TenantSearch.Stemming.Swedish

private def vowel : Char → Bool := oneOf "aeiouyäåö"

private def region (word : List Char) : Nat :=
  if word.length < 3 then word.length else max 3 (firstRegion vowel word)

private def endings : List (List String × Bool) := [
  (["a", "arna", "erna", "heterna", "orna", "ad", "e", "ade", "ande", "arne", "are", "aste", "en",
    "anden", "aren", "heten", "ern", "ar", "er", "heter", "or", "as", "arnas", "ernas", "ornas",
    "es", "ades", "andes", "ens", "arens", "hetens", "erns", "at", "andet", "het", "ast"], true),
  (["s"], false)]

private def dropEnding (start : Nat) (word : List Char) : List Char :=
  match longest? start endings word with
  | some (always, stem) =>
    if always || stem.getLast?.any (oneOf "bcdfghjklmnoprtvy") then stem else word
  | none => word

private def shortenPair (start : Nat) (word : List Char) : List Char :=
  match longest? start [(["dd", "gd", "nn", "dt", "gt", "kt", "tt"], ())] word with
  | some _ => word.dropLast
  | none => word

private def dropDerivation (start : Nat) (word : List Char) : List Char :=
  match longest? start [(["lig", "ig", "els"], ""), (["löst"], "lös"), (["fullt"], "full")]
      word with
  | some (replacement, stem) => ending stem replacement
  | none => word

def stem (word : List Char) : List Char :=
  let start := region word
  dropDerivation start (shortenPair start (dropEnding start word))

end TenantSearch.Stemming.Swedish
