import TenantSearch.Stemming.Region
import TenantSearch.Stemming.Suffix

/-! The Portuguese stemmer. While a word is stemmed, a nasal vowel is written as the vowel with a
tilde behind it. -/
namespace TenantSearch.Stemming.Portuguese

private def vowel : Char → Bool := oneOf "aeiouáéíóúâêô"

private def spellNasal : Char → List Char
  | 'ã' => ['a', '~']
  | 'õ' => ['o', '~']
  | c => [c]

private def joinNasal : List Char → List Char
  | 'a' :: '~' :: rest => 'ã' :: joinNasal rest
  | 'o' :: '~' :: rest => 'õ' :: joinNasal rest
  | c :: rest => c :: joinNasal rest
  | [] => []

private def standard (rv r1 r2 : Nat) : List Char → Option (List Char) :=
  applyRules? [
    (["eza", "ezas", "ico", "ica", "icos", "icas", "ismo", "ismos", "ável", "ível", "ista", "istas",
      "oso", "osa", "osos", "osas", "amento", "amentos", "imento", "imentos", "adora", "ador",
      "aça~o", "adoras", "adores", "aço~es", "ante", "antes", "ância"], inRegion r2),
    (["logia", "logias"], replacing r2 "log"),
    (["uça~o", "uço~es"], replacing r2 "u"),
    (["ência", "ências"], replacing r2 "ente"),
    (["amente"], fun stem => (inRegion r1 stem).map fun stem =>
      match longest? 0 [(["iv"], true), (["os", "ic", "ad"], false)] stem with
      | some (further, shorter) =>
        if shorter.length < r2 then stem else if further then without "at" r2 shorter else shorter
      | none => stem),
    (["mente"], fun stem => (inRegion r2 stem).map (withoutLongest ["ante", "avel", "ível"] r2)),
    (["idade", "idades"], fun stem =>
      (inRegion r2 stem).map (withoutLongest ["abil", "ic", "iv"] r2)),
    (["iva", "ivo", "ivas", "ivos"], fun stem => (inRegion r2 stem).map (without "at" r2)),
    (["ira", "iras"], fun stem =>
      if stem.getLast? == some 'e' then (inRegion rv stem).map (ending · "ir") else none)]

private def verb (rv : Nat) (word : List Char) : Option (List Char) :=
  (longest? rv [(["ada", "ida", "ia", "aria", "eria", "iria", "ará", "ara", "erá", "era", "irá",
    "ava", "asse", "esse", "isse", "aste", "este", "iste", "ei", "arei", "erei", "irei", "am",
    "iam", "ariam", "eriam", "iriam", "aram", "eram", "iram", "avam", "em", "arem", "erem", "irem",
    "assem", "essem", "issem", "ado", "ido", "ando", "endo", "indo", "ara~o", "era~o", "ira~o",
    "ar", "er", "ir", "as", "adas", "idas", "ias", "arias", "erias", "irias", "arás", "aras",
    "erás", "eras", "irás", "avas", "es", "ardes", "erdes", "irdes", "ares", "eres", "ires",
    "asses", "esses", "isses", "astes", "estes", "istes", "is", "ais", "eis", "íeis", "aríeis",
    "eríeis", "iríeis", "áreis", "areis", "éreis", "ereis", "íreis", "ireis", "ásseis", "ésseis",
    "ísseis", "áveis", "ados", "idos", "ámos", "amos", "íamos", "aríamos", "eríamos", "iríamos",
    "áramos", "éramos", "íramos", "ávamos", "emos", "aremos", "eremos", "iremos", "ássemos",
    "êssemos", "íssemos", "imos", "armos", "ermos", "irmos", "eu", "iu", "ou", "ira", "iras"],
    ())] word).map (·.2)

private def dropAfterC (rv : Nat) (word : List Char) : List Char :=
  match before? "i" word with
  | some stem => if stem.getLast? == some 'c' && rv ≤ stem.length then stem else word
  | none => word

private def residualForm (rv : Nat) (word : List Char) : List Char :=
  match longest? 0 [(["e", "é", "ê"], true), (["ç"], false)] word with
  | some (true, stem) =>
    if stem.length < rv then word
    else match stem.reverse with
      | 'u' :: 'g' :: _ | 'i' :: 'c' :: _ => if rv < stem.length then stem.dropLast else stem
      | _ => stem
  | some (false, stem) => ending stem "c"
  | none => word

def stem (word : List Char) : List Char :=
  let word := word.flatMap spellNasal
  let rv := verbRegion vowel word
  let r1 := firstRegion vowel word
  let r2 := secondRegion vowel word
  let shortened := match (standard rv r1 r2 word).orElse fun _ => verb rv word with
    | some stem => dropAfterC rv stem
    | none => applyRules [(["os", "a", "i", "o", "á", "í", "ó"], inRegion rv)] word
  joinNasal (residualForm rv shortened)

end TenantSearch.Stemming.Portuguese
