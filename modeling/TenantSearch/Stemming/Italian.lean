import TenantSearch.Stemming.Region
import TenantSearch.Stemming.Suffix

/-! The Italian stemmer. While a word is stemmed, a capital I or U stands for the letter where it is
no vowel. -/
namespace TenantSearch.Stemming.Italian

private def vowel : Char → Bool := oneOf "aeiouàèìòù"

private def graveAccent : Char → Char
  | 'á' => 'à'
  | 'é' => 'è'
  | 'í' => 'ì'
  | 'ó' => 'ò'
  | 'ú' => 'ù'
  | c => c

private def markQu : List Char → List Char
  | 'q' :: 'u' :: rest => 'q' :: 'U' :: markQu rest
  | c :: rest => c :: markQu rest
  | [] => []

private def markGlides (previous : Option Char) : List Char → List Char
  | [] => []
  | c :: rest =>
    let between := previous.any vowel && rest.head?.any vowel
    let marked := if between && c == 'u' then 'U' else if between && c == 'i' then 'I' else c
    marked :: markGlides (some marked) rest

private def plain : Char → Char
  | 'I' => 'i'
  | 'U' => 'u'
  | c => c

private def dropPronoun (rv : Nat) (word : List Char) : List Char :=
  match longest? 0 [(["ci", "gli", "la", "le", "li", "lo", "mi", "ne", "si", "ti", "vi", "sene",
      "gliela", "gliele", "glieli", "glielo", "gliene", "mela", "mele", "meli", "melo", "mene",
      "tela", "tele", "teli", "telo", "tene", "cela", "cele", "celi", "celo", "cene", "vela",
      "vele", "veli", "velo", "vene"], ())] word with
  | some (_, verb) =>
    match longest? 0 [(["ando", "endo"], ""), (["ar", "er", "ir"], "e")] verb with
    | some (replacement, stem) => if rv ≤ stem.length then ending verb replacement else word
    | none => word
  | none => word

private def standard (rv r1 r2 : Nat) : List Char → Option (List Char) :=
  applyRules? [
    (["anza", "anze", "ico", "ici", "ica", "ice", "iche", "ichi", "ismo", "ismi", "abile", "abili",
      "ibile", "ibili", "ista", "iste", "isti", "istà", "istè", "istì", "oso", "osi", "osa", "ose",
      "mente", "atrice", "atrici", "ante", "anti"], inRegion r2),
    (["azione", "azioni", "atore", "atori"], fun stem => (inRegion r2 stem).map (without "ic" r2)),
    (["logia", "logie"], replacing r2 "log"),
    (["uzione", "uzioni", "usione", "usioni"], replacing r2 "u"),
    (["enza", "enze"], replacing r2 "ente"),
    (["amento", "amenti", "imento", "imenti"], inRegion rv),
    (["amente"], fun stem => (inRegion r1 stem).map fun stem =>
      match longest? 0 [(["iv"], true), (["os", "ic", "abil"], false)] stem with
      | some (further, shorter) =>
        if shorter.length < r2 then stem else if further then without "at" r2 shorter else shorter
      | none => stem),
    (["ità"], fun stem => (inRegion r2 stem).map (withoutLongest ["abil", "ic", "iv"] r2)),
    (["ivo", "ivi", "iva", "ive"], fun stem => (inRegion r2 stem).map fun stem =>
      match (before? "at" stem).bind (inRegion r2) with
      | some shorter => without "ic" r2 shorter
      | none => stem)]

private def verb (rv : Nat) (word : List Char) : Option (List Char) :=
  (longest? rv [(["ammo", "ando", "ano", "are", "arono", "asse", "assero", "assi", "assimo", "ata",
    "ate", "ati", "ato", "ava", "avamo", "avano", "avate", "avi", "avo", "emmo", "enda", "ende",
    "endi", "endo", "erà", "erai", "eranno", "ere", "erebbe", "erebbero", "erei", "eremmo", "eremo",
    "ereste", "eresti", "erete", "erò", "erono", "essero", "ete", "eva", "evamo", "evano", "evate",
    "evi", "evo", "Yamo", "iamo", "immo", "irà", "irai", "iranno", "ire", "irebbe", "irebbero",
    "irei", "iremmo", "iremo", "ireste", "iresti", "irete", "irò", "irono", "isca", "iscano",
    "isce", "isci", "isco", "iscono", "issero", "ita", "ite", "iti", "ito", "iva", "ivamo",
    "ivano", "ivate", "ivi", "ivo", "ono", "uta", "ute", "uti", "uto", "ar", "ir"],
    ())] word).map (·.2)

private def dropVowel (rv : Nat) (word : List Char) : List Char :=
  let bare := match word.getLast? with
    | some last =>
      if oneOf "aeioàèìò" last && rv < word.length then without "i" rv word.dropLast else word
    | none => word
  match before? "h" bare with
  | some stem => if stem.getLast?.any (oneOf "cg") && rv < stem.length then stem else bare
  | none => bare

def stem (word : List Char) : List Char :=
  let word := markGlides none (markQu (word.map graveAccent))
  let rv := verbRegion vowel word
  let r1 := firstRegion vowel word
  let r2 := secondRegion vowel word
  let word := dropPronoun rv word
  let word := ((standard rv r1 r2 word).orElse fun _ => verb rv word).getD word
  (dropVowel rv word).map plain

end TenantSearch.Stemming.Italian
