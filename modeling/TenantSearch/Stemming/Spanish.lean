import TenantSearch.Stemming.Region
import TenantSearch.Stemming.Suffix

/-! The Spanish stemmer. -/
namespace TenantSearch.Stemming.Spanish

private def vowel : Char → Bool := oneOf "aeiouáéíóúü"

private def unaccented : Char → Char
  | 'á' => 'a'
  | 'é' => 'e'
  | 'í' => 'i'
  | 'ó' => 'o'
  | 'ú' => 'u'
  | c => c

private def dropPronoun (rv : Nat) (word : List Char) : List Char :=
  match longest? 0 [(["me", "se", "sela", "selo", "selas", "selos", "la", "le", "lo", "las", "les",
      "los", "nos"], ())] word with
  | some (_, verb) =>
    match longest? 0 [(["iéndo"], "iendo"), (["ándo"], "ando"), (["ár"], "ar"), (["ér"], "er"),
        (["ír"], "ir"), (["ando", "iendo", "ar", "er", "ir"], ""), (["yendo"], "u")] verb with
    | some (replacement, stem) =>
      if stem.length < rv then word
      else if replacement == "" then verb
      else if replacement == "u" then if stem.getLast? == some 'u' then verb else word
      else ending stem replacement
    | none => word
  | none => word

private def standard (r1 r2 : Nat) : List Char → Option (List Char) :=
  applyRules? [
    (["anza", "anzas", "ico", "ica", "icos", "icas", "ismo", "ismos", "able", "ables", "ible",
      "ibles", "ista", "istas", "oso", "osa", "osos", "osas", "amiento", "amientos", "imiento",
      "imientos"], inRegion r2),
    (["adora", "ador", "ación", "adoras", "adores", "aciones", "ante", "antes", "ancia",
      "ancias"], fun stem => (inRegion r2 stem).map (without "ic" r2)),
    (["logía", "logías"], replacing r2 "log"),
    (["ución", "uciones"], replacing r2 "u"),
    (["encia", "encias"], replacing r2 "ente"),
    (["amente"], fun stem => (inRegion r1 stem).map fun stem =>
      match longest? 0 [(["iv"], true), (["os", "ic", "ad"], false)] stem with
      | some (further, shorter) =>
        if shorter.length < r2 then stem else if further then without "at" r2 shorter else shorter
      | none => stem),
    (["mente"], fun stem => (inRegion r2 stem).map (withoutLongest ["ante", "able", "ible"] r2)),
    (["idad", "idades"], fun stem =>
      (inRegion r2 stem).map (withoutLongest ["abil", "ic", "iv"] r2)),
    (["iva", "ivo", "ivas", "ivos"], fun stem => (inRegion r2 stem).map (without "at" r2))]

private def verbInY (rv : Nat) (word : List Char) : Option (List Char) :=
  match longest? rv [(["ya", "ye", "yan", "yen", "yeron", "yendo", "yo", "yó", "yas", "yes", "yais",
      "yamos"], ())] word with
  | some (_, stem) => if stem.getLast? == some 'u' then some stem else none
  | none => none

private def verb (rv : Nat) (word : List Char) : Option (List Char) :=
  match longest? rv [
    (["en", "es", "éis", "emos"], true),
    (["arían", "arías", "arán", "arás", "aríais", "aría", "aréis", "aríamos", "aremos", "ará",
      "aré", "erían", "erías", "erán", "erás", "eríais", "ería", "eréis", "eríamos", "eremos",
      "erá", "eré", "irían", "irías", "irán", "irás", "iríais", "iría", "iréis", "iríamos",
      "iremos", "irá", "iré", "aba", "ada", "ida", "ía", "ara", "iera", "ad", "ed", "id", "ase",
      "iese", "aste", "iste", "an", "aban", "ían", "aran", "ieran", "asen", "iesen", "aron",
      "ieron", "ado", "ido", "ando", "iendo", "ió", "ar", "er", "ir", "as", "abas", "adas",
      "idas", "ías", "aras", "ieras", "ases", "ieses", "ís", "áis", "abais", "íais", "arais",
      "ierais", "aseis", "ieseis", "asteis", "isteis", "ados", "idos", "amos", "ábamos", "íamos",
      "imos", "áramos", "iéramos", "iésemos", "ásemos"], false)] word with
  | some (true, stem) => some (if endsIn "gu" stem then stem.dropLast else stem)
  | some (false, stem) => some stem
  | none => none

private def dropResidue (rv : Nat) : List Char → List Char :=
  applyRules [
    (["os", "a", "o", "á", "í", "ó"], inRegion rv),
    (["e", "é"], fun stem => (inRegion rv stem).map fun stem =>
      if endsIn "gu" stem && rv < stem.length then stem.dropLast else stem)]

def stem (word : List Char) : List Char :=
  let rv := verbRegion vowel word
  let r1 := firstRegion vowel word
  let r2 := secondRegion vowel word
  let word := dropPronoun rv word
  let shortened := (standard r1 r2 word).orElse fun _ =>
    (verbInY rv word).orElse fun _ => verb rv word
  (dropResidue rv (shortened.getD word)).map unaccented

end TenantSearch.Stemming.Spanish
