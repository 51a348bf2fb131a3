import TenantSearch.Proofs.Answer
import TenantSearch.Proofs.FoldedText
import TenantSearch.Proofs.SettingsRules

/-! Loading settings. The name of a language is put in lower case before the rules are checked, by
the rules for any text, and is then looked for by its ASCII letters only. Both name the same
language: no other character has a lower case that is read as part of a name. So settings are loaded
exactly if they pass the check as they were written, and what is loaded is in its final form. -/
namespace TenantSearch

/-! ## White space and lower case -/

namespace Text

private theorem trim_trim (text : Text) : trim (trim text) = trim text := by
  apply trim_eq_self
  · intro c first
    have begins : trim text <+: trimStart text := List.rdropWhile_prefix isBlank _
    have head := List.head?_dropWhile_not isBlank text
    obtain ⟨rest, whole⟩ := begins
    rw [← trimStart, ← whole, List.head?_append, Option.mem_def.mp first] at head
    simpa using head
  · intro c last
    have head := List.head?_dropWhile_not isBlank (trimStart text).reverse
    rw [trim, trimEnd, List.getLast?_reverse] at last
    rw [Option.mem_def.mp last] at head
    exact head

private theorem mem_trim_or_isBlank {text : Text} {c : Char} (member : c ∈ text) :
    c ∈ trim text ∨ isBlank c = true := by
  obtain ⟨before, after, whole, left, right⟩ := exists_trim text
  rw [whole, List.mem_append, List.mem_append] at member
  rcases member with (first | inside) | last
  · exact Or.inr (left c first)
  · exact Or.inl inside
  · exact Or.inr (right c last)

private theorem of_isAscii {P : Char → Prop} (every : ∀ code < 128, P (Char.ofNat code)) {c : Char}
    (ascii : c.toNat < 128) : P c := by
  have here := every c.toNat ascii
  rwa [Char.ofNat_toNat] at here

private theorem toLower_of_not_isAscii {c : Char} (beyond : ¬ c.toNat < 128) : c.toLower = c := by
  apply Char.toLower_eq_of_not_isUpper
  have upper : c.isUpper = true → c.toNat < 128 := by
    simp only [Char.isUpper, decide_eq_true_eq, UInt32.le_iff_toNat_le]
    intro between
    exact Nat.lt_of_le_of_lt between.2 (by decide)
  exact fun found => beyond (upper found)

private theorem isBlank_toLower (c : Char) : isBlank c.toLower = isBlank c := by
  by_cases ascii : c.toNat < 128
  · exact of_isAscii (P := fun c => isBlank c.toLower = isBlank c) (by decide +kernel) ascii
  · rw [toLower_of_not_isAscii ascii]

private theorem trim_map_toLower (text : Text) :
    trim (text.map Char.toLower) = (trim text).map Char.toLower := by
  have same : isBlank ∘ Char.toLower = isBlank := funext isBlank_toLower
  simp only [trim, trimEnd, trimStart, List.dropWhile_map, same, ← List.map_reverse]

private theorem lowerBehind_eq_map {before text : Text}
    (plain : ∀ c ∈ text, c ≠ 'Σ' ∧ lowerChar c = [c.toLower]) :
    lowerBehind before text = text.map Char.toLower := by
  induction text generalizing before with
  | nil => rfl
  | cons c rest ih =>
    obtain ⟨other, lower⟩ := plain c List.mem_cons_self
    rw [lowerBehind, if_neg other, lower, List.map_cons, List.singleton_append,
      ih fun c member => plain c (List.mem_cons_of_mem _ member)]

end Text

/-! ## Names of languages -/

namespace Language

def mayName (c : Char) : Bool :=
  Text.isBlank c || all.any fun language => language.name.toList.contains c.toLower

private theorem isAscii_of_mem_name {language : Language} :
    ∀ letter ∈ language.name.toList, letter.toNat < 128 := by
  have every : language.name.toList.all (fun letter => Nat.blt letter.toNat 128) = true := by
    cases language <;> decide
  exact fun letter member => Nat.blt_eq.mp (List.all_eq_true.mp every letter member)

/-- Whether a code point beyond ASCII stands for no white space. The letter k, the lower case of one
such character, stands in no name either. -/
def isForeign (code : ℕ) : Bool :=
  Nat.beq code 0x6B || Nat.ble 128 code && !Text.blanks.any (Nat.beq code)

private theorem mayName_of_isForeign {code : ℕ} (foreign : isForeign code = true) :
    mayName (Char.ofNat code) = false := by
  rw [isForeign, Bool.or_eq_true, Bool.and_eq_true, Nat.beq_eq, Nat.ble_eq,
    Bool.not_eq_true'] at foreign
  rcases foreign with rfl | ⟨beyond, unblank⟩
  · decide +kernel
  by_cases valid : code.isValidChar
  · have same : (Char.ofNat code).toNat = code := by rw [Char.toNat_ofNat, if_pos valid]
    rw [mayName, Bool.or_eq_false_iff, List.any_eq_false]
    constructor
    · by_contra blank
      have listed := Text.mem_blanks_of_isBlank (Bool.not_eq_false _ ▸ blank)
      rw [same] at listed
      simpa using List.any_eq_false.mp unblank code listed
    · intro language _ inside
      rw [Text.toLower_of_not_isAscii (by omega), List.contains_iff_mem] at inside
      have ascii := isAscii_of_mem_name _ inside
      omega
  · have zero : Char.ofNat code = '\x00' := by
      rw [← Char.toNat_inj, Char.toNat_ofNat, if_neg valid]
      rfl
    rw [zero]
    decide +kernel

/-- No character beyond ASCII has a lower case that is read as part of a name. -/
private theorem lowering_isForeign : Text.Lowering.tree.allCodes (fun row code =>
    Nat.blt code 128 || (Text.Lowering.apply row code).any isForeign) = true := by
  decide +kernel

private theorem lowerChar_of_isAscii {c : Char} (ascii : c.toNat < 128) :
    c ≠ 'Σ' ∧ Text.lowerChar c = [c.toLower] :=
  Text.of_isAscii (P := fun c => c ≠ 'Σ' ∧ Text.lowerChar c = [c.toLower]) (by decide +kernel) ascii

private theorem lowerChar_of_mayName {c : Char}
    (named : ∀ lowered ∈ Text.lowerChar c, mayName lowered = true) :
    Text.lowerChar c = [c.toLower] := by
  by_cases ascii : c.toNat < 128
  · exact (lowerChar_of_isAscii ascii).2
  cases found : Text.Lowering.tree.find? c.toNat with
  | none =>
    unfold Text.lowerChar
    rw [found, Text.toLower_of_not_isAscii ascii]
  | some row =>
    have foreign := Text.RangeTree.test_of_allCodes lowering_isForeign found
    rw [Bool.or_eq_true, Nat.blt_eq, List.any_eq_true] at foreign
    obtain ⟨code, listed, unnamed⟩ := foreign.resolve_left ascii
    unfold Text.lowerChar at named
    rw [found] at named
    have read := named (Char.ofNat code) (List.mem_map_of_mem listed)
    simp [mayName_of_isForeign unnamed] at read

private theorem plain_of_lowerBehind {before text : Text}
    (named : ∀ c ∈ Text.lowerBehind before text, mayName c = true) :
    ∀ c ∈ text, c ≠ 'Σ' ∧ Text.lowerChar c = [c.toLower] := by
  induction text generalizing before with
  | nil => simp
  | cons first rest ih =>
    simp only [Text.lowerBehind, List.mem_append] at named
    have later := ih fun c member => named c (Or.inr member)
    have sigma : mayName 'ς' = false ∧ mayName 'σ' = false := by decide +kernel
    intro c member
    rcases List.mem_cons.mp member with rfl | inside
    · by_cases other : c = 'Σ'
      · rw [if_pos other] at named
        split at named <;> simp [sigma] at named
      · rw [if_neg other] at named
        exact ⟨other, lowerChar_of_mayName fun c member => named c (Or.inl member)⟩
    · exact later c inside

private theorem plain_of_named {text : Text} {language : Language}
    (named : text.map Char.toLower = language.name.toList) :
    ∀ c ∈ text, c ≠ 'Σ' ∧ Text.lowerChar c = [c.toLower] := by
  intro c member
  apply lowerChar_of_isAscii
  by_contra beyond
  have letter : c.toLower ∈ language.name.toList := named ▸ List.mem_map_of_mem member
  rw [Text.toLower_of_not_isAscii beyond] at letter
  exact beyond (isAscii_of_mem_name c letter)

private theorem mayName_of_named {text : Text} {language : Language}
    (named : (Text.trim text).map Char.toLower = language.name.toList) :
    ∀ c ∈ text, mayName c = true := by
  intro c member
  rw [mayName, Bool.or_eq_true]
  rcases Text.mem_trim_or_isBlank member with inside | blank
  · refine Or.inr (List.any_eq_true.mpr ⟨language, language.mem_all, ?_⟩)
    rw [List.contains_iff_mem, ← named]
    exact List.mem_map_of_mem inside
  · exact Or.inl blank

private theorem read_lower {text : Text} (trimmed : Text.trim text = text)
    (plain : ∀ c ∈ text, c ≠ 'Σ' ∧ Text.lowerChar c = [c.toLower]) :
    (Text.trim (Text.lower text)).map Char.toLower = text.map Char.toLower := by
  rw [Text.lower, Text.lowerBehind_eq_map plain, Text.trim_map_toLower, trimmed, List.map_map]
  exact List.map_congr_left fun c _ => Char.toLower_toLower_eq_toLower c

/-- Lower case changes no language. -/
theorem parse?_lower (raw : Text) : parse? (Text.lower (Text.trim raw)) = parse? raw := by
  have alike (language : Language) :
      (Text.trim (Text.lower (Text.trim raw))).map Char.toLower = language.name.toList ↔
        (Text.trim raw).map Char.toLower = language.name.toList := by
    constructor
    · intro named
      have plain := plain_of_lowerBehind (mayName_of_named named)
      rw [← named, read_lower (Text.trim_trim raw) plain]
    · intro named
      rw [read_lower (Text.trim_trim raw) (plain_of_named named), named]
  have same : (fun language : Language =>
      (Text.trim (Text.lower (Text.trim raw))).map Char.toLower == language.name.toList) =
      fun language => (Text.trim raw).map Char.toLower == language.name.toList := by
    funext language
    rw [Bool.eq_iff_iff, beq_iff_eq, beq_iff_eq, alike language]
  rw [parse?, parse?, same]

theorem lower_of_parse? {raw : Text} {language : Language} (named : parse? raw = some language) :
    Text.lower (Text.trim raw) = language.name.toList := by
  unfold parse? at named
  have same := List.find?_some named
  rw [beq_iff_eq] at same
  rw [Text.lower, Text.lowerBehind_eq_map (plain_of_named same), same]

theorem parse?_name (language : Language) : parse? language.name.toList = some language := by
  cases language <;> decide

end Language

/-! ## Loading -/

namespace Settings

private theorem rules_normalize (settings : Settings) :
    settings.normalize.rules = settings.rules := by
  have language : Language.parse? settings.normalize.search.language =
      Language.parse? settings.search.language := Language.parse?_lower _
  rw [rules, rules, SearchSettings.rules, SearchSettings.rules, language]
  rfl

theorem check_normalize (settings : Settings) :
    settings.normalize.check = settings.check.map normalize := by
  rw [check, check, broken?, broken?, rules_normalize]
  split <;> rfl

theorem normalize_normalize {settings : Settings} {language : Language}
    (named : Language.parse? settings.search.language = some language) :
    settings.normalize.normalize = settings.normalize := by
  have once := Language.lower_of_parse? named
  have twice := Language.lower_of_parse? (Language.parse?_name language)
  have level : Text.allBlank "info".toList = false := by decide
  unfold normalize
  simp only [once, twice]
  split <;> simp_all

/-- Settings pass their check exactly if they keep every rule, and else the first rule that they
break is reported. A text of settings is loaded exactly if the settings pass as they are written;
what is loaded is in its final form, with the plain name of the language that was written, and a
search for that language starts with it. -/
theorem load_decided_by_rules (settings : Settings) :
    (settings.check = .ok settings ↔ ∀ rule ∈ SettingsRule.inOrder, rule.Holds settings) ∧
      (∀ error, settings.check = .error error ↔ ∃ rule, SettingsRule.FirstBroken settings rule ∧
        error = .invalid rule ∧ ∀ path, error.message path = rule.message) ∧
      ∀ text, parse text = .ok settings →
        load (some text) = settings.check.map normalize ∧
          ∀ loaded, load (some text) = .ok loaded →
            loaded.normalize = loaded ∧ loaded.check = .ok loaded ∧
              ∃ language, Language.parse? settings.search.language = some language ∧
                loaded.search.language = language.name.toList ∧
                ∀ source, ∃ service, SearchService.ofSource loaded.search source = .ok service ∧
                  service.language = language ∧ service.settings = loaded.search ∧
                  service.source = source := by
  refine ⟨check_eq_ok_iff, ?_, ?_⟩
  · intro error
    rw [check_eq_error_iff]
    constructor
    · rintro ⟨rule, rfl, broken⟩
      exact ⟨rule, broken, rfl, fun _ => rfl⟩
    · rintro ⟨rule, broken, same, -⟩
      exact ⟨rule, same, broken⟩
  · intro text parsed
    have loads : load (some text) = settings.check.map normalize := by
      rw [load, parsed]
      exact check_normalize settings
    refine ⟨loads, ?_⟩
    intro loaded found
    rw [loads] at found
    rcases settings.check_eq_or with ⟨passed, -⟩ | ⟨rule, failed, -⟩
    · rw [passed] at found
      obtain rfl : settings.normalize = loaded := Except.ok.inj found
      obtain ⟨language, named⟩ := language_of_check passed
      have written := Language.lower_of_parse? named
      refine ⟨normalize_normalize named, ?_, language, named, written, ?_⟩
      · rw [check_normalize, passed]
        rfl
      · intro source
        have read : Language.parse? settings.normalize.search.language = some language :=
          (Language.parse?_lower _).trans named
        exact ⟨_, SearchService.ofSource_eq_ok read source, rfl, rfl, rfl⟩
    · rw [failed] at found
      cases found

def shouted : Text :=
  ["[service]", "http_bind = \"0:80\"", "log_level = \" \"", "[storage.postgres]",
    "dsn = \"db\"", "pool_max_conns = 4", "[search]", "language = \"\\tDUTCH \""].flatMap
    fun line => line.toList ++ ['\n']

theorem load_shouted : ∃ loaded service, load (some shouted) = .ok loaded ∧
    loaded.search.language = "dutch".toList ∧ loaded.normalize = loaded ∧
      SearchService.ofSource loaded.search (Store.sample.source .none) = .ok service ∧
      service.language = .dutch := by
  have read : (parse shouted).toOption.any (fun settings => settings.broken?.isNone &&
      Language.parse? settings.search.language == some .dutch) = true := by
    decide +kernel
  cases parsed : parse shouted with
  | error error => simp [parsed, Except.toOption] at read
  | ok settings =>
    simp only [parsed, Except.toOption, Option.any_some, Bool.and_eq_true,
      Option.isNone_iff_eq_none, beq_iff_eq] at read
    obtain ⟨sound, named⟩ := read
    obtain ⟨-, -, loading⟩ := load_decided_by_rules settings
    obtain ⟨loads, final⟩ := loading shouted parsed
    have passed : settings.check = .ok settings := by rw [check, sound]
    rw [passed] at loads
    obtain ⟨fixed, -, language, same, written, starts⟩ := final settings.normalize loads
    obtain rfl : Language.dutch = language := Option.some.inj (named.symm.trans same)
    obtain ⟨service, started, speaks, -⟩ := starts (Store.sample.source .none)
    exact ⟨_, service, loads, written, fixed, started, speaks⟩

end Settings

end TenantSearch
