import TenantSearch.Proofs.RegularScores
import TenantSearch.Proofs.ValidWeights

/-! The rules for settings, said without the check: what each of them asks, weights and factors as
the numbers that they stand for, and the order in which they count. Settings pass the check exactly
if they keep every rule, and else it reports the first rule that they break, also where a weight or
a factor is infinite or no number. -/
namespace TenantSearch

/-! ## Numbers -/

namespace Score

private theorem pos_iff_value_pos (score : Score) :
    score.isFinite = true ∧ 0 < score ↔ score.Finite ∧ 0 < score.value := by
  constructor
  · rintro ⟨number, positive⟩
    have finite := finite_of_pos positive number
    exact ⟨finite, finite.value_pos positive⟩
  · rintro ⟨finite, positive⟩
    refine ⟨finite.isFinite, ?_⟩
    rw [finite.regular.pos_iff, ← not_le, Nat.le_zero]
    intro nothing
    have zero : score = 0 := eq_of_toBits nothing
    rw [zero, value_zero] at positive
    exact lt_irrefl 0 positive

private theorem Finite.le_iff_value_le {a b : Score} (left : a.Finite) (right : b.Finite) :
    a ≤ b ↔ a.value ≤ b.value := by
  rw [left.regular.le_iff right.regular, value_le_value left right]

private theorem Finite.lt_iff_value_lt {a b : Score} (left : a.Finite) (right : b.Finite) :
    a < b ↔ a.value < b.value := by
  rw [left.regular.lt_iff right.regular, ← not_le, ← value_le_value right left, not_le]

end Score

/-! ## Rules -/

namespace SettingsRule

def inOrder : List SettingsRule :=
  [httpBindGiven, dsnGiven, poolMaxConnsPositive, maxLimitPositive, defaultLimitInRange,
    minQueryCharsAtLeastTwo, queryCharsInOrder, prefixMinCharsPositive, languageKnown,
    timeoutPositive, weightPositive "a", weightPositive "b", weightPositive "c",
    weightPositive "d", weightsInOrder, dampingInRange "note", dampingInRange "service_note",
    dampingInRange "quote", dampingInRange "appointment", dampingInRange "partner",
    dampingInOrder "note" "service_note", dampingInOrder "service_note" "quote",
    dampingInOrder "quote" "appointment", dampingInOrder "appointment" "partner",
    minWordsPositive, wordsInOrder, selectorsGiven]

/-- What a rule asks. The values of weights and factors are compared only once each of them is known
to be a finite number above zero, as the rules for that stand before. -/
def Holds (settings : Settings) : SettingsRule → Prop
  | httpBindGiven => ∃ c ∈ settings.service.httpBind, Text.isBlank c = false
  | dsnGiven => ∃ c ∈ settings.postgres.dsn, Text.isBlank c = false
  | poolMaxConnsPositive => 1 ≤ settings.postgres.poolMaxConns
  | maxLimitPositive => 1 ≤ settings.search.maxLimit
  | defaultLimitInRange =>
    1 ≤ settings.search.defaultLimit ∧ settings.search.defaultLimit ≤ settings.search.maxLimit
  | minQueryCharsAtLeastTwo => 2 ≤ settings.search.minQueryChars
  | queryCharsInOrder => settings.search.minQueryChars ≤ settings.search.maxQueryChars
  | prefixMinCharsPositive => 1 ≤ settings.search.prefixMinChars
  | languageKnown => ∃ language : Language,
    (Text.trim settings.search.language).map Char.toLower = language.name.toList
  | timeoutPositive => 1 ≤ settings.search.queryTimeoutMs
  | weightPositive name => ∀ weight, (name, weight) ∈ settings.search.weights.named →
    weight.Finite ∧ 0 < weight.value
  | weightsInOrder =>
    settings.search.weights.b.value ≤ settings.search.weights.a.value ∧
      settings.search.weights.c.value ≤ settings.search.weights.b.value ∧
      settings.search.weights.d.value ≤ settings.search.weights.c.value
  | dampingInRange name => ∀ factor, (name, factor) ∈ settings.search.damping.named →
    factor.Finite ∧ 0 < factor.value ∧ factor.value < 1
  | dampingInOrder higher lower => ∀ above below,
    (higher, above) ∈ settings.search.damping.named →
      (lower, below) ∈ settings.search.damping.named → below.value < above.value
  | minWordsPositive => 1 ≤ settings.search.snippet.minWords
  | wordsInOrder => settings.search.snippet.minWords ≤ settings.search.snippet.maxWords
  | selectorsGiven =>
    settings.search.snippet.opening ≠ [] ∧ settings.search.snippet.closing ≠ []

private theorem inRange_before_inOrder :
    let names := ["note", "service_note", "quote", "appointment", "partner"]
    ∀ pair ∈ names.zip names.tail, ∀ name ∈ names,
      dampingInRange name ∈ inOrder.takeWhile (· ≠ dampingInOrder pair.1 pair.2) := by
  decide +kernel

/-- The first rule that settings break. -/
def FirstBroken (settings : Settings) (rule : SettingsRule) : Prop :=
  ∃ before after, inOrder = before ++ rule :: after ∧
    (∀ earlier ∈ before, earlier.Holds settings) ∧ ¬ rule.Holds settings

section
variable {settings : Settings}

private theorem FirstBroken.not_holds {rule : SettingsRule} (first : FirstBroken settings rule) :
    ¬ ∀ rule ∈ inOrder, rule.Holds settings := by
  obtain ⟨before, after, order, -, broken⟩ := first
  intro every
  refine broken (every rule ?_)
  rw [order]
  exact List.mem_append_right _ List.mem_cons_self

theorem FirstBroken.unique {first second : SettingsRule} (left : FirstBroken settings first)
    (right : FirstBroken settings second) : first = second := by
  classical
  have found {rule : SettingsRule} (broken : FirstBroken settings rule) :
      inOrder.find? (fun rule => ¬ rule.Holds settings) = some rule := by
    obtain ⟨before, after, split, kept, fails⟩ := broken
    rw [List.find?_eq_some_iff_append]
    exact ⟨decide_eq_true fails, before, after, split, fun earlier member => by
      simp [kept earlier member]⟩
  exact Option.some.inj ((found left).symm.trans (found right))

end

end SettingsRule

/-! ## Names -/

theorem Language.mem_all (language : Language) : language ∈ Language.all := by
  cases language <;> decide

private theorem Weights.nodup_names (weights : Weights) : (weights.named.map Prod.fst).Nodup := by
  simp [named]

private theorem Damping.nodup_names (damping : Damping) : (damping.named.map Prod.fst).Nodup := by
  simp [named]

theorem eq_of_named {named : List (String × Score)} (names : (named.map Prod.fst).Nodup)
    {name : String} {first second : Score} (left : (name, first) ∈ named)
    (right : (name, second) ∈ named) : first = second :=
  (Prod.mk.inj (List.inj_on_of_nodup_map names left right rfl)).2

namespace Settings

private theorem rules_inOrder (settings : Settings) :
    settings.rules.map (·.1) = SettingsRule.inOrder := rfl

private theorem not_allBlank_iff {text : Text} :
    (!Text.allBlank text) = true ↔ ∃ c ∈ text, Text.isBlank c = false := by
  simp [Text.allBlank]

private theorem isSome_parse?_iff {raw : Text} : (Language.parse? raw).isSome = true ↔
    ∃ language : Language, (Text.trim raw).map Char.toLower = language.name.toList := by
  simp [Language.parse?, List.find?_isSome, Language.mem_all]

/-! ## Each rule -/

def HoldsBefore (settings : Settings) (rule : SettingsRule) : Prop :=
  ∀ earlier ∈ SettingsRule.inOrder.takeWhile (· ≠ rule), earlier.Holds settings

section
variable {settings : Settings}

private theorem weight_kept_iff {name : String} {weight : Score}
    (listed : (name, weight) ∈ settings.search.weights.named) :
    (weight.isFinite && decide (0 < weight)) = true ↔
      (SettingsRule.weightPositive name).Holds settings := by
  rw [Bool.and_eq_true, decide_eq_true_eq, Score.pos_iff_value_pos]
  constructor
  · intro sound other found
    obtain rfl := eq_of_named settings.search.weights.nodup_names found listed
    exact sound
  · exact fun every => every weight listed

private theorem weightsInOrder_kept_iff (before : settings.HoldsBefore .weightsInOrder) :
    (decide (settings.search.weights.b ≤ settings.search.weights.a) &&
      decide (settings.search.weights.c ≤ settings.search.weights.b) &&
      decide (settings.search.weights.d ≤ settings.search.weights.c)) = true ↔
      SettingsRule.weightsInOrder.Holds settings := by
  have finite {name : String} (earlier : .weightPositive name ∈
      SettingsRule.inOrder.takeWhile (· ≠ .weightsInOrder)) {weight : Score}
      (listed : (name, weight) ∈ settings.search.weights.named) : weight.Finite :=
    (before (.weightPositive name) earlier weight listed).1
  have a := finite (by decide) (List.mem_of_getElem? (i := 0) rfl)
  have b := finite (by decide) (List.mem_of_getElem? (i := 1) rfl)
  have c := finite (by decide) (List.mem_of_getElem? (i := 2) rfl)
  have d := finite (by decide) (List.mem_of_getElem? (i := 3) rfl)
  simp only [Bool.and_eq_true, decide_eq_true_eq, b.le_iff_value_le a, c.le_iff_value_le b,
    d.le_iff_value_le c, and_assoc, SettingsRule.Holds]

private theorem damping_kept_iff {name : String} {factor : Score}
    (listed : (name, factor) ∈ settings.search.damping.named) :
    (factor.isFinite && decide (0 < factor) && decide (factor < 1)) = true ↔
      (SettingsRule.dampingInRange name).Holds settings := by
  have one : Score.Finite 1 := by decide
  have below : factor.Finite → (factor < 1 ↔ factor.value < 1) := by
    intro finite
    rw [finite.lt_iff_value_lt one, Score.value_one]
  rw [Bool.and_eq_true, Bool.and_eq_true, decide_eq_true_eq, decide_eq_true_eq,
    Score.pos_iff_value_pos, and_assoc,
    and_congr_right fun finite => and_congr_right fun _ => below finite]
  constructor
  · intro sound other found
    obtain rfl := eq_of_named settings.search.damping.nodup_names found listed
    exact sound
  · exact fun every => every factor listed

private theorem dampingInOrder_kept_iff {higher lower : String × Score}
    (listed : (higher, lower) ∈ settings.search.damping.named.zip
      settings.search.damping.named.tail)
    (before : settings.HoldsBefore (.dampingInOrder higher.1 lower.1)) :
    decide (lower.2 < higher.2) = true ↔
      (SettingsRule.dampingInOrder higher.1 lower.1).Holds settings := by
  have finite : ∀ factor ∈ settings.search.damping.named, factor.2.Finite := by
    intro factor member
    refine (before (.dampingInRange factor.1) ?_ factor.2 member).1
    refine SettingsRule.inRange_before_inOrder (higher.1, lower.1) ?_ factor.1 ?_
    · exact List.mem_map_of_mem (f := Prod.map Prod.fst Prod.fst) listed
    · exact List.mem_map_of_mem (f := Prod.fst) member
  obtain ⟨first, second⟩ := List.of_mem_zip listed
  have second := List.mem_of_mem_tail second
  rw [decide_eq_true_eq, (finite _ second).lt_iff_value_lt (finite _ first)]
  constructor
  · intro less above below upper under
    obtain rfl := eq_of_named settings.search.damping.nodup_names upper first
    obtain rfl := eq_of_named settings.search.damping.nodup_names under second
    exact less
  · exact fun every => every _ _ first second

theorem kept_iff {rule : SettingsRule} {kept : Bool} (listed : (rule, kept) ∈ settings.rules)
    (before : settings.HoldsBefore rule) : kept = true ↔ rule.Holds settings := by
  simp only [rules, SearchSettings.rules, List.mem_append] at listed
  rcases listed with own | ((own | weights) | damping) | snippet
  · simp only [List.mem_cons, List.not_mem_nil, or_false, Prod.mk.injEq] at own
    rcases own with ⟨rfl, rfl⟩ | ⟨rfl, rfl⟩ | ⟨rfl, rfl⟩
    · exact not_allBlank_iff
    · exact not_allBlank_iff
    · exact decide_eq_true_iff
  · simp only [List.mem_cons, List.not_mem_nil, or_false, Prod.mk.injEq] at own
    rcases own with ⟨rfl, rfl⟩ | ⟨rfl, rfl⟩ | ⟨rfl, rfl⟩ | ⟨rfl, rfl⟩ | ⟨rfl, rfl⟩ | ⟨rfl, rfl⟩ |
      ⟨rfl, rfl⟩
    · exact decide_eq_true_iff
    · rw [Bool.and_eq_true, decide_eq_true_eq, decide_eq_true_eq]
      rfl
    · exact decide_eq_true_iff
    · exact decide_eq_true_iff
    · exact decide_eq_true_iff
    · exact isSome_parse?_iff
    · exact decide_eq_true_iff
  · rw [Weights.rules, List.mem_append, List.mem_singleton, Prod.mk.injEq] at weights
    rcases weights with positive | ⟨rfl, rfl⟩
    · obtain ⟨⟨name, weight⟩, member, same⟩ := List.mem_map.mp positive
      obtain ⟨rfl, rfl⟩ := Prod.mk.inj same
      exact weight_kept_iff member
    · exact weightsInOrder_kept_iff before
  · rw [Damping.rules, List.mem_append] at damping
    rcases damping with inRange | ordered
    · obtain ⟨⟨name, factor⟩, member, same⟩ := List.mem_map.mp inRange
      obtain ⟨rfl, rfl⟩ := Prod.mk.inj same
      exact damping_kept_iff member
    · obtain ⟨⟨higher, lower⟩, member, same⟩ := List.mem_map.mp ordered
      obtain ⟨rfl, rfl⟩ := Prod.mk.inj same
      exact dampingInOrder_kept_iff member before
  · simp only [SnippetSettings.rules, List.mem_cons, List.not_mem_nil, or_false,
      Prod.mk.injEq] at snippet
    rcases snippet with ⟨rfl, rfl⟩ | ⟨rfl, rfl⟩ | ⟨rfl, rfl⟩
    · exact decide_eq_true_iff
    · exact decide_eq_true_iff
    · simp [SettingsRule.Holds]

end

/-! ## All rules -/

section
variable {settings : Settings}

private theorem takeWhile_subset {α : Type} {test : α → Bool} {before after : List α} {item : α}
    (fails : test item = false) : (before ++ item :: after).takeWhile test ⊆ before := by
  induction before with
  | nil => simp [fails]
  | cons first rest ih =>
    rw [List.cons_append, List.takeWhile_cons]
    split
    · exact List.cons_subset_cons first ih
    · exact List.nil_subset _

/-- Checking the rules one by one finds the first one that does not hold. -/
private theorem firstBroken_of_find? {before rest : List (SettingsRule × Bool)}
    (split : settings.rules = before ++ rest) (kept : ∀ entry ∈ before, entry.1.Holds settings) :
    (rest.find? (!·.2) = none → ∀ entry ∈ rest, entry.1.Holds settings) ∧
      ∀ entry, rest.find? (!·.2) = some entry → SettingsRule.FirstBroken settings entry.1 := by
  induction rest generalizing before with
  | nil => simp
  | cons entry rest ih =>
    have order : SettingsRule.inOrder =
        before.map Prod.fst ++ entry.1 :: rest.map Prod.fst := by
      rw [← rules_inOrder settings, split, List.map_append, List.map_cons]
    have holds : ∀ rule ∈ before.map Prod.fst, rule.Holds settings := by
      intro rule member
      obtain ⟨earlier, listed, rfl⟩ := List.mem_map.mp member
      exact kept earlier listed
    have decided : entry.2 = true ↔ entry.1.Holds settings := by
      apply kept_iff (by simp [split])
      intro earlier member
      rw [order] at member
      exact holds earlier (takeWhile_subset (by simp) member)
    rw [List.find?_cons]
    cases passed : entry.2 with
    | false =>
      refine ⟨by simp, ?_⟩
      rintro other found
      obtain rfl : entry = other := by simpa using found
      exact ⟨_, _, order, holds, fun sound => by simp [decided.mpr sound] at passed⟩
    | true =>
      obtain ⟨whole, broken⟩ := @ih (before ++ [entry]) (by simp [split]) (by
        intro earlier member
        rcases List.mem_append.mp member with inside | last
        · exact kept earlier inside
        · exact List.mem_singleton.mp last ▸ decided.mp passed)
      refine ⟨?_, broken⟩
      intro unbroken earlier member
      rcases List.mem_cons.mp member with rfl | later
      · exact decided.mp passed
      · exact whole unbroken earlier later

theorem check_eq_or (settings : Settings) :
    (settings.check = .ok settings ∧ ∀ rule ∈ SettingsRule.inOrder, rule.Holds settings) ∨
      ∃ rule, settings.check = .error (.invalid rule) ∧
        SettingsRule.FirstBroken settings rule := by
  obtain ⟨whole, broken⟩ := @firstBroken_of_find? settings [] settings.rules rfl
    fun _ none => absurd none List.not_mem_nil
  cases found : settings.rules.find? (!·.2) with
  | none =>
    refine Or.inl ⟨by simp [check, broken?, found], ?_⟩
    intro rule member
    rw [← rules_inOrder settings] at member
    obtain ⟨entry, listed, rfl⟩ := List.mem_map.mp member
    exact whole found entry listed
  | some entry =>
    exact Or.inr ⟨entry.1, by simp [check, broken?, found], broken entry found⟩

theorem check_eq_ok_iff :
    settings.check = .ok settings ↔ ∀ rule ∈ SettingsRule.inOrder, rule.Holds settings := by
  rcases settings.check_eq_or with ⟨passed, kept⟩ | ⟨rule, failed, broken⟩
  · exact ⟨fun _ => kept, fun _ => passed⟩
  · rw [failed]
    exact ⟨fun passed => by simp at passed, fun kept => absurd kept broken.not_holds⟩

/-- Settings that do not pass are reported with the first rule that they break. -/
theorem check_eq_error_iff {error : SettingsError} : settings.check = .error error ↔
    ∃ rule, error = .invalid rule ∧ SettingsRule.FirstBroken settings rule := by
  rcases settings.check_eq_or with ⟨passed, kept⟩ | ⟨rule, failed, broken⟩
  · rw [passed]
    refine ⟨fun failed => by simp at failed, ?_⟩
    rintro ⟨rule, -, broken⟩
    exact absurd kept broken.not_holds
  · rw [failed]
    constructor
    · intro same
      exact ⟨rule, (Except.error.inj same).symm, broken⟩
    · rintro ⟨other, rfl, first⟩
      rw [broken.unique first]

end

end Settings

end TenantSearch
