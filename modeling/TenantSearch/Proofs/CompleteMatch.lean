import TenantSearch.Proofs.FoldedText
import TenantSearch.Proofs.NaturalLexemes
import TenantSearch.Proofs.RankParts
import TenantSearch.Proofs.ValidWeights

/-! Texts that have every word of a query. Such a text has every stem of the query as well, so each
lexer contributes all that it can; and products, quotients and sums of scores keep their order where
they are rounded or overflow. Hence no text ranks higher, whether it has some of the words, starts
of them, or only their stems. -/
namespace TenantSearch

namespace TokenSet
variable {tokens : TokenSet} {lexemes : List Text}

theorem accepts_of_subset (nonempty : tokens.exact ≠ []) (covered : tokens.exact ⊆ lexemes) :
    tokens.accepts [lexemes] = true := by
  refine accepts_iff.mpr ⟨nonempty, .inl fun token asked => ?_⟩
  exact ⟨lexemes, List.mem_singleton.mpr rfl, covered asked⟩

end TokenSet

namespace Ranker

/-- What a number of lexemes is counted as where a text has all of them. Beyond the whole numbers
that scores can tell apart it stays behind. -/
def countAll (number : ℕ) : Score := Score.sum (List.replicate number 1)

/-- What a lexer contributes to a text with all of a number of query lexemes. -/
def wholeShare (weight : Score) (number : ℕ) : Score :=
  weight * countAll number / Float32.ofNat number

private theorem finite_countAll (number : ℕ) : (countAll number).Finite := by
  have counted : Score.Between 0 16777216 (countAll number) := by
    apply Score.Between.sum count_saturates (by decide)
    intro score member
    rw [List.eq_of_mem_replicate member]
    exact ⟨by decide, by decide, by decide⟩
  exact counted.finite

section
variable {tokens : TokenSet} {lexemes : List Text}

private theorem hits_of_subset (covered : tokens.exact ⊆ lexemes) :
    hits tokens lexemes = countAll tokens.exact.length := by
  have each : ∀ token ∈ tokens.exact, tokens.hit token lexemes = 1 := by
    intro token asked
    rw [TokenSet.hit, if_pos (List.contains_iff_mem.mpr (covered asked))]
  rw [hits, List.map_congr_left each, List.map_const', countAll]

private theorem hits_le_countAll :
    (hits tokens lexemes).toBits.toNat ≤ (countAll tokens.exact.length).toBits.toNat := by
  have sums : (Score.sum (tokens.exact.map (tokens.hit · lexemes))).toBits.toNat ≤
      (Score.sum (tokens.exact.map fun _ => 1)).toBits.toNat :=
    Score.foldl_add_mono (List.Sublist.refl _) (fun _ _ => Score.Finite.regular (by decide))
      (fun token _ => (TokenSet.hit_between token lexemes).below) Score.regular_zero le_rfl
  rwa [List.map_const'] at sums

private theorem size_of_nonempty (nonempty : tokens.exact ≠ [])
    (short : tokens.exact.length ≤ 2 ^ 100) :
    Score.Finite (Float32.ofNat tokens.exact.length) ∧ 0 < Float32.ofNat tokens.exact.length := by
  have size := Score.Between.ofNat (List.length_pos_iff.mpr nonempty) short (by decide +kernel)
  exact ⟨size.finite, size.pos (by decide)⟩

end

section
variable {weights : Weights} {field : FieldClass} (finite : (weights.ofClass field).Finite)
include finite

private theorem regular_wholeShare {tokens : TokenSet} (nonempty : tokens.exact ≠ [])
    (short : tokens.exact.length ≤ 2 ^ 100) :
    (wholeShare (weights.ofClass field) tokens.exact.length).Regular := by
  obtain ⟨size, positive⟩ := size_of_nonempty nonempty short
  exact (finite.mul (finite_countAll _)).div size positive

/-- No text gets more from a lexer than one with every lexeme of the query. -/
theorem contribution_le_wholeShare {pass : Lexer × TokenSet} (nonempty : pass.2.exact ≠ [])
    (short : pass.2.exact.length ≤ 2 ^ 100) (text : Option Text) :
    (contribution weights (text, field) pass).toBits.toNat ≤
      (wholeShare (weights.ofClass field) pass.2.exact.length).toBits.toNat := by
  obtain ⟨size, positive⟩ := size_of_nonempty nonempty short
  exact (finite.mul (finite_countAll _)).div_mono size positive
    (finite.mul_mono (finite_countAll _) hits_le_countAll)

end

variable (ranker : Ranker) (text : Text) (field : FieldClass)

def asking : List (Lexer × TokenSet) := ranker.passes.filter (!·.2.exact.isEmpty)

/-- The rank of a text with every lexeme of the query: all shares of all lexers. -/
def wholeRank : Score :=
  Score.sum (ranker.asking.map fun pass =>
    wholeShare (ranker.weights.ofClass field) pass.2.exact.length)

private theorem mem_asking {pass : Lexer × TokenSet} :
    pass ∈ ranker.asking ↔ pass ∈ ranker.passes ∧ pass.2.exact ≠ [] := by
  simp [asking]

private theorem contributing_sublist (fields : List Field) :
    (ranker.contributing fields).Sublist ranker.asking := by
  apply List.monotone_filter_right
  intro pass accepted
  simpa using TokenSet.exact_ne_nil_of_accepts accepted

private theorem contributing_of_subset
    (covered : ∀ pass ∈ ranker.passes, pass.2.exact ⊆ pass.1.lexemes text) :
    ranker.contributing [(some text, field)] = ranker.asking := by
  apply List.filter_congr
  intro pass listed
  rw [Bool.eq_iff_iff]
  constructor
  · intro accepted
    simpa using TokenSet.exact_ne_nil_of_accepts accepted
  · intro asked
    exact TokenSet.accepts_of_subset (by simpa using asked) (covered pass listed)

section
variable {ranker field} (finite : ∀ field, (ranker.weights.ofClass field).Finite)
  (short : ∀ pass ∈ ranker.passes, pass.2.exact.length ≤ 2 ^ 100)
include finite short

private theorem regular_part (text : Option Text) :
    (ranker.part [(text, field)] (text, field)).Regular := by
  apply Score.regular_sum
  intro score listed
  obtain ⟨pass, inside, rfl⟩ := List.mem_map.mp listed
  obtain ⟨member, asked⟩ := ranker.mem_asking.mp ((ranker.contributing_sublist _).subset inside)
  have most := regular_wholeShare (finite field) asked (short pass member)
  exact (contribution_le_wholeShare (finite field) asked (short pass member) text).trans most

private theorem rankText_eq_part :
    ranker.rankText text field = ranker.part [(some text, field)] (some text, field) := by
  rw [rankText, rank_score, List.map_singleton,
    (regular_part finite short (some text)).sum_cons, List.foldl_nil]

private theorem regular_wholeRank : (ranker.wholeRank field).Regular := by
  apply Score.regular_sum
  intro score listed
  obtain ⟨pass, inside, rfl⟩ := List.mem_map.mp listed
  obtain ⟨member, asked⟩ := ranker.mem_asking.mp inside
  exact regular_wholeShare (finite field) asked (short pass member)

theorem rankText_le_wholeRank : ranker.rankText text field ≤ ranker.wholeRank field := by
  rw [rankText_eq_part text finite short,
    (regular_part finite short (some text)).le_iff (regular_wholeRank finite short)]
  apply Score.foldl_add_mono (ranker.contributing_sublist _) _ _ Score.regular_zero le_rfl
  · intro pass inside
    obtain ⟨member, asked⟩ := ranker.mem_asking.mp inside
    exact regular_wholeShare (finite field) asked (short pass member)
  · intro pass inside
    obtain ⟨member, asked⟩ := ranker.mem_asking.mp ((ranker.contributing_sublist _).subset inside)
    exact contribution_le_wholeShare (finite field) asked (short pass member) (some text)

theorem rankText_eq_wholeRank
    (covered : ∀ pass ∈ ranker.passes, pass.2.exact ⊆ pass.1.lexemes text) :
    ranker.rankText text field = ranker.wholeRank field := by
  rw [rankText_eq_part text finite short, part, contributing_of_subset ranker text field covered,
    wholeRank]
  congr 1
  apply List.map_congr_left
  intro pass inside
  obtain ⟨member, asked⟩ := ranker.mem_asking.mp inside
  have all := hits_of_subset (covered pass member)
  rw [contribution, wholeShare]
  exact congrArg (_ * · / _) all

theorem wholeRank_eq (asked : ranker.query.generic.exact ≠ []) :
    let share (tokens : TokenSet) : Score :=
      wholeShare (ranker.weights.ofClass field) tokens.exact.length
    ranker.wholeRank field =
      if ranker.query.natural.exact = [] then share ranker.query.generic
      else share ranker.query.generic + share ranker.query.natural := by
  intro share
  let plain : Lexer × TokenSet := (.generic, ranker.query.generic)
  let stemmed : Lexer × TokenSet := (.natural ranker.language, ranker.query.natural)
  have listed : ranker.asking =
      plain :: if ranker.query.natural.exact = [] then [] else [stemmed] := by
    by_cases stemless : ranker.query.natural.exact = [] <;>
      simp [asking, passes, asked, stemless, plain, stemmed]
  have regular : (share ranker.query.generic).Regular :=
    regular_wholeShare (finite field) asked (short plain List.mem_cons_self)
  rw [wholeRank, listed, List.map_cons, regular.sum_cons]
  split_ifs with stemless
  · rw [List.map_nil, List.foldl_nil]
  · rw [List.map_singleton, List.foldl_cons, List.foldl_nil]

end

/-- A text with every word of a query is unbeatable. With settings that pass their check it gets the
whole share of each lexer by which the query has lexemes, and no other text ranks higher, whatever
the language, the class of the field and the length from which starts of words count. The length of
the query is a word of 64 bits, as that of any text in memory: only the number of its lexemes is
rounded, and does not overflow. -/
theorem rankText_le_of_covers {settings : Settings} (valid : settings.check = .ok settings)
    (language : Language) (prefixMinChars : ℕ) (field : FieldClass) {raw text : Text}
    (short : raw.length < Document.longBound) (asked : Lexer.generic.lexemes raw ≠ [])
    (covered : ∀ lexeme ∈ Lexer.generic.lexemes raw, lexeme ∈ Lexer.generic.lexemes text)
    (other : Text) :
    let query := Query.ofText language prefixMinChars raw
    let ranker : Ranker := ⟨query, language, settings.search.weights⟩
    let share (tokens : TokenSet) : Score :=
      wholeShare (settings.search.weights.ofClass field) tokens.exact.length
    ranker.rankText other field ≤ ranker.rankText text field ∧
      ranker.rankText text field =
        if query.natural.exact = [] then share query.generic
        else share query.generic + share query.natural := by
  intro query ranker share
  have finite := Settings.finite_ofClass_of_check valid
  have sizes : ∀ pass ∈ ranker.passes, pass.2.exact.length ≤ 2 ^ 100 := by
    have bounded (lexer : Lexer) : (lexer.lexemes raw).length ≤ 2 ^ 100 := by
      have few := lexer.length_lexemes_le raw
      simp only [Document.longBound] at short
      omega
    intro pass listed
    rcases List.mem_pair.mp listed with rfl | rfl <;> exact bounded _
  have every : ∀ pass ∈ ranker.passes, pass.2.exact ⊆ pass.1.lexemes text := by
    intro pass listed
    rcases List.mem_pair.mp listed with rfl | rfl
    · exact covered
    · exact Lexer.lexemes_subset_of_generic _ covered
  have whole : ranker.rankText text field = ranker.wholeRank field :=
    rankText_eq_wholeRank text finite sizes every
  rw [whole]
  exact ⟨rankText_le_wholeRank other finite sizes, wholeRank_eq finite sizes asked⟩

/-- One word of the query is a stop word, and another text has only the stem of the other one. -/
theorem rankText_le_of_covers_stem :
    let settings : Settings := ⟨⟨"127.0.0.1:8080".toList, "info".toList⟩, ⟨"crm".toList, 8⟩, {}⟩
    let raw := "de daken".toList
    let text := "Daken op de loods".toList
    let ranker : Ranker := ⟨.ofText .dutch 3 raw, .dutch, settings.search.weights⟩
    settings.check = .ok settings ∧ raw.length < Document.longBound ∧
      Lexer.generic.lexemes raw ≠ [] ∧
      (∀ lexeme ∈ Lexer.generic.lexemes raw, lexeme ∈ Lexer.generic.lexemes text) ∧
      ranker.rankText "dak".toList .d ≤ ranker.rankText text .d ∧
      ranker.rankText text .d = wholeShare 0.1 2 + wholeShare 0.1 1 := by
  intro settings raw text ranker
  have valid : settings.check = .ok settings :=
    Settings.check_defaults (by decide) (by decide) (by decide)
  have asked : Lexer.generic.lexemes raw ≠ [] := by decide +kernel
  have covered : ∀ lexeme ∈ Lexer.generic.lexemes raw, lexeme ∈ Lexer.generic.lexemes text := by
    decide +kernel
  obtain ⟨below, whole⟩ :=
    rankText_le_of_covers valid .dutch 3 .d (by decide) asked covered "dak".toList
  have plain : (Query.ofText .dutch 3 raw).generic.exact.length = 2 := by decide +kernel
  have stemmed : (Query.ofText .dutch 3 raw).natural.exact.length = 1 := by decide +kernel
  have nonempty : (Query.ofText .dutch 3 raw).natural.exact ≠ [] :=
    List.ne_nil_of_length_pos (by omega)
  refine ⟨valid, by decide, asked, covered, below, ?_⟩
  rw [if_neg nonempty] at whole
  simp only [plain, stemmed] at whole
  exact whole

end Ranker

end TenantSearch
