import TenantSearch.Proofs.Ranking

/-! The range of ranks. If weights are neither huge nor tiny and the query is not longer than any
query can be, then a row that satisfies the query gets a finite rank above zero: at least the share
that half a lexeme has in the longest query, at most what all sums together can reach. -/
namespace TenantSearch
open Score (Between)

/-- Weights between a millionth of a millionth of a millionth and a million million. -/
def Weights.Moderate (weights : Weights) : Prop :=
  ∀ field, Between 1e-18 1e12 (weights.ofClass field)

namespace TokenSet
variable {tokens : TokenSet}

theorem hit_between (token : Text) (field : List Text) : Between 0 1 (tokens.hit token field) := by
  unfold hit
  split_ifs
  · exact ⟨by decide, by decide, by decide⟩
  · exact ⟨by decide, by decide, by decide⟩
  · exact ⟨by decide, by decide, by decide⟩

theorem hit_between_of_mem {token : Text} {field : List Text} (whole : token ∈ field) :
    Between 0.5 1 (tokens.hit token field) := by
  rw [hit, if_pos (List.contains_iff_mem.mpr whole)]
  exact ⟨by decide, by decide, by decide⟩

theorem hit_between_of_start {token lexeme : Text} {field : List Text}
    (long : token ∈ tokens.prefixes) (present : lexeme ∈ field) (start : token <+: lexeme) :
    Between 0.5 1 (tokens.hit token field) := by
  have begins : field.any (token.isPrefixOf ·) = true :=
    List.any_eq_true.mpr ⟨lexeme, present, List.isPrefixOf_iff_prefix.mpr start⟩
  unfold hit
  split_ifs with whole start
  · exact ⟨by decide, by decide, by decide⟩
  · exact ⟨by decide, by decide, by decide⟩
  · rw [List.contains_iff_mem.mpr long, begins] at start
    exact absurd rfl start

theorem exists_hit_of_accepts {fields : List (List Text)}
    (kept : ∀ token ∈ tokens.prefixes, token ∈ tokens.exact)
    (accepted : tokens.accepts fields = true) :
    ∃ field ∈ fields, ∃ token ∈ tokens.exact, Between 0.5 1 (tokens.hit token field) := by
  obtain ⟨nonempty, whole | ⟨long, start⟩⟩ := accepts_iff.mp accepted
  · obtain ⟨token, asked⟩ := List.exists_mem_of_ne_nil _ nonempty
    obtain ⟨field, inside, found⟩ := whole token asked
    exact ⟨field, inside, token, asked, hit_between_of_mem found⟩
  · obtain ⟨token, listed⟩ := List.exists_mem_of_ne_nil _ long
    obtain ⟨field, inside, lexeme, present, begins⟩ := start token listed
    exact ⟨field, inside, token, kept token listed, hit_between_of_start listed present begins⟩

end TokenSet

namespace Ranker

/-- A ranker whose weights and whose queries have a size for which ranks do not overflow. -/
structure Moderate (ranker : Ranker) : Prop where
  weights : ranker.weights.Moderate
  short : ∀ pass ∈ ranker.passes, pass.2.exact.length ≤ 2 ^ 38
  kept : ∀ pass ∈ ranker.passes, ∀ token ∈ pass.2.prefixes, token ∈ pass.2.exact

def leastShare : Score := 1e-18 * 0.5 / Float32.ofNat (2 ^ 38)

def highestRank : Score := 1e35

theorem leastShare_pos : 0 < leastShare.toBits.toNat := by decide

private theorem lexedFields_eq (lexer : Lexer) (fields : List Field) :
    lexedFields lexer fields = fields.map (lexemesOf lexer) := rfl

theorem count_saturates : (16777216 : Score) + 1 = 16777216 := by decide

/-- Each bound takes up what it bounds the sum of, and the highest rank takes up the parts. -/
private theorem rank_saturates :
    ((1e27 : Score) + 1.6777216e19 = 1e27 ∧ Score.Finite 1e27) ∧
      highestRank + 1e27 = highestRank ∧ highestRank.Finite := by
  decide +kernel

theorem finite_highestRank : highestRank.Finite := rank_saturates.2.2

theorem hits_between (tokens : TokenSet) (lexemes : List Text) :
    Between 0 16777216 (hits tokens lexemes) := by
  apply Between.sum count_saturates (by decide)
  intro score member
  obtain ⟨token, _, rfl⟩ := List.mem_map.mp member
  exact TokenSet.hit_between token lexemes

private theorem hits_between_of_hit {tokens : TokenSet} {lexemes : List Text} {token : Text}
    (asked : token ∈ tokens.exact) (found : Between 0.5 1 (tokens.hit token lexemes)) :
    Between 0.5 16777216 (hits tokens lexemes) := by
  apply Between.sum_of_mem count_saturates (by decide) _ (List.mem_map_of_mem asked) found
  intro score member
  obtain ⟨other, _, rfl⟩ := List.mem_map.mp member
  exact TokenSet.hit_between other lexemes

section
variable {ranker : Ranker} (moderate : ranker.Moderate) {fields : List Field}
include moderate

private theorem contribution_between {pass : Lexer × TokenSet}
    (member : pass ∈ ranker.contributing fields) {field : Field} {least : Score}
    (counted : Between least 16777216 (hits pass.2 (lexemesOf pass.1 field))) :
    Between (1e-18 * least / Float32.ofNat (2 ^ 38)) 1.6777216e19
      (contribution ranker.weights field pass) := by
  obtain ⟨listed, accepted⟩ := List.mem_filter.mp member
  have positive := List.length_pos_iff.mpr (TokenSet.exact_ne_nil_of_accepts accepted)
  have size := Between.ofNat positive (moderate.short pass listed) (by decide)
  have product := (moderate.weights field.2).mul counted (by decide)
  -- A query that is satisfied has a lexeme, so the quotient is at most the product.
  have one : (0 : ℚ) < Score.value (Float32.ofNat 1) := by
    have unit : Float32.ofNat 1 = (1 : Score) := rfl
    rw [unit, Score.value_one]
    exact one_pos
  exact (product.div size one (by decide)).widen le_rfl (by decide) (by decide)

private theorem contribution_small (field : Field) :
    ∀ score ∈ (ranker.contributing fields).map (contribution ranker.weights field),
      Between 0 1.6777216e19 score := by
  intro score member
  obtain ⟨pass, inside, rfl⟩ := List.mem_map.mp member
  have counted := hits_between pass.2 (lexemesOf pass.1 field)
  exact (contribution_between moderate inside counted).widen (Nat.zero_le _) le_rfl
    (by decide)

private theorem part_small : ∀ score ∈ fields.map (ranker.part fields), Between 0 1e27 score := by
  intro score member
  obtain ⟨field, _, rfl⟩ := List.mem_map.mp member
  obtain ⟨absorbed, bounded⟩ := rank_saturates.1
  exact Between.sum absorbed bounded (contribution_small moderate field)

private theorem exists_part (satisfied : ranker.Satisfies fields) :
    ∃ field ∈ fields, Between leastShare 1e27 (ranker.part fields field) := by
  obtain ⟨pass, listed, accepted⟩ := satisfied
  have contributes : pass ∈ ranker.contributing fields := List.mem_filter.mpr ⟨listed, accepted⟩
  obtain ⟨lexemes, lexed, token, asked, found⟩ :=
    TokenSet.exists_hit_of_accepts (moderate.kept pass listed) accepted
  rw [lexedFields_eq] at lexed
  obtain ⟨field, inside, rfl⟩ := List.mem_map.mp lexed
  have large := contribution_between moderate contributes (hits_between_of_hit asked found)
  obtain ⟨absorbed, bounded⟩ := rank_saturates.1
  exact ⟨field, inside, Between.sum_of_mem absorbed bounded (contribution_small moderate field)
    (List.mem_map_of_mem contributes) large⟩

/-- The rank of a row by its own fields tells whether the row satisfies the query. -/
theorem reflects_rank :
    Score.Reflects leastShare highestRank (ranker.Satisfies fields) (ranker.rank fields).score := by
  refine ⟨finite_highestRank, ranker.score_eq_zero fields, ?_⟩
  intro satisfied
  obtain ⟨field, inside, large⟩ := exists_part moderate satisfied
  rw [rank_score]
  obtain ⟨absorbed, bounded⟩ := rank_saturates.2
  exact Between.sum_of_mem absorbed bounded (part_small moderate) (List.mem_map_of_mem inside)
    large

end

end Ranker

end TenantSearch
