import TenantSearch.Proofs.RankRange

/-! Highlighting and weighing agree. A preview marks the lexemes of a text one by one, ranking
weighs one lexeme of the query against a whole field, and a row is accepted by all of its fields.
All three read one token set, in which every start is a lexeme of the query too; so a field has
weight for the query exactly if it has a lexeme that is marked, and a row that is accepted has such
a field. -/
namespace TenantSearch

namespace TokenSet

private theorem mem_exact_of_mem_prefixes {prefixMinChars : ℕ} {lexemes : List Text} {token : Text}
    (member : token ∈ (ofLexemes prefixMinChars lexemes).prefixes) :
    token ∈ (ofLexemes prefixMinChars lexemes).exact :=
  (List.mem_filter.mp member).1

section
variable {tokens : TokenSet} (kept : ∀ token ∈ tokens.prefixes, token ∈ tokens.exact)

include kept in
private theorem exists_hit_pos {field : List Text} {lexeme : Text} (inside : lexeme ∈ field)
    (marked : tokens.hitsLexeme lexeme = true) :
    ∃ token ∈ tokens.exact, 0 < tokens.hit token field := by
  rw [hitsLexeme, Bool.or_eq_true, List.any_eq_true] at marked
  rcases marked with whole | ⟨token, long, begins⟩
  · have found := @hit_between_of_mem tokens _ _ inside
    exact ⟨lexeme, List.contains_iff_mem.mp whole, found.pos (by decide)⟩
  · have found := hit_between_of_start long inside (List.isPrefixOf_iff_prefix.mp begins)
    exact ⟨token, kept token long, found.pos (by decide)⟩

private theorem exists_hitsLexeme {field : List Text} {token : Text} (asked : token ∈ tokens.exact)
    (weighs : 0 < tokens.hit token field) : ∃ lexeme ∈ field, tokens.hitsLexeme lexeme = true := by
  refine exists_hit asked ?_
  intro zero
  rw [zero] at weighs
  exact absurd weighs (by decide)

include kept in
private theorem exists_hitsLexeme_of_accepts {fields : List (List Text)}
    (accepted : tokens.accepts fields = true) :
    ∃ field ∈ fields, ∃ lexeme ∈ field, tokens.hitsLexeme lexeme = true := by
  obtain ⟨field, inside, token, asked, found⟩ := exists_hit_of_accepts kept accepted
  exact ⟨field, inside, exists_hitsLexeme asked (found.pos (by decide))⟩

end

end TokenSet

/-- Whichever lexer reads a query, a field has a lexeme that is marked exactly if some lexeme of the
query has weight in it, and fields that satisfy the query have such a lexeme. -/
theorem Query.hits_agree (language : Language) (prefixMinChars : ℕ) (raw : Text)
    {tokens : TokenSet} (built : let query := Query.ofText language prefixMinChars raw
      tokens = query.generic ∨ tokens = query.natural) :
    (∀ field : List Text, (∃ lexeme ∈ field, tokens.hitsLexeme lexeme = true) ↔
      ∃ token ∈ tokens.exact, 0 < tokens.hit token field) ∧
    ∀ fields : List (List Text), tokens.accepts fields = true →
      ∃ field ∈ fields, ∃ lexeme ∈ field, tokens.hitsLexeme lexeme = true := by
  have kept : ∀ token ∈ tokens.prefixes, token ∈ tokens.exact := by
    rcases built with rfl | rfl <;> exact fun token => TokenSet.mem_exact_of_mem_prefixes
  constructor
  · intro field
    constructor
    · rintro ⟨lexeme, inside, marked⟩
      exact TokenSet.exists_hit_pos kept inside marked
    · rintro ⟨token, asked, weighs⟩
      exact TokenSet.exists_hitsLexeme asked weighs
  · intro fields accepted
    exact TokenSet.exists_hitsLexeme_of_accepts kept accepted

/-- The first word of the query is too short to count as a start; the row is accepted by the start
of its other word, and that word is marked. -/
theorem Query.hits_agree_start :
    let tokens := (Query.ofText .dutch 3 "ja bak".toList).generic
    let fields := [["jan".toList], ["bakker".toList]]
    tokens.accepts fields = true ∧
      (∃ token ∈ tokens.exact, 0 < tokens.hit token ["bakker".toList]) ∧
      ∃ field ∈ fields, ∃ lexeme ∈ field, tokens.hitsLexeme lexeme = true := by
  intro tokens fields
  have accepted : tokens.accepts fields = true := by decide +kernel
  have marked : tokens.hitsLexeme "bakker".toList = true := by decide +kernel
  obtain ⟨agree, reaches⟩ := @Query.hits_agree .dutch 3 "ja bak".toList tokens (.inl rfl)
  exact ⟨accepted, (agree _).mp ⟨_, List.mem_singleton_self _, marked⟩, reaches fields accepted⟩

end TenantSearch
