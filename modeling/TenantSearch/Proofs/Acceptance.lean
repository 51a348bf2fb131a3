import TenantSearch.Proofs.FoldingLaws
import TenantSearch.Proofs.Ranking

/-! When fields satisfy a query, and how that changes with the texts and with the query. Either all
lexemes of the query occur whole, or all long ones start a lexeme. More lexemes in the fields help
either way. Fewer lexemes in the query help where all of them occur, but where only their starts do,
a long one has to be left: what remains is not excused from occurring whole. -/
namespace TenantSearch

namespace TokenSet
variable {tokens : TokenSet} {fields larger : List (List Text)}

def Occurs (fields : List (List Text)) (lexeme : Text) : Prop := ∃ field ∈ fields, lexeme ∈ field

private theorem exists_start_of_occurs
    (grown : ∀ lexeme, Occurs fields lexeme → Occurs larger lexeme)
    {token : Text} (begins : ∃ field ∈ fields, ∃ lexeme ∈ field, token <+: lexeme) :
    ∃ field ∈ larger, ∃ lexeme ∈ field, token <+: lexeme := by
  obtain ⟨field, inside, lexeme, present, start⟩ := begins
  obtain ⟨other, listed, found⟩ := grown lexeme ⟨field, inside, present⟩
  exact ⟨other, listed, lexeme, found, start⟩

theorem accepts_of_occurs (grown : ∀ lexeme, Occurs fields lexeme → Occurs larger lexeme)
    (accepted : tokens.accepts fields = true) : tokens.accepts larger = true := by
  obtain ⟨asked, whole | ⟨long, start⟩⟩ := accepts_iff.mp accepted
  · exact accepts_iff.mpr ⟨asked, .inl fun token listed => grown token (whole token listed)⟩
  · refine accepts_iff.mpr ⟨asked, .inr ⟨long, ?_⟩⟩
    exact fun token listed => exists_start_of_occurs grown (start token listed)

theorem accepts_of_fewer {fewer : TokenSet} (asked : fewer.exact ≠ [])
    (exact : fewer.exact ⊆ tokens.exact) (long : fewer.prefixes ≠ [])
    (prefixes : fewer.prefixes ⊆ tokens.prefixes) (accepted : tokens.accepts fields = true) :
    fewer.accepts fields = true := by
  obtain ⟨_, whole | ⟨_, start⟩⟩ := accepts_iff.mp accepted
  · exact accepts_iff.mpr ⟨asked, .inl fun token listed => whole token (exact listed)⟩
  · exact accepts_iff.mpr ⟨asked, .inr ⟨long, fun token listed => start token (prefixes listed)⟩⟩

private theorem hit_mono (token : Text) {field other : List Text} (grown : field ⊆ other) :
    tokens.hit token field ≤ tokens.hit token other := by
  unfold hit
  by_cases whole : other.contains token = true
  · rw [if_pos whole]
    split_ifs <;> decide
  · have absent : ¬ field.contains token = true := by
      rw [List.contains_iff_mem] at whole ⊢
      exact fun present => whole (grown present)
    rw [if_neg whole, if_neg absent]
    by_cases start : (tokens.prefixes.contains token && other.any (token.isPrefixOf ·)) = true
    · rw [if_pos start]
      split_ifs <;> decide
    · have shorter :
          ¬ (tokens.prefixes.contains token && field.any (token.isPrefixOf ·)) = true := by
        rw [Bool.and_eq_true, List.any_eq_true] at start ⊢
        rintro ⟨long, lexeme, present, begins⟩
        exact start ⟨long, lexeme, grown present, begins⟩
      rw [if_neg start, if_neg shorter]
      decide

end TokenSet

/-! ## Words of a query and of a row -/

namespace Lexer
variable (lexer : Lexer)

/-- The lexemes of some words with a space between each two of them. -/
def spaced (words : List Text) : List Text := lexer.lexemes ([' '].intercalate words)

private theorem mem_spaced {words : List Text} {lexeme : Text} :
    lexeme ∈ lexer.spaced words ↔ ∃ word ∈ words, lexeme ∈ lexer.lexemes word := by
  unfold spaced
  induction words with
  | nil => cases lexer <;> simp [lexemes, Text.fold, Text.words, Text.runs_nil]
  | cons first rest ih =>
    cases rest with
    | nil => simp
    | cons second others =>
      rw [List.intercalate_cons_cons, List.append_assoc, List.singleton_append,
        lexer.lexemes_space, List.mem_append, List.mem_filter, ih, List.exists_mem_cons_iff]
      -- A lexeme that is left out behind the first word is one of the first word.
      by_cases early : lexeme ∈ lexer.lexemes first <;> simp [early]

private theorem spaced_subset {words others : List Text} (within : words ⊆ others) :
    lexer.spaced words ⊆ lexer.spaced others := by
  intro lexeme member
  obtain ⟨word, listed, inside⟩ := lexer.mem_spaced.mp member
  exact lexer.mem_spaced.mpr ⟨word, within listed, inside⟩

end Lexer

namespace TokenSet

private theorem occurs_spaced {lexer : Lexer} {row larger : List (List Text)}
    (grown : ∀ field ∈ row, ∃ other ∈ larger, field ⊆ other) (lexeme : Text)
    (present : Occurs (row.map lexer.spaced) lexeme) : Occurs (larger.map lexer.spaced) lexeme := by
  obtain ⟨_, made, inside⟩ := present
  obtain ⟨field, member, rfl⟩ := List.mem_map.mp made
  obtain ⟨other, among, more⟩ := grown field member
  exact ⟨_, List.mem_map_of_mem among, lexer.spaced_subset more inside⟩

private theorem mem_prefixes_ofLexemes {prefixMinChars : ℕ} {lexemes : List Text} {token : Text} :
    token ∈ (ofLexemes prefixMinChars lexemes).prefixes ↔
      token ∈ lexemes ∧ prefixMinChars ≤ token.length := by
  simp [ofLexemes]

/-- A row is not lost by words that are added to its fields, or by fields that are added to it, nor
by words that are dropped from the query as long as one of the others has a long lexeme. -/
theorem accepts_spaced {lexer : Lexer} {prefixMinChars : ℕ} {words kept : List Text}
    {row larger : List (List Text)} (within : kept ⊆ words)
    (long : ∃ word ∈ kept, ∃ lexeme ∈ lexer.lexemes word, prefixMinChars ≤ lexeme.length)
    (grown : ∀ field ∈ row, ∃ other ∈ larger, field ⊆ other)
    (accepted : (ofLexemes prefixMinChars (lexer.spaced words)).accepts
      (row.map lexer.spaced) = true) :
    (ofLexemes prefixMinChars (lexer.spaced kept)).accepts (larger.map lexer.spaced) = true := by
  obtain ⟨word, listed, lexeme, inside, enough⟩ := long
  have asked : lexeme ∈ lexer.spaced kept := lexer.mem_spaced.mpr ⟨word, listed, inside⟩
  have start := mem_prefixes_ofLexemes.mpr ⟨asked, enough⟩
  have fewer := lexer.spaced_subset within
  apply accepts_of_occurs (occurs_spaced grown)
  apply accepts_of_fewer (List.ne_nil_of_mem asked) fewer (List.ne_nil_of_mem start) _ accepted
  intro token counted
  obtain ⟨part, size⟩ := mem_prefixes_ofLexemes.mp counted
  exact mem_prefixes_ofLexemes.mpr ⟨fewer part, size⟩

/-- Acceptance is monotone in the fields and antitone in the query, as far as a long lexeme of it
remains, and so are rows of words; a lexeme of the query weighs no less in a field with more
lexemes. -/
theorem accepts_mono :
    (∀ (fewer more : TokenSet) (fields larger : List (List Text)),
      fewer.exact ≠ [] → fewer.exact ⊆ more.exact →
      fewer.prefixes ⊆ more.prefixes → fewer.prefixes ≠ [] →
      (∀ lexeme, Occurs fields lexeme → Occurs larger lexeme) →
        more.accepts fields = true → fewer.accepts larger = true) ∧
    (∀ (tokens : TokenSet) (fields larger : List (List Text)),
      (∀ lexeme, Occurs fields lexeme → Occurs larger lexeme) →
        tokens.accepts fields = true → tokens.accepts larger = true) ∧
    (∀ (tokens : TokenSet) (token : Text) (field other : List Text), field ⊆ other →
      tokens.hit token field ≤ tokens.hit token other) ∧
    ∀ (lexer : Lexer) (prefixMinChars : ℕ) (words kept : List Text) (row larger : List (List Text)),
      kept ⊆ words →
      (∃ word ∈ kept, ∃ lexeme ∈ lexer.lexemes word, prefixMinChars ≤ lexeme.length) →
      (∀ field ∈ row, ∃ other ∈ larger, field ⊆ other) →
        (ofLexemes prefixMinChars (lexer.spaced words)).accepts (row.map lexer.spaced) = true →
          (ofLexemes prefixMinChars (lexer.spaced kept)).accepts
            (larger.map lexer.spaced) = true := by
  refine ⟨?_, ?_, ?_, ?_⟩
  · intro fewer more fields larger asked exact prefixes long grown accepted
    exact accepts_of_occurs grown (accepts_of_fewer asked exact long prefixes accepted)
  · intro tokens fields larger grown accepted
    exact accepts_of_occurs grown accepted
  · intro tokens token field other grown
    exact hit_mono token grown
  · intro lexer prefixMinChars words kept row larger within long grown accepted
    exact accepts_spaced within long grown accepted

/-- A row is accepted by the starts of two words, with a third one that is too short to be a start.
After words are added to the row, one of the two starts is enough. -/
theorem accepts_mono_dropped_words :
    let words := ["ja", "bakk", "oos"].map String.toList
    let row := [["Jan"], ["Bakkerij", "Oost"]].map (·.map String.toList)
    let larger := [["Jan", "Piet"], ["Utrecht"], ["Bakkerij", "Oost"]].map (·.map String.toList)
    let query := ofLexemes 3 (Lexer.generic.spaced words)
    query.accepts (row.map Lexer.generic.spaced) = true ∧
      query.accepts (larger.map Lexer.generic.spaced) = true ∧
      (ofLexemes 3 (Lexer.generic.spaced ["bakk".toList])).accepts
        (larger.map Lexer.generic.spaced) = true ∧
      query.hit "oost".toList ["oostende".toList] ≤
        query.hit "oost".toList ["oostende".toList, "oost".toList] := by
  intro words row larger query
  obtain ⟨_, widened, weighs, dropped⟩ := accepts_mono
  have accepted : query.accepts (row.map Lexer.generic.spaced) = true := by decide +kernel
  have grown : ∀ field ∈ row, ∃ other ∈ larger, field ⊆ other := by decide
  have long : ∃ word ∈ ["bakk".toList], ∃ lexeme ∈ Lexer.generic.lexemes word,
      3 ≤ lexeme.length := by decide +kernel
  exact ⟨accepted, widened query _ _ (occurs_spaced grown) accepted,
    dropped .generic 3 words _ row larger (by decide) long grown accepted,
    weighs query _ _ _ (by decide)⟩

/-- What is left of a query has to occur whole if no part of it is long. -/
example :
    let more : TokenSet := ⟨["ja".toList, "bak".toList], ["bak".toList]⟩
    let fewer : TokenSet := ⟨["ja".toList], []⟩
    more.accepts [["bakker".toList]] = true ∧ fewer.accepts [["bakker".toList]] = false := by
  decide

end TokenSet

end TenantSearch
