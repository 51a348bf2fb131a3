import TenantSearch.Proofs.Normalization
import TenantSearch.Proofs.QueryForms

/-! The laws of folding. A folded text is in a normal form: none of its characters is decomposed
further, is a mark or has a lower case of its own. So folding it again changes nothing, and neither
does reading its words or taking it for the query. Folding and reading also respect how texts are
put together: a mark may be moved past the place where they meet, but marks are dropped. -/
namespace TenantSearch

/-! ## Folding again -/

theorem Text.fold_fold (text : Text) : Text.fold (Text.fold text) = Text.fold text :=
  Text.fold_eq_self fun _ => Text.foldChar_of_mem_fold

theorem Text.collapse_collapse (text : Text) :
    Text.collapse (Text.collapse text) = Text.collapse text := by
  have same : Text.fields (Text.collapse text) = Text.fields text := by
    apply Text.runs_intercalate (by decide)
    intro piece member
    obtain ⟨nonempty, inside⟩ := Text.mem_runs member
    exact ⟨nonempty, fun c within => (inside c within).1⟩
  rw [Text.collapse, same, Text.collapse]

theorem Text.fold_collapse_fold (text : Text) :
    Text.fold (Text.collapse (Text.fold text)) = Text.collapse (Text.fold text) := by
  apply Text.fold_eq_self
  intro c member
  rcases Text.mem_intercalate member with rfl | ⟨piece, listed, inside⟩
  · exact Text.foldChar_space
  · exact Text.foldChar_of_mem_fold ((Text.mem_runs listed).2 c inside).2

theorem foldLiteral_foldLiteral (text : Text) :
    foldLiteral (foldLiteral text) = foldLiteral text := by
  rw [foldLiteral, foldLiteral, Text.fold_collapse_fold, Text.collapse_collapse]

/-- Folding, stage by stage, gives a normal form: no stage changes a character of it. So folding it
again gives the same text, every lexer reads the same lexemes from it, and a query that is made of
the folded form of a query is that query in all its forms. -/
theorem fold_normal_form (text : Text) :
    Text.foldByStages text = Text.fold text ∧
      Text.foldByStages (Text.foldByStages text) = Text.foldByStages text ∧
      (∀ c ∈ Text.foldByStages text,
        Text.decompose c = [c] ∧ Text.isMark c = false ∧ Text.lowerChar c = [c]) ∧
      (∀ lexer : Lexer, lexer.lexemes (Text.foldByStages text) = lexer.lexemes text) ∧
      ∀ plain stemmed prefixMinChars,
        let query := Query.ofLexers plain stemmed prefixMinChars text
        Query.ofLexers plain stemmed prefixMinChars query.folded = query := by
  simp only [Text.foldByStages_eq_fold, true_and]
  refine ⟨Text.fold_fold text, ?_, ?_, ?_⟩
  · intro c member
    have settled := Text.isSettled_of_mem_fold member
    exact ⟨Text.decompose_of_isSettled settled, Text.isMark_of_isSettled settled,
      Text.lowerChar_of_isSettled settled⟩
  · intro lexer
    rw [Lexer.lexemes, Text.fold_fold, Lexer.lexemes]
  · intro plain stemmed prefixMinChars
    exact Query.ofLexers_congr (foldLiteral_foldLiteral text) plain stemmed prefixMinChars

/-! ## Side by side -/

private theorem Text.words_fold_space (first second : Text) :
    Text.words (Text.fold (first ++ ' ' :: second)) =
      Text.words (Text.fold first) ++ Text.words (Text.fold second) := by
  rw [Text.fold_append, Text.fold, Text.fold, List.flatMap_cons, Text.foldChar_space,
    List.singleton_append]
  exact Text.runs_append_cons (by decide +kernel) _ _

theorem Lexer.lexemes_space (lexer : Lexer) (first second : Text) :
    lexer.lexemes (first ++ ' ' :: second) = lexer.lexemes first ++
      (lexer.lexemes second).filter fun lexeme => !(lexer.lexemes first).contains lexeme := by
  rw [lexemes, Text.words_fold_space, List.filterMap_append, eraseDups_append_filter, lexemes,
    lexemes]

/-- Folding goes piece by piece wherever a text is cut, also where marks are put in order across the
cut. Two texts with a space between them are read one after the other: the lexemes of the first one,
and those of the second one that are new, each of them once. -/
theorem fold_and_lexemes_append (first second : Text) :
    Text.foldByStages (first ++ second) = Text.foldByStages first ++ Text.foldByStages second ∧
      Text.fold (first ++ second) = Text.fold first ++ Text.fold second ∧
      ∀ lexer : Lexer,
        lexer.lexemes (first ++ ' ' :: second) = lexer.lexemes first ++
          (lexer.lexemes second).filter (· ∉ lexer.lexemes first) ∧
        (lexer.lexemes (first ++ ' ' :: second)).Nodup := by
  simp only [Text.foldByStages_eq_fold]
  refine ⟨Text.fold_append first second, Text.fold_append first second, ?_⟩
  intro lexer
  refine ⟨?_, nodup_eraseDups _⟩
  rw [lexer.lexemes_space]
  simp

/-- Decomposing alone does not go piece by piece: a cedilla is put before the accent in front of
it. -/
example : Text.nfkd ("e\u0301".toList ++ "\u0327".toList) ≠
    Text.nfkd "e\u0301".toList ++ Text.nfkd "\u0327".toList := by
  decide +kernel

end TenantSearch
