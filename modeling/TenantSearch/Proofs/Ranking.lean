import TenantSearch.Proofs.ScoreBounds
import TenantSearch.Ranking

/-! How a row ranks by its own fields. Each lexer by which the row satisfies the query contributes
to every field; what it contributes is zero unless a lexeme of the field was searched for, and a row
that satisfies the query by no lexer has rank zero. -/
namespace TenantSearch

namespace Score

private theorem sum_cons_zero {scores : List Score} : sum (0 :: scores) = sum scores := rfl

private theorem sum_eq_zero {scores : List Score} (nothing : ∀ score ∈ scores, score = 0) :
    sum scores = 0 := by
  have zeros : scores = List.replicate scores.length 0 := List.eq_replicate_of_mem nothing
  rw [zeros]
  induction scores.length with
  | zero => rfl
  | succ n ih => rwa [List.replicate_succ, sum_cons_zero]

end Score

namespace TokenSet

theorem exists_hit {tokens : TokenSet} {token : Text} {field : List Text}
    (asked : token ∈ tokens.exact) (counted : tokens.hit token field ≠ 0) :
    ∃ lexeme ∈ field, tokens.hitsLexeme lexeme = true := by
  unfold hit at counted
  split at counted
  · next whole =>
    refine ⟨token, List.contains_iff_mem.mp whole, ?_⟩
    simp [hitsLexeme, asked]
  split at counted
  · next start =>
    simp only [Bool.and_eq_true, List.contains_iff_mem, List.any_eq_true] at start
    obtain ⟨long, lexeme, inside, begins⟩ := start
    refine ⟨lexeme, inside, ?_⟩
    rw [hitsLexeme, Bool.or_eq_true, List.any_eq_true]
    exact .inr ⟨token, long, begins⟩
  · contradiction

/-- Fields satisfy a query that has all its lexemes in them, or all its long ones at the start of
some lexeme. -/
theorem accepts_iff {tokens : TokenSet} {fields : List (List Text)} :
    tokens.accepts fields = true ↔ tokens.exact ≠ [] ∧
      ((∀ token ∈ tokens.exact, ∃ field ∈ fields, token ∈ field) ∨
        tokens.prefixes ≠ [] ∧
          ∀ token ∈ tokens.prefixes, ∃ field ∈ fields, ∃ lexeme ∈ field, token <+: lexeme) := by
  simp [accepts]

theorem exact_ne_nil_of_accepts {tokens : TokenSet} {fields : List (List Text)}
    (accepted : tokens.accepts fields = true) : tokens.exact ≠ [] :=
  (accepts_iff.mp accepted).1

end TokenSet

namespace Ranker
variable (ranker : Ranker) (fields : List Field)

/-- Whether some fields satisfy the query by one of the lexers. -/
def Satisfies : Prop :=
  ∃ pass ∈ ranker.passes, pass.2.accepts (lexedFields pass.1 fields) = true

instance : Decidable (ranker.Satisfies fields) := inferInstanceAs (Decidable (∃ _ ∈ _, _))

def contributing : List (Lexer × TokenSet) :=
  ranker.passes.filter fun pass => pass.2.accepts (lexedFields pass.1 fields)

def lexemesOf (lexer : Lexer) (field : Field) : List Text := (field.1.map lexer.lexemes).getD []

def hits (tokens : TokenSet) (lexemes : List Text) : Score :=
  Score.sum (tokens.exact.map (tokens.hit · lexemes))

/-- What a pass by which a row satisfies the query adds to the part of a field. -/
def contribution (weights : Weights) (field : Field) (pass : Lexer × TokenSet) : Score :=
  weights.ofClass field.2 * hits pass.2 (lexemesOf pass.1 field) /
    Float32.ofNat pass.2.exact.length

def part (field : Field) : Score :=
  Score.sum ((ranker.contributing fields).map (contribution ranker.weights field))

private theorem addPass_map (weights : Weights) (parts : Field → Score) (pass : Lexer × TokenSet) :
    addPass weights fields (fields.map parts) pass =
      fields.map fun field =>
        if pass.2.accepts (lexedFields pass.1 fields) then
          parts field + contribution weights field pass
        else parts field := by
  obtain ⟨lexer, tokens⟩ := pass
  by_cases accepted : tokens.accepts (lexedFields lexer fields) = true
  · have filled : tokens.isEmpty = false := by
      simpa [TokenSet.isEmpty] using TokenSet.exact_ne_nil_of_accepts accepted
    simp only [addPass, filled, accepted, Bool.not_true, Bool.or_false, Bool.false_eq_true,
      if_false, if_true]
    rw [lexedFields, ← List.map_prod_right_eq_zip, List.zipWith_map, List.zipWith_self]
    rfl
  · simp only [addPass, accepted, Bool.not_false, Bool.or_true, Bool.false_eq_true, if_false,
      if_true]

private theorem foldl_addPass (weights : Weights) (passes : List (Lexer × TokenSet))
    (parts : Field → Score) :
    passes.foldl (addPass weights fields) (fields.map parts) =
      fields.map fun field =>
        ((passes.filter fun pass => pass.2.accepts (lexedFields pass.1 fields)).map
          (contribution weights field)).foldl (· + ·) (parts field) := by
  -- The parts are generalized, as every pass adds to what the passes before it have left.
  induction passes generalizing parts with
  | nil => rfl
  | cons pass rest ih =>
    rw [List.foldl_cons, addPass_map, ih]
    congr 1
    funext field
    by_cases accepted : pass.2.accepts (lexedFields pass.1 fields) = true
    · simp only [accepted, if_true, List.filter_cons_of_pos, List.map_cons, List.foldl_cons]
    · simp only [accepted, Bool.false_eq_true, if_false, not_false_eq_true,
        List.filter_cons_of_neg]

theorem rank_parts : (ranker.rank fields).parts = fields.map (ranker.part fields) :=
  foldl_addPass fields ranker.weights ranker.passes fun _ => 0

theorem rank_score :
    (ranker.rank fields).score = Score.sum (fields.map (ranker.part fields)) := by
  rw [← rank_parts]
  rfl

theorem score_eq_zero (unsatisfied : ¬ ranker.Satisfies fields) :
    (ranker.rank fields).score = 0 := by
  have silent : ranker.contributing fields = [] := by
    rw [contributing, List.filter_eq_nil_iff]
    intro pass member accepted
    exact unsatisfied ⟨pass, member, accepted⟩
  rw [rank_score]
  apply Score.sum_eq_zero
  intro score member
  obtain ⟨field, _, rfl⟩ := List.mem_map.mp member
  rw [part, silent]
  rfl

/-! ## Lexemes that were searched for -/

def Finds (text : Text) : Prop :=
  ∃ pass ∈ ranker.passes, ∃ lexeme ∈ pass.1.lexemes text, pass.2.hitsLexeme lexeme = true

section
variable {ranker fields} (finite : ∀ field, (ranker.weights.ofClass field).Finite)
include finite

private theorem exists_finds {field : Field} (counted : ranker.part fields field ≠ 0) :
    ∃ text, field.1 = some text ∧ ranker.Finds text := by
  by_contra absent
  apply counted
  apply Score.sum_eq_zero
  intro score member
  obtain ⟨pass, inside, rfl⟩ := List.mem_map.mp member
  obtain ⟨listed, accepted⟩ := List.mem_filter.mp inside
  have missed : hits pass.2 (lexemesOf pass.1 field) = 0 := by
    apply Score.sum_eq_zero
    intro score member
    obtain ⟨token, asked, rfl⟩ := List.mem_map.mp member
    by_contra nonzero
    obtain ⟨lexeme, present, found⟩ := TokenSet.exists_hit asked nonzero
    cases given : field.1 with
    | none => simp [lexemesOf, given] at present
    | some text =>
      refine absent ⟨text, given, pass, listed, lexeme, ?_, found⟩
      simpa [lexemesOf, given] using present
  rw [contribution, missed, (finite field.2).mul_zero_eq]
  exact Score.zero_div_ofNat
    (List.length_pos_iff.mpr (TokenSet.exact_ne_nil_of_accepts accepted))

theorem finds_of_fieldHit {index : ℕ} {text : Text} {kind : FieldClass}
    (given : fields[index]? = some (some text, kind))
    (hit : (ranker.rank fields).fieldHit index = true) : ranker.Finds text := by
  have counted : ranker.part fields (some text, kind) ≠ 0 := by
    intro zero
    simp only [OwnRank.fieldHit, rank_parts, List.getElem?_map, given, Option.map_some, zero]
      at hit
    exact absurd hit (by decide)
  obtain ⟨shown, same, found⟩ := exists_finds finite counted
  rwa [Option.some.inj same]

theorem finds_of_rankText {text : Text} {kind : FieldClass}
    (ranked : ¬ ranker.rankText text kind ≤ 0) : ranker.Finds text := by
  have counted : ranker.part [(some text, kind)] (some text, kind) ≠ 0 := by
    intro zero
    rw [rankText, rank_score, List.map_singleton, zero] at ranked
    exact ranked (by decide)
  obtain ⟨shown, same, found⟩ := exists_finds finite counted
  rwa [Option.some.inj same]

end

end Ranker

end TenantSearch
