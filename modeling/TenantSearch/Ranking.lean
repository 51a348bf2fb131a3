import TenantSearch.Query
import TenantSearch.Settings

/-! The rank of a row by its own fields. -/
namespace TenantSearch

/-- How much a field says about its row, from identifying names to free text. -/
inductive FieldClass where
  | a
  | b
  | c
  | d
  deriving DecidableEq, Repr

def Weights.ofClass (weights : Weights) : FieldClass → Score
  | .a => weights.a
  | .b => weights.b
  | .c => weights.c
  | .d => weights.d

abbrev Field := Option Text × FieldClass

/-- The rank of a row by its own fields: the part of each field, in order, and their sum. -/
structure OwnRank where
  score : Score
  parts : List Score

def OwnRank.fieldHit (own : OwnRank) (index : Nat) : Bool :=
  match own.parts[index]? with
  | some part => 0 < part
  | none => false

inductive Rung where
  | primary
  | secondary
  | description
  deriving DecidableEq, Repr

structure Ranker where
  query : Query
  language : Language
  weights : Weights

namespace Ranker

def passes (ranker : Ranker) : List (Lexer × TokenSet) :=
  [(.generic, ranker.query.generic), (.natural ranker.language, ranker.query.natural)]

def lexedFields (lexer : Lexer) (fields : List Field) : List (List Text) :=
  fields.map fun (text, _) => (text.map lexer.lexemes).getD []

/-- Adds to the parts of some fields what one lexer contributes. It contributes if the row as a
whole satisfies the query; then a field gets its weight times the share of the query it hits. -/
def addPass (weights : Weights) (fields : List Field) (parts : List Score)
    (pass : Lexer × TokenSet) : List Score :=
  let (lexer, tokens) := pass
  let lexed := lexedFields lexer fields
  if tokens.isEmpty || !tokens.accepts lexed then parts
  else
    let size := Float32.ofNat tokens.exact.length
    List.zipWith (fun part (lexemes, field) =>
      let hits := Score.sum (tokens.exact.map (tokens.hit · lexemes))
      part + weights.ofClass field.2 * hits / size) parts (lexed.zip fields)

def rank (ranker : Ranker) (fields : List Field) : OwnRank :=
  let parts := ranker.passes.foldl (addPass ranker.weights fields) (fields.map fun _ => 0)
  ⟨Score.sum parts, parts⟩

def rankText (ranker : Ranker) (text : Text) (field : FieldClass) : Score :=
  (ranker.rank [(some text, field)]).score

/-- The fixed scores for short records like codes: a whole text first, then the start of the
primary text, the start of the secondary one, and last any part of a text. -/
def ladder (ranker : Ranker) (primary : Text) (secondary description : Option Text) :
    Option (Score × Rung) :=
  let query := ranker.query.folded
  let primary := foldLiteral primary
  let secondary := secondary.map foldLiteral
  let description := description.map foldLiteral
  if query.isEmpty then none
  else if primary = query then some (1.0, .primary)
  else if secondary = some query then some (1.0, .secondary)
  else if query.isPrefixOf primary then some (0.8, .primary)
  else if secondary.any query.isPrefixOf then some (0.6, .secondary)
  else if query.occursIn primary then some (0.3, .primary)
  else if secondary.any query.occursIn then some (0.3, .secondary)
  else if description.any query.occursIn then some (0.3, .description)
  else none

def isHitWord (ranker : Ranker) (word : Text) : Bool :=
  (Text.words (Text.fold word)).any fun piece =>
    ranker.passes.any fun (lexer, tokens) => (lexer.lexeme? piece).any tokens.hitsLexeme

end Ranker

end TenantSearch
