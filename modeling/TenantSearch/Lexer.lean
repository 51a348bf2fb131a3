import TenantSearch.Language
import TenantSearch.Text.Fold
import TenantSearch.Text.Words

/-! Lexers turn a text into comparable lexemes. The generic lexer keeps every folded word, which
suits names, addresses, numbers and codes; a natural one drops stop words and stems the rest, which
suits free text. -/
namespace TenantSearch

inductive Lexer where
  | generic
  | natural (language : Language)
  deriving DecidableEq, Repr

namespace Lexer

/-- The lexeme of a folded word, or none for a stop word. -/
def lexeme? (lexer : Lexer) (word : Text) : Option Text :=
  match lexer with
  | generic => some word
  | natural language =>
    if language.stopWords.any (·.toList == word) then none else some (language.stem word)

/-- The lexemes of a text in the order in which they first occur, each of them once. -/
def lexemes (lexer : Lexer) (text : Text) : List Text :=
  ((Text.words (Text.fold text)).filterMap lexer.lexeme?).eraseDups

end Lexer

end TenantSearch
