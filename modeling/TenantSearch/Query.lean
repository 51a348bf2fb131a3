import TenantSearch.Lexer
import TenantSearch.Score

/-! Queries as they are compared with texts: the folded query itself, and its lexemes by either
lexer. -/
namespace TenantSearch

/-- The lexemes of a query by one lexer. -/
structure TokenSet where
  /-- Every lexeme, in query order. -/
  exact : List Text
  /-- The lexemes that also count as the start of a longer one. -/
  prefixes : List Text
  deriving DecidableEq, Repr

namespace TokenSet

/-- The token set of some lexemes: those with enough characters count as starts of longer ones. -/
def ofLexemes (prefixMinChars : Nat) (lexemes : List Text) : TokenSet :=
  ⟨lexemes, lexemes.filter (prefixMinChars ≤ ·.length)⟩

def isEmpty (tokens : TokenSet) : Bool := tokens.exact.isEmpty

/-- Whether some fields satisfy the query, each given by its lexemes: every lexeme of the query
occurs in a field, or every long one starts a lexeme of a field. -/
def accepts (tokens : TokenSet) (fields : List (List Text)) : Bool :=
  !tokens.exact.isEmpty &&
    (tokens.exact.all (fun token => fields.any fun field => field.contains token) ||
      (!tokens.prefixes.isEmpty &&
        tokens.prefixes.all fun token => fields.any fun field => field.any (token.isPrefixOf ·)))

/-- The weight of one query lexeme in a field: 1 if it occurs, one half if it only starts a
lexeme. -/
def hit (tokens : TokenSet) (token : Text) (field : List Text) : Score :=
  if field.contains token then 1
  else if tokens.prefixes.contains token && field.any (token.isPrefixOf ·) then 0.5
  else 0

def hitsLexeme (tokens : TokenSet) (lexeme : Text) : Bool :=
  tokens.exact.contains lexeme || tokens.prefixes.any (·.isPrefixOf lexeme)

end TokenSet

/-- A text folded and with its white space collapsed, for comparison as a whole. -/
def foldLiteral (text : Text) : Text := Text.collapse (Text.fold text)

/-- A query in the forms in which it is compared with texts. -/
structure Query where
  folded : Text
  generic : TokenSet
  natural : TokenSet
  deriving DecidableEq, Repr

namespace Query

def ofText (language : Language) (prefixMinChars : Nat) (raw : Text) : Query where
  folded := foldLiteral raw
  generic := .ofLexemes prefixMinChars (Lexer.generic.lexemes raw)
  natural := .ofLexemes prefixMinChars ((Lexer.natural language).lexemes raw)

end Query

end TenantSearch
