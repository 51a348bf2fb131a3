import TenantSearch.Score
import TenantSearch.Text.Basic

/-! What can be set, and the values that hold where nothing is set. -/
namespace TenantSearch

/-- The weights of fields by their class, from identifying names to free text. -/
structure Weights where
  a : Score := 1.0
  b : Score := 0.4
  c : Score := 0.2
  d : Score := 0.1

/-- The factors by which a rank shrinks when it is passed on along a relation. -/
structure Damping where
  note : Score := 0.30
  serviceNote : Score := 0.25
  quote : Score := 0.20
  appointment : Score := 0.15
  partner : Score := 0.10

structure SnippetSettings where
  minWords : Nat := 6
  maxWords : Nat := 18
  opening : Text := "<mark>".toList
  closing : Text := "</mark>".toList
  deriving DecidableEq, Repr

structure SearchSettings where
  /-- The page size when a caller asks for none or for none above zero. -/
  defaultLimit : Nat := 10
  maxLimit : Nat := 50
  /-- Shorter queries find nothing. -/
  minQueryChars : Nat := 2
  /-- Longer queries are refused. -/
  maxQueryChars : Nat := 100
  /-- Shorter lexemes do not count as the start of a longer one. -/
  prefixMinChars : Nat := 3
  /-- The name of the language of free text. -/
  language : Text := "dutch".toList
  queryTimeoutMs : Nat := 5000
  weights : Weights := {}
  damping : Damping := {}
  snippet : SnippetSettings := {}

structure ServiceSettings where
  httpBind : Text
  logLevel : Text
  deriving DecidableEq, Repr

structure PostgresSettings where
  dsn : Text
  poolMaxConns : Nat
  deriving DecidableEq, Repr

structure Settings where
  service : ServiceSettings
  postgres : PostgresSettings
  search : SearchSettings

end TenantSearch
