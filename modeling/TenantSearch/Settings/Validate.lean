import TenantSearch.Language
import TenantSearch.Settings
import TenantSearch.Text.Lowercase

/-! The rules that settings have to keep. They are checked in a fixed order, and the first one that
is broken is reported. -/
namespace TenantSearch

inductive SettingsRule where
  | httpBindGiven
  | dsnGiven
  | poolMaxConnsPositive
  | maxLimitPositive
  | defaultLimitInRange
  | minQueryCharsAtLeastTwo
  | queryCharsInOrder
  | prefixMinCharsPositive
  | languageKnown
  | timeoutPositive
  | weightPositive (name : String)
  | weightsInOrder
  | dampingInRange (name : String)
  | dampingInOrder (higher lower : String)
  | minWordsPositive
  | wordsInOrder
  | selectorsGiven
  deriving DecidableEq, Repr

def SettingsRule.message : SettingsRule → String
  | httpBindGiven => "service.http_bind must be non-empty."
  | dsnGiven => "storage.postgres.dsn must be non-empty."
  | poolMaxConnsPositive => "storage.postgres.pool_max_conns must be greater than zero."
  | maxLimitPositive => "search.max_limit must be greater than zero."
  | defaultLimitInRange => "search.default_limit must be in the range 1-search.max_limit."
  | minQueryCharsAtLeastTwo => "search.min_query_chars must be at least 2."
  | queryCharsInOrder => "search.min_query_chars must not exceed search.max_query_chars."
  | prefixMinCharsPositive => "search.prefix_min_chars must be greater than zero."
  | languageKnown =>
    "search.language must be one of " ++ ", ".intercalate (Language.all.map Language.name) ++ "."
  | timeoutPositive => "search.query_timeout_ms must be greater than zero."
  | weightPositive name =>
    "search.weights." ++ name ++ " must be a finite number greater than zero."
  | weightsInOrder => "search.weights must be ordered a >= b >= c >= d."
  | dampingInRange name =>
    "search.damping." ++ name ++ " must be a finite number in the range (0.0, 1.0)."
  | dampingInOrder higher lower =>
    "search.damping." ++ higher ++ " must be greater than search.damping." ++ lower ++ "."
  | minWordsPositive => "search.snippet.min_words must be greater than zero."
  | wordsInOrder => "search.snippet.min_words must not exceed search.snippet.max_words."
  | selectorsGiven => "search.snippet.start_sel and search.snippet.stop_sel must be non-empty."

def Weights.named (weights : Weights) : List (String × Score) :=
  [("a", weights.a), ("b", weights.b), ("c", weights.c), ("d", weights.d)]

def Damping.named (damping : Damping) : List (String × Score) :=
  [("note", damping.note), ("service_note", damping.serviceNote), ("quote", damping.quote),
    ("appointment", damping.appointment), ("partner", damping.partner)]

def Weights.rules (weights : Weights) : List (SettingsRule × Bool) :=
  weights.named.map (fun (name, value) => (.weightPositive name, value.isFinite && 0 < value)) ++
    [(.weightsInOrder,
      weights.b ≤ weights.a && weights.c ≤ weights.b && weights.d ≤ weights.c)]

def Damping.rules (damping : Damping) : List (SettingsRule × Bool) :=
  damping.named.map (fun (name, value) =>
    (.dampingInRange name, value.isFinite && 0 < value && value < 1)) ++
    (damping.named.zip damping.named.tail).map fun (higher, lower) =>
      (.dampingInOrder higher.1 lower.1, lower.2 < higher.2)

def SnippetSettings.rules (snippet : SnippetSettings) : List (SettingsRule × Bool) :=
  [(.minWordsPositive, 0 < snippet.minWords),
    (.wordsInOrder, snippet.minWords ≤ snippet.maxWords),
    (.selectorsGiven, !snippet.opening.isEmpty && !snippet.closing.isEmpty)]

/-- The rules for the search, in the order in which they are checked, and whether they are kept. -/
def SearchSettings.rules (search : SearchSettings) : List (SettingsRule × Bool) :=
  let own : List (SettingsRule × Bool) :=
    [(.maxLimitPositive, 0 < search.maxLimit),
      (.defaultLimitInRange, 0 < search.defaultLimit && search.defaultLimit ≤ search.maxLimit),
      (.minQueryCharsAtLeastTwo, 2 ≤ search.minQueryChars),
      (.queryCharsInOrder, search.minQueryChars ≤ search.maxQueryChars),
      (.prefixMinCharsPositive, 0 < search.prefixMinChars),
      (.languageKnown, (Language.parse? search.language).isSome),
      (.timeoutPositive, 0 < search.queryTimeoutMs)]
  own ++ search.weights.rules ++ search.damping.rules ++ search.snippet.rules

namespace Settings

def rules (settings : Settings) : List (SettingsRule × Bool) :=
  [(.httpBindGiven, !Text.allBlank settings.service.httpBind),
    (.dsnGiven, !Text.allBlank settings.postgres.dsn),
    (.poolMaxConnsPositive, 0 < settings.postgres.poolMaxConns)] ++ settings.search.rules

def broken? (settings : Settings) : Option SettingsRule :=
  (settings.rules.find? fun (_, kept) => !kept).map (·.1)

/-- Settings with the language in lower case and without a blank log level. A language that is not
known is left to be reported. -/
def normalize (settings : Settings) : Settings :=
  { settings with
    service := { settings.service with
      logLevel :=
        if Text.allBlank settings.service.logLevel then "info".toList
        else settings.service.logLevel }
    search := { settings.search with
      language := Text.lower (Text.trim settings.search.language) } }

end Settings

end TenantSearch
