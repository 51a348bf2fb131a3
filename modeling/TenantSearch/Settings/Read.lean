import TenantSearch.Document
import TenantSearch.Settings

/-! Reading settings from documents. What is not given keeps its default, unknown names are ignored,
and a value of the wrong type makes the whole document unreadable. -/
namespace TenantSearch

namespace Document

def word? : Document → Option Nat := natural? wordBound

/-- A score: an integer of 64 bits, rounded once, or a binary64 number, rounded again. -/
def score? : Document → Option Score
  | integer value =>
    if -(signedBound : Int) ≤ value ∧ value < longBound then some (Float32.ofInt value) else none
  | decimal value => some (Score.ofDouble value)
  | _ => none

end Document

open Document

def Weights.ofDocument? (document : Document) : Option Weights := do
  match ← document.members? ["a", "b", "c", "d"] with
  | [a, b, c, d] =>
    let standard : Weights := {}
    return {
      a := ← defaulted? standard.a score? a
      b := ← defaulted? standard.b score? b
      c := ← defaulted? standard.c score? c
      d := ← defaulted? standard.d score? d }
  | _ => none

def Damping.ofDocument? (document : Document) : Option Damping := do
  match ← document.members? ["note", "service_note", "quote", "appointment", "partner"] with
  | [note, serviceNote, quote, appointment, partner] =>
    let standard : Damping := {}
    return {
      note := ← defaulted? standard.note score? note
      serviceNote := ← defaulted? standard.serviceNote score? serviceNote
      quote := ← defaulted? standard.quote score? quote
      appointment := ← defaulted? standard.appointment score? appointment
      partner := ← defaulted? standard.partner score? partner }
  | _ => none

def SnippetSettings.ofDocument? (document : Document) : Option SnippetSettings := do
  match ← document.members? ["min_words", "max_words", "start_sel", "stop_sel"] with
  | [minWords, maxWords, opening, closing] =>
    let standard : SnippetSettings := {}
    return {
      minWords := ← defaulted? standard.minWords word? minWords
      maxWords := ← defaulted? standard.maxWords word? maxWords
      opening := ← defaulted? standard.opening text? opening
      closing := ← defaulted? standard.closing text? closing }
  | _ => none

def SearchSettings.ofDocument? (document : Document) : Option SearchSettings := do
  match ← document.members? ["default_limit", "max_limit", "min_query_chars", "max_query_chars",
      "prefix_min_chars", "language", "query_timeout_ms", "weights", "damping", "snippet"] with
  | [defaultLimit, maxLimit, minQueryChars, maxQueryChars, prefixMinChars, language, queryTimeoutMs,
      weights, damping, snippet] =>
    let standard : SearchSettings := {}
    return {
      defaultLimit := ← defaulted? standard.defaultLimit word? defaultLimit
      maxLimit := ← defaulted? standard.maxLimit word? maxLimit
      minQueryChars := ← defaulted? standard.minQueryChars word? minQueryChars
      maxQueryChars := ← defaulted? standard.maxQueryChars word? maxQueryChars
      prefixMinChars := ← defaulted? standard.prefixMinChars word? prefixMinChars
      language := ← defaulted? standard.language text? language
      queryTimeoutMs := ← defaulted? standard.queryTimeoutMs (natural? longBound) queryTimeoutMs
      weights := ← defaulted? standard.weights Weights.ofDocument? weights
      damping := ← defaulted? standard.damping Damping.ofDocument? damping
      snippet := ← defaulted? standard.snippet SnippetSettings.ofDocument? snippet }
  | _ => none

def ServiceSettings.ofDocument? (document : Document) : Option ServiceSettings := do
  match ← document.members? ["http_bind", "log_level"] with
  | [httpBind, logLevel] =>
    return {
      httpBind := ← required? text? httpBind
      logLevel := ← required? text? logLevel }
  | _ => none

def PostgresSettings.ofDocument? (document : Document) : Option PostgresSettings := do
  match ← document.members? ["dsn", "pool_max_conns"] with
  | [dsn, poolMaxConns] =>
    return {
      dsn := ← required? text? dsn
      poolMaxConns := ← required? word? poolMaxConns }
  | _ => none

def PostgresSettings.ofStorage? (document : Document) : Option PostgresSettings := do
  match ← document.members? ["postgres"] with
  | [postgres] => required? PostgresSettings.ofDocument? postgres
  | _ => none

def Settings.ofDocument? (document : Document) : Option Settings := do
  match ← document.members? ["service", "storage", "search"] with
  | [service, storage, search] =>
    return {
      service := ← required? ServiceSettings.ofDocument? service
      postgres := ← required? PostgresSettings.ofStorage? storage
      search := ← defaulted? {} SearchSettings.ofDocument? search }
  | _ => none

end TenantSearch
