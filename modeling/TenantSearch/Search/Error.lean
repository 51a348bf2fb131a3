import TenantSearch.Store

/-! Why a search gives no page, and what the caller is told. -/
namespace TenantSearch

inductive SearchError where
  | unsupportedLanguage (raw : Text)
  | queryTooLong (maxChars : Nat)
  | unknownKind (token : Text)
  | fetchFailed (fetch : Fetch) (cause : StoreError)
  | timedOut (afterMs : Nat)
  deriving DecidableEq, Repr

namespace SearchError

def failure? : SearchError → Option (String × StoreError)
  | fetchFailed fetch cause => some ("global_search." ++ fetch.name, cause)
  | timedOut afterMs => some ("global_search", .timeout afterMs)
  | _ => none

def complaint? : SearchError → Option Text
  | unsupportedLanguage raw => some ("Unsupported search language '".toList ++ raw ++ "'.".toList)
  | queryTooLong maxChars =>
    some ("query must be at most ".toList ++ Nat.toDigits 10 maxChars ++ " characters.".toList)
  | unknownKind token =>
    some ("Unknown entity type '".toList ++ token ++ "' in types filter.".toList)
  | _ => none

def message (error : SearchError) : Text :=
  match error.complaint?, error.failure? with
  | some complaint, _ => "Validation failed: ".toList ++ complaint
  | none, some (operation, _) => ("Internal error during " ++ operation ++ ".").toList
  | none, none => []

end SearchError

end TenantSearch
