import TenantSearch.Document
import TenantSearch.Text.Decimal

/-! Search requests, and how they are read from a document or from the query string of an
address. -/
namespace TenantSearch

structure SearchRequest where
  query : Text
  /-- The kinds of records, separated by commas. -/
  types : Option Text
  limit : Option Int
  offset : Option Int
  deriving DecidableEq, Repr

def SearchRequest.ofDocument? (document : Document) : Option SearchRequest := do
  match ← document.members? ["query", "types", "limit", "offset"] with
  | [query, types, limit, offset] =>
    return {
      query := ← Document.required? Document.text? query
      types := ← Document.optional? Document.text? types
      limit := ← Document.optional? Document.signed? limit
      offset := ← Document.optional? Document.signed? offset }
  | _ => none

inductive IntegerError where
  | empty
  | invalidDigit
  | tooLarge
  | tooSmall
  deriving DecidableEq, Repr

def IntegerError.message : IntegerError → String
  | empty => "cannot parse integer from empty string"
  | invalidDigit => "invalid digit found in string"
  | tooLarge => "number too large to fit in target type"
  | tooSmall => "number too small to fit in target type"

/-- Reads an integer of 64 bits in decimal digits, with or without a sign. Reading stops at the
first thing that is wrong, so digits that leave the range are reported before what follows them. -/
def readInteger (text : Text) : Except IntegerError Int :=
  let read (negative : Bool) (text : Text) : Except IntegerError Int :=
    let digits := text.takeWhile Char.isDigit
    let size := Text.decimal digits
    if negative && Document.signedBound < size then .error .tooSmall
    else if !negative && Document.signedBound ≤ size then .error .tooLarge
    else if digits.isEmpty || digits.length < text.length then .error .invalidDigit
    else .ok (if negative then -(size : Int) else size)
  match text with
  | [] => .error .empty
  | '+' :: rest => read false rest
  | '-' :: rest => read true rest
  | text => read false text

inductive Parameter where
  | query
  | types
  | limit
  | offset
  deriving DecidableEq, Repr

namespace Parameter

def all : List Parameter := [query, types, limit, offset]

def name : Parameter → String
  | query => "query"
  | types => "types"
  | limit => "limit"
  | offset => "offset"

end Parameter

inductive QueryStringError where
  | missing (parameter : Parameter)
  | repeated (parameter : Parameter)
  | notInteger (parameter : Parameter) (error : IntegerError)
  deriving DecidableEq, Repr

def QueryStringError.message (error : QueryStringError) : String :=
  "Failed to deserialize query string: " ++
    match error with
    | missing parameter => "missing field `" ++ parameter.name ++ "`"
    | repeated parameter => "duplicate field `" ++ parameter.name ++ "`"
    | notInteger parameter error => parameter.name ++ ": " ++ error.message

structure PartialRequest where
  query : Option Text := none
  types : Option Text := none
  limit : Option Int := none
  offset : Option Int := none

namespace PartialRequest

def has (request : PartialRequest) : Parameter → Bool
  | .query => request.query.isSome
  | .types => request.types.isSome
  | .limit => request.limit.isSome
  | .offset => request.offset.isSome

def read (request : PartialRequest) (pair : Text × Text) :
    Except QueryStringError PartialRequest :=
  match Parameter.all.find? (·.name.toList == pair.1) with
  | none => .ok request
  | some parameter =>
    if request.has parameter then .error (.repeated parameter)
    else match parameter with
      | .query => .ok { request with query := some pair.2 }
      | .types => .ok { request with types := some pair.2 }
      | .limit =>
        match readInteger pair.2 with
        | .ok value => .ok { request with limit := some value }
        | .error error => .error (.notInteger .limit error)
      | .offset =>
        match readInteger pair.2 with
        | .ok value => .ok { request with offset := some value }
        | .error error => .error (.notInteger .offset error)

end PartialRequest

/-- Reads the pairs of a query string as a request. The first pair that is wrong is reported, a
missing query only when no pair is. -/
def SearchRequest.ofPairs (pairs : List (Text × Text)) : Except QueryStringError SearchRequest := do
  let request ← pairs.foldlM PartialRequest.read {}
  match request.query with
  | some query => return ⟨query, request.types, request.limit, request.offset⟩
  | none => throw (.missing .query)

end TenantSearch
