import TenantSearch.Http.QueryString
import TenantSearch.Search.Service

/-! The service over HTTP: one path that tells that it is up, and one for the search. The caller is
known by headers that a gateway sets. -/
namespace TenantSearch.Http

structure Request where
  method : Text
  target : Text
  headers : List (Text × Text)

inductive Body where
  | empty
  | page (page : SearchPage)
  | error (code message : Text)

structure Response where
  status : Nat
  body : Body

def tenantHeader : String := "X-CRM-Tenant-Id"

def rolesHeader : String := "X-CRM-Roles"

namespace Request

def withoutHost (target : Text) : Text :=
  let scheme := target.takeWhile fun c => c.isAlphanum || c == '+' || c == '-' || c == '.'
  let rest := target.drop scheme.length
  if !scheme.isEmpty && "://".toList.isPrefixOf rest then
    (rest.drop 3).dropWhile fun c => c != '/' && c != '?'
  else target

def address (request : Request) : Text := withoutHost (request.target.takeWhile (· != '#'))

def path (request : Request) : Text := request.address.takeWhile (· != '?')

def queryString (request : Request) : Text := (request.address.dropWhile (· != '?')).drop 1

def isReadable (value : Text) : Bool :=
  value.all fun c => c == '\t' || (0x20 ≤ c.toNat && c.toNat < 0x7F)

/-- The value of a header. The first of several counts, and one that is not readable is none. -/
def header? (request : Request) (name : String) : Option Text :=
  ((request.headers.find? fun (key, _) => key.map Char.toLower == name.toList.map Char.toLower).map
    (·.2)).filter isReadable

def roles (request : Request) : List Text :=
  match request.header? rolesHeader with
  | some value => ((value.splitOn ',').map Text.trim).filter (!·.isEmpty)
  | none => []

end Request

inductive IdentityError where
  | missing
  | malformed
  deriving DecidableEq, Repr

def IdentityError.message : IdentityError → String
  | missing => tenantHeader ++ " header is required."
  | malformed => tenantHeader ++ " must be a UUID."

def Request.tenant (request : Request) : Except IdentityError Uuid :=
  match nonBlank (request.header? tenantHeader) with
  | none => .error .missing
  | some value =>
    match Uuid.parse? value with
    | some tenant => .ok tenant
    | none => .error .malformed

namespace Response

def refusal (status : Nat) (code : String) (message : Text) : Response :=
  ⟨status, .error code.toList message⟩

def ofError (error : SearchError) : Response :=
  match error.failure? with
  | some _ => refusal 500 "INTERNAL" error.message
  | none => refusal 400 "VALIDATION_FAILED" error.message

end Response

def search (service : SearchService) (request : Request) : Response :=
  match request.tenant with
  | .error error => .refusal 401 "UNAUTHORIZED" error.message.toList
  | .ok tenant =>
    match SearchRequest.ofPairs (pairs request.queryString) with
    | .error error => .refusal 400 "VALIDATION_FAILED" error.message.toList
    | .ok query =>
      match service.searchAs tenant request.roles query with
      | .error error => .ofError error
      | .ok outcome => ⟨200, .page outcome.page⟩

/-- Answers a call. Both paths can be read with GET, and with HEAD to get no body. -/
def answer (service : SearchService) (request : Request) : Response :=
  let handler? : Option Response :=
    if request.path = "/health".toList then some ⟨200, .empty⟩
    else if request.path = "/v1/search".toList then some (search service request)
    else none
  match handler? with
  | none => ⟨404, .empty⟩
  | some response =>
    if request.method = "GET".toList then response
    else if request.method = "HEAD".toList then ⟨response.status, .empty⟩
    else ⟨405, .empty⟩

end TenantSearch.Http
