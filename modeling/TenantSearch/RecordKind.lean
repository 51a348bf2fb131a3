import TenantSearch.Text.Blank

/-! The kinds of records that can be found, and the filter by which a caller asks for some of
them. -/
namespace TenantSearch

inductive RecordKind where
  | lead
  | quote
  | partner
  | appointment
  | catalogProduct
  | serviceType
  deriving DecidableEq, Repr

namespace RecordKind

/-- Every kind, in the order in which kinds are compared and searched. -/
def all : List RecordKind :=
  [lead, quote, partner, appointment, catalogProduct, serviceType]

def index : RecordKind → Nat
  | lead => 0
  | quote => 1
  | partner => 2
  | appointment => 3
  | catalogProduct => 4
  | serviceType => 5

def name : RecordKind → String
  | lead => "lead"
  | quote => "quote"
  | partner => "partner"
  | appointment => "appointment"
  | catalogProduct => "catalog_product"
  | serviceType => "service_type"

def parse? (raw : Text) : Option RecordKind := all.find? (·.name.toList == raw)

def isAdminOnly : RecordKind → Bool
  | serviceType => true
  | _ => false

/-- Kinds whose records hang on leads and are found when their lead is. -/
def isLeadRelated : RecordKind → Bool
  | lead | quote | partner | appointment => true
  | _ => false

def path : RecordKind → String
  | lead => "/leads"
  | quote => "/quotes"
  | partner => "/partners"
  | appointment => "/appointments"
  | catalogProduct => "/catalog/products"
  | serviceType => "/admin/service-types"

/-- Reads the tokens of a filter as kinds; the error is the first token that names none. -/
def ofTokens : List Text → Except Text (List RecordKind)
  | [] => .ok []
  | token :: rest =>
    match parse? token with
    | none => .error token
    | some kind => (ofTokens rest).map (kind :: ·)

/-- The tokens of a filter: its pieces between commas, without the white space around them and
without blank ones. -/
def tokens (filter : Text) : List Text :=
  ((filter.splitOn ',').map Text.trim).filter (!·.isEmpty)

/-- The kinds that a filter asks for, each once, in the order in which they are first named. There
are none if no filter is given or if it has no token, which asks for every kind. -/
def requested (filter : Option Text) : Except Text (Option (List RecordKind)) :=
  match filter with
  | none => .ok none
  | some filter =>
    (ofTokens (tokens filter)).map fun kinds => if kinds.isEmpty then none else some kinds.eraseDups

def visible (kinds : Option (List RecordKind)) (isAdmin : Bool) : List RecordKind :=
  let kinds := kinds.getD all
  if isAdmin then kinds else kinds.filter (!·.isAdminOnly)

def resolve (filter : Option Text) (isAdmin : Bool) : Except Text (List RecordKind) :=
  (requested filter).map (visible · isAdmin)

end RecordKind

end TenantSearch
