import TenantSearch.Record
import TenantSearch.Text.Blank

/-! How records are shown: their title, the line below it, their status and their link. -/
namespace TenantSearch

def nonBlank (text : Option Text) : Option Text := (text.map Text.trim).filter (!·.isEmpty)

def joinParts (parts : List (Option Text)) : Option Text :=
  let joined := " · ".toList.intercalate (parts.filterMap id)
  if joined.isEmpty then none else some joined

def Amount.magnitude (cents : Int64) : UInt64 := cents.abs.toUInt64

/-- Cents as a decimal amount with two places. -/
def renderAmount (cents : Int64) : Text :=
  let size := Amount.magnitude cents
  (if cents < 0 then ['-'] else []) ++ Nat.toDigits 10 (size / 100).toNat ++
    '.' :: Text.padded 2 (size % 100).toNat

def Lead.fullName (lead : Lead) : Option Text :=
  let parts := [Text.trim lead.firstName, Text.trim lead.lastName].filter (!·.isEmpty)
  let name := [' '].intercalate parts
  if name.isEmpty then none else some name

namespace Record

def title : Record → Text
  | lead row =>
    (row.fullName <|> nonBlank row.email <|> nonBlank row.phone).getD "Unnamed lead".toList
  | quote row _ => row.number
  | partner row => row.businessName
  | appointment row => row.title
  | catalogProduct row => row.title
  | serviceType row => row.name

def subtitle : Record → Option Text
  | lead row => nonBlank row.city <|> nonBlank row.email
  | quote row owner => joinParts [owner.bind Lead.fullName, some (renderAmount row.totalCents)]
  | partner row => nonBlank row.contactName <|> nonBlank row.city
  | appointment row => joinParts [some row.startTime.renderMinute, nonBlank row.location]
  | catalogProduct row => nonBlank row.reference
  | serviceType row => some row.slug

def status : Record → Option Text
  | quote row _ => some row.status
  | appointment row => some row.status
  | serviceType row => some (if row.isActive then "active" else "inactive").toList
  | _ => none

def link (record : Record) : Text := record.kind.path.toList ++ '/' :: record.id.render

end Record

end TenantSearch
