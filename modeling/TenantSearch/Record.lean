import TenantSearch.RecordKind
import TenantSearch.Timestamp
import TenantSearch.Uuid

/-! The rows that are searched. Leads belong to no tenant by themselves; every other row belongs to
the tenant whose table it stands in. -/
namespace TenantSearch

structure Lead where
  id : Uuid
  firstName : Text
  lastName : Text
  email : Option Text
  phone : Option Text
  city : Option Text
  createdAt : Timestamp
  deriving DecidableEq, Repr

structure LeadNote where
  id : Uuid
  leadId : Uuid
  body : Text
  createdAt : Timestamp
  deriving DecidableEq, Repr

structure LeadService where
  id : Uuid
  leadId : Uuid
  consumerNote : Option Text
  deriving DecidableEq, Repr

structure Quote where
  id : Uuid
  leadId : Uuid
  number : Text
  notes : Option Text
  totalCents : Int64
  status : Text
  createdAt : Timestamp
  deriving DecidableEq, Repr

structure Partner where
  id : Uuid
  businessName : Text
  contactName : Option Text
  contactEmail : Option Text
  addressLine : Option Text
  postalCode : Option Text
  city : Option Text
  createdAt : Timestamp
  deriving DecidableEq, Repr

structure PartnerLead where
  partnerId : Uuid
  leadId : Uuid
  deriving DecidableEq, Repr

structure Appointment where
  id : Uuid
  leadId : Option Uuid
  title : Text
  description : Option Text
  location : Option Text
  startTime : Timestamp
  status : Text
  createdAt : Timestamp
  deriving DecidableEq, Repr

structure CatalogProduct where
  id : Uuid
  title : Text
  reference : Option Text
  description : Option Text
  createdAt : Timestamp
  deriving DecidableEq, Repr

structure ServiceType where
  id : Uuid
  name : Text
  slug : Text
  description : Option Text
  isActive : Bool
  createdAt : Timestamp
  deriving DecidableEq, Repr

/-- A row that can be found. A quote comes with the lead it was made to, if that lead is live. -/
inductive Record where
  | lead (lead : Lead)
  | quote (quote : Quote) (lead : Option Lead)
  | partner (partner : Partner)
  | appointment (appointment : Appointment)
  | catalogProduct (product : CatalogProduct)
  | serviceType (serviceType : ServiceType)
  deriving DecidableEq, Repr

namespace Record

def kind : Record → RecordKind
  | lead _ => .lead
  | quote _ _ => .quote
  | partner _ => .partner
  | appointment _ => .appointment
  | catalogProduct _ => .catalogProduct
  | serviceType _ => .serviceType

def id : Record → Uuid
  | lead row => row.id
  | quote row _ => row.id
  | partner row => row.id
  | appointment row => row.id
  | catalogProduct row => row.id
  | serviceType row => row.id

def createdAt : Record → Timestamp
  | lead row => row.createdAt
  | quote row _ => row.createdAt
  | partner row => row.createdAt
  | appointment row => row.createdAt
  | catalogProduct row => row.createdAt
  | serviceType row => row.createdAt

end Record

end TenantSearch
