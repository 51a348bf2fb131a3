import TenantSearch.TenantRows

/-! Where the rows of a search come from. A source answers one fetch for each table; an answer is a
list of rows, a failure, or silence. A store in memory is a source once it is told which of its
fetches fail and which stay silent. -/
namespace TenantSearch

inductive Fetch where
  | tenantLeadIds
  | leadNotes
  | leadServices
  | quotes
  | appointments
  | partnerLeads
  | partners
  | catalogProducts
  | serviceTypes
  | leads
  deriving DecidableEq, Repr

namespace Fetch

/-- The fetches that are made at once, in the order in which their failures count. The leads are
fetched after them. -/
def atOnce : List Fetch :=
  [tenantLeadIds, leadNotes, leadServices, quotes, appointments, partnerLeads, partners,
    catalogProducts, serviceTypes]

def all : List Fetch := atOnce ++ [leads]

def name : Fetch → String
  | tenantLeadIds => "tenant_lead_ids"
  | leadNotes => "lead_notes"
  | leadServices => "lead_services"
  | quotes => "quotes"
  | appointments => "appointments"
  | partnerLeads => "partner_leads"
  | partners => "partners"
  | catalogProducts => "catalog_products"
  | serviceTypes => "service_types"
  | leads => "leads"

/-- Whether a search for some kinds of records makes a fetch. Everything around the leads is needed
as soon as one of the related kinds is. -/
def isNeeded (kinds : List RecordKind) : Fetch → Bool
  | partners => kinds.contains .partner
  | catalogProducts => kinds.contains .catalogProduct
  | serviceTypes => kinds.contains .serviceType
  | _ => kinds.any (·.isLeadRelated)

end Fetch

inductive StoreError where
  | timeout (elapsedMs : Nat)
  | closedPool
  deriving DecidableEq, Repr

def StoreError.message : StoreError → String
  | timeout elapsedMs => "Timed out after " ++ toString elapsedMs ++ " ms."
  | closedPool => "attempted to acquire a connection on a closed pool"

inductive Reply (α : Type) where
  | rows (rows : List α)
  | failed (error : StoreError)
  | silent
  deriving Repr

namespace Reply
variable {α : Type}

def toList : Reply α → List α
  | .rows found => found
  | _ => []

def error? : Reply α → Option StoreError
  | .failed error => some error
  | _ => none

def isSilent : Reply α → Bool
  | .silent => true
  | _ => false

def discard : Reply α → Reply Unit
  | .rows found => .rows (found.map fun _ => ())
  | .failed error => .failed error
  | .silent => .silent

def onlyIf (needed : Bool) (reply : Reply α) : Reply α := if needed then reply else .rows []

end Reply

/-- What a search reads from: every table of a tenant, and the live leads of given identifiers. -/
structure RowSource where
  tenantLeadIds : Uuid → Reply Uuid
  leads : List Uuid → Reply Lead
  leadNotes : Uuid → Reply LeadNote
  leadServices : Uuid → Reply LeadService
  quotes : Uuid → Reply Quote
  partners : Uuid → Reply Partner
  partnerLeads : Uuid → Reply PartnerLead
  appointments : Uuid → Reply Appointment
  catalogProducts : Uuid → Reply CatalogProduct
  serviceTypes : Uuid → Reply ServiceType

/-- A store in memory: the live leads of all tenants, and the tables of each tenant. -/
structure Store where
  leads : List Lead
  tenants : List (Uuid × TenantRows)
  deriving Repr

namespace Store

def empty : Store := ⟨[], []⟩

def rowsOf (store : Store) (tenant : Uuid) : TenantRows :=
  (store.tenants.lookup tenant).getD .empty

def leadsOf (store : Store) (ids : List Uuid) : List Lead :=
  store.leads.filter fun lead => ids.contains lead.id

def add (store : Store) (tenant : Uuid) (rows : TenantRows) (leads : List Lead) : Store where
  leads := store.leads ++ leads
  tenants :=
    (tenant, (store.rowsOf tenant).append rows) :: store.tenants.filter (·.1 != tenant)

/-- Removes a lead: it is no longer live and no tenant owns it. What refers to it stays. -/
def removeLead (store : Store) (id : Uuid) : Store where
  leads := store.leads.filter (·.id != id)
  tenants := store.tenants.map fun (tenant, rows) =>
    (tenant, { rows with leadIds := rows.leadIds.filter (· != id) })

end Store

/-- Which fetches of a store fail, each with the milliseconds it reports, and which stay silent. -/
structure Faults where
  failing : List (Fetch × Nat)
  silent : List Fetch
  deriving Repr

namespace Faults

def none : Faults := ⟨[], []⟩

def apply {α : Type} (faults : Faults) (fetch : Fetch) (rows : List α) : Reply α :=
  if faults.silent.contains fetch then .silent
  else match faults.failing.lookup fetch with
    | some elapsedMs => .failed (.timeout elapsedMs)
    | Option.none => .rows rows

end Faults

def Store.source (store : Store) (faults : Faults) : RowSource where
  tenantLeadIds tenant := faults.apply .tenantLeadIds (store.rowsOf tenant).leadIds
  leads ids := faults.apply .leads (store.leadsOf ids)
  leadNotes tenant := faults.apply .leadNotes (store.rowsOf tenant).leadNotes
  leadServices tenant := faults.apply .leadServices (store.rowsOf tenant).leadServices
  quotes tenant := faults.apply .quotes (store.rowsOf tenant).quotes
  partners tenant := faults.apply .partners (store.rowsOf tenant).partners
  partnerLeads tenant := faults.apply .partnerLeads (store.rowsOf tenant).partnerLeads
  appointments tenant := faults.apply .appointments (store.rowsOf tenant).appointments
  catalogProducts tenant := faults.apply .catalogProducts (store.rowsOf tenant).catalogProducts
  serviceTypes tenant := faults.apply .serviceTypes (store.rowsOf tenant).serviceTypes

def RowSource.fetch (source : RowSource) (fetch : Fetch) (tenant : Uuid) (ids : List Uuid) :
    Reply Unit :=
  match fetch with
  | .tenantLeadIds => (source.tenantLeadIds tenant).discard
  | .leadNotes => (source.leadNotes tenant).discard
  | .leadServices => (source.leadServices tenant).discard
  | .quotes => (source.quotes tenant).discard
  | .appointments => (source.appointments tenant).discard
  | .partnerLeads => (source.partnerLeads tenant).discard
  | .partners => (source.partners tenant).discard
  | .catalogProducts => (source.catalogProducts tenant).discard
  | .serviceTypes => (source.serviceTypes tenant).discard
  | .leads => (source.leads ids).discard

structure Database where
  rows : RowSource
  schema : Except StoreError Unit

/-- A database whose connections are closed. Every statement fails; the leads of no identifier need
no statement. -/
def Database.closed : Database where
  rows :=
    { tenantLeadIds := fun _ => .failed .closedPool
      leads := fun ids => if ids.isEmpty then .rows [] else .failed .closedPool
      leadNotes := fun _ => .failed .closedPool
      leadServices := fun _ => .failed .closedPool
      quotes := fun _ => .failed .closedPool
      partners := fun _ => .failed .closedPool
      partnerLeads := fun _ => .failed .closedPool
      appointments := fun _ => .failed .closedPool
      catalogProducts := fun _ => .failed .closedPool
      serviceTypes := fun _ => .failed .closedPool }
  schema := .error .closedPool

end TenantSearch
