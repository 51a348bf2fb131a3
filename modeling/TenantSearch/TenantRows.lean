import TenantSearch.Record

/-! The tables of one tenant, and the corpus of a search: the rows of a tenant with the live leads
that they reach. -/
namespace TenantSearch

/-- The tables of one tenant, or those of them that were fetched. -/
structure TenantRows where
  /-- The tenant's own leads. -/
  leadIds : List Uuid
  leadNotes : List LeadNote
  leadServices : List LeadService
  quotes : List Quote
  partners : List Partner
  partnerLeads : List PartnerLead
  appointments : List Appointment
  catalogProducts : List CatalogProduct
  serviceTypes : List ServiceType
  deriving Repr

def insertAscending (id : Uuid) : List Uuid → List Uuid
  | [] => [id]
  | first :: rest =>
    match compare id first with
    | .lt => id :: first :: rest
    | .eq => first :: rest
    | .gt => first :: insertAscending id rest

def ascending (ids : List Uuid) : List Uuid := ids.foldr insertAscending []

namespace TenantRows

def empty : TenantRows := ⟨[], [], [], [], [], [], [], [], []⟩

instance : Inhabited TenantRows := ⟨empty⟩

def append (rows more : TenantRows) : TenantRows where
  leadIds := rows.leadIds ++ more.leadIds
  leadNotes := rows.leadNotes ++ more.leadNotes
  leadServices := rows.leadServices ++ more.leadServices
  quotes := rows.quotes ++ more.quotes
  partners := rows.partners ++ more.partners
  partnerLeads := rows.partnerLeads ++ more.partnerLeads
  appointments := rows.appointments ++ more.appointments
  catalogProducts := rows.catalogProducts ++ more.catalogProducts
  serviceTypes := rows.serviceTypes ++ more.serviceTypes

/-- The leads that the tables reach: the tenant's own ones and those that any row names. -/
def hub (rows : TenantRows) : List Uuid :=
  ascending (rows.leadIds ++ rows.quotes.map (·.leadId) ++
    rows.appointments.filterMap (·.leadId) ++ rows.leadServices.map (·.leadId) ++
    rows.leadNotes.map (·.leadId) ++ rows.partnerLeads.map (·.leadId))

end TenantRows

/-- The rows that one search ranks. -/
structure Corpus extends TenantRows where
  /-- The live leads among those that the tables reach. -/
  leads : List Lead
  deriving Repr

end TenantSearch
