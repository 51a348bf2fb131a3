import TenantSearch.Search.Error

/-! Fetching the rows of a search. The tables of the tenant are fetched at once and then the leads
that they reach; any failure ends the search. -/
namespace TenantSearch

namespace RowSource

structure FirstReplies where
  tenantLeadIds : Reply Uuid
  leadNotes : Reply LeadNote
  leadServices : Reply LeadService
  quotes : Reply Quote
  appointments : Reply Appointment
  partnerLeads : Reply PartnerLead
  partners : Reply Partner
  catalogProducts : Reply CatalogProduct
  serviceTypes : Reply ServiceType

def firstReplies (source : RowSource) (tenant : Uuid) (kinds : List RecordKind) : FirstReplies where
  tenantLeadIds := (source.tenantLeadIds tenant).onlyIf (Fetch.tenantLeadIds.isNeeded kinds)
  leadNotes := (source.leadNotes tenant).onlyIf (Fetch.leadNotes.isNeeded kinds)
  leadServices := (source.leadServices tenant).onlyIf (Fetch.leadServices.isNeeded kinds)
  quotes := (source.quotes tenant).onlyIf (Fetch.quotes.isNeeded kinds)
  appointments := (source.appointments tenant).onlyIf (Fetch.appointments.isNeeded kinds)
  partnerLeads := (source.partnerLeads tenant).onlyIf (Fetch.partnerLeads.isNeeded kinds)
  partners := (source.partners tenant).onlyIf (Fetch.partners.isNeeded kinds)
  catalogProducts := (source.catalogProducts tenant).onlyIf (Fetch.catalogProducts.isNeeded kinds)
  serviceTypes := (source.serviceTypes tenant).onlyIf (Fetch.serviceTypes.isNeeded kinds)

namespace FirstReplies

def errors (replies : FirstReplies) : List (Fetch × Option StoreError) :=
  [(.tenantLeadIds, replies.tenantLeadIds.error?), (.leadNotes, replies.leadNotes.error?),
    (.leadServices, replies.leadServices.error?), (.quotes, replies.quotes.error?),
    (.appointments, replies.appointments.error?), (.partnerLeads, replies.partnerLeads.error?),
    (.partners, replies.partners.error?), (.catalogProducts, replies.catalogProducts.error?),
    (.serviceTypes, replies.serviceTypes.error?)]

def anySilent (replies : FirstReplies) : Bool :=
  replies.tenantLeadIds.isSilent || replies.leadNotes.isSilent ||
    replies.leadServices.isSilent || replies.quotes.isSilent || replies.appointments.isSilent ||
    replies.partnerLeads.isSilent || replies.partners.isSilent ||
    replies.catalogProducts.isSilent || replies.serviceTypes.isSilent

def rows (replies : FirstReplies) : TenantRows where
  leadIds := replies.tenantLeadIds.toList
  leadNotes := replies.leadNotes.toList
  leadServices := replies.leadServices.toList
  quotes := replies.quotes.toList
  partners := replies.partners.toList
  partnerLeads := replies.partnerLeads.toList
  appointments := replies.appointments.toList
  catalogProducts := replies.catalogProducts.toList
  serviceTypes := replies.serviceTypes.toList

end FirstReplies

/-- The rows that a search for some kinds needs, and the leads it asked for. The first failure in
the order of the fetches is reported, even when another fetch stays silent; silence ends the search
when its time is up. -/
def load (source : RowSource) (timeoutMs : Nat) (tenant : Uuid) (kinds : List RecordKind) :
    Except SearchError (Corpus × Option (List Uuid)) :=
  let replies := source.firstReplies tenant kinds
  match replies.errors.findSome? fun (fetch, error) => error.map (fetch, ·) with
  | some (fetch, error) => .error (.fetchFailed fetch error)
  | none =>
    if replies.anySilent then .error (.timedOut timeoutMs)
    else if Fetch.leads.isNeeded kinds then
      match source.leads replies.rows.hub with
      | .failed error => .error (.fetchFailed .leads error)
      | .silent => .error (.timedOut timeoutMs)
      | .rows leads => .ok (⟨replies.rows, leads⟩, some replies.rows.hub)
    else .ok (⟨replies.rows, []⟩, none)

end RowSource

end TenantSearch
