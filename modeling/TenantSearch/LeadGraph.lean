import TenantSearch.Ranking
import TenantSearch.TenantRows

/-! How strongly each lead of a corpus matches. Leads are the hub of all relations: a lead matches
by its own fields, by its notes or by the notes of its services, and the rows around it are found
with it. -/
namespace TenantSearch

/-- The field, or the related row, that explains why a record was found. -/
inductive MatchedField where
  | name
  | email
  | phone
  | city
  | notes
  | serviceNote
  | quoteNumber
  | lead
  | contact
  | address
  | title
  | location
  | description
  | reference
  | slug
  deriving DecidableEq, Repr

def MatchedField.label : MatchedField → String
  | name => "name"
  | email => "email"
  | phone => "phone"
  | city => "city"
  | notes => "notes"
  | serviceNote => "service_note"
  | quoteNumber => "quote_number"
  | lead => "lead"
  | contact => "contact"
  | address => "address"
  | title => "title"
  | location => "location"
  | description => "description"
  | reference => "reference"
  | slug => "slug"

def OwnRank.firstHit (own : OwnRank) (fields : List (Nat × MatchedField)) : Option MatchedField :=
  (fields.find? fun (index, _) => own.fieldHit index).map (·.2)

/-- Why and how strongly a lead matched. -/
structure LeadMatch where
  /-- The first of its own fields that matched. -/
  ownField : Option MatchedField
  /-- Its best note with the rank of that note. -/
  note : Option (LeadNote × Score)
  /-- Its best service note with the rank of that note. -/
  serviceNote : Option (LeadService × Score)
  /-- Its own rank with the damped ranks of the two notes. -/
  rank : Score

/-- Whether a ranked row is better than another one: by its rank, and among equal ranks by the lower
identifier. -/
def isBetter {α : Type} (id : α → Uuid) (row current : α × Score) : Bool :=
  match compare row.2.place current.2.place with
  | .gt => true
  | .eq => compare (id row.1) (id current.1) == .lt
  | .lt => false

/-- The best of some ranked rows, those without a rank left out. -/
def best? {α : Type} (id : α → Uuid) (rows : List (α × Score)) : Option (α × Score) :=
  rows.foldl (fun best row =>
    if row.2 ≤ 0 then best
    else match best with
      | none => some row
      | some current => if isBetter id row current then some row else best) none

def bestScore {α : Type} (best : Option (α × Score)) : Score := (best.map (·.2)).getD 0

namespace Lead

def fields (lead : Lead) : List Field :=
  [(some lead.firstName, .a), (some lead.lastName, .a), (lead.email, .b), (lead.phone, .b),
    (lead.city, .c)]

def ownField (own : OwnRank) : Option MatchedField :=
  own.firstHit [(0, .name), (1, .name), (2, .email), (3, .phone), (4, .city)]

end Lead

/-- The live leads of a search and how they match. -/
structure LeadGraph where
  leads : List Lead
  /-- The matches by lead; of several for one lead, the first one holds. -/
  hits : List (Uuid × LeadMatch)
  links : List PartnerLead

namespace LeadGraph

def isLive (leads : List Lead) (id : Uuid) : Bool := leads.any (·.id == id)

def rankedNotes (ranker : Ranker) (corpus : Corpus) : List (LeadNote × Score) :=
  (corpus.leadNotes.filter fun note => isLive corpus.leads note.leadId).map fun note =>
    (note, ranker.rankText note.body .c)

def rankedServices (ranker : Ranker) (corpus : Corpus) : List (LeadService × Score) :=
  corpus.leadServices.filterMap fun service =>
    match service.consumerNote with
    | some note =>
      if Text.allBlank note || !isLive corpus.leads service.leadId then none
      else some (service, ranker.rankText note .c)
    | none => none

def matchOf (ranker : Ranker) (damping : Damping) (notes : List (LeadNote × Score))
    (services : List (LeadService × Score)) (lead : Lead) : LeadMatch :=
  let own := ranker.rank lead.fields
  let note := best? (·.id) (notes.filter (·.1.leadId == lead.id))
  let service := best? (·.id) (services.filter (·.1.leadId == lead.id))
  { ownField := Lead.ownField own
    note := note
    serviceNote := service
    rank := own.score + bestScore note * damping.note + bestScore service * damping.serviceNote }

def ofCorpus (ranker : Ranker) (damping : Damping) (corpus : Corpus) : LeadGraph where
  leads := corpus.leads
  hits :=
    let notes := rankedNotes ranker corpus
    let services := rankedServices ranker corpus
    ((corpus.leads.map fun lead => (lead.id, matchOf ranker damping notes services lead)).filter
      fun (_, found) => 0 < found.rank).reverse
  links := corpus.partnerLeads

/-- The live lead of an identifier; of several the last one. -/
def lead? (graph : LeadGraph) (id : Uuid) : Option Lead :=
  graph.leads.reverse.find? (·.id == id)

def match? (graph : LeadGraph) (id : Uuid) : Option LeadMatch :=
  (graph.hits.find? (·.1 == id)).map (·.2)

def leadRank (graph : LeadGraph) (id : Uuid) : Score :=
  ((graph.match? id).map (·.rank)).getD 0

def partnerRank (graph : LeadGraph) (partnerId : Uuid) : Score :=
  Score.maximum ((graph.links.filter (·.partnerId == partnerId)).map fun link =>
    graph.leadRank link.leadId)

end LeadGraph

end TenantSearch
