import TenantSearch.Headline
import TenantSearch.LeadGraph

/-! Candidates: the records that a search finds, each with its score, the reason for it and the text
to be shown. There is one rule for each kind of record. -/
namespace TenantSearch

inductive PreviewSource where
  /-- Free text that matched; what was searched for is marked in it. -/
  | marked (text : Text)
  /-- Another field that identifies the record. -/
  | plain (text : Text)
  | none
  deriving DecidableEq, Repr

def PreviewSource.first (texts : List (Option Text)) : PreviewSource :=
  match (texts.filterMap id).find? (!Text.allBlank ·) with
  | some text => plain text
  | Option.none => none

structure Candidate where
  record : Record
  score : Score
  matchedField : MatchedField
  preview : PreviewSource

namespace Candidate

def ofLead (graph : LeadGraph) (lead : Lead) : Option Candidate :=
  (graph.match? lead.id).map fun found =>
    { record := .lead lead
      score := found.rank
      matchedField :=
        match found.ownField, found.note with
        | some field, _ => field
        | none, some _ => .notes
        | none, none => .serviceNote
      preview :=
        match found.note, found.serviceNote.bind (·.1.consumerNote) with
        | some (note, _), _ => .marked note.body
        | none, some text => .marked text
        | none, none => .first [lead.email, lead.phone, lead.city] }

/-- A row that is found by its own fields or with a lead: it is left out if neither ranks. -/
def ofRanks (record : Record) (own : OwnRank) (fields : List (Nat × MatchedField))
    (propagated damping : Score) (preview : PreviewSource) : Option Candidate :=
  if own.score ≤ 0 ∧ propagated ≤ 0 then none
  else some
    { record := record
      score := own.score + propagated * damping
      matchedField := (own.firstHit fields).getD .lead
      preview := preview }

def previewOf (text : Option Text) (isHit : Bool) (others : List (Option Text)) : PreviewSource :=
  match text with
  | some shown => if isHit then .marked shown else .first (text :: others)
  | none => .first others

def ofQuote (ranker : Ranker) (damping : Damping) (graph : LeadGraph) (quote : Quote) :
    Option Candidate :=
  let own := ranker.rank [(some quote.number, .a), (quote.notes, .d)]
  ofRanks (.quote quote (graph.lead? quote.leadId)) own [(0, .quoteNumber), (1, .notes)]
    (graph.leadRank quote.leadId) damping.quote (previewOf quote.notes (own.fieldHit 1) [])

def ofPartner (ranker : Ranker) (damping : Damping) (graph : LeadGraph) (partner : Partner) :
    Option Candidate :=
  let own := ranker.rank
    [(some partner.businessName, .a), (partner.contactName, .b), (partner.contactEmail, .b),
      (partner.addressLine, .c), (partner.postalCode, .c), (partner.city, .c)]
  ofRanks (.partner partner) own
    [(0, .name), (1, .contact), (2, .email), (3, .address), (4, .address), (5, .address)]
    (graph.partnerRank partner.id) damping.partner
    (.first [partner.contactName, partner.contactEmail, partner.city])

def ofAppointment (ranker : Ranker) (damping : Damping) (graph : LeadGraph)
    (appointment : Appointment) : Option Candidate :=
  let own := ranker.rank
    [(some appointment.title, .a), (appointment.location, .c), (appointment.description, .d)]
  ofRanks (.appointment appointment) own [(0, .title), (1, .location), (2, .description)]
    ((appointment.leadId.map graph.leadRank).getD 0) damping.appointment
    (previewOf appointment.description (own.fieldHit 2) [appointment.location])

def ofCatalogProduct (ranker : Ranker) (product : CatalogProduct) : Option Candidate :=
  (ranker.ladder product.title product.reference product.description).map fun (score, rung) =>
    { record := .catalogProduct product
      score := score
      matchedField :=
        match rung with
        | .primary => .title
        | .secondary => .reference
        | .description => .description
      preview := previewOf product.description (rung == .description) [product.reference] }

def ofServiceType (ranker : Ranker) (row : ServiceType) : Option Candidate :=
  (ranker.ladder row.name (some row.slug) row.description).map fun (score, rung) =>
    { record := .serviceType row
      score := score
      matchedField :=
        match rung with
        | .primary => .name
        | .secondary => .slug
        | .description => .description
      preview := previewOf row.description (rung == .description) [some row.slug] }

def ofKind (ranker : Ranker) (damping : Damping) (corpus : Corpus) (graph : LeadGraph) :
    RecordKind → List Candidate
  | .lead => corpus.leads.filterMap (ofLead graph)
  | .quote => corpus.quotes.filterMap (ofQuote ranker damping graph)
  | .partner => corpus.partners.filterMap (ofPartner ranker damping graph)
  | .appointment => corpus.appointments.filterMap (ofAppointment ranker damping graph)
  | .catalogProduct => corpus.catalogProducts.filterMap (ofCatalogProduct ranker)
  | .serviceType => corpus.serviceTypes.filterMap (ofServiceType ranker)

/-- The order of candidates: the higher score first, then the later creation, then the lower
identifier, then the kind. -/
def order (a b : Candidate) : Ordering :=
  (compare b.score.place a.score.place).then <|
    (compare b.record.createdAt.instant a.record.createdAt.instant).then <|
      (compare a.record.id b.record.id).then (compare a.record.kind.index b.record.kind.index)

def merge (candidates : List Candidate) : List Candidate :=
  candidates.mergeSort fun a b => (order a b).isLE

def preview? (ranker : Ranker) (style : HeadlineStyle) (candidate : Candidate) : Option Text :=
  let shown := match candidate.preview with
    | .marked text => headline style ranker.isHitWord text
    | .plain text => excerpt style.maxWords text
    | .none => []
  if shown.isEmpty then none else some shown

end Candidate

end TenantSearch
