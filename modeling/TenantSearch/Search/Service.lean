import TenantSearch.Candidate
import TenantSearch.Record.Display
import TenantSearch.Search.Fetching
import TenantSearch.Search.Request

/-! The search of one tenant's records: the request is checked, the rows it needs are fetched, the
candidates of all kinds are merged into one order, and one page of them is shown. -/
namespace TenantSearch

structure SearchItem where
  id : Uuid
  kind : RecordKind
  title : Text
  subtitle : Option Text
  preview : Option Text
  status : Option Text
  link : Text
  score : Score
  matchedField : MatchedField
  createdAt : Timestamp

/-- One page of the records found, and how many there are in all. -/
structure SearchPage where
  items : List SearchItem
  total : Nat

def SearchPage.empty : SearchPage := ⟨[], 0⟩

def Candidate.toItem (ranker : Ranker) (style : HeadlineStyle) (candidate : Candidate) :
    SearchItem where
  id := candidate.record.id
  kind := candidate.record.kind
  title := candidate.record.title
  subtitle := candidate.record.subtitle
  preview := candidate.preview? ranker style
  status := candidate.record.status
  link := candidate.record.link
  score := candidate.score
  matchedField := candidate.matchedField
  createdAt := candidate.record.createdAt

/-- A search that can be called: its settings, the language they name, and the source it reads. -/
structure SearchService where
  settings : SearchSettings
  language : Language
  source : RowSource
  language_named : Language.parse? settings.language = some language

/-- A search together with what it did: the fetches it made, and the leads it asked for. -/
structure SearchOutcome where
  page : SearchPage
  fetched : List Fetch
  hub : Option (List Uuid)

def SearchOutcome.empty : SearchOutcome := ⟨.empty, [], none⟩

namespace SearchService

def ofSource (settings : SearchSettings) (source : RowSource) : Except SearchError SearchService :=
  match named : Language.parse? settings.language with
  | some language => .ok ⟨settings, language, source, named⟩
  | none => .error (.unsupportedLanguage settings.language)

def headlineStyle (settings : SearchSettings) : HeadlineStyle :=
  ⟨settings.snippet.minWords, settings.snippet.maxWords, settings.snippet.opening,
    settings.snippet.closing⟩

def pageSize (settings : SearchSettings) (limit : Option Int) : Nat :=
  match limit with
  | some limit => if 0 < limit then min limit.toNat settings.maxLimit else settings.defaultLimit
  | none => settings.defaultLimit

def ranker (service : SearchService) (query : Text) : Ranker where
  query := .ofText service.language service.settings.prefixMinChars query
  language := service.language
  weights := service.settings.weights

def merged (service : SearchService) (query : Text) (corpus : Corpus) (kinds : List RecordKind) :
    List Candidate :=
  let ranker := service.ranker query
  let damping := service.settings.damping
  let graph := LeadGraph.ofCorpus ranker damping corpus
  Candidate.merge (kinds.flatMap (Candidate.ofKind ranker damping corpus graph))

/-- Checks a request: the query without the white space around it and the kinds it covers, or none
if nothing has to be searched. -/
def plan (settings : SearchSettings) (request : SearchRequest) (isAdmin : Bool) :
    Except SearchError (Option (Text × List RecordKind)) :=
  let query := Text.trim request.query
  if query.length < settings.minQueryChars then .ok none
  else if settings.maxQueryChars < query.length then .error (.queryTooLong settings.maxQueryChars)
  else match RecordKind.resolve request.types isAdmin with
    | .error token => .error (.unknownKind token)
    | .ok kinds => .ok (if kinds.isEmpty then none else some (query, kinds))

/-- Searches the records of a tenant that the caller may see. -/
def search (service : SearchService) (tenant : Uuid) (request : SearchRequest) (isAdmin : Bool) :
    Except SearchError SearchOutcome := do
  match ← plan service.settings request isAdmin with
  | none => return .empty
  | some (query, kinds) =>
    let (corpus, hub) ← service.source.load service.settings.queryTimeoutMs tenant kinds
    let found := service.merged query corpus kinds
    let shown := (found.drop (request.offset.getD 0).toNat).take
      (pageSize service.settings request.limit)
    let items := shown.map
      (Candidate.toItem (service.ranker query) (headlineStyle service.settings))
    return ⟨⟨items, found.length⟩, Fetch.all.filter (Fetch.isNeeded kinds), hub⟩

def adminRole : Text := "admin".toList

def searchAs (service : SearchService) (tenant : Uuid) (roles : List Text)
    (request : SearchRequest) : Except SearchError SearchOutcome :=
  service.search tenant request (roles.contains adminRole)

end SearchService

end TenantSearch
