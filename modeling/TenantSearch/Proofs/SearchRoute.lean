import TenantSearch.Http.Route
import TenantSearch.Proofs.Footprint

/-! The search over HTTP. A call must say whose records it is about, and then be readable as a
request; only after that is anything read. What the search gives is passed on, and what it cannot
give becomes an error without records. -/
namespace TenantSearch

private theorem SearchError.complains_or_fails (error : SearchError) :
    (∃ complaint, error.complaint? = some complaint) ∨
      ∃ operation cause, error.failure? = some (operation, cause) := by
  cases error <;> simp [complaint?, failure?]

private theorem nonBlank_of_trim_eq_nil {text : Text} (empty : Text.trim text = []) :
    nonBlank (some text) = none := by
  rw [nonBlank, Option.map_some, empty]
  rfl

private theorem nonBlank_of_trim_ne_nil {text : Text} (filled : Text.trim text ≠ []) :
    nonBlank (some text) = some (Text.trim text) := by
  rw [nonBlank, Option.map_some, Option.filter_some, if_pos (by simpa using filled)]

namespace Http

namespace Request
variable (request : Request)

def SameName (key : Text) (name : String) : Prop :=
  key.map Char.toLower = name.toList.map Char.toLower

def Lacks (name : String) : Prop :=
  ∀ entry ∈ request.headers, ¬ SameName entry.1 name

def HasFirst (name : String) (value : Text) : Prop :=
  ∃ before key after, request.headers = before ++ (key, value) :: after ∧ SameName key name ∧
    ∀ entry ∈ before, ¬ SameName entry.1 name

/-- Whether a value consists of visible ASCII, blanks and tabs. -/
def Readable (value : Text) : Prop :=
  ∀ c ∈ value, c = '\t' ∨ 0x20 ≤ c.toNat ∧ c.toNat < 0x7F

instance (key : Text) (name : String) : Decidable (SameName key name) :=
  inferInstanceAs (Decidable (_ = _))

/-- Why a call does not say whose records it is about. -/
inductive Anonymous : IdentityError → Prop
  | absent (lacks : request.Lacks tenantHeader) : Anonymous .missing
  | unreadable {value : Text} (first : request.HasFirst tenantHeader value)
      (garbled : ¬ Readable value) : Anonymous .missing
  | blank {value : Text} (first : request.HasFirst tenantHeader value)
      (readable : Readable value) (empty : Text.trim value = []) : Anonymous .missing
  | malformed {value : Text} (first : request.HasFirst tenantHeader value)
      (readable : Readable value) (filled : Text.trim value ≠ [])
      (unparsed : Uuid.parse? (Text.trim value) = none) : Anonymous .malformed

def Identifies (tenant : Uuid) : Prop :=
  ∃ value, request.HasFirst tenantHeader value ∧ Readable value ∧ Text.trim value ≠ [] ∧
    Uuid.parse? (Text.trim value) = some tenant

def FromAdmin : Prop :=
  ∃ value, request.HasFirst rolesHeader value ∧ Readable value ∧
    ∃ token ∈ value.splitOn ',', Text.trim token = "admin".toList

section
variable {request : Request} {name : String} {value : Text}

private theorem isReadable_iff : isReadable value = true ↔ Readable value := by
  simp [isReadable, Readable]

instance (value : Text) : Decidable (Readable value) :=
  decidable_of_iff _ isReadable_iff

private theorem lacks_iff : request.Lacks name ↔
    (request.headers.find? fun (key, _) =>
      key.map Char.toLower == name.toList.map Char.toLower) = none := by
  simp [Lacks, SameName, List.find?_eq_none]

private theorem hasFirst_iff : request.HasFirst name value ↔
    (request.headers.find? fun (key, _) =>
      key.map Char.toLower == name.toList.map Char.toLower).map (·.2) = some value := by
  simp only [HasFirst, SameName, Option.map_eq_some_iff, List.find?_eq_some_iff_append]
  constructor
  · rintro ⟨before, key, after, split, same, others⟩
    exact ⟨(key, value), ⟨beq_iff_eq.mpr same, before, after, split, by simpa using others⟩, rfl⟩
  · rintro ⟨⟨key, _⟩, ⟨same, before, after, split, others⟩, rfl⟩
    exact ⟨before, key, after, split, beq_iff_eq.mp same, by simpa using others⟩

private theorem lacks_or_hasFirst (request : Request) (name : String) :
    request.Lacks name ∨ ∃ value, request.HasFirst name value := by
  rw [lacks_iff]
  simp only [hasFirst_iff]
  cases request.headers.find? _ <;> simp

theorem header?_of_lacks (lacks : request.Lacks name) : request.header? name = none := by
  rw [header?, lacks_iff.mp lacks]
  rfl

theorem header?_eq_some :
    request.header? name = some value ↔ request.HasFirst name value ∧ Readable value := by
  rw [header?, Option.filter_eq_some_iff, hasFirst_iff, isReadable_iff]

private theorem header?_of_unreadable (first : request.HasFirst name value)
    (garbled : ¬ Readable value) : request.header? name = none := by
  rw [header?, hasFirst_iff.mp first, Option.filter_some, if_neg (mt isReadable_iff.mp garbled)]

theorem tenant_of_anonymous {error : IdentityError} (unknown : request.Anonymous error) :
    request.tenant = .error error := by
  unfold tenant
  cases unknown with
  | absent lacks =>
    rw [header?_of_lacks lacks]
    rfl
  | unreadable first garbled =>
    rw [header?_of_unreadable first garbled]
    rfl
  | blank first readable empty =>
    rw [header?_eq_some.mpr ⟨first, readable⟩, nonBlank_of_trim_eq_nil empty]
  | malformed first readable filled unparsed =>
    simp only [header?_eq_some.mpr ⟨first, readable⟩, nonBlank_of_trim_ne_nil filled, unparsed]

theorem tenant_of_identifies {id : Uuid} (known : request.Identifies id) :
    request.tenant = .ok id := by
  obtain ⟨value, first, readable, filled, parsed⟩ := known
  simp only [tenant, header?_eq_some.mpr ⟨first, readable⟩, nonBlank_of_trim_ne_nil filled, parsed]

theorem anonymous_or_identifies (request : Request) :
    (∃ error, request.Anonymous error) ∨ ∃ tenant, request.Identifies tenant := by
  obtain lacks | ⟨value, first⟩ := request.lacks_or_hasFirst tenantHeader
  · exact .inl ⟨_, .absent lacks⟩
  by_cases readable : Readable value
  · by_cases empty : Text.trim value = []
    · exact .inl ⟨_, .blank first readable empty⟩
    · cases parsed : Uuid.parse? (Text.trim value) with
      | none => exact .inl ⟨_, .malformed first readable empty parsed⟩
      | some tenant => exact .inr ⟨tenant, value, first, readable, empty, parsed⟩
  · exact .inl ⟨_, .unreadable first readable⟩

private theorem not_identifies_of_anonymous {error : IdentityError}
    (unknown : request.Anonymous error) (tenant : Uuid) : ¬ request.Identifies tenant := by
  intro known
  simpa using (tenant_of_anonymous unknown).symm.trans (tenant_of_identifies known)

private theorem contains_adminRole : request.roles.contains SearchService.adminRole = true ↔
    request.FromAdmin := by
  have named (value : Text) :
      (((value.splitOn ',').map Text.trim).filter (!·.isEmpty)).contains
          SearchService.adminRole = true ↔
        ∃ token ∈ value.splitOn ',', Text.trim token = "admin".toList := by
    rw [List.contains_iff_mem, List.mem_filter, and_iff_left (by decide), List.mem_map]
    rfl
  have sent : request.FromAdmin ↔ ∃ value, request.header? rolesHeader = some value ∧
      ∃ token ∈ value.splitOn ',', Text.trim token = "admin".toList := by
    simp only [FromAdmin, header?_eq_some, and_assoc]
  rw [sent, roles]
  cases request.header? rolesHeader with
  | none => simp
  | some value => simpa using named value

end

end Request

variable {service : SearchService} {request : Request}

/-- What a call to the search is answered: the first reason to refuse it, or what the search of the
tenant's records gives. -/
inductive Answers (service : SearchService) (request : Request) : Response → Prop
  | anonymous {error : IdentityError} (unknown : request.Anonymous error) :
      Answers service request (.refusal 401 "UNAUTHORIZED" error.message.toList)
  | unread {tenant : Uuid} {rejection : QueryStringError} (known : request.Identifies tenant)
      (rejected : SearchRequest.ofPairs (pairs request.queryString) = .error rejection) :
      Answers service request (.refusal 400 "VALIDATION_FAILED" rejection.message.toList)
  | complaint {tenant : Uuid} {query : SearchRequest} {isAdmin : Bool} {error : SearchError}
      {complaint : Text} (known : request.Identifies tenant)
      (read : SearchRequest.ofPairs (pairs request.queryString) = .ok query)
      (admin : isAdmin = true ↔ request.FromAdmin)
      (searched : service.search tenant query isAdmin = .error error)
      (complains : error.complaint? = some complaint) :
      Answers service request
        (.refusal 400 "VALIDATION_FAILED" ("Validation failed: ".toList ++ complaint))
  | failure {tenant : Uuid} {query : SearchRequest} {isAdmin : Bool} {error : SearchError}
      {operation : String} {cause : StoreError} (known : request.Identifies tenant)
      (read : SearchRequest.ofPairs (pairs request.queryString) = .ok query)
      (admin : isAdmin = true ↔ request.FromAdmin)
      (searched : service.search tenant query isAdmin = .error error)
      (fails : error.failure? = some (operation, cause)) :
      Answers service request
        (.refusal 500 "INTERNAL" ("Internal error during " ++ operation ++ ".").toList)
  | page {tenant : Uuid} {query : SearchRequest} {isAdmin : Bool} {outcome : SearchOutcome}
      (known : request.Identifies tenant)
      (read : SearchRequest.ofPairs (pairs request.queryString) = .ok query)
      (admin : isAdmin = true ↔ request.FromAdmin)
      (searched : service.search tenant query isAdmin = .ok outcome) :
      Answers service request ⟨200, .page outcome.page⟩

private theorem searchAs_roles {tenant : Uuid} {query : SearchRequest} {isAdmin : Bool}
    (admin : isAdmin = true ↔ request.FromAdmin) :
    service.searchAs tenant request.roles query = service.search tenant query isAdmin := by
  have same : request.roles.contains SearchService.adminRole = isAdmin :=
    Bool.eq_iff_iff.mpr (Request.contains_adminRole.trans admin.symm)
  rw [SearchService.searchAs, same]

private theorem ofError_of_complaint {error : SearchError} {complaint : Text}
    (complains : error.complaint? = some complaint) : Response.ofError error =
      .refusal 400 "VALIDATION_FAILED" ("Validation failed: ".toList ++ complaint) := by
  have blameless : error.failure? = none := by
    cases error <;> first | rfl | cases complains
  simp only [Response.ofError, blameless, SearchError.message, complains]

private theorem ofError_of_failure {error : SearchError} {operation : String} {cause : StoreError}
    (fails : error.failure? = some (operation, cause)) : Response.ofError error =
      .refusal 500 "INTERNAL" ("Internal error during " ++ operation ++ ".").toList := by
  have content : error.complaint? = none := by
    cases error <;> first | rfl | cases fails
  simp only [Response.ofError, fails, SearchError.message, content]

private theorem search_of_answers {response : Response}
    (answers : Answers service request response) : search service request = response := by
  unfold search
  cases answers with
  | anonymous unknown => rw [Request.tenant_of_anonymous unknown]
  | unread known rejected => simp only [Request.tenant_of_identifies known, rejected]
  | complaint known read admin searched complains =>
    simp only [Request.tenant_of_identifies known, read, searchAs_roles admin, searched]
    exact ofError_of_complaint complains
  | failure known read admin searched fails =>
    simp only [Request.tenant_of_identifies known, read, searchAs_roles admin, searched]
    exact ofError_of_failure fails
  | page known read admin searched =>
    simp only [Request.tenant_of_identifies known, read, searchAs_roles admin, searched]

theorem exists_answers (service : SearchService) (request : Request) :
    ∃ response, Answers service request response := by
  obtain ⟨error, unknown⟩ | ⟨tenant, known⟩ := request.anonymous_or_identifies
  · exact ⟨_, .anonymous unknown⟩
  cases read : SearchRequest.ofPairs (pairs request.queryString) with
  | error rejection => exact ⟨_, .unread known read⟩
  | ok query =>
    obtain ⟨isAdmin, admin⟩ : ∃ isAdmin : Bool, isAdmin = true ↔ request.FromAdmin :=
      ⟨_, Request.contains_adminRole⟩
    cases searched : service.search tenant query isAdmin with
    | ok outcome => exact ⟨_, .page known read admin searched⟩
    | error error =>
      obtain ⟨complaint, complains⟩ | ⟨operation, cause, fails⟩ := error.complains_or_fails
      · exact ⟨_, .complaint known read admin searched complains⟩
      · exact ⟨_, .failure known read admin searched fails⟩

theorem search_eq_iff {response : Response} :
    search service request = response ↔ Answers service request response := by
  refine ⟨?_, search_of_answers⟩
  rintro rfl
  obtain ⟨response, answers⟩ := exists_answers service request
  exact search_of_answers answers ▸ answers

theorem Answers.status_eq_401 {response : Response}
    (answers : Answers service request response) :
    response.status = 401 ↔ ∃ error, request.Anonymous error := by
  constructor
  · intro status
    cases answers with
    | anonymous unknown => exact ⟨_, unknown⟩
    | unread | complaint | failure | page => cases status
  · rintro ⟨error, unknown⟩
    rw [← search_of_answers answers, search_of_answers (.anonymous unknown)]
    rfl

theorem Answers.page_or_error {response : Response} (answers : Answers service request response) :
    (response.status = 200 ∧ ∃ page, response.body = .page page) ∨
      (response.status ≠ 200 ∧ ∃ code message, response.body = .error code message) := by
  cases answers with
  | page => exact .inl ⟨rfl, _, rfl⟩
  | anonymous | unread | complaint | failure => exact .inr ⟨by simp [Response.refusal], _, _, rfl⟩

theorem answer_of_get (service : SearchService) (asked : request.method = "GET".toList)
    (place : request.path = "/v1/search".toList) :
    answer service request = search service request := by
  simp only [answer, place, asked]
  rfl

end Http

end TenantSearch
