import TenantSearch.Search.Fetching

/-! What fetching gives from a store in memory. Whether and how it fails is a matter of the faults
and of the kinds that are searched for, never of the rows; without a failure it gives exactly the
tables that are needed, and the live leads that the tables of the tenant reach. -/
namespace TenantSearch

namespace Faults

def failure? (faults : Faults) (fetch : Fetch) : Option StoreError :=
  if faults.silent.contains fetch then Option.none
  else (faults.failing.lookup fetch).map .timeout

def Answers (faults : Faults) (fetch : Fetch) : Prop :=
  faults.silent.contains fetch = false ∧ faults.failure? fetch = Option.none

section
variable {α : Type} (faults : Faults) (fetch : Fetch) (rows : List α)

private theorem error?_apply : (faults.apply fetch rows).error? = faults.failure? fetch := by
  unfold apply failure?
  split
  · rfl
  · cases faults.failing.lookup fetch <;> rfl

private theorem isSilent_apply :
    (faults.apply fetch rows).isSilent = faults.silent.contains fetch := by
  unfold apply
  split
  · next silent => rw [silent]; rfl
  · next spoken =>
    rw [Bool.not_eq_true] at spoken
    rw [spoken]
    cases faults.failing.lookup fetch <;> rfl

private theorem apply_eq_rows {fetch : Fetch} (answers : faults.Answers fetch) :
    faults.apply fetch rows = .rows rows := by
  obtain ⟨spoken, sound⟩ := answers
  simp only [failure?, spoken, Bool.false_eq_true, if_false, Option.map_eq_none_iff] at sound
  simp only [apply, spoken, Bool.false_eq_true, if_false, sound]

end

def first? (faults : Faults) (kinds : List RecordKind) : Option (Fetch × StoreError) :=
  (Fetch.atOnce.filter (Fetch.isNeeded kinds)).findSome? fun fetch =>
    (faults.failure? fetch).map (fetch, ·)

def stall (faults : Faults) (kinds : List RecordKind) : Bool :=
  (Fetch.atOnce.filter (Fetch.isNeeded kinds)).any faults.silent.contains

/-- How faults end a search for some kinds: by the first failure, by silence once the time is up, or
by what becomes of the leads, which are fetched last. -/
def ending? (faults : Faults) (timeoutMs : Nat) (kinds : List RecordKind) : Option SearchError :=
  match faults.first? kinds with
  | some (fetch, error) => some (.fetchFailed fetch error)
  | Option.none =>
    if faults.stall kinds then some (.timedOut timeoutMs)
    else if Fetch.leads.isNeeded kinds then
      if faults.silent.contains .leads then some (.timedOut timeoutMs)
      else (faults.failure? .leads).map (.fetchFailed .leads)
    else Option.none

private theorem answers_of_first? {faults : Faults} {kinds : List RecordKind}
    (sound : faults.first? kinds = Option.none) (spoken : ¬ faults.stall kinds) {fetch : Fetch}
    (member : fetch ∈ Fetch.atOnce) (needed : fetch.isNeeded kinds) : faults.Answers fetch := by
  have inside := List.mem_filter.mpr ⟨member, needed⟩
  constructor
  · rw [stall, List.any_eq_true, not_exists] at spoken
    simpa [inside] using spoken fetch
  · simpa using List.findSome?_eq_none_iff.mp sound fetch inside

theorem none_ending? (timeoutMs : Nat) (kinds : List RecordKind) :
    Faults.none.ending? timeoutMs kinds = Option.none := by
  have sound : Faults.none.first? kinds = Option.none := by
    simp [first?, failure?, Faults.none]
  have spoken : Faults.none.stall kinds = false := by
    simp [stall, Faults.none]
  rw [ending?, sound, spoken]
  simp [failure?, Faults.none]

end Faults

def Corpus.neededFor (corpus : Corpus) (kinds : List RecordKind) : Corpus :=
  let table {α : Type} (fetch : Fetch) (rows : List α) : List α :=
    if fetch.isNeeded kinds then rows else []
  { leadIds := table .tenantLeadIds corpus.leadIds
    leadNotes := table .leadNotes corpus.leadNotes
    leadServices := table .leadServices corpus.leadServices
    quotes := table .quotes corpus.quotes
    partners := table .partners corpus.partners
    partnerLeads := table .partnerLeads corpus.partnerLeads
    appointments := table .appointments corpus.appointments
    catalogProducts := table .catalogProducts corpus.catalogProducts
    serviceTypes := table .serviceTypes corpus.serviceTypes
    leads := table .leads corpus.leads }

/-- All rows of a tenant in a store, with the live leads that they reach. -/
def Store.corpus (store : Store) (tenant : Uuid) : Corpus :=
  { store.rowsOf tenant with leads := store.leadsOf (store.rowsOf tenant).hub }

namespace RowSource
variable (store : Store) (faults : Faults) (tenant : Uuid) (kinds : List RecordKind)

theorem error?_onlyIf {α : Type} (needed : Bool) (reply : Reply α) :
    (reply.onlyIf needed).error? = if needed then reply.error? else none := by
  cases needed <;> rfl

theorem isSilent_onlyIf {α : Type} (needed : Bool) (reply : Reply α) :
    (reply.onlyIf needed).isSilent = (needed && reply.isSilent) := by
  cases needed <;> rfl

private theorem first?_firstReplies :
    (((store.source faults).firstReplies tenant kinds).errors.findSome? fun (fetch, error) =>
      error.map (fetch, ·)) = faults.first? kinds := by
  have listed : ((store.source faults).firstReplies tenant kinds).errors =
      Fetch.atOnce.map fun fetch =>
        (fetch, if fetch.isNeeded kinds then faults.failure? fetch else none) := by
    simp only [FirstReplies.errors, firstReplies, Store.source, error?_onlyIf, Faults.error?_apply]
    rfl
  rw [listed, Faults.first?, ← List.head?_filterMap, ← List.head?_filterMap, List.filterMap_map,
    List.filterMap_filter]
  congr 2
  funext fetch
  by_cases needed : fetch.isNeeded kinds <;> simp [needed]

private theorem anySilent_firstReplies :
    ((store.source faults).firstReplies tenant kinds).anySilent = faults.stall kinds := by
  simp only [FirstReplies.anySilent, firstReplies, Store.source, isSilent_onlyIf,
    Faults.isSilent_apply, Faults.stall, List.any_filter]
  simp [Fetch.atOnce, Bool.or_assoc]

variable {faults kinds} in
theorem rows_firstReplies (answers : ∀ fetch ∈ Fetch.atOnce, fetch.isNeeded kinds →
    faults.Answers fetch) : ((store.source faults).firstReplies tenant kinds).rows =
      ((store.corpus tenant).neededFor kinds).toTenantRows := by
  have table {α : Type} (fetch : Fetch) (member : fetch ∈ Fetch.atOnce) (rows : List α) :
      ((faults.apply fetch rows).onlyIf (fetch.isNeeded kinds)).toList =
        if fetch.isNeeded kinds then rows else [] := by
    by_cases needed : fetch.isNeeded kinds
    · rw [faults.apply_eq_rows rows (answers fetch member needed), needed]
      rfl
    · rw [if_neg needed, Bool.eq_false_iff.mpr needed]
      rfl
  simp only [FirstReplies.rows, firstReplies, Store.source]
  rw [table .tenantLeadIds (by decide), table .leadNotes (by decide),
    table .leadServices (by decide), table .quotes (by decide), table .appointments (by decide),
    table .partnerLeads (by decide), table .partners (by decide),
    table .catalogProducts (by decide), table .serviceTypes (by decide)]
  rfl

theorem hub_neededFor (corpus : Corpus) {kinds : List RecordKind}
    (needed : Fetch.leads.isNeeded kinds) :
    (corpus.neededFor kinds).toTenantRows.hub = corpus.toTenantRows.hub := by
  have related : kinds.any (·.isLeadRelated) = true := needed
  simp [TenantRows.hub, Corpus.neededFor, Fetch.isNeeded, related]

/-- What a search fetches from a store: an error that the faults alone decide, or the tables that it
needs, with the leads that it asked for. -/
theorem load_source (timeoutMs : Nat) :
    (store.source faults).load timeoutMs tenant kinds =
      match faults.ending? timeoutMs kinds with
      | some error => .error error
      | none => .ok ((store.corpus tenant).neededFor kinds,
          if Fetch.leads.isNeeded kinds then some (store.rowsOf tenant).hub else none) := by
  simp only [load, first?_firstReplies, anySilent_firstReplies, Faults.ending?]
  cases failed : faults.first? kinds with
  | some failure => rfl
  | none =>
    by_cases silent : faults.stall kinds = true
    · simp only [silent, if_true]
    have rows := rows_firstReplies store tenant fun fetch =>
      Faults.answers_of_first? failed silent
    simp only [silent, Bool.false_eq_true, if_false, rows]
    by_cases needed : Fetch.leads.isNeeded kinds = true
    · have hub := hub_neededFor (store.corpus tenant) needed
      have leads : ((store.corpus tenant).neededFor kinds).leads =
          store.leadsOf (store.rowsOf tenant).hub := if_pos needed
      simp only [needed, if_true, hub, Store.source, Faults.apply, Faults.failure?]
      by_cases mute : faults.silent.contains .leads = true
      · simp only [mute, if_true]
      simp only [mute, Bool.false_eq_true, if_false]
      cases faults.failing.lookup .leads with
      | some elapsedMs => rfl
      | none =>
        simp only [Option.map_none]
        change Except.ok (Corpus.mk _ (store.leadsOf (store.rowsOf tenant).hub), _) = _
        rw [← leads]
        rfl
    · have leads : ((store.corpus tenant).neededFor kinds).leads = [] := if_neg needed
      simp only [needed, Bool.false_eq_true, if_false]
      rw [← leads]

end RowSource

end TenantSearch
