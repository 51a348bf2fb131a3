import Mathlib.Data.List.Nodup
import Mathlib.Data.List.Perm.Basic
import Mathlib.Data.Option.Basic
import TenantSearch.Proofs.Distinct
import TenantSearch.RecordKind

/-! The kinds that a filter asks for. Reading a filter gives each kind once, and the set of its
tokens decides whether it is read and which kinds it names. -/
namespace TenantSearch.RecordKind

theorem mem_all (kind : RecordKind) : kind ∈ all := by
  cases kind <;> decide

theorem visible_eq_filter (kinds : Option (List RecordKind)) (isAdmin : Bool) :
    visible kinds isAdmin = (kinds.getD all).filter fun kind => isAdmin || !kind.isAdminOnly := by
  cases isAdmin <;> simp [visible]

/-! ## Tokens -/

theorem ofTokens_eq_ok {tokens : List Text} {kinds : List RecordKind} :
    ofTokens tokens = .ok kinds ↔ tokens.map parse? = kinds.map some := by
  induction tokens generalizing kinds with
  | nil => cases kinds <;> simp [ofTokens]
  | cons token rest ih =>
    cases named : parse? token with
    | none => cases kinds <;> simp [ofTokens, named]
    | some kind =>
      cases read : ofTokens rest with
      | error unknown =>
        have refused (others : List RecordKind) : rest.map parse? ≠ others.map some := by
          intro equal
          rw [ih.mpr equal] at read
          contradiction
        cases kinds <;> simp [ofTokens, named, read, Except.map, refused]
      | ok others =>
        have known := ih.mp read
        cases kinds with
        | nil => simp [ofTokens, named, read, Except.map]
        | cons first last =>
          have apart : Function.Injective (some : RecordKind → Option RecordKind) :=
            Option.some_injective _
          simp [ofTokens, named, read, Except.map, known, (List.map_injective_iff.mpr apart).eq_iff]

theorem exists_ofTokens {tokens : List Text} :
    (∃ kinds, ofTokens tokens = .ok kinds) ↔
      ∀ token ∈ tokens, ∃ kind, parse? token = some kind := by
  induction tokens with
  | nil => simp [ofTokens]
  | cons token rest ih =>
    cases named : parse? token with
    | none => simp [ofTokens, named]
    | some kind =>
      rw [List.forall_mem_cons, ← ih]
      cases read : ofTokens rest <;> simp [ofTokens, named, read, Except.map]

theorem ofTokens_eq_error {tokens : List Text} {token : Text} :
    ofTokens tokens = .error token ↔ ∃ before after, tokens = before ++ token :: after ∧
      (∀ known ∈ before, ∃ kind, parse? known = some kind) ∧ parse? token = none := by
  induction tokens with
  | nil => simp [ofTokens]
  | cons first rest ih =>
    cases named : parse? first with
    | none =>
      rw [ofTokens, named]
      constructor
      · intro reported
        obtain rfl := Except.error.inj reported
        exact ⟨[], rest, rfl, by simp, named⟩
      · rintro ⟨before, after, split, known, unnamed⟩
        cases before with
        | nil => rw [(List.cons.inj split).1]
        | cons head tail =>
          obtain ⟨kind, found⟩ := known head List.mem_cons_self
          rw [(List.cons.inj split).1, found] at named
          contradiction
    | some kind =>
      have passed : ofTokens (first :: rest) = .error token ↔ ofTokens rest = .error token := by
        cases read : ofTokens rest <;> simp [ofTokens, named, read, Except.map]
      rw [passed, ih]
      constructor
      · rintro ⟨before, after, rfl, known, unnamed⟩
        refine ⟨first :: before, after, rfl, ?_, unnamed⟩
        exact List.forall_mem_cons.mpr ⟨⟨kind, named⟩, known⟩
      · rintro ⟨before, after, split, known, unnamed⟩
        cases before with
        | nil =>
          rw [(List.cons.inj split).1, unnamed] at named
          contradiction
        | cons head tail =>
          exact ⟨tail, after, (List.cons.inj split).2, (List.forall_mem_cons.mp known).2, unnamed⟩

private theorem mem_of_ofTokens {tokens : List Text} {kinds : List RecordKind}
    (read : ofTokens tokens = .ok kinds) (kind : RecordKind) :
    kind ∈ kinds ↔ ∃ token ∈ tokens, parse? token = some kind := by
  have listed := ofTokens_eq_ok.mp read
  have members : some kind ∈ tokens.map parse? ↔ some kind ∈ kinds.map some := by rw [listed]
  simpa using members.symm

/-! ## Filters -/

theorem requested_eq_ok {filter : Text} {kinds : Option (List RecordKind)} :
    requested (some filter) = .ok kinds ↔ ∃ listed, ofTokens (tokens filter) = .ok listed ∧
      (if listed.isEmpty then none else some listed.eraseDups) = kinds := by
  cases read : ofTokens (tokens filter) <;> simp [requested, read, Except.map]

private theorem exists_requested {filter : Text} :
    (∃ kinds, requested (some filter) = .ok kinds) ↔
      ∀ token ∈ tokens filter, ∃ kind, parse? token = some kind := by
  rw [← exists_ofTokens]
  simp only [requested_eq_ok]
  constructor
  · rintro ⟨_, listed, read, _⟩
    exact ⟨listed, read⟩
  · rintro ⟨listed, read⟩
    exact ⟨_, listed, read, rfl⟩

theorem nodup_of_requested {filter : Option Text} {kinds : Option (List RecordKind)}
    (read : requested filter = .ok kinds) : (kinds.getD all).Nodup := by
  cases filter with
  | none =>
    obtain rfl := Except.ok.inj read
    decide
  | some filter =>
    obtain ⟨listed, _, rfl⟩ := requested_eq_ok.mp read
    split
    · decide
    · exact nodup_eraseDups listed

private theorem mem_of_requested {filter : Text} {kinds : Option (List RecordKind)}
    (read : requested (some filter) = .ok kinds) (kind : RecordKind) :
    kind ∈ kinds.getD all ↔
      tokens filter = [] ∨ ∃ token ∈ tokens filter, parse? token = some kind := by
  obtain ⟨listed, named, rfl⟩ := requested_eq_ok.mp read
  have known := ofTokens_eq_ok.mp named
  cases listed with
  | nil =>
    have blank : tokens filter = [] := List.map_eq_nil_iff.mp known
    simp [blank, mem_all]
  | cons first rest =>
    have given : tokens filter ≠ [] := by
      intro blank
      simp [blank] at known
    simp [given, ← mem_of_ofTokens named kind]

theorem requested_congr {filter other : Text}
    (same : ∀ token, token ∈ tokens other ↔ token ∈ tokens filter)
    {kinds : Option (List RecordKind)} (read : requested (some filter) = .ok kinds) :
    ∃ others, requested (some other) = .ok others ∧ (others.getD all).Perm (kinds.getD all) := by
  have known := exists_requested.mp ⟨kinds, read⟩
  obtain ⟨others, accepted⟩ : ∃ others, requested (some other) = .ok others :=
    exists_requested.mpr fun token member => known token ((same token).mp member)
  have blank : tokens other = [] ↔ tokens filter = [] := by
    simp only [List.eq_nil_iff_forall_not_mem, same]
  refine ⟨others, accepted, ?_⟩
  apply (List.perm_ext_iff_of_nodup (nodup_of_requested accepted) (nodup_of_requested read)).mpr
  intro kind
  rw [mem_of_requested accepted, mem_of_requested read]
  simp only [blank, same]

theorem resolve_eq_ok {filter : Option Text} {isAdmin : Bool} {kinds : List RecordKind} :
    resolve filter isAdmin = .ok kinds ↔
      ∃ named, requested filter = .ok named ∧ visible named isAdmin = kinds := by
  cases read : requested filter <;> simp [resolve, read, Except.map]

theorem resolve_eq_error {filter token : Text} {isAdmin : Bool} :
    resolve (some filter) isAdmin = .error token ↔ ofTokens (tokens filter) = .error token := by
  cases read : ofTokens (tokens filter) <;> simp [resolve, requested, read, Except.map]

theorem exists_resolve {filter : Option Text} (named : ∀ given ∈ filter, ∀ token ∈ tokens given,
    ∃ kind, parse? token = some kind) (isAdmin : Bool) :
    ∃ kinds, resolve filter isAdmin = .ok kinds := by
  cases filter with
  | none => exact ⟨_, rfl⟩
  | some given =>
    obtain ⟨kinds, read⟩ := exists_requested.mpr (named given rfl)
    exact ⟨visible kinds isAdmin, resolve_eq_ok.mpr ⟨kinds, read, rfl⟩⟩

end TenantSearch.RecordKind
