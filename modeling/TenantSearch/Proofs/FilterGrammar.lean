import TenantSearch.Proofs.Answer
import TenantSearch.Search.Error

/-! What a filter means. Its tokens are names of kinds, and the first one that is not is reported.
The kinds come in the order in which they are first named, each once; no token at all stands for
every kind. What a caller may search keeps that order, and written down again it reads the same. -/
namespace TenantSearch

namespace RecordKind

/-! ## Names -/

def Named (token : Text) : Prop := ∃ kind : RecordKind, token = kind.name.toList

theorem parse?_eq_some {token : Text} {kind : RecordKind} :
    parse? token = some kind ↔ token = kind.name.toList := by
  constructor
  · intro read
    have named := List.find?_some read
    exact (beq_iff_eq.mp named).symm
  · rintro rfl
    cases kind <;> rfl

theorem named_iff {token : Text} : Named token ↔ ∃ kind, parse? token = some kind := by
  simp only [Named, parse?_eq_some]

private theorem not_named_iff {token : Text} : ¬ Named token ↔ parse? token = none := by
  rw [named_iff, ← Option.isSome_iff_exists, Bool.not_eq_true, Option.isSome_eq_false_iff,
    Option.isNone_iff_eq_none]

theorem name_injective : Function.Injective fun kind : RecordKind => kind.name.toList := by
  intro first second same
  have read := parse?_eq_some.mpr same
  rw [parse?_eq_some.mpr rfl] at read
  exact Option.some.inj read

theorem ofTokens_eq_ok_iff {tokens : List Text} {kinds : List RecordKind} :
    ofTokens tokens = .ok kinds ↔ tokens = kinds.map (·.name.toList) := by
  rw [ofTokens_eq_ok]
  induction tokens generalizing kinds with
  | nil => cases kinds <;> simp
  | cons token rest ih => cases kinds <;> simp [ih, parse?_eq_some]

private theorem idxOf_map_name (kinds : List RecordKind) (kind : RecordKind) :
    (kinds.map (·.name.toList)).idxOf kind.name.toList = kinds.idxOf kind := by
  rw [List.idxOf, List.findIdx_map, List.idxOf]
  congr 1
  funext other
  exact Bool.eq_iff_iff.mpr (by simp [name_injective.eq_iff])

/-! ## Meaning -/

/-- Some kinds in the order in which tokens first name them. -/
structure FirstNamed (tokens : List Text) (kinds : List RecordKind) : Prop where
  nodup : kinds.Nodup
  mem : ∀ kind, kind ∈ kinds ↔ kind.name.toList ∈ tokens
  ordered : kinds.Pairwise fun first second =>
    tokens.idxOf first.name.toList < tokens.idxOf second.name.toList

/-- What the tokens of a filter mean: the first one that names no kind is refused, no tokens ask for
every kind, and others for the kinds that they name. -/
inductive Means : List Text → Except Text (Option (List RecordKind)) → Prop
  | unknown {before : List Text} {token : Text} {after : List Text}
      (known : ∀ other ∈ before, Named other) (unnamed : ¬ Named token) :
      Means (before ++ token :: after) (.error token)
  | everything : Means [] (.ok none)
  | these {tokens : List Text} {kinds : List RecordKind} (given : tokens ≠ [])
      (known : ∀ token ∈ tokens, Named token) (first : FirstNamed tokens kinds) :
      Means tokens (.ok (some kinds))

theorem FirstNamed.unique {tokens : List Text} {kinds others : List RecordKind}
    (left : FirstNamed tokens kinds) (right : FirstNamed tokens others) : kinds = others := by
  have permuted : kinds.Perm others := by
    rw [List.perm_ext_iff_of_nodup left.nodup right.nodup]
    intro kind
    rw [left.mem, right.mem]
  apply permuted.eq_of_pairwise _ left.ordered right.ordered
  intro first second _ _ before after
  exact absurd before (Nat.lt_asymm after)

private theorem firstNamed_eraseDups (kinds : List RecordKind) :
    FirstNamed (kinds.map (·.name.toList)) kinds.eraseDups := by
  refine ⟨nodup_eraseDups kinds, ?_, ?_⟩
  · intro kind
    rw [List.mem_eraseDups, List.mem_map_of_injective name_injective]
  · simpa only [idxOf_map_name] using pairwise_idxOf_eraseDups kinds

def given (filter : Option Text) : List Text := (filter.map tokens).getD []

private theorem requested_eq (filter : Option Text) : requested filter =
    (ofTokens (given filter)).map fun kinds =>
      if kinds.isEmpty then none else some kinds.eraseDups := by
  cases filter <;> rfl

/-- A filter is read as what its tokens mean. -/
theorem requested_eq_iff {filter : Option Text}
    {outcome : Except Text (Option (List RecordKind))} :
    requested filter = outcome ↔ Means (given filter) outcome := by
  rw [requested_eq]
  generalize given filter = tokens
  constructor
  · rintro rfl
    cases read : ofTokens tokens with
    | error token =>
      obtain ⟨before, after, rfl, known, unnamed⟩ := ofTokens_eq_error.mp read
      exact .unknown (fun other listed => named_iff.mpr (known other listed))
        (not_named_iff.mpr unnamed)
    | ok kinds =>
      obtain rfl := ofTokens_eq_ok_iff.mp read
      cases kinds with
      | nil => exact .everything
      | cons kind others =>
        refine .these (by simp) ?_ (firstNamed_eraseDups _)
        intro token listed
        obtain ⟨kind, _, rfl⟩ := List.mem_map.mp listed
        exact ⟨kind, rfl⟩
  · intro meaning
    cases meaning with
    | @unknown before token after known unnamed =>
      have split : ofTokens (before ++ token :: after) = .error token :=
        ofTokens_eq_error.mpr ⟨before, after, rfl,
          fun other listed => named_iff.mp (known other listed), not_named_iff.mp unnamed⟩
      rw [split]
      rfl
    | everything => rfl
    | these given known first =>
      obtain ⟨kinds, read⟩ :=
        exists_ofTokens.mpr fun token listed => named_iff.mp (known token listed)
      obtain rfl := ofTokens_eq_ok_iff.mp read
      have nonempty : kinds ≠ [] := by simpa using given
      rw [read, first.unique (firstNamed_eraseDups kinds)]
      simp [Except.map, nonempty]

theorem exists_requested_error {filter : Option Text} :
    (∃ token, requested filter = .error token) ↔ ∃ token ∈ given filter, ¬ Named token := by
  have refused : (∃ token, requested filter = .error token) ↔
      ¬ ∃ kinds, ofTokens (given filter) = .ok kinds := by
    rw [requested_eq]
    cases ofTokens (given filter) <;> simp [Except.map]
  rw [refused, exists_ofTokens]
  simp only [named_iff, not_forall, exists_prop]

/-! ## Written filters -/

def joined (kinds : List RecordKind) : Text := [','].intercalate (kinds.map (·.name.toList))

private theorem tokens_joined {kinds : List RecordKind} (nonempty : kinds ≠ []) :
    tokens (joined kinds) = kinds.map (·.name.toList) := by
  have plain (kind : RecordKind) : ',' ∉ kind.name.toList ∧
      Text.trim kind.name.toList = kind.name.toList ∧ kind.name.toList ≠ [] := by
    cases kind <;> decide +kernel
  have split : (joined kinds).splitOn ',' = kinds.map (·.name.toList) := by
    apply List.splitOn_intercalate ',' _ (by simpa using nonempty)
    intro name listed
    obtain ⟨kind, _, rfl⟩ := List.mem_map.mp listed
    exact (plain kind).1
  have trimmed : Text.trim ∘ (fun kind : RecordKind => kind.name.toList) = (·.name.toList) :=
    funext fun kind => (plain kind).2.1
  rw [tokens, split, List.map_map, trimmed, List.filter_eq_self]
  intro name listed
  obtain ⟨kind, _, rfl⟩ := List.mem_map.mp listed
  simpa using (plain kind).2.2

theorem requested_joined {kinds : List RecordKind} (nonempty : kinds ≠ [])
    (distinct : kinds.Nodup) : requested (some (joined kinds)) = .ok (some kinds) := by
  have read : ofTokens (tokens (joined kinds)) = .ok kinds :=
    ofTokens_eq_ok_iff.mpr (tokens_joined nonempty)
  rw [requested_eq_ok]
  exact ⟨kinds, read, by rw [eraseDups_of_nodup distinct]; simp [nonempty]⟩

theorem visible_visible (kinds : Option (List RecordKind)) (isAdmin : Bool) :
    visible (some (visible kinds isAdmin)) isAdmin = visible kinds isAdmin := by
  rw [visible_eq_filter, visible_eq_filter, Option.getD_some, List.filter_filter]
  simp only [Bool.and_self]

theorem resolve_joined {filter : Option Text} {isAdmin : Bool} {kinds : List RecordKind}
    (resolved : resolve filter isAdmin = .ok kinds) (nonempty : kinds ≠ []) :
    resolve (some (joined kinds)) isAdmin = .ok kinds := by
  have distinct := SearchService.nodup_of_resolve resolved
  obtain ⟨named, _, rfl⟩ := resolve_eq_ok.mp resolved
  exact resolve_eq_ok.mpr ⟨_, requested_joined nonempty distinct, visible_visible named isAdmin⟩

end RecordKind

namespace SearchService

theorem plan_of_unknown {settings : SearchSettings} {request : SearchRequest} {token : Text}
    (read : RecordKind.requested request.types = .error token)
    (long : settings.minQueryChars ≤ (Text.trim request.query).length)
    (short : (Text.trim request.query).length ≤ settings.maxQueryChars) (isAdmin : Bool) :
    ∃ error, plan settings request isAdmin = .error error ∧ error.complaint? =
      some ("Unknown entity type '".toList ++ token ++ "' in types filter.".toList) := by
  have refused : RecordKind.resolve request.types isAdmin = .error token := by
    rw [RecordKind.resolve, read]
    rfl
  refine ⟨.unknownKind token, ?_, rfl⟩
  rw [plan_eq_resolve long short, refused]

end SearchService

namespace RecordKind

/-- A filter is read exactly as its tokens mean. It is refused if and only if a token names no kind,
and the message of the search names the first one. What is read becomes the kinds that are searched:
for administrators all of them, for others those without the types of services, in the same order.
Written down, they are read again as they are. -/
theorem filter_grammar (filter : Option Text) :
    (∀ outcome, requested filter = outcome ↔ Means (given filter) outcome) ∧
    ((∃ token, requested filter = .error token) ↔ ∃ token ∈ given filter, ¬ Named token) ∧
    (∀ token, requested filter = .error token →
      (∀ isAdmin, resolve filter isAdmin = .error token) ∧
      ∀ settings query limit offset isAdmin,
        settings.minQueryChars ≤ (Text.trim query).length →
        (Text.trim query).length ≤ settings.maxQueryChars →
          ∃ error, SearchService.plan settings ⟨query, filter, limit, offset⟩ isAdmin =
              .error error ∧
            error.complaint? =
              some ("Unknown entity type '".toList ++ token ++ "' in types filter.".toList)) ∧
    (requested filter = .ok none →
      resolve filter true =
          .ok [lead, quote, partner, appointment, catalogProduct, serviceType] ∧
        resolve filter false = .ok [lead, quote, partner, appointment, catalogProduct]) ∧
    (∀ kinds, requested filter = .ok (some kinds) →
      resolve filter true = .ok kinds ∧
        resolve filter false = .ok (kinds.filter (· ≠ serviceType))) ∧
    ∀ isAdmin kinds, resolve filter isAdmin = .ok kinds → kinds ≠ [] →
      resolve (some (joined kinds)) isAdmin = .ok kinds := by
  refine ⟨fun outcome => requested_eq_iff, exists_requested_error, ?_, ?_, ?_, ?_⟩
  · intro token read
    constructor
    · intro isAdmin
      rw [resolve, read]
      rfl
    · intro settings query limit offset isAdmin long short
      exact SearchService.plan_of_unknown read long short isAdmin
  · intro read
    exact ⟨resolve_eq_ok.mpr ⟨none, read, rfl⟩, resolve_eq_ok.mpr ⟨none, read, rfl⟩⟩
  · intro kinds read
    refine ⟨resolve_eq_ok.mpr ⟨kinds, read, rfl⟩, resolve_eq_ok.mpr ⟨kinds, read, ?_⟩⟩
    refine List.filter_congr ?_
    intro kind _
    cases kind <;> rfl
  · intro isAdmin kinds resolved nonempty
    exact resolve_joined resolved nonempty

/-- Blanks around tokens, a blank token and a kind that is named twice make no difference; a token
with another case is refused even behind known ones, and others behind it are not reported. -/
theorem filter_grammar_samples :
    let filter := some " quote,　lead , , quote,service_type".toList
    let wrong := some "lead,Quote,bogus".toList
    requested filter = .ok (some [quote, lead, serviceType]) ∧
      resolve filter false = .ok [quote, lead] ∧
      resolve (some "quote,lead".toList) false = .ok [quote, lead] ∧
      Means (given wrong) (.error "Quote".toList) := by
  intro filter wrong
  have read : requested filter = .ok (some [quote, lead, serviceType]) := by decide +kernel
  obtain ⟨_, _, _, _, named, again⟩ := filter_grammar filter
  have shown := (named _ read).2
  exact ⟨read, shown, again false _ shown (by decide),
    ((filter_grammar wrong).1 _).mp (by decide +kernel)⟩

end RecordKind

end TenantSearch
