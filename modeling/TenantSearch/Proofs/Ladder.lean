import TenantSearch.Proofs.DescriptionMarks
import TenantSearch.Proofs.Inclusion

/-! The ladder for records of the catalogue. A query may be the whole of a text, its start or a part
of it, and for each text that is worth a fixed score. The tests are made one after the other, the
highest score first, so what the ladder gives is the best of all that apply. A record whose title is
searched for is therefore found with the full score. -/
namespace TenantSearch

/-! ## Rungs -/

def Rung.place : Rung → ℕ
  | .primary => 0
  | .secondary => 1
  | .description => 2

theorem Text.occursIn_iff_infix {part text : Text} :
    part.occursIn text = true ↔ part <:+: text := by
  constructor
  · intro occurs
    obtain ⟨before, after, same⟩ := Text.exists_split_of_occursIn occurs
    exact ⟨before, after, same.symm⟩
  · rintro ⟨before, after, rfl⟩
    induction before with
    | nil =>
      cases part with
      | nil => cases after <;> rfl
      | cons c rest =>
        have start : (c :: rest).isPrefixOf (c :: (rest ++ after)) = true :=
          List.isPrefixOf_iff_prefix.mpr (List.prefix_append ..)
        exact Bool.or_eq_true_iff.mpr (.inl start)
    | cons c before ih => exact Bool.or_eq_true_iff.mpr (.inr ih)

namespace Ranker

/-- How a query may stand in the texts of a record, what that scores, and on which text it does. -/
inductive Applies (query primary : Text) (secondary description : Option Text) :
    Score → Rung → Prop
  | whole (same : query = primary) : Applies query primary secondary description 1.0 .primary
  | wholeSecondary (same : secondary = some query) :
    Applies query primary secondary description 1.0 .secondary
  | start (begins : query <+: primary) : Applies query primary secondary description 0.8 .primary
  | startSecondary {text : Text} (given : secondary = some text) (begins : query <+: text) :
    Applies query primary secondary description 0.6 .secondary
  | part (inside : query <:+: primary) : Applies query primary secondary description 0.3 .primary
  | partSecondary {text : Text} (given : secondary = some text) (inside : query <:+: text) :
    Applies query primary secondary description 0.3 .secondary
  | partDescription {text : Text} (given : description = some text) (inside : query <:+: text) :
    Applies query primary secondary description 0.3 .description

/-- A score that is the highest of those that apply, and the preferred text among those that
attain it. -/
structure TopRung (applies : Score → Rung → Prop) (score : Score) (rung : Rung) : Prop where
  reached : applies score rung
  highest : ∀ {value other}, applies value other → value ≤ score
  preferred : ∀ {value other}, applies value other → value = score → rung.place ≤ other.place

def rungs : List (Score × Rung) :=
  [(1.0, .primary), (1.0, .secondary), (0.8, .primary), (0.6, .secondary), (0.3, .primary),
    (0.3, .secondary), (0.3, .description)]

def AsGood (rung other : Score × Rung) : Prop :=
  other.1 ≤ rung.1 ∧ (other.1 = rung.1 → rung.2.place ≤ other.2.place)

instance (rung other : Score × Rung) : Decidable (AsGood rung other) :=
  inferInstanceAs (Decidable (_ ∧ _))

private theorem rungs_descend : rungs.Pairwise AsGood ∧ ∀ rung ∈ rungs, AsGood rung rung := by
  decide

section
variable (query primary : Text) (secondary description : Option Text)

def steps : List ((Score × Rung) × Bool) :=
  rungs.zip [decide (primary = query), decide (secondary = some query), query.isPrefixOf primary,
    secondary.any query.isPrefixOf, query.occursIn primary, secondary.any query.occursIn,
    description.any query.occursIn]

private theorem map_steps : (steps query primary secondary description).map (·.1) = rungs := rfl

variable {query primary secondary description}

private theorem applies_iff {score : Score} {rung : Rung} :
    Applies query primary secondary description score rung ↔
      ((score, rung), true) ∈ steps query primary secondary description := by
  constructor
  · intro applies
    cases applies with
    | whole same => simp [steps, rungs, same]
    | wholeSecondary same => simp [steps, rungs, same]
    | start begins => simp [steps, rungs, begins]
    | startSecondary given begins => simp [steps, rungs, given, begins]
    | part inside => simp [steps, rungs, Text.occursIn_iff_infix.mpr inside]
    | partSecondary given inside => simp [steps, rungs, given, Text.occursIn_iff_infix.mpr inside]
    | partDescription given inside => simp [steps, rungs, given, Text.occursIn_iff_infix.mpr inside]
  · intro listed
    simp only [steps, rungs, List.zip_cons_cons, List.zip_nil_right, List.mem_cons,
      Prod.mk.injEq, List.not_mem_nil, or_false] at listed
    rcases listed with ⟨⟨rfl, rfl⟩, test⟩ | ⟨⟨rfl, rfl⟩, test⟩ | ⟨⟨rfl, rfl⟩, test⟩ |
      ⟨⟨rfl, rfl⟩, test⟩ | ⟨⟨rfl, rfl⟩, test⟩ | ⟨⟨rfl, rfl⟩, test⟩ | ⟨⟨rfl, rfl⟩, test⟩
    · exact .whole (of_decide_eq_true test.symm).symm
    · exact .wholeSecondary (of_decide_eq_true test.symm)
    · exact .start (List.isPrefixOf_iff_prefix.mp test.symm)
    · obtain ⟨text, given, begins⟩ := (Option.any_eq_true ..).mp test.symm
      exact .startSecondary given (List.isPrefixOf_iff_prefix.mp begins)
    · exact .part (Text.occursIn_iff_infix.mp test.symm)
    · obtain ⟨text, given, inside⟩ := (Option.any_eq_true ..).mp test.symm
      exact .partSecondary given (Text.occursIn_iff_infix.mp inside)
    · obtain ⟨text, given, inside⟩ := (Option.any_eq_true ..).mp test.symm
      exact .partDescription given (Text.occursIn_iff_infix.mp inside)

/-- The rung of the first test that succeeds is the top one. -/
private theorem topRung_of_find? {rung : Score × Rung} {tested : Bool}
    (first : (steps query primary secondary description).find? (·.2) = some (rung, tested)) :
    TopRung (Applies query primary secondary description) rung.1 rung.2 := by
  obtain ⟨succeeds, before, after, split, fail⟩ := List.find?_eq_some_iff_append.mp first
  obtain rfl : tested = true := succeeds
  have member : (rung, true) ∈ steps query primary secondary description :=
    split ▸ List.mem_append_right _ List.mem_cons_self
  have listed : rung ∈ rungs := by
    rw [← map_steps query primary secondary description]
    exact List.mem_map_of_mem member
  have descend := rungs_descend.1
  rw [← map_steps query primary secondary description, split, List.pairwise_map,
    List.pairwise_append, List.pairwise_cons] at descend
  have asGood {value : Score} {other : Rung}
      (applies : Applies query primary secondary description value other) :
      AsGood rung (value, other) := by
    have tested := applies_iff.mp applies
    rw [split, List.mem_append, List.mem_cons] at tested
    rcases tested with earlier | same | later
    · exact absurd (fail _ earlier) (by simp)
    · obtain rfl : (value, other) = rung := congrArg Prod.fst same
      exact rungs_descend.2 _ listed
    · exact descend.2.1.1 ((value, other), true) later
  exact ⟨applies_iff.mpr member, fun applies => (asGood applies).1,
    fun applies => (asGood applies).2⟩

end

/-! ## The ladder -/

variable {ranker : Ranker} {primary : Text} {secondary description : Option Text}

private theorem ladder_eq_find? (asked : ranker.query.folded ≠ []) :
    ranker.ladder primary secondary description =
      ((steps ranker.query.folded (foldLiteral primary) (secondary.map foldLiteral)
        (description.map foldLiteral)).find? (·.2)).map (·.1) := by
  rw [ladder]
  simp only [List.isEmpty_iff, asked, if_false]
  split_ifs <;> simp_all [steps, rungs]

theorem ladder_of_empty (empty : ranker.query.folded = []) :
    ranker.ladder primary secondary description = none := by
  rw [ladder, empty]
  rfl

theorem topRung_of_ladder {score : Score} {rung : Rung}
    (found : ranker.ladder primary secondary description = some (score, rung)) :
    TopRung (Applies ranker.query.folded (foldLiteral primary) (secondary.map foldLiteral)
      (description.map foldLiteral)) score rung := by
  by_cases empty : ranker.query.folded = []
  · rw [ladder_of_empty empty] at found
    contradiction
  · rw [ladder_eq_find? empty] at found
    obtain ⟨⟨step, tested⟩, first, rfl⟩ := Option.map_eq_some_iff.mp found
    exact topRung_of_find? first

private theorem exists_infix_iff {query primary : Text} {secondary description : Option Text} :
    (∃ score rung, Applies query primary secondary description score rung) ↔
      query <:+: primary ∨ (∃ text, secondary = some text ∧ query <:+: text) ∨
        ∃ text, description = some text ∧ query <:+: text := by
  constructor
  · rintro ⟨score, rung, applies⟩
    cases applies with
    | whole same => exact .inl (same ▸ List.infix_rfl)
    | wholeSecondary same => exact .inr (.inl ⟨query, same, List.infix_rfl⟩)
    | start begins => exact .inl begins.isInfix
    | startSecondary given begins => exact .inr (.inl ⟨_, given, begins.isInfix⟩)
    | part inside => exact .inl inside
    | partSecondary given inside => exact .inr (.inl ⟨_, given, inside⟩)
    | partDescription given inside => exact .inr (.inr ⟨_, given, inside⟩)
  · rintro (inside | ⟨text, given, inside⟩ | ⟨text, given, inside⟩)
    · exact ⟨_, _, .part inside⟩
    · exact ⟨_, _, .partSecondary given inside⟩
    · exact ⟨_, _, .partDescription given inside⟩

theorem ladder_isSome_iff :
    (ranker.ladder primary secondary description).isSome = true ↔ ranker.query.folded ≠ [] ∧
      ∃ score rung, Applies ranker.query.folded (foldLiteral primary)
        (secondary.map foldLiteral) (description.map foldLiteral) score rung := by
  by_cases empty : ranker.query.folded = []
  · rw [ladder_of_empty empty]
    simp [empty]
  · rw [ladder_eq_find? empty, Option.isSome_map, List.find?_isSome]
    simp only [ne_eq, empty, not_false_eq_true, true_and, applies_iff]
    constructor
    · rintro ⟨⟨⟨score, rung⟩, tested⟩, member, rfl⟩
      exact ⟨score, rung, member⟩
    · rintro ⟨score, rung, member⟩
      exact ⟨_, member, rfl⟩

theorem ladder_of_whole (asked : ranker.query.folded ≠ [])
    (same : foldLiteral primary = ranker.query.folded) :
    ranker.ladder primary secondary description = some (1.0, .primary) := by
  rw [ladder]
  simp only [List.isEmpty_iff, asked, if_false, same, if_true]

end Ranker

/-! ## Searching for a title -/

private theorem Candidate.exists_ofRecord_of_title {ranker : Ranker} {record : Record}
    (catalogue : record.kind.isLeadRelated = false) (asked : ranker.query.folded ≠ [])
    (titled : foldLiteral record.title = ranker.query.folded) (damping : Damping)
    (graph : LeadGraph) : ∃ candidate, ofRecord ranker damping graph record = some candidate ∧
      candidate.record = record ∧ candidate.score = 1.0 := by
  cases record with
  | lead | quote | partner | appointment => contradiction
  | catalogProduct product =>
    have whole := @Ranker.ladder_of_whole ranker product.title product.reference
      product.description asked titled
    exact ⟨_, Option.map_eq_some_iff.mpr ⟨_, whole, rfl⟩, rfl, rfl⟩
  | serviceType row =>
    have whole := @Ranker.ladder_of_whole ranker row.name (some row.slug) row.description asked
      titled
    exact ⟨_, Option.map_eq_some_iff.mpr ⟨_, whole, rfl⟩, rfl, rfl⟩

namespace SearchService

theorem exists_mem_merged_of_title {service : SearchService} {query : Text} {corpus : Corpus}
    {kinds : List RecordKind} {record : Record} (catalogue : record.kind.isLeadRelated = false)
    (asked : record.kind ∈ kinds) (held : corpus.Holds record) (nonempty : foldLiteral query ≠ [])
    (titled : foldLiteral record.title = foldLiteral query) :
    ∃ candidate ∈ service.merged query corpus kinds,
      candidate.record = record ∧ candidate.score = 1.0 := by
  obtain ⟨candidate, made, same, full⟩ := @Candidate.exists_ofRecord_of_title
    (service.ranker query) record catalogue nonempty titled service.settings.damping
    (LeadGraph.ofCorpus (service.ranker query) service.settings.damping corpus)
  obtain ⟨member, _⟩ := mem_merged_alone_iff.mpr ⟨asked, held.alone, made⟩
  exact ⟨candidate, member, same, full⟩

/-- The ladder gives the best rung that applies to the folded texts of a record, and nothing if the
query is empty or stands in none of them; nothing else than the folded texts matters to it. So a
search for the title of a product or the name of a type of service, however it is written, finds
that record with the full score. -/
theorem search_ladder :
    (∀ (ranker : Ranker) (primary : Text) (secondary description : Option Text),
      let query := ranker.query.folded
      let found := ranker.ladder primary secondary description
      (found.isSome = true ↔ query ≠ [] ∧ (query <:+: foldLiteral primary ∨
        (∃ text, secondary = some text ∧ query <:+: foldLiteral text) ∨
          ∃ text, description = some text ∧ query <:+: foldLiteral text)) ∧
      (∀ score rung, found = some (score, rung) →
        Ranker.TopRung (Ranker.Applies query (foldLiteral primary) (secondary.map foldLiteral)
          (description.map foldLiteral)) score rung) ∧
      ∀ (other : Ranker) (first : Text) (second third : Option Text),
        other.query.folded = query → foldLiteral first = foldLiteral primary →
        second.map foldLiteral = secondary.map foldLiteral →
        third.map foldLiteral = description.map foldLiteral →
        other.ladder first second third = found) ∧
    ∀ {service : SearchService} {store : Store}, service.source = store.source .none →
      ∀ (tenant : Uuid) {query : Text}, Admissible service.settings query →
      foldLiteral query ≠ [] → ∀ {types : Option Text} {isAdmin : Bool} {kinds : List RecordKind},
      RecordKind.resolve types isAdmin = .ok kinds →
      let corpus := store.corpus tenant
      let found := service.merged (Text.trim query) corpus kinds
      service.PagesOf tenant query types isAdmin found ∧
        ∀ record : Record, record.kind.isLeadRelated = false → record.kind ∈ kinds →
          corpus.Holds record → foldLiteral record.title = foldLiteral query →
          ∃ candidate ∈ found, candidate.record = record ∧ candidate.score = 1.0 := by
  constructor
  · intro ranker primary secondary description query found
    refine ⟨?_, ?_, ?_⟩
    · rw [Ranker.ladder_isSome_iff, Ranker.exists_infix_iff]
      simp [query]
    · intro score rung same
      exact Ranker.topRung_of_ladder same
    · intro other first second third asked primaries secondaries descriptions
      simp only [found, Ranker.ladder, asked, primaries, secondaries, descriptions, query]
  · intro service store reads tenant query admissible nonempty types isAdmin kinds resolved corpus
      found
    refine ⟨pagesOf_merged reads tenant admissible resolved, ?_⟩
    intro record catalogue asked held titled
    have trimmed := foldLiteral_trim query
    exact exists_mem_merged_of_title catalogue asked held (trimmed ▸ nonempty)
      (titled.trans trimmed.symm)

/-- A code that starts the title of a product and is a part of its reference stands on the title. A
type of service is found by its name, in capitals and with gaps. -/
theorem search_ladder_samples :
    let ranker : Ranker := ⟨.ofText .dutch 3 "Dak-01".toList, .dutch, {}⟩
    let row : ServiceType :=
      ⟨⟨9⟩, "Dak vernieuwen".toList, "dak".toList, none, true, .epoch⟩
    let store : Store := ⟨[], [(⟨7⟩, { TenantRows.empty with serviceTypes := [row] })]⟩
    let service : SearchService := ⟨{}, .dutch, store.source .none, rfl⟩
    let typed := " DÁK\u3000  vernieuwen".toList
    (∃ score, ranker.ladder "DAK-01  groot".toList (some "x-dak-01".toList) none =
      some (score, .primary) ∧ (0.3 : Score) ≤ score) ∧
      ranker.ladder "dak-01 groot".toList (some "x-dak-01".toList) none =
        ranker.ladder "DAK-01  groot".toList (some "x-dak-01".toList) none ∧
      Admissible service.settings typed ∧
      ∃ candidate ∈ service.merged (Text.trim typed) (store.corpus ⟨7⟩) [.serviceType],
        candidate.record = .serviceType row ∧ candidate.score = 1.0 := by
  intro ranker row store service typed
  obtain ⟨laws, finds⟩ := search_ladder
  obtain ⟨_, top, congr⟩ := laws ranker "DAK-01  groot".toList (some "x-dak-01".toList) none
  have found : ranker.ladder "DAK-01  groot".toList (some "x-dak-01".toList) none =
      some (0.8, .primary) := by
    decide +kernel
  have inReference : Ranker.Applies ranker.query.folded (foldLiteral "DAK-01  groot".toList)
      ((some "x-dak-01".toList).map foldLiteral) (none.map foldLiteral) 0.3 .secondary :=
    .partSecondary rfl (Text.occursIn_iff_infix.mp (by decide +kernel))
  have same := congr ranker "dak-01 groot".toList (some "x-dak-01".toList) none rfl
    (by decide +kernel) rfl rfl
  have admissible : Admissible service.settings typed := ⟨by decide, by decide⟩
  have resolved : RecordKind.resolve (some "service_type".toList) true = .ok [.serviceType] := rfl
  obtain ⟨_, member⟩ := finds rfl ⟨7⟩ admissible (by decide +kernel) resolved
  exact ⟨⟨0.8, found, (top _ _ found).highest inReference⟩, same, admissible,
    member (.serviceType row) rfl (List.mem_singleton_self _) (List.mem_singleton_self row)
      (by decide +kernel)⟩

end SearchService

end TenantSearch
