import Mathlib.Data.List.Perm.Basic
import Mathlib.Data.List.Nodup

/-! Arrangements of rows. Two lists are arrangements of one another if each key has the same rows in
the same order in both. A stable sort in which ties have one key gives one list for all arrangements
of its input, and it commutes with leaving rows out. -/
namespace TenantSearch

/-- The same rows, with the rows of any one key in the same order. -/
def Rearranged {α κ : Type} [DecidableEq κ] (key : α → κ) (first second : List α) : Prop :=
  ∀ value, first.filter (key · == value) = second.filter (key · == value)

namespace Rearranged
variable {α β κ τ : Type} [DecidableEq κ] [DecidableEq τ] {key : α → κ} {first second : List α}

theorem refl (key : α → κ) (rows : List α) : Rearranged key rows rows := fun _ => rfl

theorem trans {third : List α} (left : Rearranged key first second)
    (right : Rearranged key second third) : Rearranged key first third :=
  fun value => (left value).trans (right value)

theorem mem_iff (same : Rearranged key first second) (row : α) : row ∈ first ↔ row ∈ second := by
  have members := congrArg (row ∈ ·) (same (key row))
  simpa using members

theorem filter (same : Rearranged key first second) (keep : α → Bool) :
    Rearranged key (first.filter keep) (second.filter keep) := by
  intro value
  rw [List.filter_comm, same value, List.filter_comm]

theorem of_perm (distinct : (first.map key).Nodup) (permuted : first.Perm second) :
    Rearranged key first second := by
  intro value
  have short : (first.filter (key · == value)).length ≤ 1 := by
    have once := List.nodup_iff_count_le_one.mp distinct value
    rwa [List.count_eq_countP, List.countP_map, List.countP_eq_length_filter] at once
  have same := permuted.filter (key · == value)
  match found : first.filter (key · == value) with
  | [] => rw [found] at same; exact same.nil_eq
  | [row] => rw [found] at same; exact (List.perm_singleton.mp same.symm).symm
  | _ :: _ :: _ => rw [found] at short; simp at short

theorem filterMap {target : β → τ} (same : Rearranged key first second) (step : α → Option β)
    (rename : κ → τ) (apart : Function.Injective rename)
    (renamed : ∀ row made, step row = some made → target made = rename (key row)) :
    Rearranged target (first.filterMap step) (second.filterMap step) := by
  intro value
  by_cases named : ∃ old, rename old = value
  · obtain ⟨old, rfl⟩ := named
    have selected (rows : List α) : (rows.filterMap step).filter (target · == rename old) =
        (rows.filter (key · == old)).filterMap step := by
      rw [List.filter_filterMap, List.filterMap_filter]
      apply List.filterMap_congr
      intro row _
      cases made : step row with
      | none => simp
      | some result => simp [renamed row result made, apart.eq_iff, Option.filter]
    rw [selected, selected, same old]
  · have absent (rows : List α) : (rows.filterMap step).filter (target · == value) = [] := by
      rw [List.filter_eq_nil_iff]
      intro made member equal
      obtain ⟨row, _, result⟩ := List.mem_filterMap.mp member
      exact named ⟨key row, (renamed row made result).symm.trans (beq_iff_eq.mp equal)⟩
    rw [absent, absent]

theorem map {target : β → τ} (same : Rearranged key first second) (step : α → β)
    (rename : κ → τ) (apart : Function.Injective rename)
    (renamed : ∀ row, target (step row) = rename (key row)) :
    Rearranged target (first.map step) (second.map step) := by
  rw [← List.filterMap_eq_map]
  apply same.filterMap (some ∘ step) rename apart
  intro row made result
  rw [← Option.some.inj result, renamed row]

theorem flatMap {γ : Type} (groups : List γ) (left right : γ → List α)
    (same : ∀ group ∈ groups, Rearranged key (left group) (right group)) :
    Rearranged key (groups.flatMap left) (groups.flatMap right) := by
  intro value
  rw [List.filter_flatMap, List.filter_flatMap]
  exact List.flatMap_congr fun group member => same group member value

theorem flatMap_perm {γ : Type} {before after : List γ} (permuted : before.Perm after)
    (rows : γ → List α)
    (apart : ∀ a b, ∀ x ∈ rows a, ∀ y ∈ rows b, key x = key y → a = b) :
    Rearranged key (before.flatMap rows) (after.flatMap rows) := by
  induction permuted with
  | nil => exact refl key []
  | cons group _ ih =>
    intro value
    simp only [List.flatMap_cons, List.filter_append, ih value]
  | trans _ _ left right => exact left.trans right
  | swap a b rest =>
    intro value
    by_cases equal : a = b
    · rw [equal]
    -- One of the two groups has no row of this key.
    · simp only [List.flatMap_cons, List.filter_append, ← List.append_assoc]
      congr 1
      have alone : (rows a).filter (key · == value) = [] ∨
          (rows b).filter (key · == value) = [] := by
        by_contra both
        obtain ⟨left, right⟩ := not_or.mp both
        obtain ⟨x, inside⟩ := List.exists_mem_of_ne_nil _ left
        obtain ⟨y, other⟩ := List.exists_mem_of_ne_nil _ right
        simp only [List.mem_filter, beq_iff_eq] at inside other
        exact equal (apart a b x inside.1 y other.1 (inside.2.trans other.2.symm))
      rcases alone with empty | empty <;> simp [empty]

end Rearranged

theorem map_filterMap_sublist {α β κ : Type} {source : α → κ} {target : β → κ}
    {step : α → Option β} {rows : List α}
    (kept : ∀ row ∈ rows, ∀ made, step row = some made → target made = source row) :
    ((rows.filterMap step).map target).Sublist (rows.map source) := by
  induction rows with
  | nil => exact .slnil
  | cons row rest ih =>
    have below := ih fun other inside => kept other (List.mem_cons_of_mem row inside)
    cases made : step row with
    | none =>
      rw [List.filterMap_cons_none made, List.map_cons]
      exact below.cons _
    | some result =>
      rw [List.filterMap_cons_some made, List.map_cons, List.map_cons,
        kept row List.mem_cons_self result made]
      exact below.cons_cons _

namespace StableSort
variable {α κ : Type} {le : α → α → Bool}

def tie (le : α → α → Bool) (a b : α) : Bool := le a b && le b a

private theorem eq_of_filter_tie (total : ∀ a b, le a b || le b a) {first second : List α}
    (left : first.Pairwise (le · ·)) (right : second.Pairwise (le · ·))
    (same : ∀ a, first.filter (tie le a) = second.filter (tie le a)) : first = second := by
  have reflexive (a : α) : tie le a a = true := by simpa [tie] using total a a
  have shared (rows others : List α) (same : ∀ a, rows.filter (tie le a) = others.filter (tie le a))
      (a : α) (member : a ∈ rows) : a ∈ others := by
    have selected : a ∈ rows.filter (tie le a) := List.mem_filter.mpr ⟨member, reflexive a⟩
    rw [same a] at selected
    exact List.mem_of_mem_filter selected
  induction first generalizing second with
  | nil =>
    cases second with
    | nil => rfl
    | cons b rest => exact absurd (shared _ _ (fun a => (same a).symm) b (by simp)) (by simp)
  | cons a first ih =>
    cases second with
    | nil => exact absurd (shared _ _ same a (by simp)) (by simp)
    | cons b second =>
      -- Each head is in the other list as well, so neither comes after the other.
      have tied : tie le a b = true := by
        rcases List.mem_cons.mp (shared _ _ same a (by simp)) with equal | later
        · rw [← equal]; exact reflexive a
        rcases List.mem_cons.mp (shared _ _ (fun a => (same a).symm) b (by simp)) with equal | other
        · rw [equal]; exact reflexive a
        simp [tie, List.rel_of_pairwise_cons left other, List.rel_of_pairwise_cons right later]
      have heads := same a
      simp only [List.filter_cons, reflexive a, tied, if_true, List.cons.injEq] at heads
      obtain ⟨rfl, _⟩ := heads
      congr 1
      apply ih left.tail right.tail
      intro c
      have whole := same c
      simp only [List.filter_cons] at whole
      split at whole
      · exact (List.cons.inj whole).2
      · exact whole

section
variable (trans : ∀ a b c, le a b → le b c → le a c) (total : ∀ a b, le a b || le b a)
include trans total

private theorem filter_tie_mergeSort (a : α) (rows : List α) :
    (rows.mergeSort le).filter (tie le a) = rows.filter (tie le a) := by
  have within : (rows.filter (tie le a)).Pairwise (le · ·) := by
    rw [List.pairwise_iff_forall_sublist]
    intro x y pair
    have tied (z : α) (member : z ∈ [x, y]) : le a z = true ∧ le z a = true := by
      have selected := (List.mem_filter.mp (pair.subset member)).2
      simpa [tie] using selected
    exact trans x a y (tied x (by simp)).2 (tied y (by simp)).1
  have kept := List.sublist_mergeSort trans total within List.filter_sublist
  have inside := kept.filter (tie le a)
  rw [List.filter_filter] at inside
  simp only [Bool.and_self] at inside
  have size := ((List.mergeSort_perm rows le).filter (tie le a)).length_eq
  exact (inside.eq_of_length size.symm).symm

theorem mergeSort_congr {first second : List α}
    (same : ∀ a, first.filter (tie le a) = second.filter (tie le a)) :
    first.mergeSort le = second.mergeSort le := by
  apply eq_of_filter_tie total (List.pairwise_mergeSort trans total first)
    (List.pairwise_mergeSort trans total second)
  intro a
  rw [filter_tie_mergeSort trans total, filter_tie_mergeSort trans total, same a]

/-- Where ties have one key, arrangements are sorted into the same list. -/
theorem mergeSort_rearranged [DecidableEq κ] {key : α → κ}
    (keyed : ∀ a b, tie le a b = true → key a = key b) {first second : List α}
    (same : Rearranged key first second) : first.mergeSort le = second.mergeSort le := by
  apply mergeSort_congr trans total
  intro a
  have narrowed (rows : List α) : rows.filter (tie le a) =
      (rows.filter (key · == key a)).filter (tie le a) := by
    rw [List.filter_filter]
    apply List.filter_congr
    intro b _
    cases tied : tie le a b with
    | false => simp
    | true => simp [keyed a b tied]
  rw [narrowed first, narrowed second, same (key a)]

theorem filter_mergeSort (keep : α → Bool) (rows : List α) :
    (rows.mergeSort le).filter keep = (rows.filter keep).mergeSort le := by
  apply eq_of_filter_tie total ((List.pairwise_mergeSort trans total rows).filter keep)
    (List.pairwise_mergeSort trans total (rows.filter keep))
  intro a
  rw [List.filter_comm, filter_tie_mergeSort trans total, filter_tie_mergeSort trans total,
    List.filter_comm]

end

end StableSort

end TenantSearch
