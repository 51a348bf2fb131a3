import Mathlib.Data.List.Induction
import Mathlib.Data.List.Nodup

/-! Lists with each item kept where it first occurs. -/
namespace TenantSearch

section
variable {α : Type} [BEq α]

/-- What holds of no items, and of a list if it holds of the rest of the list without its first
item, holds of every list: later occurrences of an item are passed over. -/
theorem distinct_induction {motive : List α → Prop} (empty : motive [])
    (more : ∀ first rest, motive (rest.filter fun other => !other == first) →
      motive (first :: rest)) (items : List α) : motive items := by
  cases items with
  | nil => exact empty
  | cons first rest => exact more first rest (distinct_induction empty more _)
termination_by items.length
decreasing_by
  exact Nat.lt_succ_of_le (List.length_filter_le _ rest)

theorem length_eraseDups_le (items : List α) : items.eraseDups.length ≤ items.length := by
  induction items using distinct_induction with
  | empty => simp
  | more first rest ih =>
    rw [List.eraseDups_cons, List.length_cons, List.length_cons]
    exact Nat.succ_le_succ (Nat.le_trans ih (List.length_filter_le _ rest))

variable [LawfulBEq α]

theorem nodup_eraseDups (items : List α) : items.eraseDups.Nodup := by
  induction items using distinct_induction with
  | empty => simp
  | more first rest ih =>
    rw [List.eraseDups_cons, List.nodup_cons]
    exact ⟨by simp, ih⟩

private theorem eraseDups_filter (test : α → Bool) (items : List α) :
    (items.filter test).eraseDups = items.eraseDups.filter test := by
  induction items using distinct_induction with
  | empty => simp
  | more first rest ih =>
    rw [List.eraseDups_cons]
    by_cases kept : test first = true
    · rw [List.filter_cons_of_pos kept, List.filter_cons_of_pos kept, List.eraseDups_cons, ← ih,
        List.filter_filter, List.filter_filter]
      simp only [Bool.and_comm]
    · rw [List.filter_cons_of_neg kept, List.filter_cons_of_neg kept, ← ih, List.filter_filter]
      refine congrArg _ (List.filter_congr ?_)
      intro other _
      by_cases same : other = first
      · simp [same, kept]
      · simp [same]

theorem eraseDups_append_filter (first second : List α) : (first ++ second).eraseDups =
    first.eraseDups ++ second.eraseDups.filter fun item => !first.eraseDups.contains item := by
  have lacks : second.removeAll first =
      second.filter fun item => !first.eraseDups.contains item := by
    rw [List.removeAll]
    refine List.filter_congr ?_
    intro item _
    rw [Bool.eq_iff_iff]
    simp
  rw [List.eraseDups_append, lacks, eraseDups_filter]

theorem eraseDups_append_singleton (items : List α) (last : α) : (items ++ [last]).eraseDups =
    if items.eraseDups.contains last then items.eraseDups else items.eraseDups ++ [last] := by
  rw [eraseDups_append_filter, List.eraseDups_cons, List.filter_nil, List.eraseDups_nil]
  by_cases listed : items.eraseDups.contains last = true
  · rw [if_pos listed, List.filter_cons_of_neg (by simpa using listed), List.filter_nil,
      List.append_nil]
  · rw [if_neg listed, List.filter_cons_of_pos (by simpa using listed), List.filter_nil]

theorem pairwise_idxOf_eraseDups (items : List α) :
    items.eraseDups.Pairwise fun first second => items.idxOf first < items.idxOf second := by
  -- An item that is put behind the others is new or has been there before all that follow it.
  induction items using List.reverseRecOn with
  | nil => simp
  | append_singleton items last ih =>
    have early {item : α} (member : item ∈ items.eraseDups) :
        (items ++ [last]).idxOf item = items.idxOf item :=
      List.idxOf_append_of_mem (List.mem_eraseDups.mp member)
    rw [eraseDups_append_filter, List.pairwise_append]
    refine ⟨?_, ?_, ?_⟩
    · refine ih.imp_of_mem ?_
      intro first second left right before
      rwa [early left, early right]
    · rw [List.eraseDups_cons]
      exact List.Pairwise.filter _ (List.pairwise_singleton _ _)
    · intro first left second right
      obtain ⟨listed, fresh⟩ := List.mem_filter.mp right
      have absent : second ∉ items := by simpa using fresh
      rw [early left, List.idxOf_append_of_notMem absent]
      exact Nat.lt_add_right _ (List.idxOf_lt_length_iff.mpr (List.mem_eraseDups.mp left))

theorem eraseDups_of_nodup {items : List α} (distinct : items.Nodup) :
    items.eraseDups = items := by
  induction items with
  | nil => rfl
  | cons first rest ih =>
    obtain ⟨fresh, others⟩ := List.nodup_cons.mp distinct
    rw [List.eraseDups_cons, List.filter_eq_self.mpr, ih others]
    intro other member
    simpa using ne_of_mem_of_not_mem member fresh

end

end TenantSearch
