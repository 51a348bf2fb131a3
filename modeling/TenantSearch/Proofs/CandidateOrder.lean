import TenantSearch.Candidate
import TenantSearch.Proofs.Hub

/-! The order of candidates, said without its comparison: a candidate precedes another one by a
higher score, then a later creation, then a lower identifier, then the kind that is listed first.
Candidates of different kinds or identifiers never tie, so merging gives one list for all
arrangements of its candidates. -/
namespace TenantSearch

private theorem RecordKind.eq_of_index_eq {a b : RecordKind} (same : a.index = b.index) :
    a = b := by
  cases a <;> cases b <;> simp [index] at same ⊢

/-- What tells a record from all others: its kind and its identifier. -/
def Record.key (record : Record) : RecordKind × Uuid := (record.kind, record.id)

namespace Candidate

def key (candidate : Candidate) : RecordKind × Uuid := candidate.record.key

/-- Whether a candidate stands before another one. -/
def Precedes (a b : Candidate) : Prop :=
  b.score.place < a.score.place ∨ a.score.place = b.score.place ∧
    (b.record.createdAt.instant < a.record.createdAt.instant ∨
      a.record.createdAt.instant = b.record.createdAt.instant ∧
        (a.record.id.bits.toNat < b.record.id.bits.toNat ∨
          a.record.id = b.record.id ∧ a.record.kind.index < b.record.kind.index))

theorem order_eq_lt {a b : Candidate} : order a b = .lt ↔ Precedes a b := by
  simp only [order, Precedes, Ordering.then_eq_lt, Int.compare_eq_lt, Int.compare_eq_eq,
    Nat.compare_eq_lt, Uuid.compare_eq_lt, Uuid.compare_eq_eq]
  simp only [eq_comm]

/-! ## Precedence -/

theorem Precedes.irrefl (a : Candidate) : ¬ Precedes a a := by
  simp [Precedes]

theorem Precedes.trans {a b c : Candidate} (first : Precedes a b) (second : Precedes b c) :
    Precedes a c := by
  simp only [Precedes, Uuid.eq_iff_toNat_eq] at *
  omega

theorem key_eq_of_not_precedes {a b : Candidate} (left : ¬ Precedes a b) (right : ¬ Precedes b a) :
    a.key = b.key := by
  simp only [Precedes, Uuid.eq_iff_toNat_eq] at left right
  have id : a.record.id = b.record.id := Uuid.eq_of_toNat_eq (by omega)
  have kind : a.record.kind = b.record.kind := RecordKind.eq_of_index_eq (by omega)
  exact Prod.ext kind id

theorem precedes_or_precedes {a b : Candidate} (apart : a.key ≠ b.key) :
    Precedes a b ∨ Precedes b a := by
  by_contra neither
  obtain ⟨left, right⟩ := not_or.mp neither
  exact apart (key_eq_of_not_precedes left right)

/-! ## Merging -/

theorem order_swap (a b : Candidate) : (order a b).swap = order b a := by
  simp only [order, Ordering.swap_then]
  congr 1
  · exact Int.compare_swap _ _
  congr 1
  · exact Int.compare_swap _ _
  congr 1
  · exact Nat.compare_swap _ _
  · exact Nat.compare_swap _ _

theorem order_isLE {a b : Candidate} : (order a b).isLE = true ↔ ¬ Precedes b a := by
  rw [← order_eq_lt, ← order_swap a b]
  cases order a b <;> simp

private theorem merge_trans (a b c : Candidate) (first : (order a b).isLE)
    (second : (order b c).isLE) : (order a c).isLE := by
  rw [order_isLE] at *
  simp only [Precedes, Uuid.eq_iff_toNat_eq] at *
  omega

private theorem merge_total (a b : Candidate) : (order a b).isLE || (order b a).isLE := by
  rw [Bool.or_eq_true, order_isLE, order_isLE]
  by_contra both
  simp only [not_or, not_not] at both
  exact Precedes.irrefl a (both.2.trans both.1)

theorem merge_perm (candidates : List Candidate) : (merge candidates).Perm candidates :=
  List.mergeSort_perm candidates _

theorem pairwise_merge (candidates : List Candidate) :
    (merge candidates).Pairwise fun a b => ¬ Precedes b a :=
  (List.pairwise_mergeSort merge_trans merge_total candidates).imp order_isLE.mp

theorem pairwise_precedes_merge {candidates : List Candidate}
    (distinct : (candidates.map key).Nodup) : (merge candidates).Pairwise Precedes := by
  have apart : (merge candidates).Pairwise fun a b => a.key ≠ b.key :=
    List.pairwise_map.mp (((merge_perm candidates).map key).nodup_iff.mpr distinct)
  apply (apart.and (pairwise_merge candidates)).imp
  rintro a b ⟨different, after⟩
  exact (precedes_or_precedes different).resolve_right after

theorem merge_congr {before after : List Candidate} (same : Rearranged key before after) :
    merge before = merge after := by
  apply StableSort.mergeSort_rearranged merge_trans merge_total _ same
  intro a b tied
  rw [StableSort.tie, Bool.and_eq_true, order_isLE, order_isLE] at tied
  exact key_eq_of_not_precedes tied.2 tied.1

theorem filter_merge (keep : Candidate → Bool) (candidates : List Candidate) :
    (merge candidates).filter keep = merge (candidates.filter keep) :=
  StableSort.filter_mergeSort merge_trans merge_total keep candidates

end Candidate

end TenantSearch
