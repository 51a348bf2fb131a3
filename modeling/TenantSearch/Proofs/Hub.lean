import Mathlib.Data.List.Perm.Basic
import Mathlib.Order.Basic
import TenantSearch.Proofs.Arrangement
import TenantSearch.TenantRows

/-! The hub of a tenant: the leads that its tables reach, each once and in ascending order. It
depends only on which identifiers the tables name, not on the order or number of their rows. -/
namespace TenantSearch

namespace Uuid

theorem compare_eq_lt {a b : Uuid} : compare a b = .lt ↔ a.bits.toNat < b.bits.toNat :=
  Nat.compare_eq_lt

private theorem compare_eq_gt {a b : Uuid} : compare a b = .gt ↔ b.bits.toNat < a.bits.toNat :=
  Nat.compare_eq_gt

theorem compare_eq_eq {a b : Uuid} : compare a b = .eq ↔ a = b := by
  constructor
  · intro equal
    have bits : a.bits = b.bits := BitVec.eq_of_toNat_eq (Nat.compare_eq_eq.mp equal)
    cases a
    cases b
    exact congrArg Uuid.mk bits
  · rintro rfl
    exact Nat.compare_eq_eq.mpr rfl

theorem eq_of_toNat_eq {a b : Uuid} (equal : a.bits.toNat = b.bits.toNat) : a = b :=
  compare_eq_eq.mp (Nat.compare_eq_eq.mpr equal)

theorem eq_iff_toNat_eq {a b : Uuid} : a = b ↔ a.bits.toNat = b.bits.toNat :=
  ⟨fun equal => by rw [equal], eq_of_toNat_eq⟩

end Uuid

private theorem mem_insertAscending {id other : Uuid} {ids : List Uuid} :
    other ∈ insertAscending id ids ↔ other = id ∨ other ∈ ids := by
  induction ids with
  | nil => simp [insertAscending]
  | cons first rest ih =>
    simp only [insertAscending]
    split
    · simp
    · next equal =>
      rw [Uuid.compare_eq_eq.mp equal]
      simp
    · simp only [List.mem_cons, ih]
      tauto

theorem mem_ascending {id : Uuid} {ids : List Uuid} : id ∈ ascending ids ↔ id ∈ ids := by
  induction ids with
  | nil => simp [ascending]
  | cons first rest ih =>
    change id ∈ insertAscending first (ascending rest) ↔ id ∈ first :: rest
    rw [mem_insertAscending, ih, List.mem_cons]

private theorem pairwise_insertAscending {id : Uuid} {ids : List Uuid}
    (sorted : ids.Pairwise (fun a b => compare a b = .lt)) :
    (insertAscending id ids).Pairwise (fun a b => compare a b = .lt) := by
  induction ids with
  | nil => simp [insertAscending]
  | cons first rest ih =>
    have later := (List.pairwise_cons.mp sorted).1
    simp only [insertAscending]
    split
    · next below =>
      refine List.pairwise_cons.mpr ⟨?_, sorted⟩
      intro other member
      rcases List.mem_cons.mp member with rfl | inside
      · exact below
      · have above := later other inside
        rw [Uuid.compare_eq_lt] at below above ⊢
        omega
    · exact sorted
    · next above =>
      refine List.pairwise_cons.mpr ⟨?_, ih sorted.tail⟩
      intro other member
      rcases mem_insertAscending.mp member with rfl | inside
      · rw [Uuid.compare_eq_lt]
        exact Uuid.compare_eq_gt.mp above
      · exact later other inside

theorem pairwise_ascending (ids : List Uuid) :
    (ascending ids).Pairwise (fun a b => compare a b = .lt) := by
  induction ids with
  | nil => exact .nil
  | cons id rest ih => exact pairwise_insertAscending ih

theorem nodup_ascending (ids : List Uuid) : (ascending ids).Nodup := by
  apply (pairwise_ascending ids).imp
  intro a b below equal
  rw [equal, Uuid.compare_eq_lt] at below
  omega

theorem ascending_congr {first second : List Uuid} (same : ∀ id, id ∈ first ↔ id ∈ second) :
    ascending first = ascending second := by
  have permuted : (ascending first).Perm (ascending second) := by
    apply (List.perm_ext_iff_of_nodup (nodup_ascending first) (nodup_ascending second)).mpr
    intro id
    rw [mem_ascending, mem_ascending, same id]
  apply permuted.eq_of_pairwise _ (pairwise_ascending first) (pairwise_ascending second)
  intro a b _ _ below above
  rw [Uuid.compare_eq_lt] at below above
  omega

namespace TenantRows

/-- Whether the tables reach a lead: it is one of the tenant's own, or a row names it. -/
def Reaches (rows : TenantRows) (id : Uuid) : Prop :=
  id ∈ rows.leadIds ∨ (∃ quote ∈ rows.quotes, quote.leadId = id) ∨
    (∃ appointment ∈ rows.appointments, appointment.leadId = some id) ∨
    (∃ service ∈ rows.leadServices, service.leadId = id) ∨
    (∃ note ∈ rows.leadNotes, note.leadId = id) ∨ ∃ link ∈ rows.partnerLeads, link.leadId = id

theorem mem_hub {rows : TenantRows} {id : Uuid} : id ∈ rows.hub ↔ rows.Reaches id := by
  simp [hub, mem_ascending, Reaches]

/-- Tables with the same rows. Rows of one identifier stand in the same order in both; leads and
links, which have no identifier of their own, may also be repeated. -/
structure SameRows (before after : TenantRows) : Prop where
  leadIds : ∀ id, id ∈ before.leadIds ↔ id ∈ after.leadIds
  leadNotes : Rearranged (·.id) before.leadNotes after.leadNotes
  leadServices : Rearranged (·.id) before.leadServices after.leadServices
  quotes : Rearranged (·.id) before.quotes after.quotes
  partners : Rearranged (·.id) before.partners after.partners
  partnerLeads : ∀ link, link ∈ before.partnerLeads ↔ link ∈ after.partnerLeads
  appointments : Rearranged (·.id) before.appointments after.appointments
  catalogProducts : Rearranged (·.id) before.catalogProducts after.catalogProducts
  serviceTypes : Rearranged (·.id) before.serviceTypes after.serviceTypes

theorem SameRows.refl (rows : TenantRows) : SameRows rows rows where
  leadIds _ := Iff.rfl
  leadNotes := Rearranged.refl _ _
  leadServices := Rearranged.refl _ _
  quotes := Rearranged.refl _ _
  partners := Rearranged.refl _ _
  partnerLeads _ := Iff.rfl
  appointments := Rearranged.refl _ _
  catalogProducts := Rearranged.refl _ _
  serviceTypes := Rearranged.refl _ _

theorem SameRows.hub_eq {before after : TenantRows} (same : SameRows before after) :
    before.hub = after.hub := by
  apply ascending_congr
  intro id
  have quotes : id ∈ before.quotes.map (·.leadId) ↔ id ∈ after.quotes.map (·.leadId) := by
    simp only [List.mem_map, same.quotes.mem_iff]
  have appointments : id ∈ before.appointments.filterMap (·.leadId) ↔
      id ∈ after.appointments.filterMap (·.leadId) := by
    simp only [List.mem_filterMap, same.appointments.mem_iff]
  have services : id ∈ before.leadServices.map (·.leadId) ↔
      id ∈ after.leadServices.map (·.leadId) := by
    simp only [List.mem_map, same.leadServices.mem_iff]
  have notes : id ∈ before.leadNotes.map (·.leadId) ↔ id ∈ after.leadNotes.map (·.leadId) := by
    simp only [List.mem_map, same.leadNotes.mem_iff]
  have links : id ∈ before.partnerLeads.map (·.leadId) ↔
      id ∈ after.partnerLeads.map (·.leadId) := by
    simp only [List.mem_map, same.partnerLeads]
  simp only [List.mem_append, same.leadIds, quotes, appointments, services, notes, links]

end TenantRows

end TenantSearch
