import TenantSearch.Proofs.Answer

/-! The order of storage. Stores that hold the same rows for a tenant in different orders give it
the same answers, as long as no two rows of a table have one identifier. -/
namespace TenantSearch

/-- The same rows in every table, in whatever order. -/
structure TenantRows.Permuted (before after : TenantRows) : Prop where
  leadIds : before.leadIds.Perm after.leadIds
  leadNotes : before.leadNotes.Perm after.leadNotes
  leadServices : before.leadServices.Perm after.leadServices
  quotes : before.quotes.Perm after.quotes
  partners : before.partners.Perm after.partners
  partnerLeads : before.partnerLeads.Perm after.partnerLeads
  appointments : before.appointments.Perm after.appointments
  catalogProducts : before.catalogProducts.Perm after.catalogProducts
  serviceTypes : before.serviceTypes.Perm after.serviceTypes

private theorem Corpus.UniqueIds.sameRows {corpus : Corpus} (unique : corpus.UniqueIds)
    {after : TenantRows} (permuted : corpus.toTenantRows.Permuted after) :
    corpus.SameRows after where
  leadIds _ := permuted.leadIds.mem_iff
  leadNotes := .of_perm unique.leadNotes permuted.leadNotes
  leadServices := .of_perm unique.leadServices permuted.leadServices
  quotes := .of_perm unique.quotes permuted.quotes
  partners := .of_perm unique.partners permuted.partners
  partnerLeads _ := permuted.partnerLeads.mem_iff
  appointments := .of_perm unique.appointments permuted.appointments
  catalogProducts := .of_perm unique.catalogProducts permuted.catalogProducts
  serviceTypes := .of_perm unique.serviceTypes permuted.serviceTypes

namespace Store

/-- The order of storage never matters: the answers are the same, to the last bit of each score. -/
theorem answer_perm {before after : Store} {tenant : Uuid}
    (leads : before.leads.Perm after.leads)
    (rows : (before.rowsOf tenant).Permuted (after.rowsOf tenant))
    (unique : (before.corpus tenant).UniqueIds) (faults : Faults) (settings : SearchSettings)
    (request : SearchRequest) (isAdmin : Bool) :
    before.answer faults settings tenant request isAdmin =
      after.answer faults settings tenant request isAdmin := by
  have tables : (before.rowsOf tenant).SameRows (after.rowsOf tenant) := unique.sameRows rows
  apply answer_congr tables
  have reached : (before.corpus tenant).leads.Perm (after.corpus tenant).leads := by
    change (before.leads.filter _).Perm (after.leads.filter _)
    rw [tables.hub_eq]
    exact leads.filter _
  exact .of_perm unique.leads reached

theorem answer_perm_reversed :
    let reversed : Store := { sample with leads := sample.leads.reverse }
    (sample.corpus ⟨7⟩).UniqueIds ∧
      sample.answer .none {} ⟨7⟩ ⟨"anna".toList, none, none, none⟩ false =
        reversed.answer .none {} ⟨7⟩ ⟨"anna".toList, none, none, none⟩ false := by
  intro reversed
  have unique : (sample.corpus ⟨7⟩).UniqueIds := by
    constructor <;> decide
  have rows : (sample.rowsOf ⟨7⟩).Permuted (reversed.rowsOf ⟨7⟩) := by
    constructor <;> exact .refl _
  have leads : sample.leads.Perm reversed.leads := (List.reverse_perm sample.leads).symm
  exact ⟨unique, answer_perm leads rows unique .none {} _ false⟩

end Store

end TenantSearch
