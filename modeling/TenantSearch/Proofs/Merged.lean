import TenantSearch.Proofs.CandidateRecords
import TenantSearch.Proofs.Fetching
import TenantSearch.Search.Service

/-! The merged list of a search. It does not depend on the arrangement of the rows, on the order in
which kinds are searched, or on tables that the kinds do not need; leaving out kinds is the same
before and after merging. -/
namespace TenantSearch.SearchService
variable (service : SearchService) (query : Text)

def candidates (corpus : Corpus) (kinds : List RecordKind) : List Candidate :=
  kinds.flatMap (Candidate.ofKind (service.ranker query) service.settings.damping corpus
    (LeadGraph.ofCorpus (service.ranker query) service.settings.damping corpus))

theorem merged_eq (corpus : Corpus) (kinds : List RecordKind) :
    service.merged query corpus kinds = Candidate.merge (service.candidates query corpus kinds) :=
  rfl

theorem mem_merged {corpus : Corpus} {kinds : List RecordKind} {candidate : Candidate} :
    candidate ∈ service.merged query corpus kinds ↔
      candidate ∈ service.candidates query corpus kinds :=
  (Candidate.merge_perm _).mem_iff

theorem holds_of_mem_merged {corpus : Corpus} {kinds : List RecordKind} {candidate : Candidate}
    (member : candidate ∈ service.merged query corpus kinds) : corpus.Holds candidate.record := by
  obtain ⟨kind, _, inside⟩ := List.mem_flatMap.mp ((service.mem_merged query).mp member)
  exact Candidate.holds_of_mem_ofKind _ _ inside

theorem kind_of_mem_merged {corpus : Corpus} {kinds : List RecordKind} {candidate : Candidate}
    (member : candidate ∈ service.merged query corpus kinds) : candidate.record.kind ∈ kinds := by
  obtain ⟨kind, listed, inside⟩ := List.mem_flatMap.mp ((service.mem_merged query).mp member)
  rwa [Candidate.kind_of_mem_ofKind _ _ inside]

theorem ofRecord_of_mem_merged {corpus : Corpus} {kinds : List RecordKind} {candidate : Candidate}
    (member : candidate ∈ service.merged query corpus kinds) :
    Candidate.ofRecord (service.ranker query) service.settings.damping
      (LeadGraph.ofCorpus (service.ranker query) service.settings.damping corpus)
      candidate.record = some candidate := by
  obtain ⟨kind, _, inside⟩ := List.mem_flatMap.mp ((service.mem_merged query).mp member)
  rw [Candidate.ofKind_eq] at inside
  obtain ⟨record, listed, found⟩ := List.mem_filterMap.mp inside
  rwa [Candidate.record_ofRecord _ _ found, Candidate.withOwner_eq_self listed]

/-! ## Tables that are not needed -/

private theorem ofCorpus_neededFor (ranker : Ranker) (damping : Damping) (corpus : Corpus)
    {kinds : List RecordKind} (related : kinds.any (·.isLeadRelated) = true) :
    LeadGraph.ofCorpus ranker damping (corpus.neededFor kinds) =
      LeadGraph.ofCorpus ranker damping corpus := by
  simp [Corpus.neededFor, Fetch.isNeeded, related, LeadGraph.ofCorpus, LeadGraph.rankedNotes,
    LeadGraph.rankedServices]

/-- A table that was not fetched would not have changed what is found. -/
theorem candidates_neededFor (corpus : Corpus) (kinds : List RecordKind) :
    service.candidates query (corpus.neededFor kinds) kinds =
      service.candidates query corpus kinds := by
  apply List.flatMap_congr
  intro kind member
  have asked : kinds.contains kind = true := List.contains_iff_mem.mpr member
  have related (hangs : kind.isLeadRelated = true) : kinds.any (·.isLeadRelated) = true :=
    List.any_eq_true.mpr ⟨kind, member, hangs⟩
  cases kind with
  | lead | quote | appointment =>
    rw [ofCorpus_neededFor _ _ _ (related rfl)]
    simp only [Candidate.ofKind, Corpus.neededFor, Fetch.isNeeded, related rfl, if_true]
  | partner =>
    rw [ofCorpus_neededFor _ _ _ (related rfl)]
    simp only [Candidate.ofKind, Corpus.neededFor, Fetch.isNeeded, asked, if_true]
  | catalogProduct | serviceType =>
    simp only [Candidate.ofKind, Corpus.neededFor, Fetch.isNeeded, asked, if_true]

theorem merged_neededFor (corpus : Corpus) (kinds : List RecordKind) :
    service.merged query (corpus.neededFor kinds) kinds = service.merged query corpus kinds := by
  rw [merged_eq, merged_eq, candidates_neededFor]

/-! ## Arrangements of rows and kinds -/

theorem merged_congr {before after : Corpus} (rows : before.SameRows after.toTenantRows)
    (leads : Rearranged (·.id) before.leads after.leads) (kinds : List RecordKind) :
    service.merged query before kinds = service.merged query after kinds := by
  rw [merged_eq, merged_eq]
  apply Candidate.merge_congr
  apply Rearranged.flatMap
  intro kind _
  exact Candidate.ofKind_rearranged _ _ rows leads (LeadGraph.ofCorpus_alike _ _ rows leads) kind

theorem merged_perm (corpus : Corpus) {kinds others : List RecordKind}
    (permuted : kinds.Perm others) :
    service.merged query corpus kinds = service.merged query corpus others := by
  rw [merged_eq, merged_eq]
  apply Candidate.merge_congr
  apply Rearranged.flatMap_perm permuted
  intro first second a inside b other same
  have kinds : a.record.kind = b.record.kind := congrArg Prod.fst same
  rw [← Candidate.kind_of_mem_ofKind _ _ inside, kinds, Candidate.kind_of_mem_ofKind _ _ other]

/-- Searching fewer kinds leaves out the candidates of the other ones and changes nothing else. -/
theorem filter_merged (corpus : Corpus) (kinds : List RecordKind) (named : RecordKind → Bool) :
    (service.merged query corpus kinds).filter (fun candidate => named candidate.record.kind) =
      service.merged query corpus (kinds.filter named) := by
  rw [merged_eq, merged_eq, Candidate.filter_merge]
  congr 1
  induction kinds with
  | nil => rfl
  | cons kind rest ih =>
    rw [candidates, List.flatMap_cons, List.filter_append]
    change _ ++ (service.candidates query corpus rest).filter _ = _
    rw [ih, List.filter_cons]
    by_cases chosen : named kind = true
    · rw [if_pos chosen]
      congr 1
      apply List.filter_eq_self.mpr
      intro candidate member
      rwa [Candidate.kind_of_mem_ofKind _ _ member]
    · rw [if_neg chosen, List.filter_eq_nil_iff.mpr]
      · rfl
      · intro candidate member
        rwa [Candidate.kind_of_mem_ofKind _ _ member]

end TenantSearch.SearchService
