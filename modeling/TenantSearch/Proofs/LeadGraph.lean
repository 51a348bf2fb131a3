import Mathlib.Data.List.Induction
import TenantSearch.LeadGraph
import TenantSearch.Proofs.Hub
import TenantSearch.Proofs.ScoreOrder

/-! What the lead graph of a corpus depends on. The best of some rows is the first of those that no
other one beats, so it is the same for all arrangements; a lead is found by its identifier; and the
rank of a partner is the largest one among its leads. -/
namespace TenantSearch

/-! ## The best row -/

section
variable {α : Type} {id : α → Uuid}

theorem isBetter_iff {row current : α × Score} : isBetter id row current = true ↔
    current.2.place < row.2.place ∨
      row.2.place = current.2.place ∧ (id row.1).bits.toNat < (id current.1).bits.toNat := by
  simp only [isBetter]
  split
  · next above =>
    rw [Int.compare_eq_gt] at above
    simp [above]
  · next equal =>
    rw [Int.compare_eq_eq] at equal
    simp [equal, Uuid.compare_eq_lt]
  · next below =>
    rw [Int.compare_eq_lt] at below
    simp
    omega

/-- A ranked row that no other ranked one beats, and the first one of its rank and identifier. -/
structure IsBest (id : α → Uuid) (rows : List (α × Score)) (best : α × Score) : Prop where
  ranked : ¬ best.2 ≤ 0
  unbeaten : ∀ row ∈ rows, ¬ row.2 ≤ 0 → isBetter id row best = false
  first : rows.find? (fun row => !decide (row.2 ≤ 0) && row.2.place == best.2.place &&
    id row.1 == id best.1) = some best

theorem IsBest.mem {rows : List (α × Score)} {best : α × Score} (found : IsBest id rows best) :
    best ∈ rows := List.mem_of_find?_eq_some found.first

private theorem IsBest.last {rows : List (α × Score)} {row : α × Score} (ranked : ¬ row.2 ≤ 0)
    (beats : ∀ other ∈ rows, ¬ other.2 ≤ 0 → isBetter id row other = true) :
    IsBest id (rows ++ [row]) row := by
  refine ⟨ranked, ?_, ?_⟩
  · intro other member counted
    rw [Bool.eq_false_iff, ne_eq, isBetter_iff]
    rcases List.mem_append.mp member with inside | last
    · have beaten := isBetter_iff.mp (beats other inside counted)
      omega
    · obtain rfl := List.mem_singleton.mp last
      omega
  · have alone : rows.find? (fun other => !decide (other.2 ≤ 0) &&
        other.2.place == row.2.place && id other.1 == id row.1) = none := by
      rw [List.find?_eq_none]
      intro other inside
      simp only [Bool.and_eq_true, Bool.not_eq_true', decide_eq_false_iff_not, beq_iff_eq]
      rintro ⟨⟨counted, place⟩, same⟩
      have beaten := isBetter_iff.mp (beats other inside counted)
      rw [same] at beaten
      omega
    rw [List.find?_append, alone]
    simp [ranked]

/-- One more row either leaves the best one as it was or takes its place. -/
private theorem IsBest.snoc {rows : List (α × Score)} {best : α × Score}
    (found : IsBest id rows best) (row : α × Score) :
    IsBest id (rows ++ [row]) (if ¬ row.2 ≤ 0 ∧ isBetter id row best then row else best) := by
  by_cases taken : ¬ row.2 ≤ 0 ∧ isBetter id row best
  · rw [if_pos taken]
    obtain ⟨ranked, better⟩ := taken
    apply IsBest.last ranked
    intro other inside counted
    have weaker := found.unbeaten other inside counted
    rw [Bool.eq_false_iff, ne_eq, isBetter_iff] at weaker
    rw [isBetter_iff] at better ⊢
    omega
  · rw [if_neg taken]
    refine ⟨found.ranked, ?_, ?_⟩
    · intro other member counted
      rcases List.mem_append.mp member with inside | last
      · exact found.unbeaten other inside counted
      · obtain rfl := List.mem_singleton.mp last
        simpa [counted] using taken
    · rw [List.find?_append, found.first, Option.some_or]

private theorem best?_append (rows : List (α × Score)) (row : α × Score) :
    best? id (rows ++ [row]) = if row.2 ≤ 0 then best? id rows else
      match best? id rows with
      | none => some row
      | some current => if isBetter id row current then some row else some current := by
  simp only [best?, List.foldl_append, List.foldl_cons, List.foldl_nil]
  split
  · rfl
  · split <;> simp_all

/-- There is a best row unless no row is ranked. -/
theorem best?_spec (id : α → Uuid) (rows : List (α × Score)) :
    (best? id rows = none ∧ ∀ row ∈ rows, row.2 ≤ 0) ∨
      ∃ best, best? id rows = some best ∧ IsBest id rows best := by
  -- The best row is kept from left to right, so a list grows at its end.
  induction rows using List.reverseRecOn with
  | nil => exact .inl ⟨rfl, by simp⟩
  | append_singleton rows row ih =>
    rw [best?_append]
    by_cases unranked : row.2 ≤ 0
    · rw [if_pos unranked]
      rcases ih with ⟨empty, all⟩ | ⟨best, chosen, found⟩
      · refine .inl ⟨empty, ?_⟩
        intro other member
        rcases List.mem_append.mp member with inside | last
        · exact all other inside
        · obtain rfl := List.mem_singleton.mp last
          exact unranked
      · refine .inr ⟨best, chosen, ?_⟩
        simpa [unranked] using found.snoc row
    · rw [if_neg unranked]
      rcases ih with ⟨empty, all⟩ | ⟨best, chosen, found⟩
      · refine .inr ⟨row, by rw [empty], IsBest.last unranked ?_⟩
        intro other inside counted
        exact absurd (all other inside) counted
      · refine .inr ⟨_, ?_, found.snoc row⟩
        rw [chosen]
        by_cases better : isBetter id row best <;> simp [better, unranked]

theorem IsBest.unique {before after : List (α × Score)} {best other : α × Score}
    (same : Rearranged (fun row => id row.1) before after) (left : IsBest id before best)
    (right : IsBest id after other) : best = other := by
  have here := left.unbeaten other ((same.mem_iff other).mpr right.mem) right.ranked
  have there := right.unbeaten best ((same.mem_iff best).mp left.mem) left.ranked
  rw [Bool.eq_false_iff, ne_eq, isBetter_iff] at here there
  have place : other.2.place = best.2.place := by omega
  have name : id other.1 = id best.1 := Uuid.eq_of_toNat_eq (by omega)
  have narrowed (rows : List (α × Score)) :
      rows.find? (fun row => !decide (row.2 ≤ 0) && row.2.place == best.2.place &&
        id row.1 == id best.1) =
      (rows.filter (fun row => id row.1 == id best.1)).find? (fun row =>
        !decide (row.2 ≤ 0) && row.2.place == best.2.place) := by
    rw [List.find?_filter]
    congr 1
    funext row
    rw [Bool.and_comm, Bool.decide_and, Bool.decide_eq_true, Bool.decide_eq_true]
  have first := left.first
  have second := right.first
  rw [narrowed, same (id best.1)] at first
  rw [place, name, narrowed] at second
  exact Option.some.inj (first.symm.trans second)

theorem best?_congr {before after : List (α × Score)}
    (same : Rearranged (fun row => id row.1) before after) :
    best? id before = best? id after := by
  rcases best?_spec id before with ⟨empty, all⟩ | ⟨best, chosen, found⟩
  · rcases best?_spec id after with ⟨nothing, _⟩ | ⟨other, _, present⟩
    · rw [empty, nothing]
    · exact absurd (all other ((same.mem_iff other).mpr present.mem)) present.ranked
  · rcases best?_spec id after with ⟨_, all⟩ | ⟨other, someone, present⟩
    · exact absurd (all best ((same.mem_iff best).mp found.mem)) found.ranked
    · rw [chosen, someone, found.unique same present]

end

namespace LeadGraph
variable (ranker : Ranker) (damping : Damping)

/-! ## Looking up a lead -/

theorem lead?_eq (graph : LeadGraph) (id : Uuid) :
    graph.lead? id = (graph.leads.filter (·.id == id)).reverse.head? := by
  rw [← List.filter_reverse, List.head?_filter]
  rfl

/-- A lead matches as the last live row of its identifier that has a rank. -/
theorem match?_eq (corpus : Corpus) (id : Uuid) :
    (ofCorpus ranker damping corpus).match? id =
      ((((corpus.leads.filter (·.id == id)).map (matchOf ranker damping
        (rankedNotes ranker corpus) (rankedServices ranker corpus))).filter
          (0 < ·.rank)).reverse.head?) := by
  simp only [match?, ofCorpus, ← List.head?_filter, List.filter_reverse, List.filter_filter]
  simp only [List.filter_map, List.filter_filter, Function.comp_def, ← List.map_reverse,
    List.head?_map, Option.map_map]
  congr 4
  funext lead
  exact Bool.and_comm _ _

theorem exists_lead_of_match? (corpus : Corpus) {id : Uuid} {found : LeadMatch}
    (matched : (ofCorpus ranker damping corpus).match? id = some found) :
    ∃ lead ∈ corpus.leads, lead.id = id ∧ 0 < found.rank ∧
      found = matchOf ranker damping (rankedNotes ranker corpus) (rankedServices ranker corpus)
        lead := by
  rw [match?_eq] at matched
  have member := List.mem_reverse.mp (List.mem_of_mem_head? (Option.mem_def.mpr matched))
  obtain ⟨listed, ranked⟩ := List.mem_filter.mp member
  obtain ⟨lead, among, rfl⟩ := List.mem_map.mp listed
  obtain ⟨live, named⟩ := List.mem_filter.mp among
  exact ⟨lead, live, beq_iff_eq.mp named, of_decide_eq_true ranked, rfl⟩

theorem pos_of_match? (corpus : Corpus) {id : Uuid} {found : LeadMatch}
    (matched : (ofCorpus ranker damping corpus).match? id = some found) : 0 < found.rank := by
  obtain ⟨_, _, _, ranked, _⟩ := exists_lead_of_match? ranker damping corpus matched
  exact ranked

theorem exists_match? (corpus : Corpus) {lead : Lead} (live : lead ∈ corpus.leads)
    (ranked : 0 < (matchOf ranker damping (rankedNotes ranker corpus)
      (rankedServices ranker corpus) lead).rank) :
    ∃ found, (ofCorpus ranker damping corpus).match? lead.id = some found := by
  rw [← Option.isSome_iff_exists, Option.isSome_iff_ne_none]
  intro unmatched
  rw [match?_eq, List.head?_eq_none_iff, List.reverse_eq_nil_iff, List.filter_eq_nil_iff]
    at unmatched
  have among : lead ∈ corpus.leads.filter (·.id == lead.id) :=
    List.mem_filter.mpr ⟨live, beq_self_eq_true lead.id⟩
  exact unmatched _ (List.mem_map_of_mem among) (decide_eq_true ranked)

theorem regular_leadRank (corpus : Corpus) (id : Uuid) :
    ((ofCorpus ranker damping corpus).leadRank id).Regular := by
  cases matched : (ofCorpus ranker damping corpus).match? id with
  | none => simpa [leadRank, matched] using Score.regular_zero
  | some found =>
    have positive := pos_of_match? ranker damping corpus matched
    simpa [leadRank, matched] using Score.regular_of_pos positive

/-! ## Agreement around a lead -/

private theorem isLive_iff {leads : List Lead} {id : Uuid} :
    isLive leads id = true ↔ leads.filter (·.id == id) ≠ [] := by
  simp [isLive, List.filter_eq_nil_iff]

private theorem live_or_leadRank_eq_zero (corpus : Corpus) (id : Uuid) :
    isLive corpus.leads id = true ∨ (ofCorpus ranker damping corpus).leadRank id = 0 := by
  rw [isLive_iff, or_iff_not_imp_left, not_not]
  intro dead
  rw [leadRank, match?_eq, dead]
  rfl

private theorem filter_rankedNotes {corpus : Corpus} {id : Uuid}
    (live : isLive corpus.leads id = true) : (rankedNotes ranker corpus).filter (·.1.leadId == id) =
      (corpus.leadNotes.filter (·.leadId == id)).map fun note =>
        (note, ranker.rankText note.body .c) := by
  rw [rankedNotes, List.filter_map, List.filter_filter]
  congr 1
  apply List.filter_congr
  intro note _
  by_cases named : note.leadId = id <;> simp [named, live]

def rankedNote? (service : LeadService) : Option (LeadService × Score) :=
  match service.consumerNote with
  | some note => if Text.allBlank note then none else some (service, ranker.rankText note .c)
  | none => none

private theorem filter_rankedServices {corpus : Corpus} {id : Uuid}
    (live : isLive corpus.leads id = true) :
    (rankedServices ranker corpus).filter (·.1.leadId == id) =
      (corpus.leadServices.filter (·.leadId == id)).filterMap (rankedNote? ranker) := by
  rw [rankedServices, List.filter_filterMap, List.filterMap_filter]
  apply List.filterMap_congr
  intro service _
  unfold rankedNote?
  cases service.consumerNote with
  | none => simp
  | some note =>
    by_cases named : service.leadId = id
    · by_cases blank : Text.allBlank note = true <;> simp [named, blank, live, Option.filter]
    · simp only [beq_eq_false_iff_ne.mpr named, Bool.false_eq_true, if_false]
      split <;> simp [named, Option.filter]

/-- Two corpora agree around a lead: on its live rows and, if there is one, on its notes and on its
services. They may differ in everything else. -/
structure AgreeAround (before after : Corpus) (id : Uuid) : Prop where
  live : before.leads.filter (·.id == id) = after.leads.filter (·.id == id)
  notes : isLive before.leads id = true → Rearranged (·.id)
    (before.leadNotes.filter (·.leadId == id)) (after.leadNotes.filter (·.leadId == id))
  services : isLive before.leads id = true → Rearranged (·.id)
    (before.leadServices.filter (·.leadId == id)) (after.leadServices.filter (·.leadId == id))

section
variable {before after : Corpus} {id : Uuid}

theorem lead?_congr (agree : AgreeAround before after id) :
    (ofCorpus ranker damping before).lead? id = (ofCorpus ranker damping after).lead? id := by
  rw [lead?_eq, lead?_eq]
  exact congrArg (fun rows => rows.reverse.head?) agree.live

private theorem matchOf_congr (agree : AgreeAround before after id)
    (live : isLive before.leads id = true) {lead : Lead} (named : lead.id = id) :
    matchOf ranker damping (rankedNotes ranker before) (rankedServices ranker before) lead =
      matchOf ranker damping (rankedNotes ranker after) (rankedServices ranker after) lead := by
  have stays : isLive after.leads id = true := by rwa [isLive_iff, ← agree.live, ← isLive_iff]
  have note : best? (·.id) ((rankedNotes ranker before).filter (·.1.leadId == id)) =
      best? (·.id) ((rankedNotes ranker after).filter (·.1.leadId == id)) := by
    rw [filter_rankedNotes ranker live, filter_rankedNotes ranker stays]
    exact best?_congr ((agree.notes live).map _ _ Function.injective_id fun _ => rfl)
  have service : best? (·.id) ((rankedServices ranker before).filter (·.1.leadId == id)) =
      best? (·.id) ((rankedServices ranker after).filter (·.1.leadId == id)) := by
    rw [filter_rankedServices ranker live, filter_rankedServices ranker stays]
    apply best?_congr
    apply (agree.services live).filterMap _ _ Function.injective_id
    intro service ranked made
    unfold rankedNote? at made
    split at made
    · split at made
      · contradiction
      · rw [← Option.some.inj made]
        rfl
    · contradiction
  simp only [matchOf, named, note, service]

/-- How a lead matches depends on its own rows only. -/
theorem match?_congr (agree : AgreeAround before after id) :
    (ofCorpus ranker damping before).match? id = (ofCorpus ranker damping after).match? id := by
  rw [match?_eq, match?_eq, ← agree.live]
  congr 3
  apply List.map_congr_left
  intro lead among
  apply matchOf_congr ranker damping agree (isLive_iff.mpr (List.ne_nil_of_mem among))
  exact beq_iff_eq.mp (List.mem_filter.mp among).2

theorem leadRank_congr (agree : AgreeAround before after id) :
    (ofCorpus ranker damping before).leadRank id =
      (ofCorpus ranker damping after).leadRank id := by
  rw [leadRank, match?_congr ranker damping agree, leadRank]

theorem partnerRank_congr {partnerId : Uuid}
    (linked : ∀ lead, isLive before.leads lead = true ∨ isLive after.leads lead = true →
      ((∃ link ∈ before.partnerLeads, link.partnerId = partnerId ∧ link.leadId = lead) ↔
        ∃ link ∈ after.partnerLeads, link.partnerId = partnerId ∧ link.leadId = lead))
    (agree : ∀ link ∈ before.partnerLeads, link.partnerId = partnerId →
      AgreeAround before after link.leadId) :
    (ofCorpus ranker damping before).partnerRank partnerId =
      (ofCorpus ranker damping after).partnerRank partnerId := by
  apply Score.maximum_congr
  · intro score member
    obtain ⟨link, _, rfl⟩ := List.mem_map.mp member
    exact regular_leadRank ranker damping before link.leadId
  · intro score
    simp only [List.mem_cons, List.mem_map, List.mem_filter, beq_iff_eq]
    constructor
    · rintro (rfl | ⟨link, ⟨inside, named⟩, rfl⟩)
      · exact .inl rfl
      rcases live_or_leadRank_eq_zero ranker damping before link.leadId with live | nothing
      · obtain ⟨other, present, same, lead⟩ :=
          (linked link.leadId (.inl live)).mp ⟨link, inside, named, rfl⟩
        exact .inr ⟨other, ⟨present, same⟩,
          by rw [lead, leadRank_congr ranker damping (agree link inside named)]⟩
      · exact .inl nothing
    · rintro (rfl | ⟨link, ⟨inside, named⟩, rfl⟩)
      · exact .inl rfl
      rcases live_or_leadRank_eq_zero ranker damping after link.leadId with live | nothing
      · obtain ⟨other, present, same, lead⟩ :=
          (linked link.leadId (.inr live)).mpr ⟨link, inside, named, rfl⟩
        exact .inr ⟨other, ⟨present, same⟩,
          by rw [leadRank_congr ranker damping (agree other present same), lead]⟩
      · exact .inl nothing

end

/-! ## Graphs of arrangements -/

structure Alike (before after : LeadGraph) : Prop where
  lead? : ∀ id, before.lead? id = after.lead? id
  match? : ∀ id, before.match? id = after.match? id
  partnerRank : ∀ id, before.partnerRank id = after.partnerRank id

theorem Alike.leadRank {before after : LeadGraph} (alike : Alike before after) (id : Uuid) :
    before.leadRank id = after.leadRank id := by
  unfold LeadGraph.leadRank
  rw [alike.match? id]

/-- The graph does not depend on the arrangement of the rows. -/
theorem ofCorpus_alike {before after : Corpus} (rows : before.SameRows after.toTenantRows)
    (leads : Rearranged (·.id) before.leads after.leads) :
    Alike (ofCorpus ranker damping before) (ofCorpus ranker damping after) := by
  have agree (id : Uuid) : AgreeAround before after id :=
    ⟨leads id, fun _ => rows.leadNotes.filter _, fun _ => rows.leadServices.filter _⟩
  refine ⟨fun id => lead?_congr ranker damping (agree id),
    fun id => match?_congr ranker damping (agree id), ?_⟩
  intro id
  apply partnerRank_congr
  · intro lead _
    simp only [rows.partnerLeads]
  · intro link _ _
    exact agree link.leadId

end LeadGraph

end TenantSearch
