import TenantSearch.Proofs.Explanation

/-! Records that are found with a lead only. Their score is the highest rank among their leads, made
smaller by the factor of their kind, so they stand behind the lead that they are found with. -/
namespace TenantSearch
open Score (Between)

/-! ## Factors -/

namespace Score
open Float.Model Float.Model.UnpackedFloat Rounding

private theorem code_of_full {mantissa : ℕ} {place : ℤ} (full : 2 ^ 23 ≤ mantissa)
    (short : mantissa < 2 ^ 24) (least : -149 ≤ place) :
    code (mantissa * 2 ^ place) =
      min (255 * 2 ^ 23) ((place + 149).toNat * 2 ^ 23 + mantissa) := by
  have located : Locates mantissa .exact ((mantissa * 2 ^ place : ℚ) / 2 ^ place) := by
    rw [Locates, mul_div_cancel_right₀ _ (by positivity)]
  have log : mantissa.log2 = 23 := (Nat.log2_eq_iff (by omega)).mpr ⟨full, short⟩
  have target := targetExponent_eq (by positivity) located
  rw [targetExponent_eq_max, log] at target
  have exponent : exponent (mantissa * 2 ^ place) = place := by
    rw [← target (by omega)]
    omega
  rw [code, scaled, exponent, mul_div_cancel_right₀ _ (by positivity), roundEven_natCast]

private theorem value_half : (0.5 : Score).value = 1 / 2 := by
  have unpacked : (0.5 : Score).toModel.unpack = .finite .positive (2 ^ 23) (-24) (by decide) := by
    rfl
  rw [value, unpacked]
  norm_num

private theorem mul_lt_self {score factor : Score} (finite : score.Finite)
    (large : 2 ^ 24 ≤ score.toBits.toNat) (small : Between 0 0.5 factor) :
    score * factor < score := by
  rcases finite.written with ⟨_, nothing⟩ | ⟨mantissa, place, written⟩
  · omega
  have bits := written.bits
  have least := written.least
  have short := written.short
  have full := written.full
  -- Half of the score has its mantissa one place lower, where it is still a score.
  have shrunk : (score * factor).toBits.toNat ≤ code (mantissa * 2 ^ (place - 1)) := by
    rw [toBits_mul finite small.finite]
    apply code_mono
    have half := small.le_high
    rw [value_half] at half
    rw [written.value, zpow_sub_one₀ (by norm_num)]
    calc (mantissa * 2 ^ place : ℚ) * factor.value ≤ mantissa * 2 ^ place * (1 / 2) := by gcongr
      _ = mantissa * (2 ^ place * 2⁻¹) := by ring
  rw [(finite.mul small.finite).lt_iff finite.regular]
  rw [code_of_full (full (by omega)) short (by omega)] at shrunk
  omega

private theorem mul_le_mul_of_le {score low high : Score} (finite : score.Finite)
    (below : low.Finite)
    (above : high.Finite) (ordered : low ≤ high) : score * low ≤ score * high := by
  rw [(finite.mul below).le_iff (finite.mul above)]
  exact finite.mul_mono above ((below.regular.le_iff above.regular).mp ordered)

end Score

theorem Damping.ofKind_default_between :
    ∀ kind ∈ RecordKind.aroundLeads, Between 0 0.5 (({} : Damping).ofKind kind) := by
  decide

example : RecordKind.aroundLeads.map ({} : Damping).ofKind = [0.20, 0.15, 0.10] := rfl

theorem Damping.ofKind_default_antitone {first second : RecordKind}
    (listed : [first, second].Sublist RecordKind.aroundLeads) :
    ({} : Damping).ofKind second ≤ ({} : Damping).ofKind first := by
  have every : RecordKind.aroundLeads.Pairwise fun first second =>
      ({} : Damping).ofKind second ≤ ({} : Damping).ofKind first := by
    decide
  exact List.pairwise_iff_forall_sublist.mp every listed

/-! ## The lead that a record is found with -/

namespace Candidate

/-- A lead carries a candidate: none of the live leads of the record ranks higher, and its rank,
made smaller by the factor of the kind, is the score. -/
structure CarriedBy (ranker : Ranker) (damping : Damping) (corpus : Corpus) (candidate : Candidate)
    (lead : Lead) : Prop where
  live : lead ∈ corpus.leads
  related : corpus.Relates candidate.record lead.id
  ranked : 0 < (LeadGraph.ofCorpus ranker damping corpus).leadRank lead.id
  highest : ∀ other ∈ corpus.leads, corpus.Relates candidate.record other.id →
    (LeadGraph.ofCorpus ranker damping corpus).leadRank other.id ≤
      (LeadGraph.ofCorpus ranker damping corpus).leadRank lead.id
  score : candidate.score = (LeadGraph.ofCorpus ranker damping corpus).leadRank lead.id *
    damping.ofKind candidate.record.kind

section
variable {ranker : Ranker} {damping : Damping} {corpus : Corpus}

private theorem unranked_of_explains {record : Record}
    (explains : corpus.Explains ranker damping record .lead) : ranker.Unranked record := by
  cases explains with
  | own first =>
    obtain ⟨before, part, after, split, _⟩ := first
    have listed : (MatchedField.lead, part) ∈ ranker.ownParts record := by
      rw [split]
      simp
    have named := (List.of_mem_zip listed).1
    cases record <;> simp [Record.fieldNames] at named
  | lead _ unranked _ _ _ => exact unranked

/-- A record that is tagged by a lead has no part of its own, and a lead carries it. -/
theorem exists_carriedBy (sound : ranker.Sound) (damped : damping.Sound) {candidate : Candidate}
    (around : candidate.record.kind ∈ RecordKind.aroundLeads)
    (made : ofRecord ranker damping (LeadGraph.ofCorpus ranker damping corpus) candidate.record =
      some candidate) (tag : candidate.matchedField = .lead) :
    (∀ part ∈ (ranker.rank candidate.record.fields).parts, part = 0) ∧
      ∃ lead, CarriedBy ranker damping corpus candidate lead := by
  have explains := explains_of_aroundLeads sound around made
  rw [tag] at explains
  have unranked := unranked_of_explains explains
  have nothing : (ranker.rank candidate.record.fields).score = 0 :=
    (Ranker.regular_rank sound).not_pos_iff.mp (unranked.not_pos sound)
  have ranked := relatedRank_pos sound around made unranked
  obtain ⟨lead, live, related, rank⟩ := Corpus.exists_related_of_pos ranked
  refine ⟨?_, lead, live, related, rank ▸ ranked, ?_, ?_⟩
  · intro part member
    exact (Ranker.regular_parts sound part member).not_pos_iff.mp (unranked part member)
  · intro other _ linked
    rw [rank]
    exact corpus.leadRank_le_relatedRank ranker damping linked
  · -- The own rank is zero, so the sum that is the score is what the lead passes on.
    obtain ⟨finite, positive⟩ := damped.ofKind around
    have product := (corpus.regular_relatedRank ranker damping candidate.record).mul finite positive
    rw [(ofRecord_eq_some around made).2.1, nothing, product.zero_add_eq, rank]

private theorem CarriedBy.rank_between (moderate : ranker.Moderate) (damped : damping.Moderate)
    {candidate : Candidate} {lead : Lead}
    (carried : CarriedBy ranker damping corpus candidate lead) :
    Between LeadGraph.leastMatch LeadGraph.highestMatch
      ((LeadGraph.ofCorpus ranker damping corpus).leadRank lead.id) := by
  have rank : Score.Reflects LeadGraph.leastMatch LeadGraph.highestMatch
      (corpus.LeadMatches ranker lead.id)
      ((LeadGraph.ofCorpus ranker damping corpus).leadRank lead.id) :=
    LeadGraph.reflects_leadRank moderate damped lead.id
  exact rank.between ((rank.pos_iff LeadGraph.leastMatch_pos).mp carried.ranked)

/-- What a lead carries with a factor of at most a half has a lower score than the lead. -/
theorem CarriedBy.score_lt (moderate : ranker.Moderate) (damped : damping.Moderate)
    {candidate : Candidate} {lead : Lead}
    (carried : CarriedBy ranker damping corpus candidate lead)
    (half : Between 0 0.5 (damping.ofKind candidate.record.kind)) :
    candidate.score.Regular ∧
      candidate.score < (LeadGraph.ofCorpus ranker damping corpus).leadRank lead.id := by
  have between := carried.rank_between moderate damped
  have least : 2 ^ 24 ≤ LeadGraph.leastMatch.toBits.toNat := by decide
  rw [carried.score]
  exact ⟨between.finite.mul half.finite,
    Score.mul_lt_self between.finite (least.trans between.above) half⟩

theorem CarriedBy.score_le (moderate : ranker.Moderate) (damped : damping.Moderate)
    {first second : Candidate} {lead : Lead}
    (left : CarriedBy ranker damping corpus first lead)
    (right : CarriedBy ranker damping corpus second lead)
    (finite : (damping.ofKind first.record.kind).Finite ∧
      (damping.ofKind second.record.kind).Finite)
    (ordered : damping.ofKind second.record.kind ≤ damping.ofKind first.record.kind) :
    second.score ≤ first.score := by
  have rank := left.rank_between moderate damped
  rw [left.score, right.score]
  exact Score.mul_le_mul_of_le rank.finite finite.2 finite.1 ordered

end

private theorem mem_before_of_precedes {found before after : List Candidate}
    {source candidate : Candidate}
    (sorted : found.Pairwise fun a b => ¬ Precedes b a) (first : Precedes source candidate)
    (member : source ∈ found) (split : found = before ++ candidate :: after) :
    source ∈ before := by
  subst split
  rcases List.mem_append.mp member with inside | rest
  · exact inside
  · have later := (List.pairwise_append.mp sorted).2.1
    rcases List.mem_cons.mp rest with rfl | last
    · exact absurd first (Precedes.irrefl source)
    · exact absurd first (List.rel_of_pairwise_cons later last)

end Candidate

/-! ## Searches -/

namespace SearchService
variable {service : SearchService} {query : Text} {corpus : Corpus} {kinds : List RecordKind}

private theorem exists_lead_mem_merged (asked : .lead ∈ kinds) {lead : Lead}
    (live : lead ∈ corpus.leads)
    (ranked : 0 < (LeadGraph.ofCorpus (service.ranker query) service.settings.damping
      corpus).leadRank lead.id) :
    ∃ source ∈ service.merged query corpus kinds, source.record = .lead lead ∧
      source.score = (LeadGraph.ofCorpus (service.ranker query) service.settings.damping
        corpus).leadRank lead.id := by
  obtain ⟨source, made⟩ := Candidate.exists_ofLead ranked
  have found : Candidate.ofRecord (service.ranker query) service.settings.damping
      (LeadGraph.ofCorpus (service.ranker query) service.settings.damping corpus) (.lead lead) =
        some source := made
  have held : corpus.Holds (Record.lead lead).alone := live
  exact ⟨source, (mem_merged_alone_iff.mpr ⟨asked, held, found⟩).1,
    Candidate.record_ofRecord _ _ found, Candidate.score_ofLead made⟩

/-- A candidate that a lead carries stands behind that lead, wherever leads are asked for. -/
theorem exists_lead_before (moderate : (service.ranker query).Moderate)
    (damped : service.settings.damping.Moderate) (asked : .lead ∈ kinds) {candidate : Candidate}
    {lead : Lead} (carried : Candidate.CarriedBy (service.ranker query) service.settings.damping
      corpus candidate lead)
    (half : Between 0 0.5 (service.settings.damping.ofKind candidate.record.kind)) :
    let found := service.merged query corpus kinds
    ∃ source ∈ found, source.record = .lead lead ∧ candidate.score < source.score ∧
      ∀ before after, found = before ++ candidate :: after → source ∈ before := by
  intro found
  obtain ⟨source, member, shown, rank⟩ :=
    exists_lead_mem_merged asked carried.live carried.ranked
  obtain ⟨regular, lower⟩ := carried.score_lt moderate damped half
  rw [← rank] at lower
  have highest : source.score.Regular := by
    rw [rank]
    exact LeadGraph.regular_leadRank _ _ corpus lead.id
  have first : Candidate.Precedes source candidate :=
    .inl ((regular.lt_iff_place_lt highest).mp lower)
  refine ⟨source, member, shown, lower, ?_⟩
  intro before after split
  exact Candidate.mem_before_of_precedes (Candidate.pairwise_merge _) first member split

/-- By default, records are found behind the lead that they are found with. A quote, an appointment
or a partner that is tagged by a lead has no part of its own; its score is the highest rank among
its live leads, made smaller by the factor of its kind, and a lead with that rank stands before it
wherever leads are asked for. What one lead carries never scores higher in the order of the
kinds. -/
theorem search_propagates {service : SearchService} {store : Store}
    (reads : service.source = store.source .none) (weights : service.settings.weights = {})
    (damping : service.settings.damping = {})
    (bounded : service.settings.maxQueryChars < Document.wordBound) (tenant : Uuid) {query : Text}
    (admissible : Admissible service.settings query) {types : Option Text} {isAdmin : Bool}
    {kinds : List RecordKind} (resolved : RecordKind.resolve types isAdmin = .ok kinds) :
    let ranker := service.ranker (Text.trim query)
    let corpus := store.corpus tenant
    let found := service.merged (Text.trim query) corpus kinds
    let CarriedBy := Candidate.CarriedBy ranker service.settings.damping corpus
    service.PagesOf tenant query types isAdmin found ∧
      (∀ candidate ∈ found, candidate.record.kind ∈ RecordKind.aroundLeads →
        candidate.matchedField = .lead →
          (∀ part ∈ (ranker.rank candidate.record.fields).parts, part = 0) ∧
            (∃ lead, CarriedBy candidate lead) ∧
            ∀ lead, CarriedBy candidate lead → .lead ∈ kinds →
              ∃ source ∈ found, source.record = .lead lead ∧ candidate.score < source.score ∧
                ∀ before after, found = before ++ candidate :: after → source ∈ before) ∧
      ∀ (lead : Lead) (first second : Candidate), CarriedBy first lead → CarriedBy second lead →
        [first.record.kind, second.record.kind].Sublist RecordKind.aroundLeads →
          second.score ≤ first.score := by
  intro ranker corpus found CarriedBy
  have moderate : ranker.Moderate :=
    moderate_ranker (weights ▸ Weights.moderate_default) (admissible.short.trans bounded.le)
  have damped : service.settings.damping.Moderate := damping ▸ Damping.moderate_default
  have half (kind : RecordKind) (around : kind ∈ RecordKind.aroundLeads) :
      Between 0 0.5 (service.settings.damping.ofKind kind) := by
    rw [damping]
    exact Damping.ofKind_default_between kind around
  refine ⟨pagesOf_merged reads tenant admissible resolved, ?_, ?_⟩
  · intro candidate member around tag
    obtain ⟨silent, carrier⟩ := Candidate.exists_carriedBy moderate.sound damped.sound around
      (service.ofRecord_of_mem_merged _ member) tag
    refine ⟨silent, carrier, ?_⟩
    intro lead carried asked
    exact exists_lead_before moderate damped asked carried (half _ around)
  · intro lead first second left right listed
    have ordered : service.settings.damping.ofKind second.record.kind ≤
        service.settings.damping.ofKind first.record.kind := by
      rw [damping]
      exact Damping.ofKind_default_antitone listed
    exact left.score_le moderate damped right
      ⟨(half _ (listed.subset (by simp))).finite, (half _ (listed.subset (by simp))).finite⟩ ordered

/-- A quote that is found with its lead stands behind it. -/
theorem search_propagates_quote_of_lead :
    let service : SearchService := ⟨{}, .dutch, Store.sample.source .none, rfl⟩
    let kinds := RecordKind.visible none false
    let found := service.merged "bram".toList (Store.sample.corpus ⟨7⟩) kinds
    Admissible service.settings "bram".toList ∧ RecordKind.resolve none false = .ok kinds ∧
      ∃ source ∈ found, ∃ candidate ∈ found, source.record.kind = .lead ∧
        candidate.record.kind = .quote ∧ candidate.matchedField = .lead ∧
        candidate.score < source.score := by
  intro service kinds found
  have admissible : Admissible service.settings "bram".toList := ⟨by decide, by decide⟩
  have resolved : RecordKind.resolve none false = .ok kinds := rfl
  have listed : (RecordKind.quote, MatchedField.lead) ∈
      (service.candidates "bram".toList (Store.sample.corpus ⟨7⟩) kinds).map
        fun candidate => (candidate.record.kind, candidate.matchedField) := by
    decide +kernel
  obtain ⟨candidate, inside, tagged⟩ := List.mem_map.mp listed
  have member : candidate ∈ found := (service.mem_merged _).mpr inside
  have kind : candidate.record.kind = .quote := congrArg Prod.fst tagged
  have tag : candidate.matchedField = .lead := congrArg Prod.snd tagged
  obtain ⟨_, propagates, _⟩ := search_propagates rfl rfl rfl (by decide) ⟨7⟩ admissible resolved
  obtain ⟨_, ⟨lead, carried⟩, behind⟩ :=
    propagates candidate member (by rw [kind]; decide) tag
  obtain ⟨source, first, shown, lower, _⟩ := behind lead carried (by decide)
  exact ⟨admissible, resolved, source, first, candidate, member, by rw [shown]; rfl, kind, tag,
    lower⟩

end SearchService

end TenantSearch
