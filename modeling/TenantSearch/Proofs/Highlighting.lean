import TenantSearch.Proofs.Answer
import TenantSearch.Proofs.HeadlineWindow
import TenantSearch.Proofs.Merged
import TenantSearch.Proofs.ValidWeights

/-! Marked previews. A text is shown marked because its rank found a lexeme in it; if every word of
the folded text is a word of one of the segments that the preview is cut into, then a segment with
that lexeme is marked. -/
namespace TenantSearch

namespace Ranker

private theorem exists_hit_segment {ranker : Ranker} {text : Text} (keeps : text.KeepsWords)
    (found : ranker.Finds text) : ∃ segment ∈ Text.WordBreak.segments text,
      segment.any Text.isAlphanumeric = true ∧ ranker.isHitWord segment = true := by
  obtain ⟨pass, listed, lexeme, read, hit⟩ := found
  obtain ⟨word, inside, same⟩ := (Lexer.mem_lexemes pass.1).mp read
  obtain ⟨segment, cut, isWord, among⟩ := keeps word inside
  refine ⟨segment, cut, isWord, ?_⟩
  rw [isHitWord, List.any_eq_true]
  refine ⟨word, among, List.any_eq_true.mpr ⟨pass, listed, ?_⟩⟩
  change (pass.1.lexeme? word).any pass.2.hitsLexeme = true
  rw [same, Option.any_some]
  exact hit

end Ranker

private theorem best?_eq_some {α : Type} {id : α → Uuid} {rows : List (α × Score)}
    {best : α × Score} (found : best? id rows = some best) : best ∈ rows ∧ ¬ best.2 ≤ 0 := by
  rcases best?_spec id rows with ⟨empty, _⟩ | ⟨other, same, isBest⟩
  · rw [empty] at found
    contradiction
  · obtain rfl := Option.some.inj (found.symm.trans same)
    exact ⟨isBest.mem, isBest.ranked⟩

private theorem PreviewSource.first_ne_marked (texts : List (Option Text)) (text : Text) :
    PreviewSource.first texts ≠ .marked text := by
  unfold PreviewSource.first
  split <;> simp

namespace Candidate
variable {ranker : Ranker} (finite : ∀ field, (ranker.weights.ofClass field).Finite)
include finite

private theorem finds_of_previewOf {fields : List Field} {index : ℕ} {given : Option Text}
    {kind : FieldClass} (listed : fields[index]? = some (given, kind))
    {others : List (Option Text)} {text : Text}
    (marked : previewOf given ((ranker.rank fields).fieldHit index) others = .marked text) :
    ranker.Finds text := by
  unfold previewOf at marked
  split at marked
  · split at marked
    · next hit =>
      cases marked
      exact Ranker.finds_of_fieldHit finite listed hit
    · exact absurd marked (PreviewSource.first_ne_marked _ _)
  · exact absurd marked (PreviewSource.first_ne_marked _ _)

private theorem finds_of_lead {damping : Damping} {corpus : Corpus} {lead : Lead}
    {candidate : Candidate}
    (found : ofLead (LeadGraph.ofCorpus ranker damping corpus) lead = some candidate) {text : Text}
    (marked : candidate.preview = .marked text) : ranker.Finds text := by
  obtain ⟨matched, known, rfl⟩ := Option.map_eq_some_iff.mp found
  rw [LeadGraph.match?_eq] at known
  have member := List.mem_reverse.mp (List.mem_of_mem_head? (Option.mem_def.mpr known))
  obtain ⟨lead, _, rfl⟩ := List.mem_map.mp (List.mem_filter.mp member).1
  simp only at marked
  -- The best note is shown, or else the best note of a service.
  split at marked
  · next note _ best =>
    cases marked
    obtain ⟨among, ranked⟩ := best?_eq_some best
    obtain ⟨_, _, same⟩ := List.mem_map.mp (List.mem_filter.mp among).1
    cases same
    exact Ranker.finds_of_rankText finite ranked
  · next given =>
    cases marked
    obtain ⟨⟨service, score⟩, best, text⟩ := Option.bind_eq_some_iff.mp given
    obtain ⟨among, ranked⟩ := best?_eq_some best
    obtain ⟨_, _, shown, told, _, rank⟩ :=
      LeadGraph.mem_rankedServices.mp (List.mem_filter.mp among).1
    rw [rank] at ranked
    rw [Option.some.inj (text.symm.trans told)]
    exact Ranker.finds_of_rankText finite ranked
  · exact absurd marked (PreviewSource.first_ne_marked _ _)

/-- A text that is shown marked has a lexeme that was searched for. -/
theorem finds_of_marked {damping : Damping} {corpus : Corpus} {record : Record}
    (related : record.kind.isLeadRelated = true) {candidate : Candidate}
    (found : ofRecord ranker damping (LeadGraph.ofCorpus ranker damping corpus) record =
      some candidate) {text : Text} (marked : candidate.preview = .marked text) :
    ranker.Finds text := by
  have preview_eq {record : Record} {own : OwnRank} {fields : List (ℕ × MatchedField)}
      {propagated factor : Score} {preview : PreviewSource}
      (made : ofRanks record own fields propagated factor preview = some candidate) :
      preview = .marked text := by
    unfold ofRanks at made
    split at made
    · contradiction
    · rw [← marked, ← Option.some.inj made]
  cases record with
  | lead lead => exact finds_of_lead finite found marked
  | quote quote owner => exact finds_of_previewOf finite rfl (preview_eq found)
  | partner partner => exact absurd (preview_eq found) (PreviewSource.first_ne_marked _ _)
  | appointment appointment => exact finds_of_previewOf finite rfl (preview_eq found)
  | catalogProduct product => contradiction
  | serviceType row => contradiction

end Candidate

theorem Candidate.exists_preview?_of_headline {ranker : Ranker} {style : HeadlineStyle}
    {candidate : Candidate} {text word : Text} (marked : candidate.preview = .marked text)
    (opening : style.opening ≠ [])
    (shown : ∃ before after, headline style ranker.isHitWord text =
      before ++ style.opening ++ word ++ style.closing ++ after) :
    ∃ before after, candidate.preview? ranker style =
      some (before ++ style.opening ++ word ++ style.closing ++ after) := by
  obtain ⟨before, after, shown⟩ := shown
  have filled : (headline style ranker.isHitWord text).isEmpty = false := by
    rw [shown]
    simp [opening]
  refine ⟨before, after, ?_⟩
  rw [preview?, marked]
  simp only [filled, Bool.false_eq_true, if_false]
  rw [shown]

namespace SearchService

/-- Every marked preview of a record around the leads marks a word that was searched for, if the
words of its text are those of its segments. -/
theorem exists_marked_preview {settings : Settings} (valid : settings.check = .ok settings)
    {service : SearchService} (uses : service.settings = settings.search) (query : Text)
    (corpus : Corpus) (kinds : List RecordKind) {candidate : Candidate}
    (member : candidate ∈ service.merged query corpus kinds)
    (related : candidate.record.kind.isLeadRelated = true) {text : Text}
    (marked : candidate.preview = .marked text) (keeps : text.KeepsWords) :
    let ranker := service.ranker query
    let style := headlineStyle service.settings
    ∃ word ∈ Text.WordBreak.segments text,
      word.any Text.isAlphanumeric = true ∧ ranker.isHitWord word = true ∧ ∃ before after,
        candidate.preview? ranker style =
          some (before ++ style.opening ++ word ++ style.closing ++ after) := by
  intro ranker style
  have finite (field : FieldClass) : (ranker.weights.ofClass field).Finite := by
    change (service.settings.weights.ofClass field).Finite
    rw [uses]
    exact Settings.finite_ofClass_of_check valid field
  have found := service.ofRecord_of_mem_merged query member
  have searched := Candidate.finds_of_marked finite related found marked
  obtain ⟨_, ordered, opening, _⟩ := Settings.snippet_of_check valid
  rw [← uses] at ordered opening
  obtain ⟨word, cut, isWord, hit, shown⟩ :=
    @exists_marked_headline style ordered _ _ (Ranker.exists_hit_segment keeps searched)
  exact ⟨word, cut, isWord, hit, Candidate.exists_preview?_of_headline marked opening shown⟩

theorem exists_marked_preview_notes :
    let settings : Settings := ⟨⟨"127.0.0.1:8080".toList, "info".toList⟩, ⟨"crm".toList, 8⟩, {}⟩
    let service : SearchService := ⟨settings.search, .dutch, Store.sample.source .none, rfl⟩
    let ranker := service.ranker "anna".toList
    settings.check = .ok settings ∧
      ∃ candidate ∈ service.merged "anna".toList (Store.sample.corpus ⟨7⟩) [.quote],
        candidate.preview = .marked "For Anna".toList ∧
          ∃ word ∈ Text.WordBreak.segments "For Anna".toList, ranker.isHitWord word = true ∧
            ∃ before after, candidate.preview? ranker (headlineStyle service.settings) =
              some (before ++ "<mark>".toList ++ word ++ "</mark>".toList ++ after) := by
  intro settings service ranker
  have valid : settings.check = .ok settings :=
    Settings.check_defaults (by decide) (by decide) (by decide)
  have shown : ∃ candidate ∈ service.candidates "anna".toList (Store.sample.corpus ⟨7⟩) [.quote],
      candidate.record.kind.isLeadRelated = true ∧
        candidate.preview = .marked "For Anna".toList := by
    decide +kernel
  obtain ⟨candidate, found, related, marked⟩ := shown
  have member := (service.mem_merged "anna".toList).mpr found
  have plain : "For Anna".toList.all Text.isPlain = true := by decide +kernel
  have keeps := Text.keepsWords_of_plain (List.all_eq_true.mp plain)
  obtain ⟨word, cut, -, hit, rendered⟩ := @exists_marked_preview settings valid service rfl
    "anna".toList (Store.sample.corpus ⟨7⟩) [.quote] candidate member related _ marked keeps
  exact ⟨valid, candidate, member, marked, word, cut, hit, rendered⟩

end SearchService

/-- A superscript digit is found as a digit, but no segment around it is a word with that digit. -/
example :
    let ranker : Ranker := ⟨.ofText .dutch 3 "m2".toList, .dutch, {}⟩
    let style : HeadlineStyle := ⟨6, 18, "<mark>".toList, "</mark>".toList⟩
    0 < ranker.rankText "80 m² dak".toList .d ∧
      headline style ranker.isHitWord "80 m² dak".toList = "80 m² dak".toList := by
  decide +kernel

end TenantSearch
