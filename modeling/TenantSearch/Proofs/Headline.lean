import Mathlib
import TenantSearch.Headline
import TenantSearch.Proofs.FoldedText

/-! What a headline shows: its window is cut by words, and whatever is in the window and is not a
gap is rendered. -/
namespace TenantSearch
namespace Headline

/-! ## The words of a window -/

def wordsOf (segments : List Segment) : List Segment := segments.filter (·.isWord)

theorem wordsOf_cons_word {segment : Segment} (word : segment.isWord = true)
    (rest : List Segment) : wordsOf (segment :: rest) = segment :: wordsOf rest :=
  List.filter_cons_of_pos word

theorem wordsOf_cons_other {segment : Segment} (other : ¬ segment.isWord = true)
    (rest : List Segment) : wordsOf (segment :: rest) = wordsOf rest :=
  List.filter_cons_of_neg other

private theorem wordsOf_dropWhile (segments : List Segment) :
    wordsOf (segments.dropWhile (!·.isWord)) = wordsOf segments := by
  induction segments with
  | nil => rfl
  | cons segment rest ih =>
    by_cases word : segment.isWord = true
    · rw [List.dropWhile_cons_of_neg (by simp [word])]
    · rw [List.dropWhile_cons_of_pos (by simp [word]), ih, wordsOf_cons_other word]

theorem wordsOf_fromWord (skipped : ℕ) (segments : List Segment) :
    wordsOf (fromWord skipped segments) = (wordsOf segments).drop skipped := by
  induction segments generalizing skipped with
  | nil => simp [fromWord, wordsOf]
  | cons segment rest ih =>
    cases skipped with
    | zero => rfl
    | succ fewer =>
      by_cases word : segment.isWord = true
      · rw [wordsOf_cons_word word, List.drop_succ_cons]
        by_cases last : fewer = 0
        · simp only [fromWord, word, last, if_true, List.drop_zero, wordsOf_dropWhile]
        · simp only [fromWord, word, last, if_true, if_false, ih]
      · simp only [fromWord, word, Bool.false_eq_true, if_false, ih, wordsOf_cons_other word]

/-! ## Rendering -/

theorem isGap_of_isWord {segment : Segment} (word : segment.isWord = true) :
    segment.isGap = false := by
  obtain ⟨c, inside, alphanumeric⟩ := List.any_eq_true.mp word
  rw [Segment.isGap, Text.allBlank, List.all_eq_false]
  refine ⟨c, inside, ?_⟩
  intro blank
  rw [Text.isAlphanumeric_of_isBlank blank] at alphanumeric
  contradiction

theorem exists_render_join (opening closing : Text) {segments : List Segment} {segment : Segment}
    (member : segment ∈ segments) (solid : segment.isGap = false) (started gap : Bool) :
    ∃ before after, join opening closing started gap segments =
      before ++ segment.render opening closing ++ after := by
  -- What stands before the segment only changes whether a space is put in front of it.
  induction segments generalizing started gap with
  | nil => contradiction
  | cons first rest ih =>
    rw [join]
    by_cases blank : first.isGap = true
    · rw [if_pos blank]
      rcases List.mem_cons.mp member with rfl | later
      · rw [solid] at blank
        contradiction
      · exact ih later started true
    · rw [if_neg blank]
      rcases List.mem_cons.mp member with rfl | later
      · exact ⟨_, _, rfl⟩
      · obtain ⟨before, after, rendered⟩ := ih later true false
        rw [rendered]
        exact ⟨_, after, (List.append_assoc ..).symm.trans (congrArg (· ++ after)
          (List.append_assoc ..).symm)⟩

end Headline

end TenantSearch
