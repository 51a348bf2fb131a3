import TenantSearch.LeadGraph
import TenantSearch.Proofs.RankRange
import TenantSearch.Proofs.RegularScores

/-! The parts of a rank. With weights of any size that are finite, every part is zero or above it, a
row has a rank exactly if one of its fields has a part in it, and the field by which a row is tagged
is the first one with a part. -/
namespace TenantSearch

namespace Ranker

/-- A ranker that never gives a negative rank or one that is not a number. -/
structure Sound (ranker : Ranker) : Prop where
  weights : ∀ field, (ranker.weights.ofClass field).Finite
  short : ∀ pass ∈ ranker.passes, pass.2.exact.length ≤ 2 ^ 38

theorem Moderate.sound {ranker : Ranker} (moderate : ranker.Moderate) : ranker.Sound :=
  ⟨fun field => (moderate.weights field).finite, moderate.short⟩

section
variable {ranker : Ranker} (sound : ranker.Sound) {fields : List Field}
include sound

private theorem regular_contribution {pass : Lexer × TokenSet}
    (member : pass ∈ ranker.contributing fields)
    (field : Field) : (contribution ranker.weights field pass).Regular := by
  obtain ⟨listed, accepted⟩ := List.mem_filter.mp member
  have positive := List.length_pos_iff.mpr (TokenSet.exact_ne_nil_of_accepts accepted)
  have size := Score.Between.ofNat positive (sound.short pass listed) (by decide)
  have counted := (hits_between pass.2 (lexemesOf pass.1 field)).finite
  exact ((sound.weights field.2).mul counted).div size.finite (size.pos (by decide))

theorem regular_parts : ∀ part ∈ (ranker.rank fields).parts, part.Regular := by
  rw [rank_parts]
  intro part member
  obtain ⟨field, _, rfl⟩ := List.mem_map.mp member
  apply Score.regular_sum
  intro score listed
  obtain ⟨pass, inside, rfl⟩ := List.mem_map.mp listed
  exact regular_contribution sound inside field

theorem regular_rank : (ranker.rank fields).score.Regular :=
  Score.regular_sum (regular_parts sound)

theorem rank_pos_iff :
    0 < (ranker.rank fields).score ↔ ∃ part ∈ (ranker.rank fields).parts, 0 < part :=
  Score.sum_pos_iff (regular_parts sound)

end

end Ranker

/-! ## The first field with a part -/

def MatchedField.placed (fields : List MatchedField) : List (Nat × MatchedField) :=
  fields.zipIdx.map Prod.swap

/-- A field has the first part above zero. -/
def RanksFirst (parts : List (MatchedField × Score)) (field : MatchedField) : Prop :=
  ∃ before part after, parts = before ++ (field, part) :: after ∧ 0 < part ∧
    ∀ earlier ∈ before, ¬ 0 < earlier.2

namespace OwnRank
variable {own : OwnRank} {fields : List MatchedField}

private theorem find?_fieldHit (place : Nat) :
    ((fields.zipIdx place).find? fun entry => own.fieldHit entry.2).map (·.1) =
      ((fields.zip (own.parts.drop place)).find? (0 < ·.2)).map (·.1) := by
  induction fields generalizing place with
  | nil => rfl
  | cons first rest ih =>
    have next := ih (place + 1)
    rw [List.zipIdx_cons, List.find?_cons, OwnRank.fieldHit]
    cases given : own.parts[place]? with
    | none =>
      -- Past the last part there is no field left to name.
      rw [List.getElem?_eq_none_iff] at given
      rw [List.drop_eq_nil_of_le (by omega), List.zip_nil_right] at next ⊢
      exact next
    | some part =>
      rw [List.drop_eq_getElem?_toList_append, given]
      by_cases counted : 0 < part
      · simp [counted]
      · simpa [counted] using next

private theorem firstHit_placed : own.firstHit (MatchedField.placed fields) =
    ((fields.zip own.parts).find? (0 < ·.2)).map (·.1) := by
  have whole := @find?_fieldHit own fields 0
  rw [List.drop_zero] at whole
  rw [← whole, firstHit, MatchedField.placed, List.find?_map, Option.map_map]
  rfl

theorem ranksFirst_of_firstHit {field : MatchedField}
    (hit : own.firstHit (MatchedField.placed fields) = some field) :
    RanksFirst (fields.zip own.parts) field := by
  rw [firstHit_placed, Option.map_eq_some_iff] at hit
  obtain ⟨⟨_, part⟩, found, rfl⟩ := hit
  obtain ⟨counted, before, after, split, earlier⟩ := List.find?_eq_some_iff_append.mp found
  refine ⟨before, part, after, split, of_decide_eq_true counted, ?_⟩
  intro entry member
  simpa using earlier entry member

theorem not_pos_of_firstHit (named : own.parts.length ≤ fields.length)
    (missed : own.firstHit (MatchedField.placed fields) = none) :
    ∀ part ∈ own.parts, ¬ 0 < part := by
  rw [firstHit_placed, Option.map_eq_none_iff, List.find?_eq_none] at missed
  intro part member
  rw [← List.map_snd_zip named] at member
  obtain ⟨entry, listed, rfl⟩ := List.mem_map.mp member
  simpa using missed entry listed

end OwnRank

end TenantSearch
