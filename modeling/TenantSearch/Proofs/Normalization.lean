import TenantSearch.Proofs.FoldedText
import TenantSearch.Text.Normalization

/-! Folding stage by stage gives the folded text. The canonical order moves a character past others
only if all of them are marks, and marks are dropped; so decomposing a text as a whole comes to
decomposing its characters one by one. What that leaves of each character is read off the tables. -/
namespace TenantSearch.Text

/-! ## Order -/

section
variable {test : Char → Bool} (starters : ∀ c, test c = true → combiningClass c = 0)
include starters

private theorem filter_settle (c : Char) (text : Text) :
    (settle c text).filter test = (c :: text).filter test := by
  induction text with
  | nil => rfl
  | cons d rest ih =>
    rw [settle]
    split
    · next moved =>
      have dropped (e : Char) (marked : 0 < combiningClass e) : ¬ test e = true := by
        intro kept
        rw [starters e kept] at marked
        exact lt_irrefl 0 marked
      rw [List.filter_cons_of_neg (dropped d moved.1), ih,
        List.filter_cons_of_neg (dropped c (moved.1.trans moved.2)),
        List.filter_cons_of_neg (dropped c (moved.1.trans moved.2)),
        List.filter_cons_of_neg (dropped d moved.1)]
    · rfl

theorem filter_reorder (text : Text) : (reorder text).filter test = text.filter test := by
  induction text with
  | nil => rfl
  | cons c rest ih =>
    change (settle c (reorder rest)).filter test = _
    rw [filter_settle starters, List.filter_cons, List.filter_cons, ih]

end

/-! ## Tables -/

def isCharacter (code : ℕ) : Bool :=
  Nat.blt code 0xD800 || Nat.blt 0xDFFF code && Nat.blt code 0x110000

private theorem toNat_of_isCharacter {code : ℕ} (valid : isCharacter code = true) :
    (Char.ofNat code).toNat = code := by
  rw [isCharacter, Bool.or_eq_true, Bool.and_eq_true, Nat.blt_eq, Nat.blt_eq, Nat.blt_eq] at valid
  rw [Char.toNat_ofNat, if_pos valid]

noncomputable def lowerCodes (code : ℕ) : List ℕ :=
  Lowering.tree.lookup code [code] fun row => Lowering.apply row code

private theorem lowerChar_eq (c : Char) : lowerChar c = (lowerCodes c.toNat).map Char.ofNat := by
  unfold lowerChar
  rw [lowerCodes, RangeTree.lookup_eq_elim]
  cases Lowering.tree.find? c.toNat with
  | none => simp
  | some row => rfl

private theorem Decomposition.ofCode_eq_lookup (code : ℕ) :
    ofCode code = tree.lookup code [code] fun row => apply row code := by
  unfold ofCode
  rw [RangeTree.lookup_eq_elim]
  cases tree.find? code <;> rfl

/-- What dropping the marks and lower case leave of some code points. -/
noncomputable def finish (codes : List ℕ) : List ℕ :=
  (codes.filter markTree.misses).flatMap lowerCodes

private theorem map_finish {codes : List ℕ} (valid : ∀ code ∈ codes, isCharacter code = true) :
    (finish codes).map Char.ofNat =
      ((codes.map Char.ofNat).filter (!isMark ·)).flatMap lowerChar := by
  have kept : (codes.map Char.ofNat).filter (!isMark ·) =
      (codes.filter markTree.misses).map Char.ofNat := by
    rw [List.filter_map]
    refine congrArg _ (List.filter_congr ?_)
    intro code listed
    rw [Function.comp_apply, isMark, toNat_of_isCharacter (valid code listed),
      RangeTree.misses_eq_not_covers]
  rw [kept, finish, List.map_flatMap, List.flatMap_map]
  refine List.flatMap_congr ?_
  intro code listed
  rw [lowerChar_eq, toNat_of_isCharacter (valid code (List.mem_filter.mp listed).1)]

namespace Folding

def codes (row : CodeRange Folding) (code : ℕ) : List ℕ :=
  match row.value with
  | .spelled codes => codes
  | .moved base => [base + (code - row.first)]

private theorem apply_eq (row : CodeRange Folding) (code : ℕ) :
    apply row code = (codes row code).map Char.ofNat := by
  unfold apply codes
  cases row.value <;> rfl

/-- What the stages leave of a character with a folded form of its own is that form. -/
private theorem tree_staged : tree.allCodes (fun row code => codes row code ==
    finish (Decomposition.tree.lookup code [code] fun row => Decomposition.apply row code)) =
      true := by
  decide +kernel

/-- Every other character passes all stages as it is. -/
private theorem decompositions_covered : Decomposition.tree.allCodes (fun row code =>
    !tree.misses code && (Decomposition.apply row code).all isCharacter) = true := by
  decide +kernel

private theorem marks_covered : markTree.allCodes (fun _ code => !tree.misses code) = true := by
  decide +kernel

private theorem lowerings_covered : Lowering.tree.allCodes (fun row code =>
    !tree.misses code || Lowering.apply row code == [code]) = true := by
  decide +kernel

end Folding

theorem combiningClass_of_not_isMark {c : Char} (plain : (!isMark c) = true) :
    combiningClass c = 0 := by
  have marked : combiningClassTree.allCodes (fun _ code => markTree.covers code) = true := by
    decide +kernel
  unfold combiningClass
  cases found : combiningClassTree.find? c.toNat with
  | none => rfl
  | some row => simp [isMark, RangeTree.test_of_allCodes marked found] at plain

/-! ## Characters -/

private theorem isCharacter_toNat (c : Char) : isCharacter c.toNat = true := by
  rw [isCharacter, Bool.or_eq_true, Bool.and_eq_true, Nat.blt_eq, Nat.blt_eq, Nat.blt_eq]
  exact c.valid

private theorem isCharacter_of_mem_ofCode {c : Char} {code : ℕ}
    (member : code ∈ Decomposition.ofCode c.toNat) : isCharacter code = true := by
  unfold Decomposition.ofCode at member
  cases found : Decomposition.tree.find? c.toNat with
  | none =>
    rw [found] at member
    exact List.mem_singleton.mp member ▸ isCharacter_toNat c
  | some row =>
    rw [found] at member
    have covered := RangeTree.test_of_allCodes Folding.decompositions_covered found
    rw [Bool.and_eq_true] at covered
    exact List.all_eq_true.mp covered.2 code member

section
variable {c : Char} (settled : Folding.isSettled c.toNat = true)
include settled

theorem decompose_of_isSettled : decompose c = [c] := by
  simp only [Folding.isSettled, Bool.and_eq_true, Bool.or_eq_true, Nat.blt_eq] at settled
  rw [decompose, if_neg (by omega)]
  unfold Decomposition.ofCode
  cases found : Decomposition.tree.find? c.toNat with
  | none => simp
  | some row =>
    have covered := RangeTree.test_of_allCodes Folding.decompositions_covered found
    simp [settled.2] at covered

theorem isMark_of_isSettled : isMark c = false := by
  rw [Folding.isSettled, Bool.and_eq_true] at settled
  rw [isMark, RangeTree.covers]
  cases found : markTree.find? c.toNat with
  | none => rfl
  | some row =>
    have covered := RangeTree.test_of_allCodes Folding.marks_covered found
    simp [settled.2] at covered

theorem lowerChar_of_isSettled : lowerChar c = [c] := by
  rw [Folding.isSettled, Bool.and_eq_true] at settled
  unfold lowerChar
  cases found : Lowering.tree.find? c.toNat with
  | none => rfl
  | some row =>
    have covered := RangeTree.test_of_allCodes Folding.lowerings_covered found
    have itself : Lowering.apply row c.toNat = [c.toNat] := by simpa [settled.2] using covered
    simp [itself]

end

theorem foldChar_eq_stages (c : Char) :
    foldChar c = ((decompose c).filter (!isMark ·)).flatMap lowerChar := by
  by_cases hangul : 0xAC00 ≤ c.toNat ∧ c.toNat ≤ 0xD7A3
  · -- A syllable is folded to its letters, which have no row and pass the later stages.
    have settled := (foldChar_sound c).2
    have same : decompose c = foldChar c := by
      rw [decompose, if_pos hangul, foldChar, if_pos hangul]
    have kept : (foldChar c).filter (!isMark ·) = foldChar c :=
      List.filter_eq_self.mpr fun d member => by rw [isMark_of_isSettled (settled d member)]; rfl
    rw [same, kept, List.flatMap_congr fun d member => lowerChar_of_isSettled (settled d member),
      List.flatMap_singleton']
  cases found : Folding.tree.find? c.toNat with
  | none =>
    have itself : foldChar c = [c] := by rw [foldChar, if_neg hangul, found]
    have settled := (foldChar_sound c).2 c (by simp [itself])
    rw [decompose_of_isSettled settled, itself]
    simp [isMark_of_isSettled settled, lowerChar_of_isSettled settled]
  | some row =>
    have staged := RangeTree.test_of_allCodes Folding.tree_staged found
    rw [beq_iff_eq, ← Decomposition.ofCode_eq_lookup] at staged
    calc foldChar c
      _ = (Folding.codes row c.toNat).map Char.ofNat := by
        rw [foldChar, if_neg hangul, found, ← Folding.apply_eq]
      _ = (finish (Decomposition.ofCode c.toNat)).map Char.ofNat := by rw [staged]
      _ = ((decompose c).filter (!isMark ·)).flatMap lowerChar := by
        rw [map_finish fun code => isCharacter_of_mem_ofCode, decompose, if_neg hangul]

/-! ## Texts -/

/-- Folding stage by stage, with the marks of the whole text in order, folds every character by
itself. -/
theorem foldByStages_eq_fold (text : Text) : foldByStages text = fold text := by
  have stages : (text.flatMap decompose).filter (!isMark ·) =
      text.flatMap fun c => (decompose c).filter (!isMark ·) := List.filter_flatMap
  rw [foldByStages, nfkd, filter_reorder fun _ => combiningClass_of_not_isMark, stages,
    List.flatMap_assoc, fold]
  exact List.flatMap_congr fun c _ => (foldChar_eq_stages c).symm

end TenantSearch.Text
