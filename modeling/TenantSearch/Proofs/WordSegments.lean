import TenantSearch.Proofs.FoldedText
import TenantSearch.Text.WordBreak

/-! Words and segments. Ranking reads the alphanumeric runs of a folded text, a preview the segments
between word boundaries, each folded by itself. In a text of plain characters no boundary cuts a
run, so both find the same words; not so where a character such as a superscript digit is folded to
a letter or a number without being one for the boundary rules. -/
namespace TenantSearch.Text
open WordBreak

/-- Whether every word of a folded text is a word of a folded segment. -/
def KeepsWords (text : Text) : Prop :=
  ∀ word ∈ words (fold text), ∃ segment ∈ segments text,
    segment.any isAlphanumeric = true ∧ word ∈ words (fold segment)

/-! ## Plain characters -/

def isWordCharacter (c : Char) : Bool :=
  isAlphanumeric c && [.letter, .hebrewLetter, .numeric].contains (property c) &&
    !isPictographic c

/-- Whether a character stands between words: folding keeps it, and as nothing alphanumeric. -/
def isSeparator (c : Char) : Bool := !(foldChar c).isEmpty && !(foldChar c).any isAlphanumeric

def isDropped (c : Char) : Bool := (foldChar c).isEmpty && (property c).isPassedOver

def isPlain (c : Char) : Bool := isWordCharacter c || isSeparator c || isDropped c

private theorem property_of_isWordCharacter {c : Char} (word : isWordCharacter c = true) :
    property c = .letter ∨ property c = .hebrewLetter ∨ property c = .numeric := by
  simp only [isWordCharacter, Bool.and_eq_true, List.contains_eq_mem, decide_eq_true_eq,
    List.mem_cons, List.not_mem_nil, or_false] at word
  exact word.1.2

private theorem isSeparator_or_isDropped {c : Char} (plain : isPlain c = true)
    (other : isWordCharacter c = false) : isSeparator c = true ∨ isDropped c = true := by
  simpa [isPlain, other] using plain

private theorem isSeparator_of_isPlain {c : Char} (plain : isPlain c = true)
    (other : isWordCharacter c = false) (shown : (property c).isPassedOver = false) :
    isSeparator c = true := by
  simpa [isPlain, isDropped, other, shown] using plain

/-! ## Runs that no cut divides -/

def EndsInWord (text : Text) : Prop := (fold text).getLast?.any isAlphanumeric = true

def StartsInWord (text : Text) : Prop := (fold text).head?.any isAlphanumeric = true

private theorem words_fold_append {left right : Text}
    (apart : ¬ (EndsInWord left ∧ StartsInWord right)) :
    words (fold (left ++ right)) = words (fold left) ++ words (fold right) := by
  rw [fold_append]
  exact runs_append apart

private theorem not_endsInWord_append {c : Char} (separator : isSeparator c = true)
    (before : Text) : ¬ EndsInWord (before ++ [c]) := by
  simp only [isSeparator, Bool.and_eq_true, Bool.not_eq_true', List.isEmpty_eq_false_iff,
    List.any_eq_false] at separator
  have folded : fold [c] = foldChar c := List.flatMap_singleton ..
  rw [EndsInWord, fold_append, folded, List.getLast?_append_of_ne_nil _ separator.1,
    List.getLast?_eq_some_getLast separator.1, Option.any_some]
  exact separator.2 _ (List.getLast_mem _)

private theorem endsInWord_append_iff {c : Char} (dropped : isDropped c = true) (before : Text) :
    EndsInWord (before ++ [c]) ↔ EndsInWord before := by
  rw [isDropped, Bool.and_eq_true, List.isEmpty_iff] at dropped
  have folded : fold [c] = [] := (List.flatMap_singleton ..).trans dropped.1
  rw [EndsInWord, fold_append, folded, List.append_nil, EndsInWord]

private theorem not_startsInWord_cons {c : Char} (separator : isSeparator c = true) (after : Text) :
    ¬ StartsInWord (c :: after) := by
  simp only [isSeparator, Bool.and_eq_true, Bool.not_eq_true', List.isEmpty_eq_false_iff,
    List.any_eq_false] at separator
  have folded : fold (c :: after) = foldChar c ++ fold after := List.flatMap_cons
  rw [StartsInWord, folded, List.head?_append_of_ne_nil _ separator.1,
    List.head?_eq_some_head separator.1, Option.any_some]
  exact separator.2 _ (List.head_mem _)

/-! ## Growing segments -/

/-- Whether the first characters of a text can be cut off without dividing a word. -/
structure IsCut (text : Text) (length : ℕ) : Prop where
  positive : 0 < length
  apart : ¬ (EndsInWord (text.take length) ∧ StartsInWord (text.drop length))

namespace WordBreak

def Tail.inWord : Tail → Bool
  | .letter | .hebrew | .numeric => true
  | _ => false

def GivesBack (kept : ℕ) (text : Text) : Prop :=
  ∃ before c after, text = before ++ c :: after ∧ before.length = kept ∧ before ≠ [] ∧
    isSeparator c = true

/-- How the text of a growing segment fits its end: if it is not in a word, the text does not end
in one, or it gives back what made it grow out of a word. -/
def Tail.Fits (text : Text) : Tail → Prop
  | .letter | .hebrew | .numeric => True
  | .midLetter kept | .midHebrew kept | .midNumber kept => GivesBack kept text
  | _ => ¬ EndsInWord text

section
variable {tail next : Tail} {size : ℕ} {passedOver : Bool}

private theorem Tail.inWord_of_next? {c : Char} (word : isWordCharacter c = true)
    (grown : tail.next? size passedOver (property c) = some next) : next.inWord = true := by
  rcases property_of_isWordCharacter word with kind | kind | kind <;>
    rw [kind] at grown <;> cases tail <;> cases grown <;> rfl

private theorem Tail.next?_ne_none {c : Char} (word : isWordCharacter c = true)
    (inside : tail.inWord = true) : tail.next? size passedOver (property c) ≠ none := by
  rcases property_of_isWordCharacter word with kind | kind | kind <;>
    rw [kind] <;> cases tail <;> simp_all [Tail.next?, Tail.inWord]

private theorem Tail.fits_of_next? {text : Text} {c : Char} (separator : isSeparator c = true)
    (nonempty : text ≠ []) (grown : tail.next? text.length passedOver (property c) = some next) :
    next.Fits (text ++ [c]) := by
  have ends := not_endsInWord_append separator text
  have given : GivesBack text.length (text ++ [c]) := ⟨text, c, [], rfl, rfl, nonempty, separator⟩
  unfold Tail.next? at grown
  split at grown
  all_goals first
    | cases grown
    | cases (Option.ite_none_left_eq_some.mp grown).2
  all_goals first
    | exact ends
    | exact given
    | exact True.intro

private theorem Tail.fits_of_inWord (inside : tail.inWord = true) (text : Text) :
    tail.Fits text := by
  cases tail
  case letter | hebrew | numeric => trivial
  all_goals contradiction

private theorem GivesBack.append {kept : ℕ} {text : Text} (given : GivesBack kept text)
    (more : Text) : GivesBack kept (text ++ more) := by
  obtain ⟨before, c, after, rfl, counted, nonempty, separator⟩ := given
  exact ⟨before, c, after ++ more, by simp, counted, nonempty, separator⟩

private theorem Tail.Fits.passOver {text : Text} (fits : tail.Fits text) {c : Char}
    (plain : isPlain c = true) (passed : (property c).isPassedOver = true) :
    tail.Fits (text ++ [c]) := by
  have other : isWordCharacter c = false := by
    by_contra word
    rw [Bool.not_eq_false] at word
    rcases property_of_isWordCharacter word with kind | kind | kind <;>
      rw [kind] at passed <;> cases passed
  have outside (apart : ¬ EndsInWord text) : ¬ EndsInWord (text ++ [c]) := by
    rcases isSeparator_or_isDropped plain other with separator | dropped
    · exact not_endsInWord_append separator text
    · rwa [endsInWord_append_iff dropped]
  cases tail
  case letter | hebrew | numeric => trivial
  case midLetter | midHebrew | midNumber => exact GivesBack.append fits [c]
  all_goals exact outside fits

/-- A segment that does not grow any more is cut off without dividing a word. -/
theorem Tail.Fits.isCut {text rest : Text} (fits : tail.Fits text) (nonempty : text ≠ [])
    (follows : tail.inWord = true → ¬ StartsInWord rest) :
    IsCut (text ++ rest) (tail.settled text.length) := by
  have whole (apart : ¬ (EndsInWord text ∧ StartsInWord rest)) :
      IsCut (text ++ rest) text.length :=
    ⟨List.length_pos_iff.mpr nonempty, by rwa [List.take_left, List.drop_left]⟩
  have given {kept : ℕ} (given : GivesBack kept text) : IsCut (text ++ rest) kept := by
    obtain ⟨before, c, after, rfl, rfl, filled, separator⟩ := given
    refine ⟨List.length_pos_iff.mpr filled, ?_⟩
    rw [List.append_assoc, List.drop_left]
    exact fun both => not_startsInWord_cons separator _ both.2
  cases tail
  case letter | hebrew | numeric => exact whole fun both => follows rfl both.2
  case midLetter | midHebrew | midNumber => exact given fits
  all_goals exact whole fun both => fits both.1

end

private theorem isCut_grow {tail : Tail} {done rest : Text} (fits : tail.Fits done)
    (nonempty : done ≠ []) (plain : ∀ c ∈ rest, isPlain c = true) (passedOver joined : Bool) :
    IsCut (done ++ rest) (grow tail passedOver joined done.length rest) := by
  -- The induction is on what is left; the text taken so far fits the end that it has.
  induction rest generalizing tail done passedOver joined with
  | nil => exact fits.isCut nonempty fun _ starts => by simp [StartsInWord, fold] at starts
  | cons c rest ih =>
    have here := plain c List.mem_cons_self
    have next {tail : Tail} (fits : tail.Fits (done ++ [c])) (passedOver joined : Bool) :
        IsCut (done ++ c :: rest) (grow tail passedOver joined (done.length + 1) rest) := by
      have grown := ih fits (by simp) (fun d later => plain d (List.mem_cons_of_mem _ later))
        passedOver joined
      rwa [List.append_assoc, List.singleton_append, List.length_append, List.length_singleton]
        at grown
    rw [grow]
    by_cases passed : (property c).isPassedOver = true
    · rw [if_pos passed]
      exact next (fits.passOver here passed) _ _
    rw [if_neg passed]
    rw [Bool.not_eq_true] at passed
    by_cases picture : (joined && isPictographic c) = true
    · rw [if_pos picture]
      have other : isWordCharacter c = false := by
        simp [isWordCharacter, (Bool.and_eq_true_iff.mp picture).2]
      have separator := isSeparator_of_isPlain here other passed
      have apart : Tail.pictograph.Fits (done ++ [c]) := not_endsInWord_append separator done
      exact next apart _ _
    rw [if_neg picture]
    cases grown : tail.next? done.length passedOver (property c) with
    | none =>
      -- A letter or a digit is never refused within a word, so this is a separator.
      refine fits.isCut nonempty fun inside => not_startsInWord_cons ?_ rest
      refine isSeparator_of_isPlain here ?_ passed
      exact Bool.eq_false_iff.mpr fun word => Tail.next?_ne_none word inside grown
    | some taken =>
      cases word : isWordCharacter c with
      | true => exact next (Tail.fits_of_inWord (Tail.inWord_of_next? word grown) _) _ _
      | false =>
        exact next (Tail.fits_of_next? (isSeparator_of_isPlain here word passed) nonempty grown) _ _

private theorem not_endsInWord_singleton {c : Char} (plain : isPlain c = true)
    (other : isWordCharacter c = false) : ¬ EndsInWord [c] := by
  rcases isSeparator_or_isDropped plain other with separator | dropped
  · exact not_endsInWord_append separator []
  · rw [← List.nil_append [c], endsInWord_append_iff dropped]
    simp [EndsInWord, fold]

private theorem Tail.fits_of_start? {c : Char} (plain : isPlain c = true) {next : Option Property}
    {tail : Tail} (started : Tail.start? (property c) next = some tail) : tail.Fits [c] := by
  cases word : isWordCharacter c with
  | true =>
    rcases property_of_isWordCharacter word with kind | kind | kind <;>
      rw [kind] at started <;> cases started <;> exact True.intro
  | false =>
    have ends := not_endsInWord_singleton plain word
    unfold Tail.start? at started
    split at started
    all_goals first
      | cases started
      | cases (Option.ite_none_right_eq_some.mp started).2
    all_goals first
      | exact ends
      | exact True.intro

private theorem isCut_firstLength {c : Char} {rest : Text}
    (plain : ∀ d ∈ c :: rest, isPlain d = true) : IsCut (c :: rest) (firstLength c rest) := by
  have here := plain c List.mem_cons_self
  unfold firstLength
  simp only
  split
  · next lineFeed =>
    obtain ⟨d, first, kind⟩ := Option.map_eq_some_iff.mp lineFeed
    obtain ⟨more, rfl⟩ := List.head?_eq_some_iff.mp first
    have other : isWordCharacter d = false := by simp [isWordCharacter, kind]
    have separator := isSeparator_of_isPlain (plain d (by simp)) other (by rw [kind]; rfl)
    exact ⟨by omega, fun both => not_endsInWord_append separator [c] both.1⟩
  · split
    · next tail started =>
      exact isCut_grow (Tail.fits_of_start? here started) (by simp)
        (fun d later => plain d (List.mem_cons_of_mem _ later)) _ _
    · next ended =>
      refine ⟨by omega, fun both => not_endsInWord_singleton here ?_ both.1⟩
      by_contra word
      rw [Bool.not_eq_false] at word
      rcases property_of_isWordCharacter word with kind | kind | kind <;>
        rw [kind] at ended <;> cases ended

theorem apart_firstLength {c : Char} {rest : Text} (plain : ∀ d ∈ c :: rest, isPlain d = true) :
    let length := firstLength c rest - 1
    ¬ (EndsInWord (c :: rest.take length) ∧ StartsInWord (rest.drop length)) := by
  intro length
  have cut := isCut_firstLength plain
  have divided : firstLength c rest = length + 1 := (Nat.sub_add_cancel cut.positive).symm
  have apart := cut.apart
  rwa [divided, List.take_succ_cons, List.drop_succ_cons] at apart

theorem flatten_segments (text : Text) : (segments text).flatten = text := by
  induction text using segments.induct with
  | case1 => rw [segments, List.flatten_nil]
  | case2 first rest length ih =>
    rw [segments, List.flatten_cons, ih, List.cons_append, List.take_append_drop]

end WordBreak

/-! ## Words of segments -/

theorem words_segments {text : Text} (plain : ∀ c ∈ text, isPlain c = true) :
    words (fold text) = (segments text).flatMap fun segment => words (fold segment) := by
  induction text using segments.induct with
  | case1 => simp [segments, words, runs, fold]
  | case2 c rest length ih =>
    rw [segments, List.flatMap_cons]
    have others := ih fun d later => plain d (List.mem_cons_of_mem _ (List.mem_of_mem_drop later))
    have whole := words_fold_append (apart_firstLength plain)
    rw [List.cons_append, List.take_append_drop] at whole
    rw [whole, others]

theorem any_isAlphanumeric_of_mem {segment word : Text}
    (plain : ∀ c ∈ segment, isPlain c = true) (inside : word ∈ words (fold segment)) :
    segment.any isAlphanumeric = true := by
  obtain ⟨nonempty, drawn⟩ := mem_runs inside
  obtain ⟨folded, among⟩ := List.exists_mem_of_ne_nil word nonempty
  obtain ⟨alphanumeric, listed⟩ := drawn folded among
  obtain ⟨c, own, made⟩ := List.mem_flatMap.mp listed
  refine List.any_eq_true.mpr ⟨c, own, ?_⟩
  cases word : isWordCharacter c with
  | true =>
    simp only [isWordCharacter, Bool.and_eq_true] at word
    exact word.1.1
  | false =>
    rcases isSeparator_or_isDropped (plain c own) word with separator | dropped
    · simp only [isSeparator, Bool.and_eq_true, Bool.not_eq_true', List.any_eq_false] at separator
      exact absurd alphanumeric (separator.2 folded made)
    · rw [isDropped, Bool.and_eq_true, List.isEmpty_iff] at dropped
      rw [dropped.1] at made
      exact absurd made List.not_mem_nil

theorem mem_of_mem_segments {text segment : Text} (listed : segment ∈ segments text) {c : Char}
    (inside : c ∈ segment) : c ∈ text :=
  flatten_segments text ▸ List.mem_flatten_of_mem listed inside

/-- A text of plain characters keeps its words when it is cut into segments. -/
theorem keepsWords_of_plain {text : Text} (plain : ∀ c ∈ text, isPlain c = true) :
    text.KeepsWords := by
  intro word inside
  rw [words_segments plain] at inside
  obtain ⟨segment, listed, among⟩ := List.mem_flatMap.mp inside
  exact ⟨segment, listed,
    any_isAlphanumeric_of_mem (fun c own => plain c (mem_of_mem_segments listed own)) among, among⟩

/-- Folding makes a superscript digit a part of the word before it; the segments keep it apart. -/
example : words (fold "m²".toList) = ["m2".toList] ∧
    segments "m²".toList = ["m".toList, "²".toList] := by
  decide +kernel

end TenantSearch.Text
