import Mathlib
import TenantSearch.Lexer
import TenantSearch.Proofs.Distinct

/-! Folded texts. Folding a text that was folded before changes nothing, and it makes no text longer
than eighteen times. The words of a text are what stands between its other characters, so words that
are joined by spaces are read back; hence lexemes and beginnings of lexemes are read as they are. -/
namespace TenantSearch.Text

/-! ## Tables -/

namespace RangeTree
variable {α : Type}

def all (test : CodeRange α → Bool) : RangeTree α → Bool
  | leaf => true
  | node left row right => left.all test && test row && right.all test

theorem test_of_find? {test : CodeRange α → Bool} {tree : RangeTree α} {code : ℕ}
    {row : CodeRange α} (every : tree.all test = true) (found : tree.find? code = some row) :
    test row = true ∧ row.first ≤ code ∧ code ≤ row.last := by
  induction tree with
  | leaf => simp [find?] at found
  | node left middle right lower higher =>
    simp only [all, Bool.and_eq_true] at every
    obtain ⟨⟨before, here⟩, after⟩ := every
    simp only [find?] at found
    split at found
    · exact lower before found
    split at found
    · obtain rfl := Option.some.inj found
      exact ⟨here, by omega, by omega⟩
    · exact higher after found

def allCodes (test : CodeRange α → ℕ → Bool) (tree : RangeTree α) : Bool :=
  tree.all fun row => (List.range (row.last - row.first + 1)).all fun step =>
    test row (row.first + step)

theorem test_of_allCodes {test : CodeRange α → ℕ → Bool} {tree : RangeTree α} {code : ℕ}
    {row : CodeRange α} (every : tree.allCodes test = true) (found : tree.find? code = some row) :
    test row code = true := by
  obtain ⟨here, above, below⟩ := test_of_find? every found
  have step := List.all_eq_true.mp here (code - row.first) (List.mem_range.mpr (by omega))
  rwa [Nat.add_sub_cancel' above] at step

/-- What a table gives for a code point, by the recursor and the comparisons that evaluate
fastest. -/
noncomputable def lookup {β : Type} (code : ℕ) (absent : β) (present : CodeRange α → β)
    (tree : RangeTree α) : β :=
  tree.rec absent fun _ row _ before after =>
    bif Nat.blt code row.first then before
    else bif Nat.ble code row.last then present row else after

theorem lookup_eq_elim {β : Type} (code : ℕ) (absent : β) (present : CodeRange α → β)
    (tree : RangeTree α) :
    tree.lookup code absent present = (tree.find? code).elim absent present := by
  induction tree with
  | leaf => rfl
  | node left row right lower higher =>
    change (bif Nat.blt code row.first then left.lookup code absent present
      else bif Nat.ble code row.last then present row
      else right.lookup code absent present) = _
    simp only [lower, higher, find?, Bool.cond_eq_ite, Nat.blt_eq, Nat.ble_eq]
    split
    · rfl
    split <;> rfl

noncomputable def misses (code : ℕ) (tree : RangeTree α) : Bool :=
  tree.lookup code true fun _ => false

theorem misses_eq_not_covers (code : ℕ) (tree : RangeTree α) :
    tree.misses code = !tree.covers code := by
  rw [misses, lookup_eq_elim, covers]
  cases tree.find? code <;> rfl

private theorem find?_of_misses {tree : RangeTree α} {code : ℕ} (missed : tree.misses code = true) :
    tree.find? code = none := by
  rw [misses_eq_not_covers, Bool.not_eq_true', covers, Option.isSome_eq_false_iff,
    Option.isNone_iff_eq_none] at missed
  exact missed

end RangeTree

namespace Folding

/-- Whether a code point is folded to itself. -/
noncomputable def isSettled (code : ℕ) : Bool :=
  (Nat.blt code 0xAC00 || Nat.blt 0xD7A3 code) && tree.misses code

noncomputable def isSound (row : CodeRange Folding) : Bool :=
  match row.value with
  | .spelled codes => Nat.ble codes.length 18 && codes.all isSettled
  | .moved base => (List.range (row.last - row.first + 1)).all fun step => isSettled (base + step)

noncomputable def isSoundHangul : Bool :=
  (List.range 19).all (fun step => isSettled (0x1100 + step)) &&
    (List.range 21).all (fun step => isSettled (0x1161 + step)) &&
    (List.range 28).all (fun step => isSettled (0x11A7 + step))

/-- All forms of the tables are sound, and so is what invalid code points stand for. -/
private theorem tables_sound : (tree.all isSound && isSoundHangul && isSettled 0) = true := by
  decide +kernel

private theorem foldChar_of_isSettled {c : Char} (settled : isSettled c.toNat = true) :
    foldChar c = [c] := by
  simp only [isSettled, Bool.and_eq_true, Bool.or_eq_true, Nat.blt_eq] at settled
  rw [foldChar, if_neg (by omega), RangeTree.find?_of_misses settled.2]

private theorem isSettled_ofNat {code : ℕ} (settled : isSettled code = true) :
    isSettled (Char.ofNat code).toNat = true := by
  rw [Char.toNat_ofNat]
  split
  · exact settled
  · -- A number that is no code point stands for the character of code 0.
    have sound := tables_sound
    rw [Bool.and_eq_true] at sound
    exact sound.2

private theorem settled_of_range (first count : ℕ)
    (every : (List.range count).all (fun step => isSettled (first + step)) = true) {code : ℕ}
    (above : first ≤ code) (below : code < first + count) : isSettled code = true := by
  have member : code - first ∈ List.range count := List.mem_range.mpr (by omega)
  have settled := List.all_eq_true.mp every _ member
  rwa [Nat.add_sub_cancel' above] at settled

private theorem tree_sound : tree.all isSound = true := by
  have sound := tables_sound
  rw [Bool.and_eq_true, Bool.and_eq_true] at sound
  exact sound.1.1

private theorem apply_sound {row : CodeRange Folding} {code : ℕ} (sound : isSound row = true)
    (above : row.first ≤ code) (below : code ≤ row.last) :
    (apply row code).length ≤ 18 ∧ ∀ c ∈ apply row code, isSettled c.toNat = true := by
  unfold isSound at sound
  unfold apply
  cases value : row.value with
  | spelled codes =>
    simp only [value, Bool.and_eq_true, Nat.ble_eq] at sound ⊢
    refine ⟨by simpa using sound.1, ?_⟩
    intro c member
    obtain ⟨code, listed, rfl⟩ := List.mem_map.mp member
    exact isSettled_ofNat (List.all_eq_true.mp sound.2 code listed)
  | moved base =>
    simp only [value] at sound ⊢
    refine ⟨by simp, ?_⟩
    intro c member
    rw [List.mem_singleton.mp member]
    exact isSettled_ofNat (settled_of_range _ _ sound (by omega) (by omega))

private theorem hangul_sound {index : ℕ} (below : index < 11172) :
    (hangul index).length ≤ 18 ∧ ∀ c ∈ hangul index, isSettled c.toNat = true := by
  have sound := tables_sound
  simp only [isSoundHangul, Bool.and_eq_true] at sound
  obtain ⟨⟨-, ⟨leads, vowels⟩, tails⟩, -⟩ := sound
  have lead : isSettled (0x1100 + index / 588) = true :=
    settled_of_range _ _ leads (by omega) (by omega)
  have vowel : isSettled (0x1161 + index % 588 / 28) = true :=
    settled_of_range _ _ vowels (by omega) (by omega)
  have tail : isSettled (0x11A7 + index % 28) = true :=
    settled_of_range _ _ tails (by omega) (by omega)
  unfold hangul
  simp only
  split
  · refine ⟨by simp, ?_⟩
    intro c member
    rcases List.mem_pair.mp member with rfl | rfl
    · exact isSettled_ofNat lead
    · exact isSettled_ofNat vowel
  · refine ⟨by simp, ?_⟩
    intro c member
    rcases List.mem_cons.mp member with rfl | later
    · exact isSettled_ofNat lead
    · rcases List.mem_pair.mp later with rfl | rfl
      · exact isSettled_ofNat vowel
      · exact isSettled_ofNat tail

end Folding

/-! ## Folding -/

theorem foldChar_sound (c : Char) : (foldChar c).length ≤ 18 ∧
    ∀ folded ∈ foldChar c, Folding.isSettled folded.toNat = true := by
  by_cases hangul : 0xAC00 ≤ c.toNat ∧ c.toNat ≤ 0xD7A3
  · rw [foldChar, if_pos hangul]
    exact Folding.hangul_sound (by omega)
  rw [foldChar, if_neg hangul]
  cases found : Folding.tree.find? c.toNat with
  | none =>
    refine ⟨by simp, ?_⟩
    intro folded member
    rw [List.mem_singleton.mp member, Folding.isSettled, RangeTree.misses_eq_not_covers,
      RangeTree.covers, found]
    simp only [Bool.and_eq_true, Bool.or_eq_true, Nat.blt_eq]
    exact ⟨by omega, rfl⟩
  | some row =>
    obtain ⟨sound, above, below⟩ := RangeTree.test_of_find? Folding.tree_sound found
    exact Folding.apply_sound sound above below

theorem length_fold_le (text : Text) : (fold text).length ≤ 18 * text.length := by
  induction text with
  | nil => simp [fold]
  | cons c rest ih =>
    have short := (foldChar_sound c).1
    rw [fold, List.flatMap_cons, List.length_append, List.length_cons]
    rw [fold] at ih
    omega

theorem isSettled_of_mem_fold {text : Text} {c : Char} (member : c ∈ fold text) :
    Folding.isSettled c.toNat = true := by
  obtain ⟨source, _, inside⟩ := List.mem_flatMap.mp member
  exact (foldChar_sound source).2 c inside

/-- A folded character is folded to itself. -/
theorem foldChar_of_mem_fold {text : Text} {c : Char} (member : c ∈ fold text) :
    foldChar c = [c] :=
  Folding.foldChar_of_isSettled (isSettled_of_mem_fold member)

theorem foldChar_space : foldChar ' ' = [' '] := by
  decide +kernel

theorem fold_eq_self {text : Text} (settled : ∀ c ∈ text, foldChar c = [c]) : fold text = text := by
  rw [fold, List.flatMap_congr settled, List.flatMap_singleton']

/-! ## Words -/

section
variable {test : Char → Bool}

theorem mem_splitOnP {α : Type} {p : α → Bool} {text piece : List α}
    (member : piece ∈ text.splitOnP p) : ∀ c ∈ piece, p c = false ∧ c ∈ text := by
  induction text generalizing piece with
  | nil => simp_all
  | cons first rest ih =>
    rw [List.splitOnP_cons_eq_if_modifyHead] at member
    split at member
    · rcases List.mem_cons.mp member with rfl | later
      · simp
      · intro c inside
        have found := ih later c inside
        exact ⟨found.1, List.mem_cons_of_mem _ found.2⟩
    · next kept =>
      -- The character joins the first piece of the rest.
      obtain ⟨head, tail, pieces⟩ := List.exists_cons_of_ne_nil (List.splitOnP_ne_nil p rest)
      rw [pieces] at ih member
      rw [List.modifyHead_cons] at member
      intro c inside
      rcases List.mem_cons.mp member with rfl | later
      · rcases List.mem_cons.mp inside with rfl | after
        · exact ⟨Bool.eq_false_iff.mpr kept, List.mem_cons_self⟩
        · have found := ih List.mem_cons_self c after
          exact ⟨found.1, List.mem_cons_of_mem _ found.2⟩
      · have found := ih (List.mem_cons_of_mem _ later) c inside
        exact ⟨found.1, List.mem_cons_of_mem _ found.2⟩

theorem mem_runs {text piece : Text} (member : piece ∈ runs test text) :
    piece ≠ [] ∧ ∀ c ∈ piece, test c = true ∧ c ∈ text := by
  obtain ⟨split, nonempty⟩ := List.mem_filter.mp member
  refine ⟨by simpa using nonempty, ?_⟩
  intro c inside
  have found := mem_splitOnP split c inside
  exact ⟨by simpa using found.1, found.2⟩

private theorem length_runs_le (text : Text) : (runs test text).length ≤ text.length := by
  unfold runs
  induction text with
  | nil => simp
  | cons first rest ih =>
    rw [List.splitOnP_cons_eq_if_modifyHead]
    split
    · simp only [List.isEmpty_nil, Bool.not_true, Bool.false_eq_true, not_false_eq_true,
        List.filter_cons_of_neg, List.length_cons]
      omega
    · obtain ⟨head, tail, pieces⟩ := List.exists_cons_of_ne_nil
        (List.splitOnP_ne_nil (!test ·) rest)
      rw [pieces] at ih ⊢
      rw [List.filter_cons] at ih
      simp only [List.modifyHead_cons, List.isEmpty_cons, Bool.not_false, List.filter_cons_of_pos,
        List.length_cons]
      split at ih
      · rw [List.length_cons] at ih
        omega
      · omega

theorem runs_append_cons {c : Char} (outside : test c = false)
    (before after : Text) :
    runs test (before ++ c :: after) = runs test before ++ runs test after := by
  unfold runs
  rw [List.splitOnP_append_cons _ _ (by simp [outside]), List.filter_append]

theorem runs_append {left right : Text}
    (apart : ¬ (left.getLast?.any test = true ∧ right.head?.any test = true)) :
    runs test (left ++ right) = runs test left ++ runs test right := by
  have empty : runs test [] = [] := by simp [runs]
  cases right with
  | nil => rw [List.append_nil, empty, List.append_nil]
  | cons c after =>
    by_cases inside : test c = true
    · rcases List.eq_nil_or_concat left with rfl | ⟨before, last, rfl⟩
      · rw [empty, List.nil_append, List.nil_append]
      · have outside : test last = false := by simpa [inside] using apart
        rw [List.concat_eq_append, List.append_assoc, List.singleton_append,
          runs_append_cons outside, runs_append_cons outside, empty, List.append_nil]
    · rw [Bool.not_eq_true] at inside
      have alone : runs test (c :: after) = runs test after := by
        rw [← List.nil_append (c :: after), runs_append_cons inside, empty, List.nil_append]
      rw [runs_append_cons inside, alone]

theorem runs_intercalate {separator : Char} (apart : test separator = false) {words : List Text}
    (sound : ∀ word ∈ words, word ≠ [] ∧ ∀ c ∈ word, test c = true) :
    runs test ([separator].intercalate words) = words := by
  unfold runs
  induction words with
  | nil => simp
  | cons word rest ih =>
    obtain ⟨nonempty, inside⟩ := sound word List.mem_cons_self
    have kept : ∀ c ∈ word, (!test c) = false := fun c member => by simp [inside c member]
    cases rest with
    | nil =>
      rw [List.intercalate_singleton, List.splitOnP_eq_singleton kept]
      simp [nonempty]
    | cons next others =>
      rw [List.intercalate_cons_cons, List.append_assoc, List.singleton_append,
        List.splitOnP_append_cons_of_forall_mem kept separator (by simp [apart])]
      rw [List.filter_cons_of_pos (by simp [nonempty]),
        ih fun word member => sound word (List.mem_cons_of_mem _ member)]

end

theorem mem_intercalate {separator c : Char} {pieces : List Text}
    (member : c ∈ [separator].intercalate pieces) :
    c = separator ∨ ∃ piece ∈ pieces, c ∈ piece := by
  induction pieces with
  | nil => simp at member
  | cons piece rest ih =>
    cases rest with
    | nil =>
      rw [List.intercalate_singleton] at member
      exact Or.inr ⟨piece, List.mem_cons_self, member⟩
    | cons next others =>
      rw [List.intercalate_cons_cons, List.mem_append, List.mem_append,
        List.mem_singleton] at member
      rcases member with (inside | same) | later
      · exact Or.inr ⟨piece, List.mem_cons_self, inside⟩
      · exact Or.inl same
      · exact (ih later).imp_right fun ⟨other, listed, inside⟩ =>
          ⟨other, List.mem_cons_of_mem _ listed, inside⟩

def blanks : List ℕ :=
  List.range' 9 5 ++ [0x20, 0x85, 0xA0, 0x1680] ++ List.range' 0x2000 11 ++
    [0x2028, 0x2029, 0x202F, 0x205F, 0x3000]

theorem mem_blanks_of_isBlank {c : Char} (blank : isBlank c = true) : c.toNat ∈ blanks := by
  simp only [isBlank, Bool.or_eq_true, Bool.and_eq_true, decide_eq_true_eq, beq_iff_eq] at blank
  simp only [blanks, List.mem_append, List.mem_range'_1, List.mem_cons, List.not_mem_nil]
  omega

theorem isAlphanumeric_of_isBlank {c : Char} (blank : isBlank c = true) :
    isAlphanumeric c = false := by
  have apart : blanks.all (!alphanumericTree.covers ·) = true := by decide +kernel
  simpa [isAlphanumeric] using List.all_eq_true.mp apart _ (mem_blanks_of_isBlank blank)

/-- Whether a text is one word, as it is in a folded text. -/
structure IsFoldedWord (text : Text) : Prop where
  nonempty : text ≠ []
  alphanumeric : ∀ c ∈ text, isAlphanumeric c = true
  settled : ∀ c ∈ text, foldChar c = [c]

private theorem isFoldedWord_of_mem {text word : Text} (member : word ∈ words (fold text)) :
    IsFoldedWord word where
  nonempty := (mem_runs member).1
  alphanumeric c inside := ((mem_runs member).2 c inside).1
  settled c inside := foldChar_of_mem_fold ((mem_runs member).2 c inside).2

theorem IsFoldedWord.start {text start : Text} (word : IsFoldedWord text) (begins : start <+: text)
    (nonempty : start ≠ []) : IsFoldedWord start where
  nonempty := nonempty
  alphanumeric c inside := word.alphanumeric c (begins.subset inside)
  settled c inside := word.settled c (begins.subset inside)

private theorem IsFoldedWord.not_blank {text : Text} (word : IsFoldedWord text) {c : Char}
    (inside : c ∈ text) : isBlank c = false := by
  by_contra blank
  rw [Bool.not_eq_false] at blank
  exact absurd (word.alphanumeric c inside) (by rw [isAlphanumeric_of_isBlank blank]; simp)

/-! ## Joined words -/

theorem trim_eq_self {text : Text} (first : ∀ c ∈ text.head?, isBlank c = false)
    (last : ∀ c ∈ text.getLast?, isBlank c = false) : trim text = text := by
  have start : trimStart text = text := by
    cases text with
    | nil => rfl
    | cons c rest => simp [trimStart, first c rfl]
  rw [trim, start, trimEnd]
  rw [← List.head?_reverse] at last
  cases backwards : text.reverse with
  | nil => simpa using backwards.symm
  | cons c rest =>
    rw [backwards] at last
    rw [List.dropWhile_cons_of_neg (by simp [last c rfl]), ← backwards, List.reverse_reverse]

theorem exists_trim (text : Text) : ∃ before after, text = before ++ trim text ++ after ∧
    (∀ c ∈ before, isBlank c = true) ∧ ∀ c ∈ after, isBlank c = true := by
  refine ⟨text.takeWhile isBlank, ((trimStart text).reverse.takeWhile isBlank).reverse, ?_, ?_, ?_⟩
  · have shortened : trimStart text = trim text ++
        ((trimStart text).reverse.takeWhile isBlank).reverse := by
      rw [trim, trimEnd, ← List.reverse_append, List.takeWhile_append_dropWhile,
        List.reverse_reverse]
    rw [List.append_assoc, ← shortened, trimStart, List.takeWhile_append_dropWhile]
  · intro c member
    exact List.mem_takeWhile_imp member
  · intro c member
    exact List.mem_takeWhile_imp (List.mem_reverse.mp member)

theorem mem_of_mem_trim {text : Text} {c : Char} (member : c ∈ trim text) : c ∈ text := by
  have kept := (List.dropWhile_sublist isBlank).subset (List.mem_reverse.mp member)
  exact (List.dropWhile_sublist isBlank).subset (List.mem_reverse.mp kept)

section
variable {joined : List Text} (folded : ∀ word ∈ joined, IsFoldedWord word)
include folded

private theorem words_join : words ([' '].intercalate joined) = joined :=
  runs_intercalate (by decide +kernel) fun word member =>
    ⟨(folded word member).nonempty, (folded word member).alphanumeric⟩

private theorem fold_join : fold ([' '].intercalate joined) = [' '].intercalate joined := by
  apply fold_eq_self
  intro c member
  rcases mem_intercalate member with rfl | ⟨word, listed, inside⟩
  · exact foldChar_space
  · exact (folded word listed).settled c inside

theorem trim_join : trim ([' '].intercalate joined) = [' '].intercalate joined := by
  apply trim_eq_self
  · intro c first
    cases joined with
    | nil => simp at first
    | cons word rest =>
      have word := folded word List.mem_cons_self
      obtain ⟨head, tail, rfl⟩ := List.exists_cons_of_ne_nil word.nonempty
      have same : head = c := by cases rest <;> simpa using first
      exact word.not_blank (same ▸ List.mem_cons_self)
  · induction joined with
    | nil => simp
    | cons word rest ih =>
      intro c last
      cases rest with
      | nil =>
        rw [List.intercalate_singleton] at last
        exact (folded word List.mem_cons_self).not_blank (List.mem_of_getLast? last)
      | cons next further =>
        apply ih (fun word member => folded word (List.mem_cons_of_mem _ member)) c
        have filled : [' '].intercalate (next :: further) ≠ [] := by
          obtain ⟨head, tail, same⟩ := List.exists_cons_of_ne_nil
            (folded next (by simp)).nonempty
          cases further <;> simp [same]
        rw [List.intercalate_cons_cons, List.getLast?_append_of_ne_nil _ filled] at last
        exact last

end

end TenantSearch.Text

namespace TenantSearch.Lexer
variable (lexer : Lexer)

theorem mem_lexemes {text lexeme : Text} : lexeme ∈ lexer.lexemes text ↔
    ∃ word ∈ Text.words (Text.fold text), lexer.lexeme? word = some lexeme := by
  rw [lexemes, List.mem_eraseDups, List.mem_filterMap]

theorem length_lexemes_le (text : Text) : (lexer.lexemes text).length ≤ 18 * text.length :=
  calc (lexer.lexemes text).length
    _ ≤ ((Text.words (Text.fold text)).filterMap lexer.lexeme?).length :=
      length_eraseDups_le _
    _ ≤ (Text.words (Text.fold text)).length := List.length_filterMap_le _ _
    _ ≤ (Text.fold text).length := Text.length_runs_le _
    _ ≤ 18 * text.length := Text.length_fold_le text

theorem isFoldedWord_of_mem_generic {text lexeme : Text} (member : lexeme ∈ generic.lexemes text) :
    Text.IsFoldedWord lexeme := by
  obtain ⟨word, inside, same⟩ := (mem_lexemes generic).mp member
  obtain rfl := Option.some.inj same
  exact Text.isFoldedWord_of_mem inside

theorem lexemes_join {joined : List Text} (folded : ∀ word ∈ joined, Text.IsFoldedWord word) :
    generic.lexemes ([' '].intercalate joined) = joined.eraseDups := by
  have each : joined.filterMap generic.lexeme? = joined := List.filterMap_some
  rw [lexemes, Text.fold_join folded, Text.words_join folded, each]

end TenantSearch.Lexer
