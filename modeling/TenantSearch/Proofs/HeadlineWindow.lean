import Mathlib
import TenantSearch.Proofs.Headline
import TenantSearch.Proofs.WordSegments

/-! The window of a headline. Its segments are found by going through the text, but they are those
that the places of the words give, and no place is out of range. The window has as many words as it
may have, and the first hit has the words before it that it should have. -/
namespace TenantSearch
namespace Headline

/-! ## The window by places -/

def placesOf (segments : List Segment) : List ℕ := segments.findIdxs (·.isWord)

/-- The number of the first word that is shown, and of the one after the last. Every access to a
segment and every difference is checked. -/
def shownWords? (maxWords context : ℕ) (segments : List Segment) : Option (ℕ × ℕ) := do
  let places := placesOf segments
  let size := max 1 maxWords
  if places.length ≤ size then return (0, places.length)
  let words ← places.mapM (segments[·]?)
  let latest ← Nat.psub places.length size
  let start := min ((words.findIdx? (·.isHit)).getD 0 - context) latest
  return (start, start + size)

def firstPlace? (segments : List Segment) (start : ℕ) : Option ℕ :=
  if start = 0 then some 0 else (placesOf segments)[start]?

def lastPlace? (segments : List Segment) (stop : ℕ) : Option ℕ :=
  if stop = (placesOf segments).length then Nat.psub segments.length 1
  else (Nat.psub stop 1).bind ((placesOf segments)[·]?)

/-- The segments of a window, each of them taken from its place. -/
def windowByPlaces? (maxWords context : ℕ) (segments : List Segment) : Option (List Segment) := do
  let (start, stop) ← shownWords? maxWords context segments
  let first ← firstPlace? segments start
  let last ← lastPlace? segments stop
  (List.range' first (last + 1 - first)).mapM (segments[·]?)

private theorem length_placesOf (segments : List Segment) :
    (placesOf segments).length = (wordsOf segments).length := by
  rw [placesOf, List.length_findIdxs, List.countP_eq_length_filter, wordsOf]

theorem wordsOf_append (before after : List Segment) :
    wordsOf (before ++ after) = wordsOf before ++ wordsOf after :=
  List.filter_append ..

section
variable {before after : List Segment} {word : Segment}

private theorem getElem?_placesOf (isWord : word.isWord = true) :
    (placesOf (before ++ word :: after))[(wordsOf before).length]? = some before.length := by
  rw [← length_placesOf, placesOf, placesOf, List.findIdxs_append,
    List.getElem?_append_right le_rfl, Nat.sub_self, List.findIdxs_cons, if_pos isWord]
  simp

theorem fromWord_append (isWord : word.isWord = true) (nonempty : wordsOf before ≠ []) :
    fromWord (wordsOf before).length (before ++ word :: after) = word :: after := by
  induction before with
  | nil => contradiction
  | cons segment rest ih =>
    by_cases counts : segment.isWord = true
    · rw [wordsOf_cons_word counts, List.length_cons, List.cons_append, fromWord, if_pos counts]
      by_cases last : wordsOf rest = []
      · have others : ∀ other ∈ rest, (!other.isWord) = true := by
          simpa [wordsOf] using last
        rw [last, List.length_nil, if_pos rfl, List.dropWhile_append_of_pos others,
          List.dropWhile_cons_of_neg (by simp [isWord])]
      · rw [if_neg (by simpa using last), ih last]
    · rw [wordsOf_cons_other counts] at nonempty ⊢
      obtain ⟨fewer, length⟩ := Nat.exists_eq_add_one.mpr (List.length_pos_iff.mpr nonempty)
      rw [length, List.cons_append, fromWord, if_neg counts, ← length, ih nonempty]

theorem throughWord_append (isWord : word.isWord = true) :
    throughWord ((wordsOf before).length + 1) (before ++ word :: after) = before ++ [word] := by
  induction before with
  | nil =>
    rw [List.nil_append, throughWord, if_pos isWord]
    cases after <;> rfl
  | cons segment rest ih =>
    rw [List.cons_append, throughWord, List.cons_append]
    by_cases counts : segment.isWord = true
    · rw [if_pos counts, wordsOf_cons_word counts, List.length_cons, ih]
    · rw [if_neg counts, wordsOf_cons_other counts, ih]

end

theorem exists_word {segments : List Segment} {number : ℕ}
    (inside : number < (wordsOf segments).length) :
    ∃ before word after, segments = before ++ word :: after ∧ word.isWord = true ∧
      (wordsOf before).length = number := by
  induction segments generalizing number with
  | nil => simp [wordsOf] at inside
  | cons segment rest ih =>
    by_cases counts : segment.isWord = true
    · cases number with
      | zero => exact ⟨[], segment, rest, rfl, counts, rfl⟩
      | succ fewer =>
        rw [wordsOf_cons_word counts, List.length_cons, Nat.add_lt_add_iff_right] at inside
        obtain ⟨before, word, after, split, isWord, length⟩ := ih inside
        refine ⟨segment :: before, word, after, congrArg (segment :: ·) split, isWord, ?_⟩
        rw [wordsOf_cons_word counts, List.length_cons, length]
    · rw [wordsOf_cons_other counts] at inside
      obtain ⟨before, word, after, split, isWord, length⟩ := ih inside
      refine ⟨segment :: before, word, after, congrArg (segment :: ·) split, isWord, ?_⟩
      rw [wordsOf_cons_other counts, length]

private theorem mapM_eq_some_of_map {α β : Type} {items : List α} {read : α → Option β}
    {values : List β} (all : items.map read = values.map some) : items.mapM read = some values := by
  induction values generalizing items with
  | nil =>
    rw [List.map_nil, List.map_eq_nil_iff] at all
    rw [all, List.mapM_nil]
    rfl
  | cons value values ih =>
    obtain ⟨item, rest, rfl, first, others⟩ := List.map_eq_cons_iff.mp all
    rw [List.mapM_cons, first, ih others]
    rfl

private theorem mapM_placesOf (segments : List Segment) :
    (placesOf segments).mapM (segments[·]?) = some (wordsOf segments) := by
  apply mapM_eq_some_of_map
  apply List.ext_getElem
  · rw [List.length_map, List.length_map, length_placesOf]
  · intro index inside _
    rw [List.length_map] at inside
    rw [List.getElem_map, List.getElem_map]
    have number : index < (segments.filter (·.isWord)).length := length_placesOf segments ▸ inside
    exact (List.getElem?_eq_getElem _).trans (congrArg some
      (List.getElem_filter_eq_getElem_getElem_findIdxs number).symm)

private theorem mapM_range' (before run after : List Segment) :
    (List.range' before.length run.length).mapM ((before ++ run ++ after)[·]?) = some run := by
  apply mapM_eq_some_of_map
  apply List.ext_getElem
  · simp
  · intro index inside _
    rw [List.length_map, List.length_range'] at inside
    rw [List.getElem_map, List.getElem_range', List.getElem_map, Nat.one_mul, List.append_assoc,
      List.getElem?_append_right (Nat.le_add_right ..), Nat.add_sub_cancel_left,
      List.getElem?_append_left inside, List.getElem?_eq_getElem]

def firstShown (maxWords context : ℕ) (segments : List Segment) : ℕ :=
  let words := wordsOf segments
  min ((words.findIdx? (·.isHit)).getD 0 - context) (words.length - max 1 maxWords)

private theorem shownWords?_eq (maxWords context : ℕ) (segments : List Segment) :
    let start := firstShown maxWords context segments
    shownWords? maxWords context segments =
      some (start, start + min (wordsOf segments).length (max 1 maxWords)) := by
  intro start
  rw [shownWords?]
  simp only [length_placesOf]
  by_cases fits : (wordsOf segments).length ≤ max 1 maxWords
  · have atFirst : start = 0 := by
      simp only [start, firstShown]
      omega
    rw [if_pos fits, atFirst, Nat.min_eq_left fits, Nat.zero_add]
    rfl
  · rw [if_neg fits, mapM_placesOf, Nat.psub_eq_sub (by omega), Nat.min_eq_right (by omega)]
    rfl

theorem fromWord_zero (segments : List Segment) : fromWord 0 segments = segments := by
  cases segments <;> rfl

private theorem exists_fromWord {segments : List Segment} {start : ℕ}
    (inside : start < (wordsOf segments).length) :
    ∃ before shown, segments = before ++ shown ∧ fromWord start segments = shown ∧
      (wordsOf before).length = start ∧ firstPlace? segments start = some before.length := by
  by_cases first : start = 0
  · exact ⟨[], segments, rfl, first ▸ fromWord_zero segments, first.symm, if_pos first⟩
  · obtain ⟨before, word, after, rfl, isWord, rfl⟩ := exists_word inside
    refine ⟨before, word :: after, rfl, fromWord_append isWord ?_, rfl, ?_⟩
    · exact mt List.length_eq_zero_iff.mpr first
    · rw [firstPlace?, if_neg first, getElem?_placesOf isWord]

private theorem exists_throughWord (before : List Segment) {shown : List Segment} {count : ℕ}
    (positive : 0 < count) (inside : count ≤ (wordsOf shown).length) :
    ∃ run after, shown = run ++ after ∧
      (if count = (wordsOf shown).length then shown else throughWord count shown) = run ∧
      (wordsOf run).length = count ∧
      lastPlace? (before ++ shown) ((wordsOf before).length + count) =
        some (before.length + run.length - 1) := by
  have total : (placesOf (before ++ shown)).length =
      (wordsOf before).length + (wordsOf shown).length := by
    rw [length_placesOf, wordsOf_append, List.length_append]
  rw [lastPlace?, total]
  by_cases last : count = (wordsOf shown).length
  · have solid : 1 ≤ (before ++ shown).length := by
      have := List.length_filter_le (·.isWord) shown
      rw [List.length_append]
      unfold wordsOf at inside
      omega
    refine ⟨shown, [], (List.append_nil shown).symm, if_pos last, last.symm, ?_⟩
    rw [if_pos (congrArg _ last), Nat.psub_eq_sub solid, List.length_append]
  · obtain ⟨fewer, rfl⟩ := Nat.exists_eq_add_one.mpr positive
    obtain ⟨front, word, after, rfl, isWord, rfl⟩ := exists_word inside
    refine ⟨front ++ [word], after, by simp, ?_, ?_, ?_⟩
    · rw [if_neg last, throughWord_append isWord]
    · rw [wordsOf_append, wordsOf_cons_word isWord, List.length_append]
      rfl
    · rw [if_neg (by omega), Nat.psub_eq_sub (by omega), Option.bind_some,
        Nat.add_sub_assoc (by omega), Nat.add_sub_cancel, ← List.length_append,
        ← wordsOf_append, ← List.append_assoc, getElem?_placesOf isWord]
      simp

theorem window_eq (maxWords context : ℕ) (segments : List Segment) :
    let shown := fromWord (firstShown maxWords context segments) segments
    let count := min (wordsOf segments).length (max 1 maxWords)
    window maxWords context segments =
      if count = (wordsOf shown).length then shown else throughWord count shown := by
  intro shown count
  have left : (wordsOf shown).length =
      (wordsOf segments).length - firstShown maxWords context segments := by
    rw [wordsOf_fromWord, List.length_drop]
  have cases : window maxWords context segments =
      if (wordsOf segments).length ≤ max 1 maxWords then segments
      else if firstShown maxWords context segments + max 1 maxWords = (wordsOf segments).length
        then shown else throughWord (max 1 maxWords) shown := rfl
  rw [cases, left]
  by_cases fits : (wordsOf segments).length ≤ max 1 maxWords
  · have atFirst : firstShown maxWords context segments = 0 := by
      rw [firstShown]
      omega
    rw [if_pos fits, if_pos (by omega)]
    simp only [shown, atFirst, fromWord_zero]
  · have late : firstShown maxWords context segments ≤
        (wordsOf segments).length - max 1 maxWords := Nat.min_le_right ..
    have whole : count = max 1 maxWords := Nat.min_eq_right (by omega)
    rw [if_neg fits, whole]
    exact if_congr (by omega) rfl rfl

/-- A window is a run of the segments. It is the one that the places of its words give, so none of
them is out of range. -/
theorem exists_window {segments : List Segment} (worded : wordsOf segments ≠ [])
    (maxWords context : ℕ) :
    ∃ before after, segments = before ++ window maxWords context segments ++ after ∧
      windowByPlaces? maxWords context segments = some (window maxWords context segments) ∧
      (wordsOf before).length = firstShown maxWords context segments ∧
      (wordsOf (window maxWords context segments)).length =
        min (wordsOf segments).length (max 1 maxWords) := by
  have positive : 0 < (wordsOf segments).length := List.length_pos_iff.mpr worded
  have inside : firstShown maxWords context segments < (wordsOf segments).length := by
    rw [firstShown]
    omega
  obtain ⟨before, shown, split, from_eq, skipped, first⟩ := exists_fromWord inside
  have left : (wordsOf segments).length = (wordsOf before).length + (wordsOf shown).length := by
    rw [split, wordsOf_append, List.length_append]
  have late : firstShown maxWords context segments ≤
      (wordsOf segments).length - max 1 maxWords := Nat.min_le_right ..
  obtain ⟨run, after, rest, through, counted, last⟩ := @exists_throughWord before shown
    (min (wordsOf segments).length (max 1 maxWords)) (by omega) (by omega)
  have shows : window maxWords context segments = run := by
    rw [window_eq, from_eq, through]
  rw [← split, skipped] at last
  have solid : 0 < run.length := by
    have := List.length_filter_le (·.isWord) run
    unfold wordsOf at counted positive
    omega
  rw [shows]
  refine ⟨before, after, by rw [split, rest, List.append_assoc], ?_, skipped, counted⟩
  rw [windowByPlaces?, shownWords?_eq]
  simp only [Option.bind_eq_bind, Option.bind_some, first, last]
  have width : before.length + run.length - 1 + 1 - before.length = run.length := by omega
  rw [width, split, rest, ← List.append_assoc, mapM_range']

/-! ## The first hit -/

private theorem findIdx?_isHit {lead rest : List Segment} {hit : Segment}
    (isWord : hit.isWord = true)
    (isHit : hit.isHit = true) (first : ∀ segment ∈ lead, ¬ segment.isHit = true) :
    (wordsOf (lead ++ hit :: rest)).findIdx? (·.isHit) = some (wordsOf lead).length := by
  have unmarked : (wordsOf lead).findIdx? (·.isHit) = none := by
    rw [List.findIdx?_eq_none_iff]
    intro segment member
    simpa using first segment (List.mem_of_mem_filter member)
  rw [wordsOf_append, wordsOf_cons_word isWord, List.findIdx?_append, unmarked, List.findIdx?_cons,
    if_pos isHit]
  simp

private theorem exists_inside {before run after lead rest : List Segment} {hit : Segment}
    (same : before ++ run ++ after = lead ++ hit :: rest) (isWord : hit.isWord = true)
    (late : (wordsOf before).length ≤ (wordsOf lead).length)
    (early : (wordsOf lead).length < (wordsOf before).length + (wordsOf run).length) :
    ∃ inner further, lead = before ++ inner ∧ run = inner ++ hit :: further := by
  rw [List.append_assoc, List.append_eq_append_iff] at same
  obtain ⟨inner, rfl, others⟩ | ⟨gone, rfl, others⟩ := same
  · rw [wordsOf_append, List.length_append] at early
    rw [List.append_eq_append_iff] at others
    obtain ⟨gone, rfl, _⟩ | ⟨further, rfl, tail⟩ := others
    · rw [wordsOf_append, List.length_append] at early
      omega
    · cases further with
      | nil => simp at early
      | cons next further =>
        obtain ⟨rfl, _⟩ := List.cons_eq_cons.mp tail
        exact ⟨inner, further, rfl, rfl⟩
  · cases gone with
    | nil =>
      refine ⟨[], ?_⟩
      cases run with
      | nil => simp [wordsOf] at early
      | cons next further =>
        obtain ⟨rfl, _⟩ := List.cons_eq_cons.mp others
        exact ⟨further, by simp, rfl⟩
    | cons next gone =>
      obtain ⟨rfl, _⟩ := List.cons_eq_cons.mp others
      rw [wordsOf_append, wordsOf_cons_word isWord, List.length_append, List.length_cons] at late
      omega

/-- The first hit is in the window, with `context` words before it in the window or, if there are
fewer, all of them. -/
theorem exists_context {segments before after lead rest : List Segment} {hit : Segment}
    {maxWords context : ℕ} (narrow : context < max 1 maxWords)
    (split : segments = before ++ window maxWords context segments ++ after)
    (skipped : (wordsOf before).length = firstShown maxWords context segments)
    (counted : (wordsOf (window maxWords context segments)).length =
      min (wordsOf segments).length (max 1 maxWords))
    (place : segments = lead ++ hit :: rest) (isWord : hit.isWord = true)
    (isHit : hit.isHit = true) (first : ∀ segment ∈ lead, ¬ segment.isHit = true) :
    ∃ inner further, lead = before ++ inner ∧
      window maxWords context segments = inner ++ hit :: further ∧
      min context (wordsOf lead).length ≤ (wordsOf inner).length := by
  have start : firstShown maxWords context segments =
      min ((wordsOf lead).length - context) ((wordsOf segments).length - max 1 maxWords) := by
    rw [firstShown, place, findIdx?_isHit isWord isHit first, Option.getD_some]
  have total : (wordsOf segments).length = (wordsOf lead).length + ((wordsOf rest).length + 1) := by
    rw [place, wordsOf_append, wordsOf_cons_word isWord, List.length_append, List.length_cons]
  obtain ⟨inner, further, rfl, shown⟩ :=
    exists_inside (split.symm.trans place) isWord (by omega) (by omega)
  refine ⟨inner, further, rfl, shown, ?_⟩
  rw [wordsOf_append, List.length_append] at start ⊢
  omega

/-! ## Gaps -/

section
variable {α : Type} (isGap : α → Bool) (render : α → Text)

/-- Items with one space for the gaps between two of them. `started` tells whether an item stands
before them, `gap` whether a gap does. -/
def joinWith (started gap : Bool) : List α → Text
  | [] => []
  | item :: rest =>
    if isGap item then joinWith started true rest
    else (if started && gap then [' '] else []) ++ render item ++ joinWith true false rest

def solidParts (parts : List (List α)) : List Text :=
  (parts.filter (!·.isEmpty)).map (·.flatMap render)

theorem intercalate_cons_flatMap (separator first : Text) (rest : List Text) :
    separator.intercalate (first :: rest) = first ++ rest.flatMap (separator ++ ·) := by
  induction rest generalizing first with
  | nil => simp
  | cons next rest ih => simp [ih]

private theorem joinWith_started (items : List α) :
    ∃ part parts, items.splitOnP isGap = part :: parts ∧
      joinWith isGap render true false items =
        part.flatMap render ++ (solidParts render parts).flatMap ([' '] ++ ·) ∧
      joinWith isGap render true true items =
        (solidParts render (part :: parts)).flatMap ([' '] ++ ·) := by
  induction items with
  | nil => exact ⟨[], [], rfl, rfl, rfl⟩
  | cons item rest ih =>
    obtain ⟨part, parts, split, near, far⟩ := ih
    rw [List.splitOnP_cons_eq_if_modifyHead, split, joinWith, joinWith]
    by_cases blank : isGap item = true
    · rw [if_pos blank, if_pos blank, if_pos blank, far]
      exact ⟨[], part :: parts, rfl, rfl, rfl⟩
    · rw [if_neg blank, if_neg blank, if_neg blank, near]
      refine ⟨item :: part, parts, rfl, ?_, ?_⟩ <;> simp [solidParts]

theorem joinWith_eq_intercalate (items : List α) (gap : Bool) :
    joinWith isGap render false gap items =
      [' '].intercalate (solidParts render (items.splitOnP isGap)) := by
  induction items generalizing gap with
  | nil => rfl
  | cons item rest ih =>
    rw [List.splitOnP_cons_eq_if_modifyHead, joinWith]
    by_cases blank : isGap item = true
    · rw [if_pos blank, if_pos blank, ih]
      rfl
    · obtain ⟨part, parts, split, near, _⟩ := joinWith_started isGap render rest
      rw [if_neg blank, if_neg blank, split, near]
      simp [solidParts, intercalate_cons_flatMap]

end

/-! ## Pieces of a text -/

def wordPieces (pieces : List Text) : List Text := pieces.filter (·.any Text.isAlphanumeric)

/-- A piece as it is shown: between the marks if it is a word that satisfies the test. -/
def markPiece (style : HeadlineStyle) (isHit : Text → Bool) (piece : Text) : Text :=
  if piece.any Text.isAlphanumeric ∧ isHit piece then style.opening ++ piece ++ style.closing
  else piece

/-- A run of pieces as it is shown: the white space in it becomes single spaces, that around it is
left out. -/
def showPieces (style : HeadlineStyle) (isHit : Text → Bool) (run : List Text) : Text :=
  [' '].intercalate (((run.splitOnP Text.allBlank).filter (!·.isEmpty)).map
    (·.flatMap (markPiece style isHit)))

section
variable (style : HeadlineStyle) (isHit : Text → Bool)

def segmentOf (piece : Text) : Segment := ⟨piece, piece.any Text.isAlphanumeric && isHit piece⟩

private theorem length_wordPieces_map (segments : List Segment) :
    (wordPieces (segments.map (·.text))).length = (wordsOf segments).length := by
  rw [wordPieces, List.filter_map, List.length_map]
  rfl

private theorem map_text_segmentOf (pieces : List Text) :
    (pieces.map (segmentOf isHit)).map (·.text) = pieces := by
  rw [List.map_map]
  exact List.map_id pieces

theorem length_wordsOf_map (pieces : List Text) :
    (wordsOf (pieces.map (segmentOf isHit))).length = (wordPieces pieces).length := by
  rw [← length_wordPieces_map, map_text_segmentOf]

private theorem render_segmentOf (piece : Text) :
    (segmentOf isHit piece).render style.opening style.closing = markPiece style isHit piece := by
  simp [segmentOf, Segment.render, markPiece]

theorem join_map (run : List Text) (started gap : Bool) :
    join style.opening style.closing started gap (run.map (segmentOf isHit)) =
      joinWith Text.allBlank (markPiece style isHit) started gap run := by
  induction run generalizing started gap with
  | nil => rfl
  | cons piece rest ih =>
    rw [List.map_cons, join, joinWith, ih, ih, render_segmentOf]
    rfl

theorem join_eq_showPieces (run : List Text) :
    join style.opening style.closing false false (run.map (segmentOf isHit)) =
      showPieces style isHit run := by
  rw [join_map, joinWith_eq_intercalate]
  rfl

theorem any_isWord_segmentsOf (text : Text) :
    (segmentsOf isHit text).any (·.isWord) = true ↔
      wordPieces (Text.WordBreak.segments text) ≠ [] := by
  rw [List.any_eq_true, wordPieces, ne_eq, List.filter_eq_nil_iff]
  simp [segmentsOf, Segment.isWord]

variable {isHit} in
private theorem segmentsOf_of_first {text hit : Text} {lead rest : List Text}
    (place : Text.WordBreak.segments text = lead ++ hit :: rest)
    (isWord : hit.any Text.isAlphanumeric = true) (accepted : isHit hit = true)
    (first : ∀ piece ∈ lead, piece.any Text.isAlphanumeric = true → isHit piece = false) :
    segmentsOf isHit text =
        lead.map (segmentOf isHit) ++ segmentOf isHit hit :: rest.map (segmentOf isHit) ∧
      (segmentOf isHit hit).isHit = true ∧
      ∀ segment ∈ lead.map (segmentOf isHit), ¬ segment.isHit = true := by
  refine ⟨?_, by simp [segmentOf, isWord, accepted], ?_⟩
  · rw [← List.map_cons, ← List.map_append, ← place]
    rfl
  · intro segment member
    obtain ⟨piece, listed, rfl⟩ := List.mem_map.mp member
    have := first piece listed
    simpa [segmentOf] using this

end

end Headline

open Headline in
theorem exists_marked_piece {style : HeadlineStyle} (ordered : style.minWords ≤ style.maxWords)
    {isHit : Text → Bool} {text piece : Text} {before after : List Text}
    (place : Text.WordBreak.segments text = before ++ piece :: after)
    (isWord : piece.any Text.isAlphanumeric = true) (accepted : isHit piece = true)
    (near : (∀ earlier ∈ before, earlier.any Text.isAlphanumeric = true → isHit earlier = false) ∨
      (wordPieces (Text.WordBreak.segments text)).length ≤ style.maxWords) :
    ∃ front back, headline style isHit text =
      front ++ style.opening ++ piece ++ style.closing ++ back := by
  let context := style.minWords / 2
  have listed : segmentOf isHit piece ∈ segmentsOf isHit text :=
    List.mem_map_of_mem (place ▸ List.mem_append_right _ List.mem_cons_self)
  have shown : segmentOf isHit piece ∈ window style.maxWords context (segmentsOf isHit text) := by
    rcases near with first | fits
    · obtain ⟨located, isFound, isFirst⟩ := segmentsOf_of_first place isWord accepted first
      obtain ⟨_, _, split, _, skipped, counted⟩ := exists_window
        (List.ne_nil_of_mem (List.mem_filter.mpr ⟨listed, isWord⟩)) style.maxWords context
      obtain ⟨inner, further, _, within, _⟩ := exists_context (by omega) split skipped counted
        located isWord isFound isFirst
      rw [within]
      exact List.mem_append_right _ List.mem_cons_self
    · have whole : window style.maxWords context (segmentsOf isHit text) =
          segmentsOf isHit text := by
        refine if_pos ?_
        have counted : (wordsOf (segmentsOf isHit text)).length ≤ style.maxWords :=
          (length_wordsOf_map isHit _).trans_le fits
        exact counted.trans (Nat.le_max_right ..)
      rwa [whole]
  obtain ⟨front, back, rendered⟩ := exists_render_join style.opening style.closing shown
    (isGap_of_isWord isWord) false false
  have worded : (segmentsOf isHit text).any (·.isWord) = true :=
    List.any_eq_true.mpr ⟨_, listed, isWord⟩
  have mark : (segmentOf isHit piece).render style.opening style.closing =
      style.opening ++ piece ++ style.closing := by
    rw [render_segmentOf, markPiece, if_pos ⟨isWord, accepted⟩]
  refine ⟨front, back, ?_⟩
  rw [headline, preview, if_pos worded, rendered, mark]
  simp only [List.append_assoc]

/-- A text with a word that satisfies the test has a headline with such a word marked. -/
theorem exists_marked_headline {style : HeadlineStyle} (ordered : style.minWords ≤ style.maxWords)
    {isHit : Text → Bool} {text : Text}
    (found : ∃ piece ∈ Text.WordBreak.segments text,
      piece.any Text.isAlphanumeric = true ∧ isHit piece = true) :
    ∃ piece ∈ Text.WordBreak.segments text,
      piece.any Text.isAlphanumeric = true ∧ isHit piece = true ∧ ∃ before after,
        headline style isHit text = before ++ style.opening ++ piece ++ style.closing ++ after := by
  let test (piece : Text) : Bool := piece.any Text.isAlphanumeric && isHit piece
  have located : ((Text.WordBreak.segments text).find? test).isSome = true := by
    rw [List.find?_isSome]
    simpa [test] using found
  obtain ⟨piece, first⟩ := Option.isSome_iff_exists.mp located
  obtain ⟨both, before, after, place, others⟩ := List.find?_eq_some_iff_append.mp first
  obtain ⟨isWord, accepted⟩ := Bool.and_eq_true_iff.mp both
  refine ⟨piece, List.mem_of_find?_eq_some first, isWord, accepted, ?_⟩
  refine exists_marked_piece ordered place isWord accepted (.inl fun earlier listed word => ?_)
  simpa [test, word] using others earlier listed

open Headline in
/-- The window of a headline. A text without words is shown whole, its white space collapsed. Of any
other text a run of pieces is shown, with as many of its words as there may be; exactly the words in
it that satisfy the test are marked, and the white space in it becomes single spaces. The run is the
one that the places of the words give, none of them out of range. The first word of the text that
satisfies the test is in it, and half of `minWords` stand before it there, or all that there are. -/
theorem headline_window (style : HeadlineStyle) (isHit : Text → Bool) (text : Text) :
    let pieces := Text.WordBreak.segments text
    let context := style.minWords / 2
    pieces.flatten = text ∧
      (wordPieces pieces = [] → headline style isHit text = Text.collapse text) ∧
      (wordPieces pieces ≠ [] → ∃ before run after, pieces = before ++ run ++ after ∧
        windowByPlaces? style.maxWords context (segmentsOf isHit text) =
          some (run.map (segmentOf isHit)) ∧
        (wordPieces run).length = min (wordPieces pieces).length (max 1 style.maxWords) ∧
        headline style isHit text = showPieces style isHit run ∧
        (style.minWords ≤ style.maxWords → ∀ lead hit rest, pieces = lead ++ hit :: rest →
          hit.any Text.isAlphanumeric = true → isHit hit = true →
          (∀ piece ∈ lead, piece.any Text.isAlphanumeric = true → isHit piece = false) →
          ∃ inner further, lead = before ++ inner ∧ run = inner ++ hit :: further ∧
            min context (wordPieces lead).length ≤ (wordPieces inner).length)) := by
  intro pieces context
  have cut : segmentsOf isHit text = pieces.map (segmentOf isHit) := rfl
  have counts := length_wordsOf_map isHit
  have shows : headline style isHit text =
      if (segmentsOf isHit text).any (·.isWord) then
        join style.opening style.closing false false
          (window style.maxWords context (segmentsOf isHit text))
      else Text.collapse text := rfl
  have worded : (segmentsOf isHit text).any (·.isWord) = true ↔ wordPieces pieces ≠ [] := by
    rw [← List.length_pos_iff, ← counts pieces, List.length_pos_iff, wordsOf, ne_eq,
      List.filter_eq_nil_iff]
    simp [cut]
  refine ⟨Text.WordBreak.flatten_segments text, ?_, ?_⟩
  · intro wordless
    rw [shows, if_neg (mt worded.mp (not_not_intro wordless))]
  · intro nonempty
    have filled : wordsOf (segmentsOf isHit text) ≠ [] := by
      rw [← List.length_pos_iff, cut, counts, List.length_pos_iff]
      exact nonempty
    obtain ⟨front, back, split, placed, skipped, counted⟩ :=
      exists_window filled style.maxWords context
    obtain ⟨shown, after, divided, isShown, rfl⟩ :=
      List.map_eq_append_iff.mp (cut.symm.trans split)
    obtain ⟨before, run, rfl, rfl, isRun⟩ := List.map_eq_append_iff.mp isShown
    refine ⟨before, run, after, divided, isRun ▸ placed, ?_, ?_, ?_⟩
    · rw [← counts run, ← counts pieces, isRun]
      exact counted
    · rw [shows, if_pos (worded.mpr nonempty), ← isRun, join_eq_showPieces]
    · intro ordered lead hit rest place isWord accepted first
      obtain ⟨located, isFound, isFirst⟩ := segmentsOf_of_first place isWord accepted first
      obtain ⟨inner, further, ahead, within, enough⟩ := exists_context (by omega) split skipped
        counted located isWord isFound isFirst
      refine ⟨inner.map (·.text), further.map (·.text), ?_, ?_, ?_⟩
      · rw [← map_text_segmentOf isHit lead, ahead, List.map_append, map_text_segmentOf]
      · rw [← map_text_segmentOf isHit run, isRun, within, List.map_append, List.map_cons]
        rfl
      · rw [length_wordPieces_map, ← counts lead]
        exact enough

open Headline in
/-- Two of five words are shown, and the word that was searched for has one of the others in front
of it. -/
theorem headline_window_of_five_words :
    let style : HeadlineStyle := ⟨2, 2, "<".toList, ">".toList⟩
    let isHit : Text → Bool := (· == "drie".toList)
    let text : Text := "Een twee,  drie vier vijf".toList
    ∃ before inner further after, let run := inner ++ "drie".toList :: further
      Text.WordBreak.segments text = before ++ run ++ after ∧ (wordPieces run).length = 2 ∧
        1 ≤ (wordPieces inner).length ∧ headline style isHit text = showPieces style isHit run := by
  intro style isHit text
  let pieces := Text.WordBreak.segments text
  have words : (wordPieces pieces).length = 5 := by decide +kernel
  obtain ⟨_, _, windowed⟩ := headline_window style isHit text
  obtain ⟨before, run, after, split, _, counted, shows, around⟩ :=
    windowed (List.length_pos_iff.mp (words ▸ Nat.succ_pos 4))
  have place : pieces = pieces.take 5 ++ "drie".toList :: pieces.drop 6 := by decide +kernel
  obtain ⟨inner, further, _, rfl, enough⟩ := around (le_refl 2) _ _ _ place (by decide +kernel)
    (by decide +kernel) (by decide +kernel)
  have ahead : (wordPieces (pieces.take 5)).length = 2 := by decide +kernel
  rw [ahead] at enough
  rw [words] at counted
  exact ⟨before, inner, further, after, split, counted, le_trans (by decide) enough, shows⟩

example : headline ⟨2, 2, "<".toList, ">".toList⟩ (· == "drie".toList)
    "Een twee,  drie vier vijf".toList = "twee, <drie>".toList := by
  decide +kernel

end TenantSearch
