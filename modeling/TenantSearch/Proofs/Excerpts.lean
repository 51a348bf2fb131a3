import TenantSearch.Proofs.FoldingLaws
import TenantSearch.Proofs.HeadlineWindow
import TenantSearch.Proofs.SegmentEnds

/-! Excerpts of excerpts. An excerpt is cut again where a shorter one of the whole text is cut: the
segments of an excerpt are those of the text, but for the white space between them, which may have
become a part of what stands behind it. -/
namespace TenantSearch
namespace Headline

/-! ## Leading words -/

def throughWords : ℕ → List Text → List Text
  | _, [] => []
  | 0, _ => []
  | fewer + 1, piece :: rest =>
    piece :: throughWords (if piece.any Text.isAlphanumeric then fewer else fewer + 1) rest

/-- The pieces without those behind the given number of words; all of them if there are no more
words than that. -/
def leading (count : ℕ) (pieces : List Text) : List Text :=
  if (wordPieces pieces).length ≤ count then pieces else throughWords count pieces

private theorem length_wordPieces_cons (piece : Text) (rest : List Text) :
    (wordPieces (piece :: rest)).length =
      (wordPieces rest).length + if piece.any Text.isAlphanumeric then 1 else 0 := by
  rw [wordPieces, List.filter_cons]
  split <;> rfl

private theorem throughWords_zero (pieces : List Text) : throughWords 0 pieces = [] := by
  cases pieces <;> rfl

private theorem length_wordPieces_throughWords (count : ℕ) (pieces : List Text) :
    (wordPieces (throughWords count pieces)).length = min count (wordPieces pieces).length := by
  induction pieces generalizing count with
  | nil => cases count <;> rfl
  | cons piece rest ih =>
    cases count with
    | zero => exact (Nat.zero_min _).symm
    | succ fewer =>
      rw [throughWords, length_wordPieces_cons, length_wordPieces_cons, ih]
      split <;> omega

private theorem throughWords_throughWords (count most : ℕ) (pieces : List Text) :
    throughWords count (throughWords most pieces) = throughWords (min count most) pieces := by
  induction pieces generalizing count most with
  | nil => simp [throughWords]
  | cons piece rest ih =>
    cases count with
    | zero => rw [Nat.zero_min, throughWords_zero, throughWords_zero]
    | succ fewer =>
      cases most with
      | zero => rfl
      | succ others =>
        rw [throughWords, throughWords, ih, Nat.succ_min_succ, throughWords]
        split
        · rfl
        · rw [Nat.succ_min_succ]

private theorem throughWords_prefix (count : ℕ) (pieces : List Text) :
    throughWords count pieces <+: pieces := by
  induction pieces generalizing count with
  | nil => simp [throughWords]
  | cons piece rest ih =>
    cases count with
    | zero => exact List.nil_prefix
    | succ fewer => exact (List.prefix_cons_inj piece).mpr (ih _)

private theorem length_wordPieces_leading (count : ℕ) (pieces : List Text) :
    (wordPieces (leading count pieces)).length = min (wordPieces pieces).length count := by
  rw [leading]
  split_ifs with fits
  · rw [Nat.min_eq_left fits]
  · rw [length_wordPieces_throughWords, Nat.min_comm]

theorem leading_prefix (count : ℕ) (pieces : List Text) : leading count pieces <+: pieces := by
  rw [leading]
  split_ifs
  · exact List.prefix_rfl
  · exact throughWords_prefix count pieces

theorem leading_leading (count most : ℕ) (pieces : List Text) :
    leading count (leading most pieces) = leading (min most count) pieces := by
  have words := length_wordPieces_leading most pieces
  by_cases all : (wordPieces pieces).length ≤ most
  · rw [leading, leading, leading, if_pos all]
    by_cases less : (wordPieces pieces).length ≤ count
    · rw [if_pos less, if_pos (by omega)]
    · rw [if_neg less, if_neg (by omega), Nat.min_eq_right (by omega)]
  · by_cases less : most ≤ count
    · rw [Nat.min_eq_left less]
      exact if_pos (by omega)
    · rw [Nat.min_eq_right (by omega)]
      have fewer : ¬ (wordPieces (leading most pieces)).length ≤ count := by omega
      rw [leading, if_neg fewer, leading, leading, if_neg all, if_neg (by omega),
        throughWords_throughWords, Nat.min_eq_left (by omega)]

/-! ## White space between pieces -/

/-- The pieces that are not all white space, those behind white space with a space in front.
`started` tells whether a piece stands before them, `gap` whether white space does. -/
def spaced (started gap : Bool) : List Text → List Text
  | [] => []
  | piece :: rest =>
    if Text.allBlank piece then spaced started true rest
    else ((if started && gap then [' '] else []) ++ piece) :: spaced true false rest

section
variable {piece : Text} (started gap : Bool) (rest : List Text)

private theorem spaced_cons_blank (blank : Text.allBlank piece = true) :
    spaced started gap (piece :: rest) = spaced started true rest :=
  if_pos blank

private theorem spaced_cons_solid (solid : ¬ Text.allBlank piece = true) :
    spaced started gap (piece :: rest) =
      ((if started && gap then [' '] else []) ++ piece) :: spaced true false rest :=
  if_neg solid

end

private theorem flatten_spaced (started gap : Bool) (pieces : List Text) :
    (spaced started gap pieces).flatten = joinWith Text.allBlank id started gap pieces := by
  induction pieces generalizing started gap with
  | nil => rfl
  | cons piece rest ih =>
    rw [joinWith]
    by_cases blank : Text.allBlank piece = true
    · rw [spaced_cons_blank _ _ _ blank, if_pos blank, ih]
    · rw [spaced_cons_solid _ _ _ blank, if_neg blank, List.flatten_cons, ih, id]

private theorem any_isAlphanumeric_of_allBlank {piece : Text} (blank : Text.allBlank piece = true) :
    piece.any Text.isAlphanumeric = false :=
  Bool.eq_false_iff.mpr fun word =>
    Bool.false_ne_true ((@isGap_of_isWord ⟨piece, false⟩ word).symm.trans blank)

private theorem any_isAlphanumeric_space (gap : Bool) (piece : Text) :
    ((if gap then [' '] else []) ++ piece).any Text.isAlphanumeric =
      piece.any Text.isAlphanumeric := by
  have space : Text.isAlphanumeric ' ' = false := by decide +kernel
  cases gap
  · rfl
  · exact (List.any_cons ..).trans (by rw [space, Bool.false_or]; rfl)

private theorem length_wordPieces_spaced (started gap : Bool) (pieces : List Text) :
    (wordPieces (spaced started gap pieces)).length = (wordPieces pieces).length := by
  induction pieces generalizing started gap with
  | nil => rfl
  | cons piece rest ih =>
    rw [length_wordPieces_cons]
    by_cases blank : Text.allBlank piece = true
    · rw [spaced_cons_blank _ _ _ blank, ih, any_isAlphanumeric_of_allBlank blank]
      rfl
    · rw [spaced_cons_solid _ _ _ blank, length_wordPieces_cons, ih, any_isAlphanumeric_space]

private theorem spaced_throughWords (count : ℕ) (started gap : Bool) (pieces : List Text) :
    spaced started gap (throughWords count pieces) =
      throughWords count (spaced started gap pieces) := by
  induction pieces generalizing count started gap with
  | nil => simp [throughWords, spaced]
  | cons piece rest ih =>
    cases count with
    | zero => rw [throughWords_zero, throughWords_zero, spaced]
    | succ fewer =>
      rw [throughWords]
      by_cases blank : Text.allBlank piece = true
      · rw [spaced_cons_blank _ _ _ blank, spaced_cons_blank _ _ _ blank, ih,
          any_isAlphanumeric_of_allBlank blank]
        rfl
      · rw [spaced_cons_solid _ _ _ blank, spaced_cons_solid _ _ _ blank, throughWords, ih,
          any_isAlphanumeric_space]

private theorem spaced_leading (count : ℕ) (started gap : Bool) (pieces : List Text) :
    spaced started gap (leading count pieces) = leading count (spaced started gap pieces) := by
  rw [leading, leading, length_wordPieces_spaced]
  split_ifs
  · rfl
  · exact spaced_throughWords ..

/-! ## Segments of an excerpt -/

open Text.WordBreak

private theorem flatten_spaced_gap (pieces : List Text) :
    (spaced true true pieces).flatten = [] ∨
      ∃ text, (spaced true true pieces).flatten = ' ' :: text := by
  induction pieces with
  | nil => exact .inl rfl
  | cons piece rest ih =>
    by_cases blank : Text.allBlank piece = true
    · rwa [spaced_cons_blank _ _ _ blank]
    · rw [spaced_cons_solid _ _ _ blank]
      exact .inr ⟨_, rfl⟩

section
variable {pieces after : List Text}
  (cut : segments (pieces ++ after).flatten = pieces ++ after)
include cut

private theorem follows_spaced :
    Follows (pieces ++ after).flatten (spaced true false pieces).flatten := by
  induction pieces with
  | nil => exact .ended _
  | cons piece rest ih =>
    rw [List.cons_append] at cut ⊢
    obtain ⟨_, others, c, inner, rfl, _⟩ := exists_of_segments_eq cut
    rw [List.flatten_cons]
    by_cases blank : Text.allBlank (c :: inner) = true
    · rw [spaced_cons_blank _ _ _ blank]
      obtain ended | ⟨text, spaces⟩ := flatten_spaced_gap rest
      · rw [ended]
        exact .ended _
      · rw [spaces]
        exact .spaced (List.all_eq_true.mp blank c List.mem_cons_self) _ _
    · rw [spaced_cons_solid _ _ _ blank]
      exact (ih others).append _

private theorem segments_append_spaced {piece : Text} (solid : ¬ Text.allBlank piece = true)
    (first : segments (piece ++ (pieces ++ after).flatten) = piece :: (pieces ++ after)) :
    segments (piece ++ (spaced true false pieces).flatten) =
      piece :: segments (spaced true false pieces).flatten := by
  have visible : ∃ c ∈ piece, Text.isBlank c = false := by
    simpa [Text.allBlank] using solid
  exact segments_follows visible (first.trans (congrArg (piece :: ·) cut.symm))
    (follows_spaced cut)

/-- The segments that are shown behind another one are the same when they are shown again. -/
theorem spaced_segments (gap : Bool) :
    spaced true false (segments (spaced true gap pieces).flatten) = spaced true gap pieces := by
  induction pieces generalizing gap with
  | nil => simp [spaced, segments]
  | cons piece rest ih =>
    rw [List.cons_append] at cut
    obtain ⟨_, others, _⟩ := exists_of_segments_eq cut
    by_cases blank : Text.allBlank piece = true
    · rw [spaced_cons_blank _ _ _ blank]
      exact ih others true
    · have same := segments_append_spaced others blank cut
      rw [spaced_cons_solid _ _ _ blank, List.flatten_cons]
      cases gap with
      | false =>
        rw [Bool.and_false, if_neg Bool.false_ne_true, List.nil_append, same,
          spaced_cons_solid _ _ _ blank, ih others]
        rfl
      | true =>
        -- The space in front may be a part of the piece now; either way it is shown there.
        have space : Text.isBlank ' ' = true := by decide
        have longer : ¬ Text.allBlank (' ' :: piece) = true := by
          rwa [Text.allBlank, List.all_cons, space, Bool.true_and]
        change spaced true false (segments (' ' :: (piece ++ _))) = (' ' :: piece) :: _
        rcases segments_space same with joined | apart
        · rw [joined, spaced_cons_solid _ _ _ longer, ih others]
          rfl
        · rw [apart, spaced_cons_blank _ _ _ (by rw [Text.allBlank, List.all_cons, space]; rfl),
            spaced_cons_solid _ _ _ blank, ih others]
          rfl

private theorem spaced_segments_start (gap : Bool) :
    spaced false false (segments (spaced false gap pieces).flatten) = spaced false gap pieces := by
  induction pieces generalizing gap with
  | nil => simp [spaced, segments]
  | cons piece rest ih =>
    rw [List.cons_append] at cut
    obtain ⟨_, others, _⟩ := exists_of_segments_eq cut
    by_cases blank : Text.allBlank piece = true
    · rw [spaced_cons_blank _ _ _ blank]
      exact ih others true
    · rw [spaced_cons_solid _ _ _ blank, List.flatten_cons, Bool.false_and,
        if_neg Bool.false_ne_true, List.nil_append, segments_append_spaced others blank cut,
        spaced_cons_solid _ _ _ blank, spaced_segments others]
      rfl

end

/-! ## The shown words -/

private theorem throughWord_map (isHit : Text → Bool) (count : ℕ) (pieces : List Text) :
    throughWord count (pieces.map (segmentOf isHit)) =
      (throughWords count pieces).map (segmentOf isHit) := by
  induction pieces generalizing count with
  | nil => simp [throughWord, throughWords]
  | cons piece rest ih =>
    cases count with
    | zero => rfl
    | succ fewer =>
      rw [List.map_cons, throughWord, throughWords, List.map_cons, ih]
      rfl

theorem window_zero (maxWords : ℕ) (pieces : List Text) :
    window maxWords 0 (pieces.map (segmentOf fun _ => false)) =
      (leading (max maxWords 1) pieces).map (segmentOf fun _ => false) := by
  have atFirst : firstShown maxWords 0 (pieces.map (segmentOf fun _ => false)) = 0 := by
    have noHit : (wordsOf (pieces.map (segmentOf fun _ => false))).findIdx? (·.isHit) = none := by
      rw [List.findIdx?_eq_none_iff]
      intro segment listed
      obtain ⟨piece, _, rfl⟩ := List.mem_map.mp (List.mem_of_mem_filter listed)
      exact Bool.and_false _
    rw [firstShown, noHit]
    exact Nat.zero_min _
  rw [window_eq, atFirst, fromWord_zero, length_wordsOf_map, leading, throughWord_map,
    Nat.max_comm 1]
  by_cases fits : (wordPieces pieces).length ≤ max maxWords 1
  · rw [if_pos fits, if_pos (Nat.min_eq_left fits)]
  · rw [if_neg fits, if_neg (by omega), Nat.min_eq_right (by omega)]

theorem excerpt_eq (maxWords : ℕ) (text : Text) :
    excerpt maxWords text =
      if wordPieces (segments text) = [] then Text.collapse text
      else (leading (max maxWords 1) (spaced false false (segments text))).flatten := by
  let style : HeadlineStyle := ⟨0, maxWords, [], []⟩
  have plain : markPiece style (fun _ => false) = id := by
    funext piece
    simp [markPiece]
  rw [excerpt, preview]
  simp only [any_isWord_segmentsOf]
  by_cases wordless : wordPieces (segments text) = []
  · rw [if_neg (not_not_intro wordless), if_pos wordless]
  · rw [if_pos wordless, if_neg wordless, ← spaced_leading, flatten_spaced, ← plain]
    exact (congrArg _ (window_zero maxWords (segments text))).trans
      (join_map style _ _ false false)

private theorem wordPieces_segments_eq_nil (text : Text) :
    wordPieces (segments text) = [] ↔ ∀ c ∈ text, ¬ Text.isAlphanumeric c = true := by
  have every : (∀ piece ∈ segments text, ∀ c ∈ piece, ¬ Text.isAlphanumeric c = true) ↔
      ∀ c ∈ (segments text).flatten, ¬ Text.isAlphanumeric c = true := by
    rw [List.forall_mem_flatten]
  rw [flatten_segments] at every
  rw [wordPieces, List.filter_eq_nil_iff, ← every]
  simp

private theorem wordPieces_segments_collapse {text : Text}
    (wordless : wordPieces (segments text) = []) :
    wordPieces (segments (Text.collapse text)) = [] := by
  rw [wordPieces_segments_eq_nil] at wordless ⊢
  intro c inside
  rcases Text.mem_intercalate inside with rfl | ⟨piece, listed, among⟩
  · decide +kernel
  · exact wordless c ((Text.mem_runs listed).2 c among).2

private theorem spaced_segments_excerpt {text : Text} (worded : wordPieces (segments text) ≠ [])
    (maxWords : ℕ) :
    spaced false false (segments (excerpt maxWords text)) =
      leading (max maxWords 1) (spaced false false (segments text)) := by
  obtain ⟨after, cut⟩ := leading_prefix (max maxWords 1) (segments text)
  rw [excerpt_eq, if_neg worded, ← spaced_leading]
  apply @spaced_segments_start _ after
  rw [cut, flatten_segments]

theorem length_wordPieces_excerpt (maxWords : ℕ) (text : Text) :
    (wordPieces (segments (excerpt maxWords text))).length =
      min (wordPieces (segments text)).length (max maxWords 1) := by
  by_cases wordless : wordPieces (segments text) = []
  · rw [excerpt_eq, if_pos wordless, wordPieces_segments_collapse wordless, wordless]
    exact (Nat.zero_min _).symm
  · rw [← length_wordPieces_spaced false false, spaced_segments_excerpt wordless,
      length_wordPieces_leading, length_wordPieces_spaced]

theorem excerpt_excerpt (most count : ℕ) (text : Text) :
    excerpt count (excerpt most text) = excerpt (min (max most 1) (max count 1)) text := by
  by_cases wordless : wordPieces (segments text) = []
  · rw [excerpt_eq most, if_pos wordless, excerpt_eq,
      if_pos (wordPieces_segments_collapse wordless), excerpt_eq, if_pos wordless,
      Text.collapse_collapse]
  · have positive := List.length_pos_iff.mpr wordless
    have worded : wordPieces (segments (excerpt most text)) ≠ [] := by
      rw [← List.length_pos_iff, length_wordPieces_excerpt]
      omega
    rw [excerpt_eq count, if_neg worded, spaced_segments_excerpt wordless, leading_leading,
      excerpt_eq, if_neg wordless, Nat.max_eq_left (by omega : 1 ≤ min (max most 1) (max count 1))]

private theorem leading_prefix_leading (count more : ℕ) (pieces : List Text) :
    leading count pieces <+: leading (count + more) pieces := by
  have shorter := leading_leading count (count + more) pieces
  rw [Nat.min_eq_right (Nat.le_add_right ..)] at shorter
  exact shorter ▸ leading_prefix _ _

theorem excerpt_prefix (count more : ℕ) (text : Text) :
    excerpt count text <+: excerpt (count + more) text := by
  rw [excerpt_eq, excerpt_eq]
  split_ifs
  · exact List.prefix_rfl
  · have longer : max (count + more) 1 = max count 1 + (max (count + more) 1 - max count 1) := by
      omega
    rw [longer]
    exact (leading_prefix_leading ..).flatten

end Headline

/-- An excerpt of an excerpt is the shorter one of the two excerpts of the text. An excerpt still
has as many words as it may have when it is cut into segments again, and a longer excerpt of a text
starts with every shorter one. -/
theorem excerpt_compose (most count more : ℕ) (text : Text) :
    excerpt count (excerpt most text) = excerpt (min (max most 1) (max count 1)) text ∧
      excerpt count (excerpt count text) = excerpt count text ∧
      (Headline.wordPieces (Text.WordBreak.segments (excerpt count text))).length =
        min (Headline.wordPieces (Text.WordBreak.segments text)).length (max count 1) ∧
      excerpt count text <+: excerpt (count + more) text := by
  refine ⟨Headline.excerpt_excerpt most count text, ?_,
    Headline.length_wordPieces_excerpt count text, Headline.excerpt_prefix count more text⟩
  rw [Headline.excerpt_excerpt, Nat.min_self, Headline.excerpt_eq, Headline.excerpt_eq count,
    Nat.max_assoc, Nat.max_self]

end TenantSearch
