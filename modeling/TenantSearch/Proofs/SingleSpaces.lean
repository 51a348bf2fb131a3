import TenantSearch.Proofs.HeadlineWindow
import TenantSearch.Proofs.SegmentEnds

/-! White space in previews. A segment that is all white space becomes a single space or nothing, so
a preview has single spaces only, as long as no segment has white space next to other characters.
Two kinds of segments do: white space takes up the marks behind it, and the narrow no-break space
joins the letters and digits around it. -/
namespace TenantSearch
namespace Text

/-- Whether the white space of a text is single spaces between other characters. -/
structure Neat (text : Text) : Prop where
  spaces : ∀ c ∈ text, isBlank c = true → c = ' '
  starts : ∀ c ∈ text.head?, isBlank c = false
  ends : ∀ c ∈ text.getLast?, isBlank c = false
  single : text.IsChain fun c d => isBlank c = true → isBlank d = false

/-- Whether no segment of a text has white space next to other characters. -/
def SpacesApart (text : Text) : Prop :=
  ∀ piece ∈ WordBreak.segments text, piece.any isBlank = true → allBlank piece = true

/-- Whether the white space of a text joins nothing: it is no narrow no-break space, and no mark,
format character or joiner follows it. -/
structure PlainSpaces (text : Text) : Prop where
  wide : '\u202f' ∉ text
  unmarked : text.IsChain fun c d => isBlank c = true → (WordBreak.property d).isPassedOver = false

/-! ## White space in segments -/

namespace WordBreak

private theorem property_of_isBlank {c : Char} (blank : isBlank c = true) (wide : c ≠ '\u202f') :
    ((property c).isWhite = true ∨ property c = .other) ∧ isPictographic c = false := by
  have every : (blanks.map Char.ofNat).all (fun c => c == '\u202f' ||
      ((property c).isWhite || property c == .other) && !isPictographic c) = true := by
    decide +kernel
  have listed : c ∈ blanks.map Char.ofNat :=
    List.mem_map.mpr ⟨c.toNat, mem_blanks_of_isBlank blank, Char.ofNat_toNat c⟩
  simpa [wide] using List.all_eq_true.mp every c listed

private theorem Property.not_isPassedOver {kind : Property}
    (blank : kind.isWhite = true ∨ kind = .other) : kind.isPassedOver = false := by
  cases kind
  case extend | format | joiner => exact absurd blank (by simp [isWhite])
  all_goals rfl

private theorem Property.eq_space_of_isWhite {kind : Property} (white : kind.isWhite = true)
    (inline : kind.isLineBreak = false) : kind = .space := by
  cases kind
  case space => rfl
  case carriageReturn | lineFeed | newline => exact absurd inline.symm Bool.false_ne_true
  all_goals exact absurd white Bool.false_ne_true

private theorem Tail.next?_blank {tail : Tail} (apart : tail ≠ .spaces) {kind : Property}
    (blank : kind.isWhite = true ∨ kind = .other) (size : ℕ) (passedOver : Bool) :
    tail.next? size passedOver kind = none := by
  cases kind
  case space => cases tail <;> first | rfl | exact absurd rfl apart
  case other | carriageReturn | lineFeed | newline => cases tail <;> rfl
  all_goals exact absurd blank (by simp [Property.isWhite])

private theorem Tail.ne_spaces_of_next? {tail next : Tail} (apart : tail ≠ .spaces)
    {kind : Property}
    {size : ℕ} {passedOver : Bool} (grown : tail.next? size passedOver kind = some next) :
    next ≠ .spaces := by
  rintro rfl
  unfold next? at grown
  split at grown
  all_goals first
    | exact absurd rfl apart
    | cases grown

section
variable {tail next : Tail} {passedOver joined passes joins : Bool} {size : ℕ} {c : Char}

private theorem solid_of_step (apart : tail ≠ .spaces) (wide : c ≠ '\u202f')
    (grown : step tail passedOver joined size c = some (next, passes, joins)) :
    isBlank c = false ∧ next ≠ .spaces := by
  have kind (blank : isBlank c = true) := property_of_isBlank blank wide
  obtain ⟨passed, rfl, _⟩ | ⟨picture, rfl⟩ | ⟨taken, _⟩ := step_cases grown
  · refine ⟨Bool.eq_false_iff.mpr fun blank => ?_, apart⟩
    rw [Property.not_isPassedOver (kind blank).1] at passed
    exact Bool.false_ne_true passed
  · refine ⟨Bool.eq_false_iff.mpr fun blank => ?_, by simp⟩
    rw [(kind blank).2] at picture
    exact Bool.false_ne_true picture
  · refine ⟨Bool.eq_false_iff.mpr fun blank => ?_, Tail.ne_spaces_of_next? apart taken⟩
    rw [Tail.next?_blank apart (kind blank).1] at taken
    exact Option.some_ne_none _ taken.symm

end

section
variable {inner rest : Text}

private theorem solid_of_grow {tail : Tail} {passedOver joined : Bool} {size : ℕ}
    (kept : tail.settled size ≤ size) (apart : tail ≠ .spaces) (wide : '\u202f' ∉ inner)
    (taken : grow tail passedOver joined size (inner ++ rest) = size + inner.length) :
    ∀ c ∈ inner, isBlank c = false := by
  induction inner generalizing tail passedOver joined size with
  | nil => simp
  | cons c inner ih =>
    rw [List.cons_append, grow_cons, List.length_cons] at taken
    cases grown : step tail passedOver joined size c with
    | none =>
      rw [grown] at taken
      simp only at taken
      omega
    | some next =>
      obtain ⟨next, passes, joins⟩ := next
      rw [grown] at taken
      rw [List.mem_cons, not_or] at wide
      obtain ⟨solid, beyond⟩ := solid_of_step apart (Ne.symm wide.1) grown
      have others := ih (settled_le_of_step kept grown) beyond wide.2 (taken.trans (by omega))
      exact List.forall_mem_cons.mpr ⟨solid, others⟩

private theorem blank_of_grow {c : Char} {size : ℕ} (blank : isBlank c = true)
    (unmarked : (c :: inner).IsChain fun c d =>
      isBlank c = true → (property d).isPassedOver = false)
    (taken : grow .spaces false false size (inner ++ rest) = size + inner.length) :
    ∀ d ∈ inner, isBlank d = true := by
  induction inner generalizing c size with
  | nil => simp
  | cons d inner ih =>
    obtain ⟨clear, others⟩ := List.isChain_cons_cons.mp unmarked
    rw [List.cons_append, grow_cons, step_spaces, clear blank, List.length_cons] at taken
    by_cases space : property d = .space
    · have second : isBlank d = true := isBlank_of_isWhite (by rw [space]; rfl)
      rw [if_pos space] at taken
      exact List.forall_mem_cons.mpr ⟨second, ih second others (taken.trans (by omega))⟩
    · rw [if_neg space] at taken
      simp [Tail.settled] at taken

end

private theorem blank_of_firstLength {c : Char} {inner rest : Text} (blank : isBlank c = true)
    (plain : PlainSpaces (c :: inner))
    (length : firstLength c (inner ++ rest) = inner.length + 1) :
    ∀ d ∈ c :: inner, isBlank d = true := by
  cases ends : (property c).isLineBreak with
  | true => exact isBlank_of_isLineBreak ends length
  | false =>
    rw [firstLength_eq ends, Nat.add_comm] at length
    refine List.forall_mem_cons.mpr ⟨blank, ?_⟩
    by_cases space : property c = .space
    · rw [space] at length
      exact blank_of_grow blank plain.unmarked length
    · -- This is a character of no class, which only marks can join.
      have other : property c = .other :=
        (property_of_isBlank blank (List.ne_of_not_mem_cons plain.wide).symm).1.resolve_left
          fun white => space (Property.eq_space_of_isWhite white ends)
      cases inner with
      | nil => simp
      | cons d inner =>
        have clear := (List.isChain_cons_cons.mp plain.unmarked).1 blank
        rw [other] at length
        have alone := @grow_marked (d :: inner ++ rest) (by simpa using clear)
        rw [List.length_cons] at length
        exact absurd (alone.symm.trans length) (by omega)

private theorem apart_of_firstLength {c : Char} {inner rest : Text}
    (plain : PlainSpaces (c :: inner)) (length : firstLength c (inner ++ rest) = inner.length + 1)
    (mixed : (c :: inner).any isBlank = true) : allBlank (c :: inner) = true := by
  rw [allBlank, List.all_eq_true]
  cases blank : isBlank c with
  | true => exact blank_of_firstLength blank plain length
  | false =>
    have colored : ¬ (property c).isWhite = true := fun white =>
      Bool.false_ne_true (blank.symm.trans (isBlank_of_isWhite white))
    have inline : (property c).isLineBreak = false :=
      Bool.eq_false_iff.mpr fun ends => colored (Property.isWhite_of_isLineBreak ends)
    have apart : Tail.ofFirst (property c) ≠ .spaces := fun isSpaces =>
      colored (by rw [Tail.eq_space_of_ofFirst isSpaces]; rfl)
    rw [firstLength_eq inline, Nat.add_comm] at length
    have solid : ∀ d ∈ c :: inner, isBlank d = false :=
      List.forall_mem_cons.mpr ⟨blank, solid_of_grow (Tail.settled_ofFirst (property c) 1).le apart
        (List.not_mem_of_not_mem_cons plain.wide) length⟩
    obtain ⟨d, inside, isBlank⟩ := List.any_eq_true.mp mixed
    exact absurd ((solid d inside).symm.trans isBlank) Bool.false_ne_true

end WordBreak

private theorem PlainSpaces.append_left {front back : Text} (plain : PlainSpaces (front ++ back)) :
    PlainSpaces front where
  wide := mt (List.mem_append_left _) plain.wide
  unmarked := plain.unmarked.left_of_append

private theorem PlainSpaces.append_right {front back : Text} (plain : PlainSpaces (front ++ back)) :
    PlainSpaces back where
  wide := mt (List.mem_append_right _) plain.wide
  unmarked := plain.unmarked.right_of_append

/-- White space that joins nothing has its segments to itself. -/
theorem PlainSpaces.apart {text : Text} (plain : PlainSpaces text) : SpacesApart text := by
  have every (pieces : List Text) (cut : WordBreak.segments pieces.flatten = pieces)
      (plain : PlainSpaces pieces.flatten) :
      ∀ piece ∈ pieces, piece.any isBlank = true → allBlank piece = true := by
    induction pieces with
    | nil => simp
    | cons piece pieces ih =>
      obtain ⟨_, others, c, inner, rfl, length⟩ := WordBreak.exists_of_segments_eq cut
      rw [List.flatten_cons] at plain
      exact List.forall_mem_cons.mpr
        ⟨WordBreak.apart_of_firstLength plain.append_left length, ih others plain.append_right⟩
  rw [← WordBreak.flatten_segments text] at plain
  exact every _ (by rw [WordBreak.flatten_segments]) plain

/-! ## Texts of solid parts -/

structure Solid (text : Text) : Prop where
  nonempty : text ≠ []
  visible : ∀ c ∈ text, isBlank c = false

private theorem Solid.neat {text : Text} (solid : Solid text) : Neat text where
  spaces c inside blank := by
    rw [solid.visible c inside] at blank
    contradiction
  starts c first := solid.visible c (List.mem_of_mem_head? first)
  ends c last := solid.visible c (List.mem_of_mem_getLast? last)
  single := List.Pairwise.isChain (List.pairwise_of_forall_mem_list fun _ _ d inside _ =>
    solid.visible d inside)

private theorem Neat.append_space {front back : Text} (before : Neat front) (after : Neat back)
    (filled : front ≠ []) (more : back ≠ []) : Neat (front ++ ' ' :: back) where
  spaces c inside blank := by
    rcases List.mem_append.mp inside with early | late
    · exact before.spaces c early blank
    rcases List.mem_cons.mp late with rfl | later
    · rfl
    · exact after.spaces c later blank
  starts c first := before.starts c (by rwa [List.head?_append_of_ne_nil _ filled] at first)
  ends c last := by
    obtain ⟨d, rest, rfl⟩ := List.exists_cons_of_ne_nil more
    rw [List.getLast?_append_of_ne_nil _ (by simp), List.getLast?_cons_cons] at last
    exact after.ends c last
  single := by
    refine List.isChain_append.mpr ⟨before.single, ?_, ?_⟩
    · refine List.isChain_cons.mpr ⟨fun d first _ => after.starts d first, after.single⟩
    · intro c last _ _ blank
      rw [before.ends c last] at blank
      contradiction

private theorem neat_intercalate {parts : List Text} (solid : ∀ part ∈ parts, Solid part) :
    Neat ([' '].intercalate parts) := by
  induction parts with
  | nil => exact ⟨by simp, by simp, by simp, .nil⟩
  | cons part rest ih =>
    have first := solid part List.mem_cons_self
    have others := ih fun other later => solid other (List.mem_cons_of_mem _ later)
    cases rest with
    | nil =>
      rw [List.intercalate_singleton]
      exact first.neat
    | cons next further =>
      have more : [' '].intercalate (next :: further) ≠ [] := by
        rw [Headline.intercalate_cons_flatMap]
        exact List.append_ne_nil_of_left_ne_nil (solid next (by simp)).nonempty _
      rw [List.intercalate_cons_cons, List.append_assoc, List.singleton_append]
      exact first.neat.append_space others first.nonempty more

theorem neat_collapse (text : Text) : Neat (collapse text) :=
  neat_intercalate fun part listed =>
    have inside := mem_runs listed
    ⟨inside.1, fun c among => by simpa using (inside.2 c among).1⟩

end Text

namespace Headline

section
variable {style : HeadlineStyle} {isHit : Text → Bool}
  (opening : style.opening.any Text.isBlank = false)
  (closing : style.closing.any Text.isBlank = false)
include opening closing

private theorem solid_markPiece {piece : Text} (solid : Text.Solid piece) :
    Text.Solid (markPiece style isHit piece) := by
  unfold markPiece
  split_ifs
  · refine ⟨by simp [solid.nonempty], fun c inside => ?_⟩
    rcases List.mem_append.mp inside with early | late
    · rcases List.mem_append.mp early with first | among
      · exact Bool.eq_false_iff.mpr (List.any_eq_false.mp opening c first)
      · exact solid.visible c among
    · exact Bool.eq_false_iff.mpr (List.any_eq_false.mp closing c late)
  · exact solid

theorem neat_showPieces {run : List Text}
    (apart : ∀ piece ∈ run, piece.any Text.isBlank = true → Text.allBlank piece = true) :
    Text.Neat (showPieces style isHit run) := by
  refine Text.neat_intercalate fun part listed => ?_
  obtain ⟨pieces, shown, rfl⟩ := List.mem_map.mp listed
  obtain ⟨cut, nonempty⟩ := List.mem_filter.mp shown
  have solid : ∀ piece ∈ pieces, Text.Solid (markPiece style isHit piece) := by
    intro piece among
    obtain ⟨visible, inside⟩ := Text.mem_splitOnP cut piece among
    have clear : piece.any Text.isBlank = false :=
      Bool.eq_false_iff.mpr fun mixed =>
        Bool.false_ne_true (visible.symm.trans (apart piece inside mixed))
    refine solid_markPiece opening closing ⟨?_, ?_⟩
    · rintro rfl
      contradiction
    · simpa using clear
  obtain ⟨first, others, rfl⟩ := List.exists_cons_of_ne_nil
    (by simpa using nonempty : pieces ≠ [])
  refine ⟨?_, fun c inside => ?_⟩
  · rw [List.flatMap_cons]
    exact List.append_ne_nil_of_left_ne_nil (solid first List.mem_cons_self).nonempty _
  · obtain ⟨piece, among, inner⟩ := List.mem_flatMap.mp inside
    exact (solid piece among).visible c inner

theorem neat_preview {text : Text} (apart : text.SpacesApart) (context : ℕ) :
    Text.Neat (preview style context isHit text) := by
  rw [preview]
  simp only [any_isWord_segmentsOf]
  split_ifs with worded
  · have filled : wordsOf (segmentsOf isHit text) ≠ [] := by
      rw [← List.length_pos_iff] at worded ⊢
      exact worded.trans_eq (length_wordsOf_map isHit _).symm
    obtain ⟨front, back, split, _⟩ := exists_window filled style.maxWords context
    obtain ⟨shown, after, divided, isShown, _⟩ := List.map_eq_append_iff.mp split
    obtain ⟨before, run, rfl, _, isRun⟩ := List.map_eq_append_iff.mp isShown
    rw [← isRun]
    refine (join_eq_showPieces style isHit run).symm ▸ neat_showPieces opening closing ?_
    intro piece inside
    refine apart piece ?_
    rw [divided]
    simp [inside]
  · exact Text.neat_collapse text

end

end Headline

/-- A preview has single spaces only, each between other characters, if no segment of the text has
white space next to other characters and the marks around words have no white space. -/
theorem headline_neat {style : HeadlineStyle} (opening : style.opening.any Text.isBlank = false)
    (closing : style.closing.any Text.isBlank = false) {text : Text}
    (apart : text.SpacesApart) (isHit : Text → Bool) (maxWords : ℕ) :
    (headline style isHit text).Neat ∧ (excerpt maxWords text).Neat :=
  ⟨Headline.neat_preview opening closing apart _,
    @Headline.neat_preview ⟨0, maxWords, [], []⟩ _ rfl rfl text apart 0⟩

theorem headline_neat_of_two_lines :
    let style : HeadlineStyle := ⟨2, 3, "<b>".toList, "</b>".toList⟩
    let text : Text := " Klant wil  een\n\tnieuwe badkamer ".toList
    text.SpacesApart ∧ (headline style (· == "een".toList) text).Neat ∧ (excerpt 3 text).Neat := by
  intro style text
  have apart : text.SpacesApart := Text.PlainSpaces.apart ⟨by decide +kernel, by decide +kernel⟩
  exact ⟨apart, headline_neat (by decide +kernel) (by decide +kernel) apart _ 3⟩

/-- A narrow no-break space between digits stays, and so do two spaces that a mark follows. -/
example : headline ⟨6, 18, "<b>".toList, "</b>".toList⟩ (· == "euro".toList)
    "12\u202f500  \u0301 euro".toList = "12\u202f500  \u0301 <b>euro</b>".toList := by
  decide +kernel

end TenantSearch
