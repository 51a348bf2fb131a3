import TenantSearch.Proofs.WordSegments

/-! Where segments end. A segment grows character by character, and whether it ends depends on what
follows: a punctuation mark belongs to it only if a letter or a digit comes behind. So what follows
cannot be replaced at will, but it may be cut off, and its white space may become a space. With a
space in front, a segment stays what it is, or it takes the space up if it starts with a mark or
with a space itself. -/
namespace TenantSearch.Text.WordBreak

/-! ## Steps of a growing segment -/

/-- What a growing segment of `size` characters becomes with one more character: its end and what it
has passed over, or none if a boundary stands before the character. -/
def step (tail : Tail) (passedOver joined : Bool) (size : ℕ) (c : Char) :
    Option (Tail × Bool × Bool) :=
  if (property c).isPassedOver then some (tail, true, property c == .joiner)
  else if joined && isPictographic c then some (.pictograph, passedOver, false)
  else (tail.next? size passedOver (property c)).map (·, passedOver, false)

theorem grow_cons (tail : Tail) (passedOver joined : Bool) (size : ℕ) (c : Char) (rest : Text) :
    grow tail passedOver joined size (c :: rest) =
      match step tail passedOver joined size c with
      | some (next, passedOver, joined) => grow next passedOver joined (size + 1) rest
      | none => tail.settled size := by
  rw [grow, step]
  by_cases passed : (property c).isPassedOver = true
  · rw [if_pos passed, if_pos passed]
  rw [if_neg passed, if_neg passed]
  by_cases picture : (joined && isPictographic c) = true
  · rw [if_pos picture, if_pos picture]
  · rw [if_neg picture, if_neg picture]
    cases tail.next? size passedOver (property c) <;> rfl

section
variable {tail next : Tail} {passedOver passes joined joins : Bool} {size : ℕ} {c : Char}

/-- What a segment can take up: a mark that is passed over, a pictograph behind a joiner, or a
character that its end allows. -/
theorem step_cases (grown : step tail passedOver joined size c = some (next, passes, joins)) :
    ((property c).isPassedOver = true ∧ next = tail ∧ passes = true) ∨
      (isPictographic c = true ∧ next = .pictograph) ∨
      (tail.next? size passedOver (property c) = some next ∧ passes = passedOver) := by
  unfold step at grown
  split_ifs at grown with passed picture
  · simp only [Option.some.injEq, Prod.mk.injEq] at grown
    exact .inl ⟨passed, grown.1.symm, grown.2.1.symm⟩
  · simp only [Option.some.injEq, Prod.mk.injEq] at grown
    exact .inr (.inl ⟨(Bool.and_eq_true_iff.mp picture).2, grown.1.symm⟩)
  · obtain ⟨other, taken, same⟩ := Option.map_eq_some_iff.mp grown
    simp only [Prod.mk.injEq] at same
    exact .inr (.inr ⟨same.1 ▸ taken, same.2.1.symm⟩)

private theorem Tail.settled_of_next? {kind : Property}
    (grown : tail.next? size passedOver kind = some next) :
    next.settled (size + 1) = tail.settled size ∨ next.settled (size + 1) = size + 1 := by
  unfold next? at grown
  split at grown
  all_goals first
    | cases grown
    | cases (Option.ite_none_left_eq_some.mp grown).2
  all_goals first
    | exact .inr rfl
    | exact .inl rfl

private theorem Tail.settled_succ (tail : Tail) (size : ℕ) :
    tail.settled (size + 1) = tail.settled size ∨ tail.settled (size + 1) = size + 1 := by
  cases tail
  case midLetter | midHebrew | midNumber => exact .inl rfl
  all_goals exact .inr rfl

private theorem settled_of_step
    (grown : step tail passedOver joined size c = some (next, passes, joins)) :
    next.settled (size + 1) = tail.settled size ∨ next.settled (size + 1) = size + 1 := by
  obtain ⟨_, rfl, _⟩ | ⟨_, rfl⟩ | ⟨taken, _⟩ := step_cases grown
  · exact Tail.settled_succ _ size
  · exact .inr rfl
  · exact Tail.settled_of_next? taken

theorem settled_le_of_step (kept : tail.settled size ≤ size)
    (grown : step tail passedOver joined size c = some (next, passes, joins)) :
    next.settled (size + 1) ≤ size + 1 := by
  rcases settled_of_step grown with same | whole <;> omega

private theorem spaces_of_step
    (grown : step tail passedOver joined size c = some (.spaces, false, joins)) :
    tail = .spaces ∧ passedOver = false ∧ property c = .space := by
  obtain ⟨_, _, passed⟩ | ⟨_, picture⟩ | ⟨taken, clear⟩ := step_cases grown
  · exact absurd passed Bool.false_ne_true
  · cases picture
  · subst clear
    unfold Tail.next? at taken
    split at taken
    all_goals cases taken
    next space => exact ⟨rfl, rfl, space⟩

private theorem step_space (apart : tail = .spaces → passedOver = true) :
    step tail passedOver joined size ' ' = none := by
  have space : property ' ' = .space ∧ isPictographic ' ' = false := by decide +kernel
  have refused : tail.next? size passedOver .space = none := by
    cases tail
    case spaces => exact if_pos (apart rfl)
    all_goals rfl
  rw [step, space.1, space.2, refused]
  simp [Property.isPassedOver]

end

/-! ## The end of a segment -/

private theorem grow_eq_or (tail : Tail) (passedOver joined : Bool) (size : ℕ) (rest : Text) :
    grow tail passedOver joined size rest = tail.settled size ∨
      size < grow tail passedOver joined size rest := by
  induction rest generalizing tail passedOver joined size with
  | nil => exact .inl rfl
  | cons c rest ih =>
    rw [grow_cons]
    cases grown : step tail passedOver joined size c with
    | none => exact .inl rfl
    | some taken =>
      obtain ⟨next, passes, joins⟩ := taken
      rcases ih next passes joins (size + 1) with same | more
      · rcases settled_of_step grown with kept | whole
        · exact .inl (same.trans kept)
        · exact .inr (by simp only [same, whole, Nat.lt_succ_self])
      · exact .inr (Nat.lt_of_succ_lt more)

/-- A text that may stand behind a segment in place of another one: the other one is cut off after
some characters, or up to white space that a space stands for. -/
inductive Follows : Text → Text → Prop
  | ended (text : Text) : Follows text []
  | spaced {c : Char} (blank : isBlank c = true) (text other : Text) :
    Follows (c :: text) (' ' :: other)
  | cons (c : Char) {text other : Text} (follows : Follows text other) :
    Follows (c :: text) (c :: other)

theorem Follows.append {text other : Text} (follows : Follows text other) (before : Text) :
    Follows (before ++ text) (before ++ other) := by
  induction before with
  | nil => exact follows
  | cons c rest ih => exact ih.cons c

section
variable {tail : Tail} {passedOver joined : Bool} {size : ℕ} {text other : Text}
  (kept : tail.settled size ≤ size) (follows : Follows text other)
include kept follows

theorem grow_follows (apart : tail = .spaces → passedOver = true)
    (ended : grow tail passedOver joined size text = tail.settled size) :
    grow tail passedOver joined size other = tail.settled size := by
  -- The segment may look past its end; what it then is ends there as well, and keeps as much.
  induction follows generalizing tail passedOver joined size with
  | ended => rfl
  | spaced blank text other => rw [grow_cons, step_space apart]
  | cons c follows ih =>
    rw [grow_cons] at ended ⊢
    cases grown : step tail passedOver joined size c with
    | none => rfl
    | some taken =>
      obtain ⟨next, passes, joins⟩ := taken
      rw [grown] at ended
      simp only at ended ⊢
      have within := settled_le_of_step kept grown
      have beyond : next = .spaces → passes = true := by
        rintro rfl
        cases passes with
        | true => rfl
        | false =>
          obtain ⟨isSpaces, clear, _⟩ := spaces_of_step grown
          exact clear.symm.trans (apart isSpaces)
      rcases grow_eq_or next passes joins (size + 1) _ with same | more
      · rw [ih within beyond same, ← ended, same]
      · omega

theorem grow_append_follows {piece : Text}
    (apart : tail = .spaces → passedOver = false → ∃ c ∈ piece, property c ≠ .space)
    (whole : grow tail passedOver joined size (piece ++ text) = size + piece.length) :
    grow tail passedOver joined size (piece ++ other) = size + piece.length := by
  induction piece generalizing tail passedOver joined size with
  | nil =>
    have still : tail = .spaces → passedOver = true := by
      intro isSpaces
      by_contra clear
      obtain ⟨c, inside, _⟩ := apart isSpaces (Bool.eq_false_iff.mpr clear)
      contradiction
    rw [List.nil_append, List.length_nil, Nat.add_zero] at whole ⊢
    rcases grow_eq_or tail passedOver joined size text with same | more
    · rw [grow_follows kept follows still same, ← same, whole]
    · omega
  | cons c piece ih =>
    rw [List.cons_append, grow_cons, List.length_cons] at whole ⊢
    cases grown : step tail passedOver joined size c with
    | none =>
      rw [grown] at whole
      simp only at whole
      omega
    | some taken =>
      obtain ⟨next, passes, joins⟩ := taken
      rw [grown] at whole
      simp only at whole ⊢
      have within := settled_le_of_step kept grown
      have beyond : next = .spaces → passes = false → ∃ c ∈ piece, property c ≠ .space := by
        rintro rfl rfl
        obtain ⟨isSpaces, clear, space⟩ := spaces_of_step grown
        obtain ⟨d, inside, solid⟩ := apart isSpaces clear
        rcases List.mem_cons.mp inside with rfl | later
        · contradiction
        · exact ⟨d, later, solid⟩
      have length : size + (piece.length + 1) = size + 1 + piece.length := by omega
      rw [length] at whole ⊢
      exact ih within beyond whole

end

/-! ## The first segment -/

def Property.isWhite : Property → Bool
  | .space | .carriageReturn | .lineFeed | .newline => true
  | _ => false

theorem isBlank_of_isWhite {c : Char} (white : (property c).isWhite = true) : isBlank c = true := by
  have every : propertyTree.all (fun row => !row.value.isWhite ||
      (List.range (row.last - row.first + 1)).all fun step =>
        isBlank (Char.ofNat (row.first + step))) = true := by
    decide +kernel
  unfold property at white
  cases found : propertyTree.find? c.toNat with
  | none => rw [found] at white; contradiction
  | some row =>
    rw [found] at white
    obtain ⟨blanks, above, below⟩ := RangeTree.test_of_find? every found
    simp only at white
    rw [white, Bool.not_true, Bool.false_or, List.all_eq_true] at blanks
    have blank := blanks (c.toNat - row.first) (List.mem_range.mpr (by omega))
    rwa [Nat.add_sub_cancel' above, Char.ofNat_toNat] at blank

def Tail.ofFirst : Property → Tail
  | .letter => .letter
  | .hebrewLetter => .hebrew
  | .numeric => .numeric
  | .katakana => .katakana
  | .connector => .connector
  | .regionalIndicator => .flagHalf
  | .joiner => .joiner
  | .space => .spaces
  | _ => .marked

def Property.isLineBreak : Property → Bool
  | .carriageReturn | .lineFeed | .newline => true
  | _ => false

private theorem Tail.start?_eq {first : Property} (inline : first.isLineBreak = false)
    (next : Option Property) :
    start? first next = if ofFirst first = .marked ∧ next.any Property.isPassedOver = false
      then none else some (ofFirst first) := by
  cases first
  case carriageReturn | lineFeed | newline => contradiction
  all_goals cases passed : next.any Property.isPassedOver <;> simp [start?, ofFirst, passed]

private theorem Tail.start?_lineBreak {first : Property} (ends : first.isLineBreak = true)
    (next : Option Property) : start? first next = none := by
  cases first
  case carriageReturn | lineFeed | newline => rfl
  all_goals contradiction

theorem Tail.settled_ofFirst (first : Property) (size : ℕ) :
    (ofFirst first).settled size = size := by
  cases first <;> rfl

private theorem Tail.next?_marked (size : ℕ) (passedOver : Bool) (kind : Property) :
    next? .marked size passedOver kind = none := by
  cases kind <;> rfl

theorem grow_marked {rest : Text}
    (apart : (rest.head?.map property).any Property.isPassedOver = false) :
    grow .marked false false 1 rest = 1 := by
  cases rest with
  | nil => rfl
  | cons c rest =>
    have clear : (property c).isPassedOver = false := by simpa using apart
    rw [grow_cons, step, clear, Tail.next?_marked]
    rfl

theorem firstLength_eq {c : Char} (inline : (property c).isLineBreak = false) (rest : Text) :
    firstLength c rest =
      grow (Tail.ofFirst (property c)) false (property c == .joiner) 1 rest := by
  unfold firstLength
  simp only
  split
  · next isReturn _ =>
    rw [isReturn] at inline
    contradiction
  · rw [Tail.start?_eq inline]
    split_ifs with ended
    · have other : (property c == .joiner) = false := by
        rw [beq_eq_false_iff_ne]
        intro joiner
        rw [joiner] at ended
        cases ended.1
      rw [ended.1, other, grow_marked ended.2]
    · rfl

private theorem grow_le {tail : Tail} {size : ℕ} (kept : tail.settled size ≤ size)
    (passedOver joined : Bool) (rest : Text) :
    grow tail passedOver joined size rest ≤ size + rest.length := by
  induction rest generalizing tail passedOver joined size with
  | nil => exact kept
  | cons c rest ih =>
    rw [grow_cons, List.length_cons]
    cases grown : step tail passedOver joined size c with
    | none => simp only; omega
    | some taken =>
      obtain ⟨next, passes, joins⟩ := taken
      have := ih (settled_le_of_step kept grown) passes joins
      simp only
      omega

private theorem firstLength_bounds (c : Char) (rest : Text) :
    0 < firstLength c rest ∧ firstLength c rest ≤ rest.length + 1 := by
  cases inline : (property c).isLineBreak with
  | false =>
    rw [firstLength_eq inline]
    have settled := Tail.settled_ofFirst (property c) 1
    have below := grow_le settled.le false (property c == .joiner) rest
    have above := grow_eq_or (Tail.ofFirst (property c)) false (property c == .joiner) 1 rest
    omega
  | true =>
    unfold firstLength
    simp only
    split
    · next lineFeed =>
      cases rest with
      | nil => exact absurd lineFeed (by simp)
      | cons d rest => simp
    · rw [Tail.start?_lineBreak inline]
      simp

/-! ## Segments of a text -/

theorem segments_append {c : Char} {piece rest : Text}
    (length : firstLength c (piece ++ rest) = piece.length + 1) :
    segments (c :: piece ++ rest) = (c :: piece) :: segments rest := by
  rw [List.cons_append, segments]
  simp only [length, Nat.add_sub_cancel, List.take_left', List.drop_left']

theorem exists_of_segments_eq {text piece : Text} {pieces : List Text}
    (cut : segments text = piece :: pieces) :
    text = piece ++ pieces.flatten ∧ segments pieces.flatten = pieces ∧
      ∃ c inner, piece = c :: inner ∧
        firstLength c (inner ++ pieces.flatten) = inner.length + 1 := by
  cases text with
  | nil => simp [segments] at cut
  | cons c others =>
    rw [segments] at cut
    obtain ⟨rfl, rfl⟩ := List.cons_eq_cons.mp cut
    rw [flatten_segments]
    refine ⟨by simp, rfl, c, _, rfl, ?_⟩
    obtain ⟨positive, within⟩ := firstLength_bounds c others
    rw [List.take_append_drop, List.length_take]
    omega

theorem Property.isWhite_of_isLineBreak {kind : Property} (ends : kind.isLineBreak = true) :
    kind.isWhite = true := by
  cases kind
  case carriageReturn | lineFeed | newline => rfl
  all_goals exact absurd ends Bool.false_ne_true

theorem Tail.eq_space_of_ofFirst {first : Property} (isSpaces : ofFirst first = .spaces) :
    first = .space := by
  cases first <;> first | rfl | exact absurd isSpaces (by decide)

theorem isBlank_of_isLineBreak {c : Char} {inner rest : Text}
    (ends : (property c).isLineBreak = true)
    (length : firstLength c (inner ++ rest) = inner.length + 1) :
    ∀ d ∈ c :: inner, isBlank d = true := by
  have first : isBlank c = true := isBlank_of_isWhite (Property.isWhite_of_isLineBreak ends)
  unfold firstLength at length
  simp only at length
  split at length
  · next lineFeed =>
    obtain ⟨d, rfl⟩ := List.length_eq_one_iff.mp (Nat.succ.inj length).symm
    have second : (property d).isWhite = true := by
      rw [Option.some.inj lineFeed]
      rfl
    simp only [List.mem_cons, List.not_mem_nil, or_false, forall_eq_or_imp, forall_eq]
    exact ⟨first, isBlank_of_isWhite second⟩
  · rw [Tail.start?_lineBreak ends] at length
    obtain rfl := List.length_eq_zero_iff.mp (Nat.succ.inj length).symm
    rwa [List.forall_mem_singleton]

section
variable {piece : Text} (solid : ∃ c ∈ piece, isBlank c = false)
include solid

/-- A segment that is not all white space stays one before another text that may follow it. -/
theorem segments_follows {text other : Text}
    (cut : segments (piece ++ text) = piece :: segments text) (follows : Follows text other) :
    segments (piece ++ other) = piece :: segments other := by
  obtain ⟨_, _, c, inner, rfl, length⟩ := exists_of_segments_eq cut
  rw [flatten_segments] at length
  apply segments_append
  obtain ⟨d, inside, visible⟩ := solid
  cases ends : (property c).isLineBreak with
  | true =>
    have blank := isBlank_of_isLineBreak ends length d inside
    exact absurd (visible.symm.trans blank) Bool.false_ne_true
  | false =>
    rw [firstLength_eq ends, Nat.add_comm] at length ⊢
    refine grow_append_follows (Tail.settled_ofFirst ..).le follows (fun isSpaces _ => ?_) length
    -- A segment that starts with a space has the visible character behind it.
    have other {e : Char} (isSpace : property e = .space) : e ≠ d := by
      rintro rfl
      have white : (property e).isWhite = true := by
        rw [isSpace]
        rfl
      exact Bool.false_ne_true (visible.symm.trans (isBlank_of_isWhite white))
    rcases List.mem_cons.mp inside with rfl | later
    · exact absurd rfl (other (Tail.eq_space_of_ofFirst isSpaces))
    · exact ⟨d, later, fun isSpace => other isSpace rfl⟩

end

/-! ## A space in front -/

/-- Whether a segment takes up nothing but marks and pictographs behind joiners. -/
def Tail.isInert : Tail → Bool → Bool
  | .joiner, _ | .marked, _ | .pictograph, _ => true
  | .spaces, passedOver => passedOver
  | _, _ => false

section
variable {tail other : Tail} {passedOver passes : Bool}

private theorem step_inert (inert : tail.isInert passedOver = true) (joined : Bool) (size : ℕ)
    (c : Char) : step tail passedOver joined size c =
      if (property c).isPassedOver then some (tail, true, property c == .joiner)
      else if joined && isPictographic c then some (.pictograph, passedOver, false)
      else none := by
  have refused : tail.next? size passedOver (property c) = none := by
    cases tail
    case spaces =>
      obtain rfl : passedOver = true := inert
      cases property c <;> rfl
    case joiner | marked | pictograph => cases property c <;> rfl
    all_goals exact absurd inert Bool.false_ne_true
  rw [step, refused, Option.map_none]

private theorem Tail.settled_of_isInert (inert : tail.isInert passedOver = true) (size : ℕ) :
    tail.settled size = size := by
  cases tail
  case joiner | marked | pictograph | spaces => rfl
  all_goals exact absurd inert Bool.false_ne_true

private theorem grow_inert (inert : tail.isInert passedOver = true)
    (alike : other.isInert passes = true) (joined : Bool) (size : ℕ) (rest : Text) :
    grow tail passedOver joined (size + 1) rest = grow other passes joined size rest + 1 := by
  induction rest generalizing tail other passedOver passes joined size with
  | nil => exact (Tail.settled_of_isInert inert _).trans (congrArg (· + 1)
      (Tail.settled_of_isInert alike _).symm)
  | cons c rest ih =>
    rw [grow_cons, grow_cons, step_inert inert, step_inert alike]
    by_cases passed : (property c).isPassedOver = true
    · rw [if_pos passed, if_pos passed]
      refine ih ?_ ?_ _ _
      · cases tail <;> first | rfl | exact absurd inert Bool.false_ne_true
      · cases other <;> first | rfl | exact absurd alike Bool.false_ne_true
    rw [if_neg passed, if_neg passed]
    by_cases picture : (joined && isPictographic c) = true
    · rw [if_pos picture, if_pos picture]
      exact ih rfl rfl _ _
    · rw [if_neg picture, if_neg picture]
      simp only [Tail.settled_of_isInert inert, Tail.settled_of_isInert alike]

end

theorem step_spaces (joined : Bool) (size : ℕ) (c : Char) :
    step .spaces false joined size c =
      if (property c).isPassedOver then some (.spaces, true, property c == .joiner)
      else if joined && isPictographic c then some (.pictograph, false, false)
      else if property c = .space then some (.spaces, false, false)
      else none := by
  have taken : Tail.next? .spaces size false (property c) =
      if property c = .space then some .spaces else none := by
    cases property c <;> rfl
  rw [step, taken]
  by_cases space : property c = .space
  · rw [if_pos space, if_pos space]
    rfl
  · rw [if_neg space, if_neg space]
    rfl

private theorem grow_spaces (joined : Bool) (size : ℕ) (rest : Text) :
    grow .spaces false joined (size + 1) rest = grow .spaces false joined size rest + 1 := by
  induction rest generalizing joined size with
  | nil => rfl
  | cons c rest ih =>
    rw [grow_cons, grow_cons, step_spaces, step_spaces]
    split_ifs
    · exact grow_inert rfl rfl _ _ _
    · exact grow_inert rfl rfl _ _ _
    · exact ih _ _
    · rfl

private theorem Property.inert_of_isPassedOver {kind : Property}
    (passed : kind.isPassedOver = true) :
    kind.isLineBreak = false ∧ (Tail.ofFirst kind).isInert false = true := by
  cases kind
  case extend | joiner | format => exact ⟨rfl, rfl⟩
  all_goals exact absurd passed Bool.false_ne_true

/-- A space in front of a segment becomes a part of it or a segment of its own. -/
theorem segments_space {piece text : Text}
    (cut : segments (piece ++ text) = piece :: segments text) :
    segments (' ' :: (piece ++ text)) = (' ' :: piece) :: segments text ∨
      segments (' ' :: (piece ++ text)) = [' '] :: piece :: segments text := by
  obtain ⟨_, _, c, inner, rfl, length⟩ := exists_of_segments_eq cut
  rw [flatten_segments] at length
  have space : property ' ' = .space := by decide +kernel
  have first : firstLength ' ' (c :: (inner ++ text)) =
      grow .spaces false false 1 (c :: (inner ++ text)) := by
    rw [firstLength_eq (by rw [space]; rfl), space]
    rfl
  -- The segment of the space is one longer than the piece, or it has the space alone.
  have joins (longer : grow .spaces false false 1 (c :: (inner ++ text)) = inner.length + 1 + 1) :
      segments (' ' :: (c :: inner ++ text)) = (' ' :: c :: inner) :: segments text :=
    @segments_append ' ' (c :: inner) text (first.trans longer)
  rw [grow_cons, step_spaces, Bool.false_and, if_neg Bool.false_ne_true] at joins first
  by_cases passed : (property c).isPassedOver = true
  · obtain ⟨inline, inert⟩ := Property.inert_of_isPassedOver passed
    rw [firstLength_eq inline] at length
    rw [if_pos passed] at joins
    exact .inl (joins ((grow_inert rfl inert _ _ _).trans (congrArg (· + 1) length)))
  rw [if_neg passed] at joins first
  by_cases spaces : property c = .space
  · rw [firstLength_eq (by rw [spaces]; rfl), spaces] at length
    rw [if_pos spaces] at joins
    exact .inl (joins ((grow_spaces _ _ _).trans (congrArg (· + 1) length)))
  · rw [if_neg spaces] at first
    right
    rw [← cut]
    exact @segments_append ' ' [] _ first

end TenantSearch.Text.WordBreak
