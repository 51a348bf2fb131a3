import TenantSearch.Proofs.Highlighting
import TenantSearch.Proofs.QueryForms

/-! Marked descriptions. A record of the catalogue is found on its description if the query stands
anywhere in it, but only words and starts of words are marked. So a mark is sure where a word of the
query is anchored: where it starts a word of the description, and is that word or long enough to
count as its start. The query stands in the folded text with its white space collapsed, the mark in
the text itself; the characters that are not white space are counted to compare the two places. -/
namespace TenantSearch

namespace Text
open Headline

/-! ## Places in a collapsed text -/

def solidCount (text : Text) : ℕ := text.countP (!isBlank ·)

private theorem solidCount_append (before after : Text) :
    solidCount (before ++ after) = solidCount before + solidCount after :=
  List.countP_append ..

def EndsAlphanumeric (text : Text) : Prop := text.getLast?.any isAlphanumeric = true

def StartsAlphanumeric (text : Text) : Prop := text.head?.any isAlphanumeric = true

instance (text : Text) : Decidable (EndsAlphanumeric text) := inferInstanceAs (Decidable (_ = true))

instance (text : Text) : Decidable (StartsAlphanumeric text) :=
  inferInstanceAs (Decidable (_ = true))

private theorem not_endsAlphanumeric_nil : ¬ EndsAlphanumeric [] := nofun

private theorem endsAlphanumeric_cons {c : Char} {text : Text} (nonempty : text ≠ []) :
    EndsAlphanumeric (c :: text) ↔ EndsAlphanumeric text := by
  obtain ⟨d, rest, rfl⟩ := List.exists_cons_of_ne_nil nonempty
  rw [EndsAlphanumeric, List.getLast?_cons_cons, EndsAlphanumeric]

private theorem EndsAlphanumeric.cons {text : Text} (ends : EndsAlphanumeric text) (c : Char) :
    EndsAlphanumeric (c :: text) := by
  refine (endsAlphanumeric_cons ?_).mpr ends
  rintro rfl
  exact not_endsAlphanumeric_nil ends

theorem collapse_eq_joinWith (text : Text) :
    collapse text = joinWith isBlank (fun c => [c]) false false text := by
  have test : (fun c => !!isBlank c) = isBlank := funext fun c => Bool.not_not _
  have each : (fun part : Text => part.flatMap fun c => [c]) = id :=
    funext List.flatMap_singleton'
  rw [joinWith_eq_intercalate, collapse, fields, runs, test, solidParts, each, List.map_id]

/-- A part of a text and the one that it becomes when white space is collapsed, each between what
stands around it. -/
structure Lifts (text before word after front rest : Text) : Prop where
  split : text = front ++ word ++ rest
  solid : solidCount front = solidCount before
  ends : EndsAlphanumeric front → EndsAlphanumeric before
  starts : StartsAlphanumeric rest → StartsAlphanumeric after

private theorem isBlank_of_head?_joinWith {text : Text} {c : Char}
    (first : c ∈ (joinWith isBlank (fun c => [c]) true true text).head?) : isBlank c = true := by
  induction text with
  | nil => contradiction
  | cons d rest ih =>
    rw [joinWith] at first
    by_cases blank : isBlank d = true
    · rw [if_pos blank] at first
      exact ih first
    · rw [if_neg blank] at first
      obtain rfl : ' ' = c := Option.some.inj first
      decide

private theorem exists_behind {text word after : Text}
    (same : joinWith isBlank (fun c => [c]) true false text = word ++ after)
    (solid : ∀ c ∈ word, isBlank c = false) :
    ∃ rest, text = word ++ rest ∧ (StartsAlphanumeric rest → StartsAlphanumeric after) := by
  induction word generalizing text with
  | nil =>
    refine ⟨text, rfl, ?_⟩
    intro starts
    cases text with
    | nil => cases starts
    | cons c rest =>
      have inside : isBlank c = false := by
        by_contra blank
        rw [Bool.not_eq_false] at blank
        exact absurd starts (by simp [StartsAlphanumeric, isAlphanumeric_of_isBlank blank])
      rw [joinWith, inside] at same
      change c :: joinWith isBlank (fun c => [c]) true false rest = after at same
      rw [← same]
      exact starts
  | cons c word ih =>
    cases text with
    | nil => cases same
    | cons d rest =>
      rw [joinWith] at same
      by_cases blank : isBlank d = true
      · rw [if_pos blank] at same
        have first := @isBlank_of_head?_joinWith rest c (by rw [same]; rfl)
        rw [solid c List.mem_cons_self] at first
        cases first
      · rw [if_neg blank] at same
        obtain ⟨rfl, others⟩ := List.cons_eq_cons.mp same
        obtain ⟨further, rfl, starts⟩ :=
          ih others fun e later => solid e (List.mem_cons_of_mem _ later)
        exact ⟨further, rfl, starts⟩

private theorem exists_lifts_cons {c : Char} {text before word after : Text}
    (same : c :: joinWith isBlank (fun c => [c]) true false text = before ++ word ++ after)
    (nonempty : word ≠ []) (solid : ∀ c ∈ word, isBlank c = false)
    (lifted : ∀ shorter,
      joinWith isBlank (fun c => [c]) true false text = shorter ++ word ++ after →
        ∃ front rest, Lifts text shorter word after front rest ∧ (front = [] → shorter = [])) :
    ∃ front rest, Lifts (c :: text) before word after front rest ∧ (front = [] → before = []) := by
  cases before with
  | nil =>
    obtain ⟨d, word, rfl⟩ := List.exists_cons_of_ne_nil nonempty
    obtain ⟨rfl, behind⟩ := List.cons_eq_cons.mp same
    obtain ⟨rest, rfl, starts⟩ :=
      exists_behind behind fun e later => solid e (List.mem_cons_of_mem _ later)
    exact ⟨[], rest, ⟨rfl, rfl, id, starts⟩, fun _ => rfl⟩
  | cons d shorter =>
    obtain ⟨rfl, others⟩ := List.cons_eq_cons.mp same
    obtain ⟨front, rest, ⟨rfl, count, ends, starts⟩, first⟩ := lifted shorter others
    refine ⟨c :: front, rest, ⟨rfl, ?_, ?_, starts⟩, fun empty => absurd empty (by simp)⟩
    · simpa [solidCount, List.countP_cons] using count
    · by_cases empty : front = []
      · rw [first empty, empty]
        exact id
      · exact fun ended => (ends ((endsAlphanumeric_cons empty).mp ended)).cons c

/-- A word of a collapsed text stands in the text itself, behind as many characters that are not
white space. -/
theorem exists_lifts {started gap : Bool} {text before word after : Text}
    (same : joinWith isBlank (fun c => [c]) started gap text = before ++ word ++ after)
    (nonempty : word ≠ []) (solid : ∀ c ∈ word, isBlank c = false) :
    ∃ front rest, Lifts text before word after front rest ∧
      (gap = false → front = [] → before = []) := by
  induction text generalizing started gap before with
  | nil =>
    have empty := List.append_eq_nil_iff.mp same.symm
    exact absurd (List.append_eq_nil_iff.mp empty.1).2 nonempty
  | cons c text ih =>
    rw [joinWith] at same
    cases blank : isBlank c with
    | true =>
      rw [if_pos blank] at same
      obtain ⟨front, rest, ⟨rfl, count, ends, starts⟩, _⟩ := ih same
      refine ⟨c :: front, rest, ⟨rfl, ?_, ?_, starts⟩, fun _ empty => absurd empty (by simp)⟩
      · simpa [solidCount, List.countP_cons, blank] using count
      · by_cases empty : front = []
        · rw [empty]
          simp [EndsAlphanumeric, isAlphanumeric_of_isBlank blank]
        · exact fun ended => ends ((endsAlphanumeric_cons empty).mp ended)
    | false =>
      rw [if_neg (by simp [blank])] at same
      have lifted (shorter : Text)
          (same : joinWith isBlank (fun c => [c]) true false text = shorter ++ word ++ after) :
          ∃ front rest, Lifts text shorter word after front rest ∧ (front = [] → shorter = []) := by
        obtain ⟨front, rest, lifts, first⟩ := ih same
        exact ⟨front, rest, lifts, first rfl⟩
      by_cases spaced : (started && gap) = true
      · rw [if_pos spaced] at same
        cases before with
        | nil =>
          obtain ⟨d, word, rfl⟩ := List.exists_cons_of_ne_nil nonempty
          obtain ⟨rfl, _⟩ := List.cons_eq_cons.mp same
          exact absurd (solid ' ' List.mem_cons_self) (by decide)
        | cons d shorter =>
          obtain ⟨rfl, others⟩ := List.cons_eq_cons.mp same
          obtain ⟨front, rest, ⟨split, count, ends, starts⟩, _⟩ :=
            exists_lifts_cons others nonempty solid lifted
          refine ⟨front, rest, ⟨split, ?_, fun ended => (ends ended).cons ' ', starts⟩, ?_⟩
          · rw [count]
            rfl
          · rintro rfl
            simp at spaced
      · rw [if_neg spaced] at same
        obtain ⟨front, rest, lifts, first⟩ := exists_lifts_cons same nonempty solid lifted
        exact ⟨front, rest, lifts, fun _ => first⟩

/-! ## Words at their places -/

private theorem EndsAlphanumeric.append {text : Text} (ends : EndsAlphanumeric text)
    (before : Text) : EndsAlphanumeric (before ++ text) := by
  induction before with
  | nil => exact ends
  | cons c rest ih => exact ih.cons c

private theorem StartsAlphanumeric.append {text : Text} (starts : StartsAlphanumeric text)
    (after : Text) : StartsAlphanumeric (text ++ after) := by
  cases text with
  | nil => cases starts
  | cons c rest => exact starts

private theorem mem_words_append {before word after : Text} (nonempty : word ≠ [])
    (alphanumeric : ∀ c ∈ word, isAlphanumeric c = true) (apart : ¬ EndsAlphanumeric before) :
    word ++ after.takeWhile isAlphanumeric ∈ words (before ++ word ++ after) := by
  have beyond : ¬ (after.dropWhile isAlphanumeric).head?.any isAlphanumeric = true := by
    cases rest : after.dropWhile isAlphanumeric with
    | nil => nofun
    | cons c others =>
      have first := List.head?_dropWhile_not isAlphanumeric after
      simpa [rest] using first
  have whole : words (word ++ after.takeWhile isAlphanumeric) =
      [word ++ after.takeWhile isAlphanumeric] := by
    have every : ∀ c ∈ word ++ after.takeWhile isAlphanumeric, (!isAlphanumeric c) = false := by
      intro c member
      rw [Bool.not_eq_false']
      rcases List.mem_append.mp member with own | more
      · exact alphanumeric c own
      · exact List.mem_takeWhile_imp more
    rw [words, runs, List.splitOnP_eq_singleton every]
    simp [nonempty]
  have split : before ++ word ++ after =
      before ++ (word ++ after.takeWhile isAlphanumeric ++ after.dropWhile isAlphanumeric) := by
    simp
  rw [split, words, runs_append fun both => apart both.1, runs_append fun both => beyond both.2]
  rw [words] at whole
  rw [whole]
  simp

private theorem endsAlphanumeric_of_forall {text : Text} (nonempty : text ≠ [])
    (alphanumeric : ∀ c ∈ text, isAlphanumeric c = true) : EndsAlphanumeric text := by
  rw [EndsAlphanumeric, List.getLast?_eq_some_getLast nonempty, Option.any_some]
  exact alphanumeric _ (List.getLast_mem nonempty)

private theorem startsAlphanumeric_of_forall {text : Text} (nonempty : text ≠ [])
    (alphanumeric : ∀ c ∈ text, isAlphanumeric c = true) : StartsAlphanumeric text := by
  rw [StartsAlphanumeric, List.head?_eq_some_head nonempty, Option.any_some]
  exact alphanumeric _ (List.head_mem nonempty)

/-- A cut that divides no word leaves each word on one side of it. -/
private theorem nil_of_apart {left right front part beyond rest : Text}
    (apart : ¬ (EndsInWord left ∧ StartsInWord right)) (ahead : fold left = front ++ part)
    (behind : fold right = beyond ++ rest)
    (alphanumeric : ∀ c ∈ part ++ beyond, isAlphanumeric c = true) : part = [] ∨ beyond = [] := by
  by_contra both
  obtain ⟨started, continued⟩ := not_or.mp both
  have ends : EndsAlphanumeric part := endsAlphanumeric_of_forall started fun c inside =>
    alphanumeric c (List.mem_append_left _ inside)
  have starts : StartsAlphanumeric beyond := startsAlphanumeric_of_forall continued fun c inside =>
    alphanumeric c (List.mem_append_right _ inside)
  refine apart ⟨?_, ?_⟩
  · change EndsAlphanumeric (fold left)
    exact ahead ▸ ends.append front
  · change StartsAlphanumeric (fold right)
    exact behind ▸ starts.append rest

open WordBreak in
private theorem exists_segment {text front word rest : Text} (plain : ∀ c ∈ text, isPlain c = true)
    (same : fold text = front ++ word ++ rest) (nonempty : word ≠ [])
    (alphanumeric : ∀ c ∈ word, isAlphanumeric c = true) :
    ∃ before piece after inner outer, segments text = before ++ piece :: after ∧
      fold piece = inner ++ word ++ outer ∧ front = fold before.flatten ++ inner ∧
        rest = outer ++ fold after.flatten := by
  revert front
  induction text using segments.induct with
  | case1 =>
    intro front same
    have empty := List.append_eq_nil_iff.mp same.symm
    exact absurd (List.append_eq_nil_iff.mp empty.1).2 nonempty
  | case2 c others length ih =>
    intro front same
    let first := c :: others.take length
    let remaining := others.drop length
    have cut : segments (c :: others) = first :: segments remaining := by rw [segments]
    have whole : c :: others = first ++ remaining :=
      congrArg (c :: ·) (List.take_append_drop ..).symm
    have later {front : Text} (same : fold remaining = front ++ word ++ rest) :
        ∃ before piece after inner outer, segments (c :: others) = before ++ piece :: after ∧
          fold piece = inner ++ word ++ outer ∧
            fold first ++ front = fold before.flatten ++ inner ∧
              rest = outer ++ fold after.flatten := by
      obtain ⟨before, piece, after, inner, outer, split, holds, ahead, behind⟩ :=
        ih (fun d listed => plain d (List.mem_cons_of_mem _ (List.mem_of_mem_drop listed))) same
      refine ⟨first :: before, piece, after, inner, outer, ?_, holds, ?_, behind⟩
      · rw [cut, split, List.cons_append]
      · rw [ahead, List.flatten_cons, fold_append, List.append_assoc]
    have here {outer : Text} (holds : fold first = front ++ word ++ outer)
        (behind : rest = outer ++ fold remaining) :
        ∃ before piece after inner outer, segments (c :: others) = before ++ piece :: after ∧
          fold piece = inner ++ word ++ outer ∧ front = fold before.flatten ++ inner ∧
            rest = outer ++ fold after.flatten :=
      ⟨[], first, segments remaining, front, outer, cut, holds, rfl,
        by rw [flatten_segments, behind]⟩
    rw [whole, fold_append, List.append_assoc, List.append_eq_append_iff] at same
    obtain ⟨front, rfl, same⟩ | ⟨part, holds, same⟩ := same
    · exact later (by rw [same, List.append_assoc])
    · rw [List.append_eq_append_iff] at same
      obtain ⟨outer, rfl, behind⟩ | ⟨beyond, rfl, behind⟩ := same
      · exact here (by rw [holds, List.append_assoc]) behind
      · -- The cut is before the word or behind it, as it divides no word.
        rcases nil_of_apart (apart_firstLength plain) holds behind alphanumeric with rfl | rfl
        · rw [List.append_nil] at holds
          have found := @later [] behind
          rwa [List.append_nil, holds] at found
        · exact @here [] (by simpa using holds) (by rw [behind, List.nil_append, List.nil_append])

/-! ## Where a query stands -/

/-- A word of a query that stands between two texts, in a place where it is looked for: a word
starts with it there, and also ends with it, or it is long enough to count as a start. -/
structure Anchor (minChars : ℕ) (before query after left word right : Text) : Prop where
  split : query = left ++ word ++ right
  nonempty : word ≠ []
  alphanumeric : ∀ c ∈ word, isAlphanumeric c = true
  starts : ¬ EndsAlphanumeric (before ++ left)
  ends : ¬ StartsAlphanumeric right
  counts : StartsAlphanumeric (right ++ after) → minChars ≤ word.length

private theorem takeWhile_of_not_starts {text : Text} (apart : ¬ StartsAlphanumeric text) :
    text.takeWhile isAlphanumeric = [] := by
  cases text with
  | nil => rfl
  | cons c rest =>
    have first : ¬ isAlphanumeric c = true := by simpa [StartsAlphanumeric] using apart
    exact List.takeWhile_cons_of_neg first

private theorem Anchor.mem_words {minChars : ℕ} {before query after left word right : Text}
    (anchor : Anchor minChars before query after left word right) : word ∈ words query := by
  have listed := @mem_words_append left word right anchor.nonempty anchor.alphanumeric
    fun ends => anchor.starts (ends.append before)
  rwa [takeWhile_of_not_starts anchor.ends, List.append_nil, ← anchor.split] at listed

/-- Whether a piece of a text, behind others, has a character in common with a part of the folded
and collapsed text. The characters are counted without the white space, so that both are counted in
one way. -/
def Overlaps (before piece lead part : Text) : Prop :=
  solidCount (fold before) < solidCount (lead ++ part) ∧
    solidCount lead < solidCount (fold (before ++ piece))

theorem exists_split_of_occursIn {part text : Text} (occurs : part.occursIn text = true) :
    ∃ before after, text = before ++ part ++ after := by
  induction text with
  | nil =>
    obtain rfl := List.isEmpty_iff.mp occurs
    exact ⟨[], [], rfl⟩
  | cons c rest ih =>
    rw [occursIn, Bool.or_eq_true] at occurs
    rcases occurs with first | later
    · obtain ⟨after, same⟩ := List.isPrefixOf_iff_prefix.mp first
      exact ⟨[], after, same.symm⟩
    · obtain ⟨before, after, rfl⟩ := ih later
      exact ⟨c :: before, after, rfl⟩

end Text

namespace Ranker

private theorem isHitWord_of_mem {ranker : Ranker} {language : Language} {minChars : ℕ} {raw : Text}
    (asked : ranker.query = .ofText language minChars raw) {piece word more : Text}
    (known : word ∈ Text.words ranker.query.folded)
    (read : word ++ more ∈ Text.words (Text.fold piece))
    (counts : more ≠ [] → minChars ≤ word.length) : ranker.isHitWord piece = true := by
  have exact_mem : word ∈ ranker.query.generic.exact := by
    rw [asked] at known ⊢
    have words : word ∈ Text.words (Text.fold raw) := by
      rwa [← Text.words_collapse]
    exact (Lexer.mem_lexemes .generic).mpr ⟨word, words, rfl⟩
  have prefixes : ranker.query.generic.prefixes =
      ranker.query.generic.exact.filter (minChars ≤ ·.length) := by
    rw [asked]
    rfl
  have hits : ranker.query.generic.hitsLexeme (word ++ more) = true := by
    rw [TokenSet.hitsLexeme, Bool.or_eq_true]
    by_cases whole : more = []
    · left
      rw [whole, List.append_nil]
      exact List.contains_iff_mem.mpr exact_mem
    · right
      refine List.any_eq_true.mpr ⟨word, ?_, ?_⟩
      · rw [prefixes, List.mem_filter]
        exact ⟨exact_mem, decide_eq_true (counts whole)⟩
      · exact List.isPrefixOf_iff_prefix.mpr (List.prefix_append ..)
  rw [isHitWord, List.any_eq_true]
  exact ⟨_, read, List.any_eq_true.mpr ⟨(.generic, ranker.query.generic), List.mem_cons_self, hits⟩⟩

/-- Where a query stands in a plain text, a segment with an anchored word of it is marked, and it
overlaps the query there. -/
theorem exists_hit_of_anchor {ranker : Ranker} {language : Language} {minChars : ℕ} {raw : Text}
    (asked : ranker.query = .ofText language minChars raw) {text : Text}
    (plain : ∀ c ∈ text, Text.isPlain c = true) {lead rest left word right : Text}
    (found : foldLiteral text = lead ++ ranker.query.folded ++ rest)
    (anchor : Text.Anchor minChars lead ranker.query.folded rest left word right) :
    ∃ before piece after, Text.WordBreak.segments text = before ++ piece :: after ∧
      piece.any Text.isAlphanumeric = true ∧ ranker.isHitWord piece = true ∧
        Text.Overlaps before.flatten piece lead ranker.query.folded := by
  have solid : ∀ c ∈ word, Text.isBlank c = false := by
    intro c inside
    by_contra blank
    rw [Bool.not_eq_false] at blank
    exact absurd (anchor.alphanumeric c inside) (by simp [Text.isAlphanumeric_of_isBlank blank])
  have same : Headline.joinWith Text.isBlank (fun c => [c]) false false (Text.fold text) =
      (lead ++ left) ++ word ++ (right ++ rest) := by
    rw [← Text.collapse_eq_joinWith, ← foldLiteral, found, anchor.split]
    simp
  obtain ⟨front, back, lifts, _⟩ := Text.exists_lifts same anchor.nonempty solid
  obtain ⟨before, piece, after, inner, outer, split, holds, ahead, behind⟩ :=
    Text.exists_segment plain lifts.split anchor.nonempty anchor.alphanumeric
  have apart : ¬ Text.EndsAlphanumeric inner := fun ends =>
    anchor.starts (lifts.ends (ahead ▸ ends.append _))
  have read := @Text.mem_words_append inner word outer anchor.nonempty anchor.alphanumeric apart
  rw [← holds] at read
  refine ⟨before, piece, after, split, ?_, ?_, ?_⟩
  · refine Text.any_isAlphanumeric_of_mem (fun c inside => plain c ?_) read
    exact Text.mem_of_mem_segments (split ▸ List.mem_append_right _ List.mem_cons_self) inside
  · refine isHitWord_of_mem asked anchor.mem_words read fun continues => ?_
    have starts : Text.StartsAlphanumeric outer := by
      by_contra other
      exact continues (Text.takeWhile_of_not_starts other)
    exact anchor.counts (lifts.starts (behind ▸ starts.append _))
  · have positive : 0 < Text.solidCount word := by
      obtain ⟨c, inside⟩ := List.exists_mem_of_ne_nil word anchor.nonempty
      exact List.countP_pos_iff.mpr ⟨c, inside, by simp [solid c inside]⟩
    have counted := lifts.solid
    rw [ahead, Text.solidCount_append, Text.solidCount_append] at counted
    constructor
    · rw [anchor.split]
      simp only [Text.solidCount_append]
      omega
    · rw [Text.fold_append, holds]
      simp only [Text.solidCount_append]
      omega

private theorem exists_split_of_ladder {ranker : Ranker} {primary : Text}
    {secondary description : Option Text} {score : Score}
    (found : ranker.ladder primary secondary description = some (score, .description)) :
    ranker.query.folded ≠ [] ∧ ∃ text, description = some text ∧
      ∃ lead rest, foldLiteral text = lead ++ ranker.query.folded ++ rest := by
  unfold ladder at found
  simp only at found
  split_ifs at found with empty _ _ _ _ _ _ part
  iterate 6 cases found
  refine ⟨mt List.isEmpty_iff.mpr empty, ?_⟩
  cases description with
  | none => cases part
  | some text => exact ⟨text, rfl, Text.exists_split_of_occursIn part⟩

end Ranker

def Record.description? : Record → Option Text
  | .catalogProduct row => row.description
  | .serviceType row => row.description
  | _ => none

namespace SearchService

private theorem exists_description {service : SearchService} {query : Text} {corpus : Corpus}
    {kinds : List RecordKind} {candidate : Candidate}
    (member : candidate ∈ service.merged query corpus kinds)
    (kind : candidate.record.kind = .catalogProduct ∨ candidate.record.kind = .serviceType)
    (landed : candidate.matchedField = .description) :
    let ranker := service.ranker query
    ranker.query.folded ≠ [] ∧ ∃ text, candidate.record.description? = some text ∧
      candidate.preview = .marked text ∧
      ∃ lead rest, foldLiteral text = lead ++ ranker.query.folded ++ rest := by
  intro ranker
  have found := service.ofRecord_of_mem_merged query member
  generalize candidate.record = record at kind found
  cases record with
  | lead | quote | partner | appointment => simp [Record.kind] at kind
  | catalogProduct product =>
    obtain ⟨⟨score, rung⟩, ladder, rfl⟩ := Option.map_eq_some_iff.mp found
    cases rung with
    | primary | secondary => cases landed
    | description =>
      obtain ⟨asked, text, given, occurs⟩ := Ranker.exists_split_of_ladder ladder
      refine ⟨asked, text, given, ?_, occurs⟩
      simp [Candidate.previewOf, given]
  | serviceType row =>
    obtain ⟨⟨score, rung⟩, ladder, rfl⟩ := Option.map_eq_some_iff.mp found
    cases rung with
    | primary | secondary => cases landed
    | description =>
      obtain ⟨asked, text, given, occurs⟩ := Ranker.exists_split_of_ladder ladder
      refine ⟨asked, text, given, ?_, occurs⟩
      simp [Candidate.previewOf, given]

/-- A record of the catalogue that is found on its description is shown with it, as the query
stands in it. Where a word of the query is anchored in a plain description, the word of the
description there is one that is marked: it overlaps the query, some such word is marked in the
preview, and that one itself is if none comes before it or if the preview shows all words. -/
theorem exists_marked_description {settings : Settings} (valid : settings.check = .ok settings)
    {service : SearchService} (uses : service.settings = settings.search) (query : Text)
    (corpus : Corpus) (kinds : List RecordKind) {candidate : Candidate}
    (member : candidate ∈ service.merged query corpus kinds)
    (kind : candidate.record.kind = .catalogProduct ∨ candidate.record.kind = .serviceType)
    (landed : candidate.matchedField = .description) :
    let ranker := service.ranker query
    let style := headlineStyle service.settings
    let folded := ranker.query.folded
    let Marked (word : Text) := ∃ front back, candidate.preview? ranker style =
      some (front ++ style.opening ++ word ++ style.closing ++ back)
    folded ≠ [] ∧ ∃ text, candidate.record.description? = some text ∧
      (∃ lead rest, foldLiteral text = lead ++ folded ++ rest) ∧
      ((∀ c ∈ text, Text.isPlain c = true) → ∀ lead rest left word right,
        foldLiteral text = lead ++ folded ++ rest →
        Text.Anchor service.settings.prefixMinChars lead folded rest left word right →
        let pieces := Text.WordBreak.segments text
        ∃ before piece after, pieces = before ++ piece :: after ∧
          piece.any Text.isAlphanumeric = true ∧ ranker.isHitWord piece = true ∧
          Text.Overlaps before.flatten piece lead folded ∧
          (∃ hit ∈ pieces, hit.any Text.isAlphanumeric = true ∧ ranker.isHitWord hit = true ∧
            Marked hit) ∧
          ((∀ earlier ∈ before, earlier.any Text.isAlphanumeric = true →
              ranker.isHitWord earlier = false) ∨
            (Headline.wordPieces pieces).length ≤ style.maxWords → Marked piece)) := by
  intro ranker style folded Marked
  obtain ⟨asked, text, described, marked, stands⟩ := exists_description member kind landed
  refine ⟨asked, text, described, stands, ?_⟩
  intro plain lead rest left word right found anchor pieces
  obtain ⟨_, ordered, opening, _⟩ := Settings.snippet_of_check valid
  rw [← uses] at ordered opening
  have shows {hit : Text} (headlined : ∃ front back, headline style ranker.isHitWord text =
      front ++ style.opening ++ hit ++ style.closing ++ back) : Marked hit :=
    Candidate.exists_preview?_of_headline marked opening headlined
  obtain ⟨before, piece, after, split, isWord, hits, overlaps⟩ :=
    @Ranker.exists_hit_of_anchor ranker service.language service.settings.prefixMinChars query rfl
      text plain lead rest left word right found anchor
  refine ⟨before, piece, after, split, isWord, hits, overlaps, ?_, ?_⟩
  · obtain ⟨hit, listed, isWord, hits, headlined⟩ := @exists_marked_headline style ordered
      ranker.isHitWord text
      ⟨piece, split ▸ List.mem_append_right _ List.mem_cons_self, isWord, hits⟩
    exact ⟨hit, listed, isWord, hits, shows headlined⟩
  · intro near
    exact shows (@exists_marked_piece style ordered _ _ _ _ _ split isWord hits near)

/-- A gutter bracket is found with the gutter that its description names, and shows it. -/
theorem exists_marked_description_of_bracket :
    let settings : Settings := ⟨⟨"127.0.0.1:8080".toList, "info".toList⟩, ⟨"crm".toList, 8⟩, {}⟩
    let service : SearchService := ⟨settings.search, .dutch, Store.sample.source .none, rfl⟩
    let ranker := service.ranker "dakgoot".toList
    let description := "Past op elke dakgoot.".toList
    let corpus : Corpus := { Store.sample.corpus ⟨7⟩ with
      catalogProducts := [⟨⟨9⟩, "Beugel".toList, none, some description, .epoch⟩] }
    settings.check = .ok settings ∧
      ∃ candidate ∈ service.merged "dakgoot".toList corpus [.catalogProduct],
        candidate.matchedField = .description ∧
          ∃ before piece after, Text.WordBreak.segments description = before ++ piece :: after ∧
            ranker.isHitWord piece = true ∧
            Text.Overlaps before.flatten piece "past op elke ".toList "dakgoot".toList ∧
            ∃ front back, candidate.preview? ranker (headlineStyle service.settings) =
              some (front ++ "<mark>".toList ++ piece ++ "</mark>".toList ++ back) := by
  intro settings service ranker description corpus
  have valid : settings.check = .ok settings :=
    Settings.check_defaults (by decide) (by decide) (by decide)
  have listed : ∃ candidate ∈ service.candidates "dakgoot".toList corpus [.catalogProduct],
      candidate.record.kind = .catalogProduct ∧ candidate.matchedField = .description ∧
        candidate.record.description? = some description := by
    decide +kernel
  obtain ⟨candidate, found, kind, landed, described⟩ := listed
  have member := (service.mem_merged "dakgoot".toList).mpr found
  obtain ⟨_, text, same, _, marks⟩ := @exists_marked_description settings valid service rfl
    "dakgoot".toList corpus [.catalogProduct] candidate member (.inl kind) landed
  obtain rfl := Option.some.inj (described.symm.trans same)
  have folded : ranker.query.folded = "dakgoot".toList := by decide +kernel
  have plain : description.all Text.isPlain = true := by decide +kernel
  have stands : foldLiteral description =
      "past op elke ".toList ++ "dakgoot".toList ++ ".".toList := by
    decide +kernel
  have anchor : Text.Anchor service.settings.prefixMinChars "past op elke ".toList
      ranker.query.folded ".".toList [] "dakgoot".toList [] :=
    ⟨folded, by decide, List.all_eq_true.mp (by decide +kernel), by decide +kernel,
      by decide +kernel, fun continues => absurd continues (by decide +kernel)⟩
  obtain ⟨before, piece, after, split, _, hits, overlaps, _, near⟩ :=
    marks (List.all_eq_true.mp plain) _ _ _ _ _ (folded.symm ▸ stands) anchor
  exact ⟨valid, candidate, member, landed, before, piece, after, split, hits, folded ▸ overlaps,
    near (.inr (by decide +kernel))⟩

/-- A query that stands inside of a word is found, but no word starts with it. -/
example :
    let ranker : Ranker := ⟨.ofText .dutch 3 "akgoo".toList, .dutch, {}⟩
    let style : HeadlineStyle := ⟨6, 18, "<mark>".toList, "</mark>".toList⟩
    let description := "Past op elke dakgoot.".toList
    (ranker.ladder "Beugel".toList none (some description)).map (·.2) = some .description ∧
      headline style ranker.isHitWord description = description := by
  decide +kernel

end SearchService

end TenantSearch
