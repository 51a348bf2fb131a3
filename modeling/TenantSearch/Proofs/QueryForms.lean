import TenantSearch.Proofs.Footprint
import TenantSearch.Proofs.FoldedText

/-! Queries that look the same. A query is folded as a whole and read word by word, but its words
can be read off the folded form as well: collapsing white space moves no boundary between words. So
queries of one folded form are one query, and searching for them gives the same answer. -/
namespace TenantSearch

namespace Text

/-! ## Collapsed white space -/

section
variable {test : Char → Bool}

theorem runs_nil : runs test [] = [] := by
  simp [runs]

private theorem runs_cons {c : Char} (outside : test c = false) (text : Text) :
    runs test (c :: text) = runs test text := by
  rw [← List.nil_append (c :: text), runs_append_cons outside, runs_nil, List.nil_append]

private theorem runs_outside_append {outside : Text} (apart : ∀ c ∈ outside, test c = false)
    (text : Text) : runs test (outside ++ text) = runs test text := by
  induction outside with
  | nil => rfl
  | cons c rest ih =>
    rw [List.cons_append, runs_cons (apart c List.mem_cons_self)]
    exact ih fun d later => apart d (List.mem_cons_of_mem _ later)

private theorem runs_append_outside {outside : Text} (apart : ∀ c ∈ outside, test c = false)
    (text : Text) : runs test (text ++ outside) = runs test text := by
  cases outside with
  | nil => rw [List.append_nil]
  | cons c rest =>
    have nothing := runs_outside_append (fun d later => apart d (List.mem_cons_of_mem _ later)) []
    rw [List.append_nil, runs_nil] at nothing
    rw [runs_append_cons (apart c List.mem_cons_self), nothing, List.append_nil]

private theorem flatMap_runs_splitOnP {separates : Char → Bool}
    (apart : ∀ c, separates c = true → test c = false) (text : Text) :
    (text.splitOnP separates).flatMap (runs test) = runs test text := by
  have pieces (before : Text) (whole : ∀ c ∈ before, separates c = false) :
      ((before ++ text).splitOnP separates).flatMap (runs test) = runs test (before ++ text) := by
    -- The piece that is being read is generalized, as it grows until a separator ends it.
    induction text generalizing before with
    | nil =>
      rw [List.append_nil, List.splitOnP_eq_singleton whole, List.flatMap_singleton]
    | cons c rest ih =>
      by_cases ended : separates c = true
      · rw [List.splitOnP_append_cons_of_forall_mem whole c ended, List.flatMap_cons,
          runs_append_cons (apart c ended)]
        congr 1
        exact ih [] (by simp)
      · rw [← List.singleton_append, ← List.append_assoc]
        apply ih
        intro d member
        rcases List.mem_append.mp member with inside | last
        · exact whole d inside
        · rw [List.mem_singleton.mp last]
          exact Bool.eq_false_iff.mpr ended
  exact pieces [] (by simp)

private theorem flatMap_runs_runs {outer : Char → Bool}
    (within : ∀ c, test c = true → outer c = true)
    (text : Text) : (runs outer text).flatMap (runs test) = runs test text := by
  have apart : ∀ c, (!outer c) = true → test c = false := by
    intro c beyond
    by_contra inside
    rw [Bool.not_eq_false] at inside
    simp [within c inside] at beyond
  have nonempty (pieces : List Text) :
      (pieces.filter (!·.isEmpty)).flatMap (runs test) = pieces.flatMap (runs test) := by
    induction pieces with
    | nil => rfl
    | cons piece rest ih => cases piece <;> simp [ih, runs_nil]
  rw [runs, nonempty, flatMap_runs_splitOnP apart]

private theorem runs_intercalate_eq_flatMap {separator : Char} (apart : test separator = false)
    (pieces : List Text) :
    runs test ([separator].intercalate pieces) = pieces.flatMap (runs test) := by
  induction pieces with
  | nil => exact runs_nil
  | cons piece rest ih =>
    cases rest with
    | nil => rw [List.intercalate_singleton, List.flatMap_singleton]
    | cons next others =>
      rw [List.intercalate_cons_cons, List.append_assoc, List.singleton_append,
        runs_append_cons apart, ih]
      rfl

end

theorem words_collapse (text : Text) : words (collapse text) = words text := by
  have within : ∀ c, isAlphanumeric c = true → (!isBlank c) = true := by
    intro c alphanumeric
    by_contra blank
    rw [Bool.not_eq_true', Bool.not_eq_false] at blank
    simp [isAlphanumeric_of_isBlank blank] at alphanumeric
  rw [words, collapse, runs_intercalate_eq_flatMap (by decide +kernel), fields,
    flatMap_runs_runs within, words]

/-! ## White space around a text -/

private theorem isBlank_of_mem_foldChar {c folded : Char} (blank : isBlank c = true)
    (member : folded ∈ foldChar c) : isBlank folded = true := by
  have kept : blanks.all (fun code => (foldChar (Char.ofNat code)).all isBlank) = true := by
    decide +kernel
  have blanks_fold := List.all_eq_true.mp kept c.toNat (mem_blanks_of_isBlank blank)
  rw [Char.ofNat_toNat] at blanks_fold
  exact List.all_eq_true.mp blanks_fold folded member

private theorem isBlank_of_mem_fold {text : Text} (blank : ∀ c ∈ text, isBlank c = true) :
    ∀ c ∈ fold text, isBlank c = true := by
  intro folded member
  obtain ⟨c, inside, made⟩ := List.mem_flatMap.mp member
  exact isBlank_of_mem_foldChar (blank c inside) made

private theorem collapse_fold_trim (text : Text) :
    collapse (fold (trim text)) = collapse (fold text) := by
  obtain ⟨before, after, whole, left, right⟩ := exists_trim text
  have apart {blanks : Text} (blank : ∀ c ∈ blanks, isBlank c = true) :
      ∀ c ∈ fold blanks, (!isBlank c) = false := by
    intro c member
    rw [isBlank_of_mem_fold blank c member, Bool.not_true]
  have same : fields (fold text) = fields (fold (trim text)) := by
    rw [whole, fold_append, fold_append, ← whole, fields, fields, runs_append_outside (apart right),
      runs_outside_append (apart left)]
  rw [collapse, collapse, same]

end Text

/-! ## One folded form, one query -/

theorem foldLiteral_trim (text : Text) : foldLiteral (Text.trim text) = foldLiteral text :=
  Text.collapse_fold_trim text

/-- The lexemes of a text are those of its folded form, which is not folded again. -/
theorem Lexer.lexemes_eq_of_folded (lexer : Lexer) (text : Text) :
    lexer.lexemes text =
      ((Text.words (foldLiteral text)).filterMap lexer.lexeme?).eraseDups := by
  rw [lexemes, foldLiteral, Text.words_collapse]

namespace Query

def ofLexers (plain stemmed : Lexer) (prefixMinChars : Nat) (raw : Text) : Query where
  folded := foldLiteral raw
  generic := .ofLexemes prefixMinChars (plain.lexemes raw)
  natural := .ofLexemes prefixMinChars (stemmed.lexemes raw)

theorem ofText_eq_ofLexers (language : Language) (prefixMinChars : Nat) (raw : Text) :
    ofText language prefixMinChars raw =
      ofLexers .generic (.natural language) prefixMinChars raw := rfl

theorem ofLexers_congr {first second : Text} (alike : foldLiteral first = foldLiteral second)
    (plain stemmed : Lexer) (prefixMinChars : Nat) :
    ofLexers plain stemmed prefixMinChars first =
      ofLexers plain stemmed prefixMinChars second := by
  have lexemes (lexer : Lexer) : lexer.lexemes first = lexer.lexemes second := by
    rw [lexer.lexemes_eq_of_folded, alike, ← lexer.lexemes_eq_of_folded]
  simp only [ofLexers, alike, lexemes]

end Query

namespace SearchService

private theorem ranker_congr (service : SearchService) {first second : Text}
    (alike : foldLiteral first = foldLiteral second) :
    service.ranker first = service.ranker second := by
  simp only [ranker, Query.ofText_eq_ofLexers, Query.ofLexers_congr alike]

private theorem outcomeOf_congr (service : SearchService) {first second : Text}
    (alike : foldLiteral first = foldLiteral second) (request other : SearchRequest)
    (limit : request.limit = other.limit) (offset : request.offset = other.offset) :
    service.outcomeOf first request = service.outcomeOf second other := by
  funext kinds loaded
  simp only [outcomeOf, page, merged, service.ranker_congr alike, limit, offset]

/-- Queries that look the same search the same. If two queries have one folded form, they differ
only in case, in diacritics, in compatibility forms and in white space; then any two lexers read
them as one query, with or without the white space around them, and searching for them gives the
same answer. -/
theorem search_alike (service : SearchService) {first second : Text}
    (alike : foldLiteral first = foldLiteral second)
    (left : Admissible service.settings first) (right : Admissible service.settings second) :
    (∀ plain stemmed prefixMinChars,
        Query.ofLexers plain stemmed prefixMinChars first =
            Query.ofLexers plain stemmed prefixMinChars second ∧
          Query.ofLexers plain stemmed prefixMinChars (Text.trim first) =
            Query.ofLexers plain stemmed prefixMinChars first) ∧
      ∀ tenant types limit offset isAdmin,
        service.search tenant ⟨first, types, limit, offset⟩ isAdmin =
          service.search tenant ⟨second, types, limit, offset⟩ isAdmin := by
  constructor
  · intro plain stemmed prefixMinChars
    exact ⟨Query.ofLexers_congr alike plain stemmed prefixMinChars,
      Query.ofLexers_congr (foldLiteral_trim first) plain stemmed prefixMinChars⟩
  · intro tenant types limit offset isAdmin
    have planned {query : Text} (admissible : Admissible service.settings query) :=
      @plan_eq_resolve service.settings ⟨query, types, limit, offset⟩ admissible.long
        admissible.short isAdmin
    have here := planned left
    have there := planned right
    cases resolved : RecordKind.resolve types isAdmin with
    | error token =>
      simp only [resolved] at here there
      exact (settles_of_plan_error tenant here service.source).trans
        (settles_of_plan_error tenant there service.source).symm
    | ok kinds =>
      simp only [resolved] at here there
      cases kinds with
      | nil =>
        exact (settles_of_plan_none tenant here service.source).trans
          (settles_of_plan_none tenant there service.source).symm
      | cons kind rest =>
        have trimmed : foldLiteral (Text.trim first) = foldLiteral (Text.trim second) := by
          rw [foldLiteral_trim, alike, foldLiteral_trim]
        rw [search_of_plan tenant here, search_of_plan tenant there,
          service.outcomeOf_congr trimmed ⟨first, types, limit, offset⟩
            ⟨second, types, limit, offset⟩ rfl rfl]

/-- A name in capitals, with its accents and with wide gaps, is the name as it is typed. -/
theorem search_alike_typed :
    let service : SearchService := ⟨{}, .dutch, Store.sample.source .none, rfl⟩
    let shown := " ÁNNA\u3000  Bakker".toList
    let typed := "anna bakker".toList
    foldLiteral shown = foldLiteral typed ∧ Admissible service.settings shown ∧
      Admissible service.settings typed ∧
      service.search ⟨7⟩ ⟨shown, none, none, none⟩ false =
        service.search ⟨7⟩ ⟨typed, none, none, none⟩ false := by
  intro service shown typed
  have alike : foldLiteral shown = foldLiteral typed := by decide +kernel
  have left : Admissible service.settings shown := ⟨by decide, by decide⟩
  have right : Admissible service.settings typed := ⟨by decide, by decide⟩
  exact ⟨alike, left, right, (search_alike service alike left right).2 ⟨7⟩ none none none false⟩

end SearchService

end TenantSearch
