import TenantSearch.Lexer
import TenantSearch.Proofs.Distinct

/-! Natural lexemes are read off generic ones. Every lexer reads the words of a text one after the
other and passes over lexemes that it has seen. The generic one passes over words that come again, a
natural one only over stems; but a word that comes again has the stem that it had before, whatever
stems are. So reading each word once gives the same lexemes in the same order. -/
namespace TenantSearch.Lexer

/-! ## One word after the other -/

section
variable (read : Text → Option Text)

/-- The lexemes after one more word: if the word has a lexeme and that is new, it comes behind the
others. -/
def addWord (seen : List Text) (word : Text) : List Text :=
  match read word with
  | none => seen
  | some lexeme => if seen.contains lexeme then seen else seen ++ [lexeme]

def ofWords (words : List Text) : List Text := words.foldl (addWord read) []

private theorem ofWords_append_singleton (words : List Text) (word : Text) :
    ofWords read (words ++ [word]) = addWord read (ofWords read words) word := by
  rw [ofWords, List.foldl_append, List.foldl_cons, List.foldl_nil, ofWords]

theorem ofWords_eq_eraseDups (words : List Text) :
    ofWords read words = (words.filterMap read).eraseDups := by
  induction words using List.reverseRecOn with
  | nil => rfl
  | append_singleton words word ih =>
    rw [ofWords_append_singleton, ih, List.filterMap_append, addWord]
    cases made : read word with
    | none => rw [List.filterMap_cons_none made, List.filterMap_nil, List.append_nil]
    | some lexeme =>
      rw [List.filterMap_cons_some made, List.filterMap_nil, eraseDups_append_singleton]

private theorem mem_ofWords {words : List Text} {lexeme : Text} :
    lexeme ∈ ofWords read words ↔ ∃ word ∈ words, read word = some lexeme := by
  rw [ofWords_eq_eraseDups, List.mem_eraseDups, List.mem_filterMap]

private theorem addWord_of_mem {words : List Text} {word : Text} (again : word ∈ words) :
    addWord read (ofWords read words) word = ofWords read words := by
  cases made : read word with
  | none => rw [addWord, made]
  | some lexeme =>
    have seen : lexeme ∈ ofWords read words := (mem_ofWords read).mpr ⟨word, again, made⟩
    rw [addWord, made]
    exact if_pos (List.contains_iff_mem.mpr seen)

/-- One step of both lexers: after the words so far, reading the next one adds the same whether or
not words that come again have been passed over. -/
theorem ofWords_addWord (words : List Text) (word : Text) :
    ofWords read (addWord some words word) = addWord read (ofWords read words) word := by
  by_cases again : word ∈ words
  · have passed : addWord some words word = words := if_pos (List.contains_iff_mem.mpr again)
    rw [passed, addWord_of_mem read again]
  · have fresh : ¬ words.contains word = true := fun seen => again (List.contains_iff_mem.mp seen)
    have added : addWord some words word = words ++ [word] := if_neg fresh
    rw [added, ofWords_append_singleton]

/-- A whole run of both lexers: reading each word where it first occurs is enough. -/
theorem ofWords_ofWords (words : List Text) :
    ofWords read (ofWords some words) = ofWords read words := by
  induction words using List.reverseRecOn with
  | nil => rfl
  | append_singleton words word ih =>
    calc ofWords read (ofWords some (words ++ [word]))
      _ = ofWords read (addWord some (ofWords some words) word) := by
        rw [ofWords_append_singleton]
      _ = addWord read (ofWords read (ofWords some words)) word := ofWords_addWord read _ word
      _ = addWord read (ofWords read words) word := by rw [ih]
      _ = ofWords read (words ++ [word]) := (ofWords_append_singleton read words word).symm

private theorem ofWords_subset {words others : List Text} (covered : words ⊆ others) :
    ofWords read words ⊆ ofWords read others := by
  intro lexeme member
  obtain ⟨word, inside, made⟩ := (mem_ofWords read).mp member
  exact (mem_ofWords read).mpr ⟨word, covered inside, made⟩

end

/-! ## Lexers -/

theorem lexemes_eq_ofWords (lexer : Lexer) (text : Text) :
    lexer.lexemes text = ofWords lexer.lexeme? (Text.words (Text.fold text)) :=
  (ofWords_eq_eraseDups lexer.lexeme? _).symm

private theorem ofWords_generic (read : Text → Option Text) (text : Text) :
    ofWords read (generic.lexemes text) = ofWords read (Text.words (Text.fold text)) := by
  have plain : generic.lexeme? = some := rfl
  rw [lexemes_eq_ofWords, plain, ofWords_ofWords]

private theorem ofWords_subset_of_generic (read : Text → Option Text) {query text : Text}
    (covered : generic.lexemes query ⊆ generic.lexemes text) :
    ofWords read (Text.words (Text.fold query)) ⊆ ofWords read (Text.words (Text.fold text)) := by
  rw [← ofWords_generic, ← ofWords_generic]
  exact ofWords_subset read covered

theorem lexemes_subset_of_generic (lexer : Lexer) {query text : Text}
    (covered : generic.lexemes query ⊆ generic.lexemes text) :
    lexer.lexemes query ⊆ lexer.lexemes text := by
  rw [lexemes_eq_ofWords, lexemes_eq_ofWords]
  exact ofWords_subset_of_generic lexer.lexeme? covered

section
variable (stopWords : List String) (stem : Text → Text)

/-- The stem of a folded word, or none for a stop word, with any stop words and any stems. -/
def stemOf? (word : Text) : Option Text :=
  if stopWords.any (·.toList == word) then none else some (stem word)

def stems (text : Text) : List Text :=
  ofWords (stemOf? stopWords stem) (Text.words (Text.fold text))

private theorem lexemes_natural (language : Language) (text : Text) :
    (natural language).lexemes text = stems language.stopWords language.stem text :=
  lexemes_eq_ofWords (natural language) text

private theorem filterMap_stemOf? (words : List Text) : words.filterMap (stemOf? stopWords stem) =
    (words.filter (· ∉ stopWords.map String.toList)).map stem := by
  induction words with
  | nil => rfl
  | cons word rest ih =>
    by_cases stop : word ∈ stopWords.map String.toList
    · have dropped : stemOf? stopWords stem word = none := if_pos (by simpa using stop)
      rw [List.filterMap_cons_none dropped, List.filter_cons_of_neg (by simpa using stop), ih]
    · have kept : stemOf? stopWords stem word = some (stem word) := if_neg (by simpa using stop)
      rw [List.filterMap_cons_some kept, List.filter_cons_of_pos (by simpa using stop),
        List.map_cons, ih]

end

/-- A natural lexer factors through the generic one: its lexemes of a text are those that it makes
of the generic lexemes without stop words among them, each where it first occurs. So a text with all
generic lexemes of a query has all natural ones. Nothing is used of a language: with any stop words
and any stems in place of its own, both still hold. -/
theorem natural_of_generic (query text : Text) :
    (∀ language : Language,
      (natural language).lexemes text =
          ((generic.lexemes text).filterMap (natural language).lexeme?).eraseDups ∧
        (generic.lexemes query ⊆ generic.lexemes text →
          (natural language).lexemes query ⊆ (natural language).lexemes text) ∧
        (natural language).lexemes text = stems language.stopWords language.stem text) ∧
    ∀ (stopWords : List String) (stem : Text → Text),
      stems stopWords stem text =
          (((generic.lexemes text).filter (· ∉ stopWords.map String.toList)).map stem).eraseDups ∧
        (generic.lexemes query ⊆ generic.lexemes text →
          stems stopWords stem query ⊆ stems stopWords stem text) := by
  constructor
  · intro language
    refine ⟨?_, lexemes_subset_of_generic (natural language), lexemes_natural language text⟩
    rw [lexemes_eq_ofWords, ← ofWords_generic, ofWords_eq_eraseDups]
  · intro stopWords stem
    constructor
    · rw [stems, ← ofWords_generic, ofWords_eq_eraseDups, filterMap_stemOf?]
    · exact ofWords_subset_of_generic (stemOf? stopWords stem)

/-- Three words of the text are stop words, and two others share their stem; the query has the two
in another order. -/
theorem natural_of_generic_running :
    let text := "The dog is running and runs".toList
    let query := "Runs the dog, running".toList
    let english := natural .english
    generic.lexemes text = ["the", "dog", "is", "running", "and", "runs"].map String.toList ∧
      ((generic.lexemes text).filterMap english.lexeme?).eraseDups =
        ["dog", "run"].map String.toList ∧
      english.lexemes text = ["dog", "run"].map String.toList ∧
      generic.lexemes query ⊆ generic.lexemes text ∧
      english.lexemes query ⊆ ["dog", "run"].map String.toList := by
  intro text query english
  have plain : generic.lexemes text =
      ["the", "dog", "is", "running", "and", "runs"].map String.toList := by decide +kernel
  have stemmed : ((generic.lexemes text).filterMap english.lexeme?).eraseDups =
      ["dog", "run"].map String.toList := by decide +kernel
  have covered : generic.lexemes query ⊆ generic.lexemes text := by decide +kernel
  obtain ⟨factors, within, _⟩ := (natural_of_generic query text).1 .english
  have read : english.lexemes text = ["dog", "run"].map String.toList := factors.trans stemmed
  refine ⟨plain, stemmed, read, covered, ?_⟩
  rw [← read]
  exact within covered

end TenantSearch.Lexer
