import TenantSearch.Proofs.Inclusion

/-! Search while a query is being typed. Words of a record, each of them whole or cut off after
enough characters, are read from the query as they are; so whichever of them are whole, the record
satisfies the query and is found. -/
namespace TenantSearch

namespace Record

/-- Whether a word is a lexeme of a field of a record, or the start of one with enough
characters. -/
def Offers (prefixMinChars : ℕ) (record : Record) (word : Text) : Prop :=
  ∃ text kind, (some text, kind) ∈ record.fields ∧ ∃ lexeme ∈ Lexer.generic.lexemes text,
    word = lexeme ∨ word <+: lexeme ∧ prefixMinChars ≤ word.length

variable {prefixMinChars : ℕ} {record : Record} {word : Text}

private theorem Offers.isFoldedWord (positive : 0 < prefixMinChars)
    (offered : record.Offers prefixMinChars word) : Text.IsFoldedWord word := by
  obtain ⟨text, kind, _, lexeme, listed, rfl | ⟨start, long⟩⟩ := offered
  · exact Lexer.isFoldedWord_of_mem_generic listed
  · have nonempty : word ≠ [] := List.ne_nil_of_length_pos (positive.trans_le long)
    exact (Lexer.isFoldedWord_of_mem_generic listed).start start nonempty

private theorem Offers.exists_lexed (offered : record.Offers prefixMinChars word) :
    ∃ lexed ∈ Ranker.lexedFields .generic record.fields, ∃ lexeme ∈ lexed,
      word = lexeme ∨ word <+: lexeme ∧ prefixMinChars ≤ word.length := by
  obtain ⟨text, kind, field, lexeme, listed, taken⟩ := offered
  refine ⟨Lexer.generic.lexemes text, ?_, lexeme, listed, taken⟩
  exact List.mem_map.mpr ⟨(some text, kind), field, rfl⟩

end Record

theorem TokenSet.accepts_of_starts {prefixMinChars : ℕ} {tokens : List Text}
    {fields : List (List Text)} (nonempty : tokens ≠ [])
    (taken : ∀ token ∈ tokens, ∃ field ∈ fields, ∃ lexeme ∈ field,
      token = lexeme ∨ token <+: lexeme ∧ prefixMinChars ≤ token.length) :
    (ofLexemes prefixMinChars tokens).accepts fields = true := by
  by_cases whole : ∀ token ∈ tokens, ∃ field ∈ fields, token ∈ field
  · exact accepts_iff.mpr ⟨nonempty, .inl whole⟩
  · -- Some word is not whole, so it is long: the long ones are not empty.
    push Not at whole
    obtain ⟨cut, listed, absent⟩ := whole
    have long : cut ∈ tokens.filter (prefixMinChars ≤ ·.length) := by
      obtain ⟨field, inside, lexeme, present, rfl | ⟨_, long⟩⟩ := taken cut listed
      · exact absurd present (absent field inside)
      · exact List.mem_filter.mpr ⟨listed, decide_eq_true long⟩
    refine accepts_iff.mpr ⟨nonempty, .inr ⟨List.ne_nil_of_mem long, fun token member => ?_⟩⟩
    obtain ⟨field, inside, lexeme, present, start⟩ := taken token (List.mem_filter.mp member).1
    refine ⟨field, inside, lexeme, present, ?_⟩
    rcases start with rfl | ⟨start, _⟩
    · exact List.prefix_rfl
    · exact start

namespace SearchService

private theorem satisfies_of_offers {service : SearchService}
    (positive : 0 < service.settings.prefixMinChars) {record : Record} {words : List Text}
    (nonempty : words ≠ [])
    (offered : ∀ word ∈ words, record.Offers service.settings.prefixMinChars word) :
    (service.ranker ([' '].intercalate words)).Satisfies record.fields := by
  have folded : ∀ word ∈ words, Text.IsFoldedWord word :=
    fun word member => (offered word member).isFoldedWord positive
  refine ⟨_, List.mem_cons_self, ?_⟩
  change (TokenSet.ofLexemes _ (Lexer.generic.lexemes _)).accepts _ = true
  rw [Lexer.lexemes_join folded]
  apply TokenSet.accepts_of_starts
  · obtain ⟨word, member⟩ := List.exists_mem_of_ne_nil _ nonempty
    exact List.ne_nil_of_mem (List.mem_eraseDups.mpr member)
  · intro token member
    exact (offered token (List.mem_eraseDups.mp member)).exists_lexed

/-- A record around the leads is found by any words that it offers, in any number and order. -/
theorem search_finds_offered {service : SearchService} {store : Store}
    (reads : service.source = store.source .none) (weights : service.settings.weights = {})
    (damping : service.settings.damping = {})
    (bounded : service.settings.maxQueryChars < Document.wordBound)
    (positive : 0 < service.settings.prefixMinChars) (tenant : Uuid) {record : Record}
    (held : (store.corpus tenant).Holds record.alone)
    (related : record.kind.isLeadRelated = true) {words : List Text} (nonempty : words ≠ [])
    (offered : ∀ word ∈ words, record.Offers service.settings.prefixMinChars word)
    (long : service.settings.minQueryChars ≤ ([' '].intercalate words).length)
    (short : ([' '].intercalate words).length ≤ service.settings.maxQueryChars)
    {types : Option Text} {isAdmin : Bool} {kinds : List RecordKind}
    (resolved : RecordKind.resolve types isAdmin = .ok kinds) (asked : record.kind ∈ kinds) :
    let query := [' '].intercalate words
    let found := service.merged query (store.corpus tenant) kinds
    service.PagesOf tenant query types isAdmin found ∧
      ∃ candidate ∈ found, candidate.record.alone = record.alone := by
  intro query found
  have same : Text.trim query = query :=
    Text.trim_join fun word member => (offered word member).isFoldedWord positive
  have moderate : (service.ranker query).Moderate :=
    moderate_ranker (weights ▸ Weights.moderate_default) (short.trans bounded.le)
  have damped : service.settings.damping.Moderate := damping ▸ Damping.moderate_default
  have satisfied := satisfies_of_offers positive nonempty offered
  constructor
  · have pages := pagesOf_merged reads tenant
      (⟨by rwa [same], by rwa [same]⟩ : Admissible service.settings query) resolved
    rwa [same] at pages
  · exact (exists_mem_merged_iff moderate damped related asked).mpr ⟨held, .inl satisfied⟩

/-- A word too short to count as a start and the start of a longer word find a quote that has
both. -/
theorem search_finds_offered_quote :
    let service : SearchService := ⟨{}, .dutch, Store.sample.source .none, rfl⟩
    let corpus := Store.sample.corpus ⟨7⟩
    let words := ["q".toList, "ann".toList]
    ∃ quote ∈ corpus.quotes, (∀ word ∈ words, (Record.quote quote none).Offers 3 word) ∧
      ∃ candidate ∈ service.merged "q ann".toList corpus [.quote],
        candidate.record.alone = .quote quote none := by
  intro service corpus words
  let quote : Quote :=
    ⟨⟨5⟩, ⟨2⟩, "Q-1".toList, some "For Anna".toList, 12500, "sent".toList, .epoch⟩
  have held : quote ∈ corpus.quotes := List.mem_singleton.mpr rfl
  have offered : ∀ word ∈ words, (Record.quote quote none).Offers 3 word := by
    intro word member
    rcases List.mem_pair.mp member with rfl | rfl
    · exact ⟨"Q-1".toList, .a, by decide, "q".toList, by decide +kernel, .inl rfl⟩
    · exact ⟨"For Anna".toList, .d, by decide, "anna".toList, by decide +kernel,
        .inr ⟨by decide, by decide⟩⟩
  have resolved : RecordKind.resolve (some "quote".toList) false = .ok [.quote] := rfl
  have found := @search_finds_offered service Store.sample rfl rfl rfl (by decide) (by decide) ⟨7⟩
    (.quote quote none) ⟨held, by simp⟩ rfl words (List.cons_ne_nil _ _) offered (by decide)
    (by decide) _ _ _ resolved (List.mem_singleton.mpr rfl)
  exact ⟨quote, held, offered, found.2⟩

end SearchService

end TenantSearch
