import TenantSearch.Settings.Load

/-! What valid settings keep: settings that pass their check keep every rule. -/
namespace TenantSearch.Settings
variable {settings : Settings}

private theorem kept_of_check (valid : settings.check = .ok settings) {rule : SettingsRule}
    {kept : Bool} (listed : (rule, kept) ∈ settings.rules) : kept = true := by
  unfold check at valid
  cases broken : settings.broken? with
  | some rule => simp [broken] at valid
  | none =>
    have whole := List.find?_eq_none.mp (Option.map_eq_none_iff.mp broken) (rule, kept) listed
    simpa using whole

theorem search_kept_of_check (valid : settings.check = .ok settings) {rule : SettingsRule}
    {kept : Bool} (listed : (rule, kept) ∈ settings.search.rules) : kept = true :=
  kept_of_check valid (List.mem_append_right _ listed)

theorem default_limit_of_check (valid : settings.check = .ok settings) :
    0 < settings.search.defaultLimit ∧
      settings.search.defaultLimit ≤ settings.search.maxLimit := by
  have listed : (.defaultLimitInRange, 0 < settings.search.defaultLimit &&
      settings.search.defaultLimit ≤ settings.search.maxLimit) ∈ settings.search.rules := by
    simp [SearchSettings.rules]
  simpa using search_kept_of_check valid listed

theorem language_of_check (valid : settings.check = .ok settings) :
    ∃ language, Language.parse? settings.search.language = some language := by
  have listed : (.languageKnown, (Language.parse? settings.search.language).isSome) ∈
      settings.search.rules := by
    simp [SearchSettings.rules]
  exact Option.isSome_iff_exists.mp (search_kept_of_check valid listed)

theorem snippet_of_check (valid : settings.check = .ok settings) :
    0 < settings.search.snippet.minWords ∧
      settings.search.snippet.minWords ≤ settings.search.snippet.maxWords ∧
      settings.search.snippet.opening ≠ [] ∧ settings.search.snippet.closing ≠ [] := by
  have rules : ∀ rule ∈ settings.search.snippet.rules, rule.2 = true := fun rule listed =>
    search_kept_of_check valid (List.mem_append_right _ listed)
  simpa [SnippetSettings.rules] using rules

/-- Every default passes its own check: only what has no default can be wrong. -/
theorem check_defaults {service : ServiceSettings} {postgres : PostgresSettings}
    (bind : Text.allBlank service.httpBind = false) (dsn : Text.allBlank postgres.dsn = false)
    (pool : 0 < postgres.poolMaxConns) :
    (Settings.mk service postgres {}).check = .ok ⟨service, postgres, {}⟩ := by
  have search : ∀ rule ∈ ({} : SearchSettings).rules, rule.2 = true := by decide +kernel
  have sound : (Settings.mk service postgres {}).broken? = none := by
    rw [broken?, Option.map_eq_none_iff, List.find?_eq_none]
    intro rule listed
    rcases List.mem_append.mp listed with own | inside
    · simp only [List.mem_cons, List.not_mem_nil, or_false] at own
      rcases own with rfl | rfl | rfl <;> simp [bind, dsn, pool]
    · simp [search rule inside]
  rw [check, sound]

end TenantSearch.Settings
