import StyleCheck.Proofs.Check.TwoRuns
import StyleCheck.Proofs.Value.Words

/-!
# Recipes and presets

The rule for recipes knows the recipes of the project and nothing else. But it waits for words that
are nothing in particular, and a preset of the project is something, whatever the property. So the
presets have a say in what is reported about recipes: a word that is a preset is never reported,
although it may be no recipe. That is all they decide.

## Main definitions

- `unknownRecipes`: what is found about recipes.
- `beside`: findings with names other than some words.

## Main statements

- `finds_noPreset`: no preset is reported as an unknown recipe.
- `recipeRule_check_eq`: at a word that is no preset, the recipes alone decide.
- `alike_unknownRecipes`: two projects with the same recipes find the same about recipes, but for
  words that are presets of one of them.
- `findings_presetLikeRecipe`: a misspelled recipe goes unreported where it is a preset.
-/

namespace StyleCheck.Value

open Text

/-! ## §1 Unknown recipes -/

/-- What is found about recipes, told by the code of the finding. -/
def unknownRecipes (found : List Finding) : List Finding :=
  found.filter (·.issue.spec.code == Catalogue.unknownRecipe.code)

/-- The findings with names other than some `words`. A finding without a name stays. -/
def beside (words : List Text) (found : List Finding) : List Finding :=
  found.filter fun f => f.issue.unknownName?.all (!words.contains ·)

theorem unknownRecipes_eq_nil {found : List Finding}
    (other : ∀ f ∈ found, f.issue.spec.code ≠ Catalogue.unknownRecipe.code) :
    unknownRecipes found = [] := by
  unfold unknownRecipes
  rw [List.filter_eq_nil_iff]
  intro f mem
  rw [beq_iff_eq]
  exact other f mem

/-- What is found about recipes in a value is put together from what is found in its parts, so
`alike_collect` applies to it. -/
theorem additive_unknownRecipes (words : List Text) : Additive fun found found' =>
    beside words (unknownRecipes found) = beside words (unknownRecipes found') where
  nil := rfl
  append {front front' back back'} same same' := by
    unfold beside unknownRecipes at same same' ⊢
    simp only [List.filter_append, same, same']

/-- It does not matter which words are left out that are no names. -/
theorem beside_congr {words words' : List Text} {found : List Finding}
    (same : ∀ f ∈ found, ∀ name, f.issue.unknownName? = some name →
      (name ∈ words ↔ name ∈ words')) : beside words found = beside words' found := by
  refine List.filter_congr fun f mem => ?_
  cases named : f.issue.unknownName? with
  | none => rfl
  | some name => simp only [Option.all_some, List.contains_eq_mem, same f mem name named]

theorem beside_eq_nil {words : List Text} {found : List Finding}
    (among : ∀ f ∈ found, ∃ name ∈ words, f.issue.unknownName? = some name) :
    beside words found = [] := by
  unfold beside
  rw [List.filter_eq_nil_iff]
  intro f mem
  obtain ⟨name, there, named⟩ := among f mem
  simp [named, there]

/-! ## §2 Presets go unreported -/

/-- What a rule that looks names up finds at a token is about the name of this token,
`Lookup.nameOf`. -/
theorem Lookup.finds_rule (lookup : Lookup) {context : Context} {t : Token} :
    Finds (fun f => t.kind = lookup.kind ∧ f.issue = lookup.issue (lookup.nameOf t))
      (lookup.rule.check context t) :=
  lookup.finds_check fun kind _ _ _ => ⟨kind, rfl⟩

/-- No preset of the project is reported as an unknown recipe.

The lexer makes presets tokens of their own under every property, and `recipeRule` waits for
`.identifier`. So this is decided before the rule is asked. -/
theorem finds_noPreset (context : Context) (text : Text) :
    Finds (fun f => f.issue.spec.code = Catalogue.unknownRecipe.code →
      ∀ name, f.issue.unknownName? = some name → name ∉ context.settings.presets)
      (findings context text) := by
  rw [findings_eq]
  refine finds_runAll fun t ht => ?_
  apply finds_rules
  · intro _ _ _ _ _ _ recipe
    exact absurd recipe.symm Lookup.recipe.code_ne_opacity
  · intro lookup identifier _ span _ recipe name named
    -- Only the rule for recipes reports under this code, and it looks at identifiers.
    obtain rfl : lookup = .recipe := Lookup.eq_of_code ((lookup.code_issue _).symm.trans recipe)
    obtain rfl : t.text = name := Option.some.inj named
    exact not_mem_presets_of_identifier ht identifier

/-- In what a project finds about recipes, its own presets can be left out or not: they are lexed as
presets, and so `recipeRule` never looks them up. -/
theorem beside_findings {context : Context} {text : Text} {found : List Finding}
    (made : findings context text = .ok found) {words words' : List Text}
    (same : ∀ name ∉ context.settings.presets, name ∈ words ↔ name ∈ words') :
    beside words (unknownRecipes found) = beside words' (unknownRecipes found) := by
  refine beside_congr fun f mem name named => same name ?_
  obtain ⟨there, code⟩ := List.mem_filter.mp mem
  exact finds_noPreset context text found made f there (beq_iff_eq.mp code) name named

/-! ## §3 Two projects -/

variable {context context' : Context} {t t' : Token} {span : Span}

/-- The rule for recipes finds the same at a word that is no preset, by the recipes alone. Of the
two projects it is only asked that they have the same `recipes`. -/
theorem recipeRule_check_eq
    (recast : Recast (Lexicon.ofSettings context.settings) (Lexicon.ofSettings context'.settings)
      t t')
    (property : context'.property = context.property) (sameBase : context'.base = context.base)
    (recipes : context'.settings.recipes = context.settings.recipes)
    (notPreset : t.text ∉ context.settings.presets)
    (notPreset' : t.text ∉ context'.settings.presets) :
    recipeRule.check context' t' = recipeRule.check context t := by
  -- The kinds may differ, but not in whether they are that of an identifier.
  have identifier := recast.kind.identifier_iff notPreset notPreset'
  have kind : (t'.kind != .identifier) = (t.kind != .identifier) := by
    rw [Bool.eq_iff_iff, bne_iff_ne, bne_iff_ne, ne_eq, ne_eq, identifier]
  simp only [recipeRule, kind, property, recipes, recast.text, Context.find, recast.hostSpan_eq,
    sameBase]

/-- At a token, the rule for recipes finds the same in two runs, but for words that are presets in
one of them. Those are left out by `beside` on both sides. -/
theorem beside_recipeRule
    (recast : Recast (Lexicon.ofSettings context.settings) (Lexicon.ofSettings context'.settings)
      t t')
    (property : context'.property = context.property) (sameBase : context'.base = context.base)
    (recipes : context'.settings.recipes = context.settings.recipes)
    (placed : t.hostSpan context.base = .ok span) (placed' : t'.hostSpan context'.base = .ok span) :
    Alike (fun found found' =>
        beside (context.settings.presets ++ context'.settings.presets) (unknownRecipes found) =
          beside (context.settings.presets ++ context'.settings.presets) (unknownRecipes found'))
      (recipeRule.check context t) (recipeRule.check context' t') := by
  by_cases preset : t.text ∈ context.settings.presets ++ context'.settings.presets
  · -- Whatever is found, it is about a word that is left out.
    have nothing {context : Context} {t₁ : Token} (text : t₁.text = t.text)
        {found : List Finding} (made : recipeRule.check context t₁ = .ok found)
        {words : List Text} (there : t.text ∈ words) :
        beside words (unknownRecipes found) = [] := by
      refine beside_eq_nil fun f mem => ⟨t.text, there, ?_⟩
      obtain ⟨-, issue⟩ := Lookup.recipe.finds_rule found made f (List.mem_filter.mp mem).1
      rw [issue, Lookup.unknownName?_issue, ← text]
      rfl
    obtain ⟨found, made⟩ := Lookup.recipe.exists_check placed
    obtain ⟨found', made'⟩ := Lookup.recipe.exists_check placed'
    change recipeRule.check _ _ = _ at made made'
    rw [made, made']
    exact .ok ((nothing rfl made preset).trans (nothing recast.text made' preset).symm)
  · -- A word that is a preset in neither is of the same kind in both.
    rw [List.mem_append, not_or] at preset
    rw [recipeRule_check_eq recast property sameBase recipes preset.1 preset.2]
    refine .refl ?_ _
    exact fun _ => rfl

/-- The other rules have nothing to do with recipes, since each reports under a `code` of its own.
-/
theorem unknownRecipes_of_other {lookup : Lookup} (other : lookup ≠ .recipe) {found : List Finding}
    (made : lookup.rule.check context t = .ok found) : unknownRecipes found = [] := by
  refine unknownRecipes_eq_nil fun f mem code => other (Lookup.eq_of_code ?_)
  obtain ⟨-, issue⟩ := lookup.finds_rule found made f mem
  rw [issue, Lookup.code_issue] at code
  exact code

/-- Two runs with the same recipes find the same about recipes, but for words that are presets in
one of them.

Presets of both are left out on both sides here, which makes the comparison one of token with token;
`alike_unknownRecipes` leaves out less. -/
theorem alike_beside (context context' : Context) (property : context'.property = context.property)
    (sameBase : context'.base = context.base) (positive : 0 ≤ context.base)
    (recipes : context'.settings.recipes = context.settings.recipes) (text : Text) :
    Alike (fun found found' =>
        beside (context.settings.presets ++ context'.settings.presets) (unknownRecipes found) =
          beside (context.settings.presets ++ context'.settings.presets) (unknownRecipes found'))
      (findings context text) (findings context' text) := by
  apply alike_findings (additive_unknownRecipes _) (fun _ => rfl) sameBase positive text
  intro lookup t t' span recast placed placed'
  -- The rule for recipes is compared, and the others find nothing that counts.
  by_cases recipe : lookup = .recipe
  · subst recipe
    exact beside_recipeRule recast property sameBase recipes placed placed'
  · obtain ⟨found, made⟩ := lookup.exists_check placed
    obtain ⟨found', made'⟩ := lookup.exists_check placed'
    rw [made, made']
    refine .ok ?_
    rw [unknownRecipes_of_other recipe made, unknownRecipes_of_other recipe made']

/-- Two projects with the same recipes find the same about recipes, except that neither of them
reports a word that is one of its own presets.

Such a word is lexed as a `.preset`, and `recipeRule` looks at identifiers only. `beside` leaves
these words out on both sides. -/
theorem alike_unknownRecipes {s s' : Settings} (recipes : s'.recipes = s.recipes)
    (d d' : Definitions) {base : Int} (positive : 0 ≤ base) (property text : Text) :
    Alike (fun found found' =>
        beside s'.presets (unknownRecipes found) = beside s.presets (unknownRecipes found'))
      (findings { base, property, settings := s, definitions := d } text)
      (findings { base, property, settings := s', definitions := d' } text) := by
  have others := alike_beside { base, property, settings := s, definitions := d }
    { base, property, settings := s', definitions := d' } rfl rfl positive recipes text
  refine others.imp fun {found found'} made made' same => ?_
  -- Neither run reports its own presets, so it is enough to leave out those of the other one.
  have front : beside s'.presets (unknownRecipes found) =
      beside (s.presets ++ s'.presets) (unknownRecipes found) :=
    beside_findings made fun name absent => by rw [List.mem_append, or_iff_right absent]
  have back : beside (s.presets ++ s'.presets) (unknownRecipes found') =
      beside s.presets (unknownRecipes found') :=
    beside_findings made' fun name absent => by rw [List.mem_append, or_iff_left absent]
  rw [front, same, back]

/-- A project with a preset more reports one of two misspelled recipes: `cardd` is that preset, and
`car` is reported in both. -/
theorem alike_unknownRecipes_cards : ∃ found found',
    findings { base := 3, property := "recipe".toText, definitions := {},
               settings := { recipes := ["card".toText], presets := ["cardd".toText] } }
      "cardd car".toText = .ok found ∧
    findings { base := 3, property := "recipe".toText, definitions := {},
               settings := { recipes := ["card".toText] } } "cardd car".toText = .ok found' ∧
    found.length = 1 ∧ found'.length = 2 ∧
      beside [] (unknownRecipes found) = beside ["cardd".toText] (unknownRecipes found') := by
  have positive : (0 : Int) ≤ 3 := by decide
  have run := alike_unknownRecipes
    (show ({ recipes := ["card".toText] } : Settings).recipes =
      ({ recipes := ["card".toText], presets := ["cardd".toText] } : Settings).recipes from rfl)
    {} {} positive "recipe".toText "cardd car".toText
  have counts :
      (findings { base := 3, property := "recipe".toText, definitions := {},
                  settings := { recipes := ["card".toText], presets := ["cardd".toText] } }
        "cardd car".toText).toOption.map List.length = some 1 ∧
      (findings { base := 3, property := "recipe".toText, definitions := {},
                  settings := { recipes := ["card".toText] } }
        "cardd car".toText).toOption.map List.length = some 2 := by
    decide +kernel
  -- What is evaluated are the lengths alone; that the remaining findings agree comes from the
  -- theorem.
  revert run counts
  generalize findings _ _ = first
  generalize findings _ _ = second
  rintro (_ | same) ⟨one, two⟩
  · cases one
  · exact ⟨_, _, rfl, rfl, Option.some.inj one, Option.some.inj two, same⟩

/-- A misspelled recipe goes unreported in a project with a preset of that name, and is reported in
one without it. -/
theorem findings_presetLikeRecipe :
    (findings { base := 0, property := "recipe".toText, definitions := {},
                settings := { recipes := ["card".toText], presets := ["cardd".toText] } }
      "cardd".toText).toOption.map unknownRecipes = some [] ∧
    (findings { base := 0, property := "recipe".toText, definitions := {},
                settings := { recipes := ["card".toText], presets := [] } }
      "cardd".toText).toOption.map unknownRecipes =
        some [{ issue := .unknownRecipe "cardd".toText, span := ⟨0, 5, by decide⟩
                suggestion := some "card".toText }] := by
  decide +kernel

end StyleCheck.Value
