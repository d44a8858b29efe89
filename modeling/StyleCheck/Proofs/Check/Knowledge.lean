import StyleCheck.Proofs.Check.TwoRuns

/-!
# What a project knows

The settings of a project are asked twice when a value is checked: by the lexer, for which units and
presets make the kinds of tokens, and by the rules, for which they make the lists of known names. A
name that is added to a list may therefore hand a token from one rule to another. It never makes a
rule find more: a token that a rule finds unknown was of the same kind before the name was added,
and its name was unknown before. For the same reason each sort of unknown names depends on the list
for that sort and on nothing else.

## Main definitions

- `Settings.Grows`: settings that know at least as much.
- `Lookup.Agree`: settings with the same names for a rule.
- `Finding.mark`, `reported`: what is compared of the findings in two runs.

## Main statements

- `Reclassified.eq_kind_of_unknown`: which tokens a rule finds unknown is not up to the lexicon.
- `findings_grow`: the more is known, the less is found.
- `findings_independent`: each sort of findings depends on its own list.
-/

namespace StyleCheck

/-! ## §1 Knowing more -/

/-- The names of a category are no longer limited, or the limits leave room for more. -/
inductive Permitted.Grows : Permitted → Permitted → Prop
  | anything (permitted : Permitted) : Grows permitted .anything
  | only {names names' : List Text} : names ⊆ names' → Grows (.only names) (.only names')

theorem Permitted.Grows.excludes {permitted permitted' : Permitted} {name : Text}
    (grows : permitted.Grows permitted') (excludes : permitted'.Excludes name) :
    permitted.Excludes name := by
  cases grows with
  | anything => exact excludes.elim
  | only more => exact fun known => excludes (more known)

/-- Settings that know at least as much. A project without presets or recipes, where they are not
checked, stays without. -/
structure Settings.Grows (s s' : Settings) : Prop where
  tokens : s.tokens.Grows s'.tokens
  units : s.units.Grows s'.units
  funcs : s.funcs.Grows s'.funcs
  presets : s.presets ⊆ s'.presets
  noPresets : s.presets = [] → s'.presets = []
  recipes : s.recipes ⊆ s'.recipes
  noRecipes : s.recipes = [] → s'.recipes = []

/-- The code and the range of a finding, as they are reported. -/
def Finding.mark (f : Finding) : Text × Span := (f.diagnostic.code, f.diagnostic.span)

namespace Value

/-- The words that count under a property grow with the list, if a list that was empty stays so. -/
theorem Context.grows_wordsUnder {context context' : Context} (property : Text)
    {names names' : List Text} (same : context'.property = context.property)
    (more : names ⊆ names') (none : names = [] → names' = []) :
    (context.wordsUnder property names).Grows (context'.wordsUnder property names') := by
  unfold wordsUnder
  rw [same]
  split
  · next checked =>
    split
    · exact .only more
    · exact .anything _
  · -- Words that were not checked before are not checked now either.
    next unchecked =>
    rw [if_neg]
    · exact .anything _
    · intro checked
      exact unchecked ⟨checked.1, fun empty => checked.2 (none empty)⟩

variable {lookup : Lookup} {context context' : Context} {name : Text}

theorem Lookup.Unknown.of_grows (grows : context.settings.Grows context'.settings)
    (defined : context.definitions.tokens ⊆ context'.definitions.tokens)
    (property : context'.property = context.property) (unknown : lookup.Unknown context' name) :
    lookup.Unknown context name where
  notPermitted := by
    refine Permitted.Grows.excludes ?_ unknown.notPermitted
    -- Each lookup has the field that it asks, and the fields grow one by one.
    cases lookup with
    | colorToken => exact grows.tokens
    | customProperty => exact grows.tokens
    | unit => exact grows.units
    | preset => exact context.grows_wordsUnder _ property grows.presets grows.noPresets
    | recipe => exact context.grows_wordsUnder _ property grows.recipes grows.noRecipes
    | function => exact grows.funcs
  notBuiltIn := unknown.notBuiltIn
  notDefined := by
    intro known
    apply unknown.notDefined
    cases lookup with
    | colorToken => exact defined known
    | customProperty => exact defined known
    | unit => exact known
    | preset => exact known
    | recipe => exact known
    | function => exact known

/-! ## §2 Unknown tokens under two lexicons -/

theorem Lookup.eq_unit (numeric : lookup.kind ∈ [TokenKind.number, .customUnit, .cssUnit]) :
    lookup = .unit := by
  cases lookup <;> first | rfl | exact absurd numeric (by decide)

theorem Lookup.identifier_or_eq_function (worded : lookup.kind ∈
      [TokenKind.boolean, .presetModifier, .direction, .preset, .function, .identifier]) :
    lookup.kind = .identifier ∨ lookup = .function := by
  cases lookup <;> first | exact .inl rfl | exact .inr rfl | exact absurd worded (by decide)

/-- The name of a function that is not called is its text, since no parenthesis ends it. -/
theorem name_of_notCall {t : Token} (notColor : t.kind ≠ .colorToken)
    (notCall : CodePoint.char '(' ∉ t.text) : t.name = t.text := by
  have others : ∀ c ∈ t.text, (c != CodePoint.char '(') = true := fun c hc =>
    bne_iff_ne.mpr fun same => notCall (same ▸ hc)
  rw [Token.name, if_neg (by simpa using notColor), Text.upTo,
    List.takeWhile_eq_self_iff.mpr others]

/-- Whatever lexicon makes a token of a kind that a rule looks at and finds unknown, another one
makes it of that kind as well; only for words it must not know more presets.

The kind may be one that no lexicon decides, or that of a unit, or that of a word. In the second
case the unit is unknown, so every lexicon takes it for one of the project. -/
theorem Reclassified.eq_kind_of_unknown {l : Lexicon} {k : TokenKind} {t : Token}
    (h : Reclassified l (Lexicon.ofSettings context.settings) t.text k t.kind)
    (kind : t.kind = lookup.kind) (unknown : lookup.Unknown context (lookup.nameOf t))
    (presets : lookup.kind = .identifier → l.presets ⊆ context.settings.presets) :
    k = lookup.kind := by
  generalize made : t.kind = k' at h kind
  cases h with
  | form => exact kind
  | unit =>
    have numeric := (Lexicon.ofSettings context.settings).unitKind_mem (unitOf t.text)
    rw [kind] at numeric
    obtain rfl := Lookup.eq_unit numeric
    -- A unit that is nowhere listed is one of the project for every lexicon.
    obtain ⟨some, listed⟩ := Lexicon.unitKind_eq_customUnit_iff.mp kind
    have notListed : unitOf t.text ∉ context.settings.units.listed := unknown.notPermitted.notMem
    have notBuiltIn : unitOf t.text ∉ Vocabulary.builtInUnits := fun mem =>
      unknown.notBuiltIn (List.mem_cons_of_mem _ mem)
    have notCss := (listed.resolve_left notBuiltIn).resolve_left notListed
    exact Lexicon.unitKind_eq_customUnit_iff.mpr ⟨some, .inr (.inr notCss)⟩
  | word notCall =>
    have worded := (Lexicon.ofSettings context.settings).wordKind_mem t.text
    rw [kind] at worded
    obtain identifier | rfl := Lookup.identifier_or_eq_function worded
    · rw [identifier] at kind ⊢
      exact Lexicon.wordKind_eq_identifier_of_subset (presets identifier) kind
    · -- A word that is not called is a function only by being a known one.
      have known := Lexicon.mem_cssFunctions_of_wordKind kind
      have named : t.name = t.text := name_of_notCall (by rw [made, kind]; decide) notCall
      rw [← named] at known
      exact absurd known unknown.notBuiltIn

variable {t t' : Token} {l : Lexicon}

theorem Lookup.nameOf_eq (text : t'.text = t.text) (kind : t'.kind = t.kind) :
    lookup.nameOf t' = lookup.nameOf t := by
  cases lookup <;> simp only [nameOf, Token.name, text, kind]

/-- What a rule finds unknown in one run is of the same kind and has the same name in another.

This is `Reclassified.eq_kind_of_unknown` for tokens that are `Recast`. -/
theorem Recast.of_unknown (h : Recast l (Lexicon.ofSettings context.settings) t t')
    (kind : t'.kind = lookup.kind) (unknown : lookup.Unknown context (lookup.nameOf t'))
    (presets : lookup.kind = .identifier → l.presets ⊆ context.settings.presets) :
    t.kind = lookup.kind ∧ lookup.nameOf t = lookup.nameOf t' := by
  have same : t.kind = lookup.kind := (h.text ▸ h.kind).eq_kind_of_unknown kind unknown presets
  exact ⟨same, Lookup.nameOf_eq h.text.symm (same.trans kind.symm)⟩

/-! ## §3 More is known -/

theorem Lookup.mark_finding (lookup : Lookup) (context : Context) (name : Text) (span : Span) :
    (lookup.finding context name span).mark = (lookup.rule.code, span) := by
  rw [← lookup.code_issue name]
  rfl

theorem additive_marks : Additive fun found found' =>
    (found'.map Finding.mark).Sublist (found.map Finding.mark) where
  nil := .slnil
  append front back := by
    rw [List.map_append, List.map_append]
    exact front.append back

/-- The more is known, the less is found, rule by rule and token by token.

The tokens of the two runs correspond by `recast_lex`, and what a rule finds unknown in the second
run, it finds unknown in the first one. -/
theorem alike_findings_of_grows (grows : context.settings.Grows context'.settings)
    (defined : context.definitions.tokens ⊆ context'.definitions.tokens)
    (property : context'.property = context.property) (sameBase : context'.base = context.base)
    (positive : 0 ≤ context.base) (text : Text) :
    Alike (fun found found' => (found'.map Finding.mark).Sublist (found.map Finding.mark))
      (findings context text) (findings context' text) := by
  refine alike_findings additive_marks (fun _ => .refl _) sameBase positive text ?_
  intro lookup t t' span recast placed placed'
  by_cases looked : t'.kind = lookup.kind ∧ lookup.Unknown context' (lookup.nameOf t')
  · -- What is unknown now was unknown before, and it is reported at the same place.
    obtain ⟨kind', unknown'⟩ := looked
    obtain ⟨kind, name⟩ := recast.of_unknown kind' unknown' fun _ => grows.presets
    have unknown := unknown'.of_grows grows defined property
    rw [Lookup.check_of_unknown kind (name ▸ unknown) placed,
      Lookup.check_of_unknown kind' unknown' placed']
    refine .ok ?_
    simp only [List.map_cons, List.map_nil, Lookup.mark_finding]
    exact .refl _
  · obtain ⟨part, checked⟩ := lookup.exists_check placed
    rw [Lookup.check_of_known looked, checked]
    exact .ok (List.nil_sublist _)

/-- The more a project and a file know, the less is found in a value.

Findings are compared by `Finding.mark`, as a suggestion may change with what is known. -/
theorem findings_grow {s s' : Settings} {d d' : Definitions} (grows : s.Grows s')
    (defined : d.tokens ⊆ d'.tokens) {base : Int} (positive : 0 ≤ base) (property text : Text) :
    Alike (fun found found' => (found'.map Finding.mark).Sublist (found.map Finding.mark))
      (findings { base, property, settings := s, definitions := d } text)
      (findings { base, property, settings := s', definitions := d' } text) := by
  apply alike_findings_of_grows
  · exact grows
  · exact defined
  · rfl
  · rfl
  · exact positive

/-- A project that lists a colour more, and a file that defines another one. -/
theorem findings_grow_colors : ∃ found found',
    findings { base := 4, property := [], settings := { tokens := .only [] }, definitions := {} }
      "#a #b.5 2q".toText = .ok found ∧
    findings { base := 4, property := [], settings := { tokens := .only ["#a".toText] },
               definitions := { tokens := ["#b".toText] } } "#a #b.5 2q".toText = .ok found' ∧
    found.length = 3 ∧ found'.length = 1 ∧
      (found'.map Finding.mark).Sublist (found.map Finding.mark) := by
  have grows : Settings.Grows { tokens := .only [] } { tokens := .only ["#a".toText] } :=
    { tokens := .only (List.nil_subset _)
      units := .only (List.Subset.refl _)
      funcs := .anything _
      presets := List.Subset.refl _
      noPresets := id
      recipes := List.Subset.refl _
      noRecipes := id }
  have defined : ({} : Definitions).tokens ⊆ ({ tokens := ["#b".toText] } : Definitions).tokens :=
    List.nil_subset _
  have positive : (0 : Int) ≤ 4 := by decide
  have run := findings_grow grows defined positive [] "#a #b.5 2q".toText
  -- The two runs are evaluated for their lengths only; that the marks are kept is the general
  -- theorem.
  have counts :
      (findings { base := 4, property := [], settings := { tokens := .only [] },
                  definitions := {} } "#a #b.5 2q".toText).toOption.map List.length = some 3 ∧
      (findings { base := 4, property := [], settings := { tokens := .only ["#a".toText] },
                  definitions := { tokens := ["#b".toText] } }
        "#a #b.5 2q".toText).toOption.map List.length = some 1 := by
    decide +kernel
  revert run counts
  generalize findings _ _ = first
  generalize findings _ _ = second
  rintro (_ | fewer) ⟨three, one⟩
  · cases three
  · exact ⟨_, _, rfl, rfl, Option.some.inj three, Option.some.inj one, fewer⟩

/-! ## §4 Each sort for itself -/

/-- The diagnostics of one code among those that word some findings. -/
def reported (spec : Diagnostic.Spec) (found : List Finding) : List Diagnostic :=
  (found.map (·.diagnostic)).filter (·.code == spec.code)

theorem additive_reported (spec : Diagnostic.Spec) :
    Additive fun found found' => reported spec found = reported spec found' where
  nil := rfl
  append {front front' back back'} same same' := by
    unfold reported at same same' ⊢
    rw [List.map_append, List.map_append, List.filter_append, List.filter_append, same, same']

theorem reported_eq_nil {spec : Diagnostic.Spec} {found : List Finding}
    (other : ∀ f ∈ found, f.issue.spec.code ≠ spec.code) : reported spec found = [] := by
  unfold reported
  rw [List.filter_eq_nil_iff, List.forall_mem_map]
  intro f mem
  rw [beq_iff_eq]
  exact other f mem

/-- Settings with the same lists for a rule and for the kind of its tokens. -/
def Lookup.Agree (s s' : Settings) : Lookup → Prop
  | colorToken | customProperty => s.tokens = s'.tokens
  | unit => s.units = s'.units
  | preset => s.presets = s'.presets
  | recipe => s.presets = s'.presets ∧ s.recipes = s'.recipes
  | function => s.funcs = s'.funcs

section Agree

variable {s s' : Settings} {d : Definitions} {base : Int} {property : Text} {span : Span}

/-- Settings that agree for a rule permit it the same names, so the same names are unknown and the
same is suggested. This is said for each of these. -/
theorem Lookup.permitted_eq_of_agree (agree : lookup.Agree s s') :
    lookup.permitted { base, property, settings := s, definitions := d } =
      lookup.permitted { base, property, settings := s', definitions := d } := by
  cases lookup with
  | colorToken => exact agree
  | customProperty => exact agree
  | unit => exact agree
  | preset =>
    have agree : s.presets = s'.presets := agree
    simp only [permitted, Context.wordsUnder, agree]
  | recipe => simp only [permitted, Context.wordsUnder, agree.2]
  | function => exact agree

theorem Lookup.presets_eq_of_agree (agree : lookup.Agree s s') (word : lookup.kind = .identifier) :
    s.presets = s'.presets := by
  cases lookup with
  | preset => exact agree
  | recipe => exact agree.1
  | colorToken => cases word
  | customProperty => cases word
  | unit => cases word
  | function => cases word

theorem Lookup.unknown_iff_of_agree (agree : lookup.Agree s s') :
    lookup.Unknown { base, property, settings := s, definitions := d } name ↔
      lookup.Unknown { base, property, settings := s', definitions := d } name := by
  rw [unknown_iff, unknown_iff, permitted_eq_of_agree agree]

theorem Lookup.finding_eq_of_agree (agree : lookup.Agree s s') :
    lookup.finding { base, property, settings := s, definitions := d } name span =
      lookup.finding { base, property, settings := s', definitions := d } name span := by
  simp only [finding, candidates, permitted_eq_of_agree agree]

/-- A rule finds the same at every token under settings that agree.

If it finds something in one of the runs, the tokens are of the same kind in both. -/
theorem Lookup.check_eq_of_agree (agree : lookup.Agree s s')
    (recast : Recast (Lexicon.ofSettings s) (Lexicon.ofSettings s') t t')
    (placed : t.hostSpan base = .ok span) (placed' : t'.hostSpan base = .ok span) :
    lookup.rule.check { base, property, settings := s, definitions := d } t =
      lookup.rule.check { base, property, settings := s', definitions := d } t' := by
  by_cases looked : t.kind = lookup.kind ∧
      lookup.Unknown { base, property, settings := s, definitions := d } (lookup.nameOf t)
  · -- What is unknown in one run is of the same kind in the other, and unknown there as well.
    obtain ⟨kind, unknown⟩ := looked
    obtain ⟨kind', name⟩ := recast.symm.of_unknown kind unknown fun word _ mem =>
      (presets_eq_of_agree agree word) ▸ mem
    have unknown' := (unknown_iff_of_agree agree).mp unknown
    rw [check_of_unknown kind unknown placed, check_of_unknown kind' (name ▸ unknown') placed',
      name, finding_eq_of_agree agree]
  · have notLooked : ¬(t'.kind = lookup.kind ∧ lookup.Unknown
        { base, property, settings := s', definitions := d } (lookup.nameOf t')) := by
      -- It is the same with the runs the other way round.
      intro ⟨kind', unknown'⟩
      obtain ⟨kind, name⟩ := recast.of_unknown kind' unknown' fun word _ mem =>
        (presets_eq_of_agree agree word) ▸ mem
      exact looked ⟨kind, name ▸ (unknown_iff_of_agree agree).mpr unknown'⟩
    rw [check_of_known looked, check_of_known notLooked]

/-- A run in which nothing is found under a code reports nothing under it. -/
theorem alike_reported_of_other {rule : Rule Context} {spec : Diagnostic.Spec}
    {context context' : Context} (other : rule.code ≠ spec.code)
    (verdict : Verdict rule.code (.ok span) (rule.check context t))
    (verdict' : Verdict rule.code (.ok span) (rule.check context' t')) :
    Alike (fun found found' => reported spec found = reported spec found')
      (rule.check context t) (rule.check context' t') := by
  obtain ⟨found, checked⟩ := verdict.exists_ok
  obtain ⟨found', checked'⟩ := verdict'.exists_ok
  have nothing : reported spec found = [] := reported_eq_nil fun f mem =>
    (verdict.coded found checked f mem).1 ▸ other
  have nothing' : reported spec found' = [] := reported_eq_nil fun f mem =>
    (verdict'.coded found' checked' f mem).1 ▸ other
  rw [checked, checked']
  exact .ok (nothing.trans nothing'.symm)

/-- If the settings agree for the rules that report under a code, the same is reported under it.

The other rules report nothing under this code, by `Verdict`. -/
theorem alike_reported (s s' : Settings) (d : Definitions) (positive : 0 ≤ base)
    (property text : Text) (spec : Diagnostic.Spec)
    (agree : ∀ lookup : Lookup, lookup.rule.code = spec.code → lookup.Agree s s') :
    Alike (fun found found' => reported spec found = reported spec found')
      (findings { base, property, settings := s, definitions := d } text)
      (findings { base, property, settings := s', definitions := d } text) := by
  apply alike_findings (additive_reported spec) (fun _ => rfl)
  · rfl
  · exact positive
  intro lookup t t' span recast placed placed'
  by_cases same : lookup.rule.code = spec.code
  · rw [Lookup.check_eq_of_agree (agree lookup same) recast placed placed']
    refine Alike.refl ?_ _
    exact fun _ => rfl
  · apply alike_reported_of_other same
    · exact placed ▸ lookup.verdict_rule
    · exact placed' ▸ lookup.verdict_rule

/-- Each sort of findings depends on the list for that sort alone, and that of opacities on none.

Unknown recipes are left out, since they depend on presets as well; `Lookup.Agree` says so. -/
theorem findings_independent (s s' : Settings) (d : Definitions) (positive : 0 ≤ base)
    (property text : Text) :
    Alike (fun found found' =>
        (s.tokens = s'.tokens →
          reported Catalogue.unknownColorToken found =
            reported Catalogue.unknownColorToken found' ∧
          reported Catalogue.unknownCustomProperty found =
            reported Catalogue.unknownCustomProperty found') ∧
        (s.units = s'.units →
          reported Catalogue.unknownUnit found = reported Catalogue.unknownUnit found') ∧
        (s.funcs = s'.funcs →
          reported Catalogue.unknownFunction found = reported Catalogue.unknownFunction found') ∧
        (s.presets = s'.presets →
          reported Catalogue.unknownPreset found = reported Catalogue.unknownPreset found') ∧
        reported Catalogue.invalidOpacity found = reported Catalogue.invalidOpacity found')
      (findings { base, property, settings := s, definitions := d } text)
      (findings { base, property, settings := s', definitions := d } text) := by
  -- One code belongs to one rule, so it is enough that the settings agree for that rule.
  have alone (lookup : Lookup) (spec : Diagnostic.Spec) (code : lookup.rule.code = spec.code)
      (agree : lookup.Agree s s') :=
    alike_reported s s' d positive property text spec fun _ same =>
      Lookup.eq_of_code (code.trans same.symm) ▸ agree
  have opacities := alike_reported s s' d positive property text Catalogue.invalidOpacity
    fun lookup same => absurd same lookup.code_ne_opacity
  have tokens := opacities.given fun agree : s.tokens = s'.tokens =>
    (alone .colorToken Catalogue.unknownColorToken rfl agree).and
      (alone .customProperty Catalogue.unknownCustomProperty rfl agree)
  have units := opacities.given (alone .unit Catalogue.unknownUnit rfl)
  have funcs := opacities.given (alone .function Catalogue.unknownFunction rfl)
  have presets := opacities.given (alone .preset Catalogue.unknownPreset rfl)
  exact tokens.and (units.and (funcs.and (presets.and opacities)))

/-- Other units and presets leave the unknown colours as they are. -/
theorem findings_independent_colors : ∃ found found',
    findings { base := 4, property := [], definitions := {},
               settings := { tokens := .only [], units := .only ["q".toText],
                             presets := ["h1".toText] } } "#a 2q".toText = .ok found ∧
    findings { base := 4, property := [], definitions := {},
               settings := { tokens := .only [] } } "#a 2q".toText = .ok found' ∧
    found.length = 1 ∧ found'.length = 2 ∧
      reported Catalogue.unknownColorToken found = reported Catalogue.unknownColorToken found' := by
  have positive : (0 : Int) ≤ 4 := by decide
  have run := findings_independent
    { tokens := .only [], units := .only ["q".toText], presets := ["h1".toText] }
    { tokens := .only [] } {} positive [] "#a 2q".toText
  -- The lengths differ by the unit alone, which only one of the projects knows.
  have counts :
      (findings { base := 4, property := [], definitions := {},
                  settings := { tokens := .only [], units := .only ["q".toText],
                                presets := ["h1".toText] } }
        "#a 2q".toText).toOption.map List.length = some 1 ∧
      (findings { base := 4, property := [], definitions := {},
                  settings := { tokens := .only [] } }
        "#a 2q".toText).toOption.map List.length = some 2 := by
    decide +kernel
  revert run counts
  generalize findings _ _ = first
  generalize findings _ _ = second
  rintro (_ | same) ⟨one, two⟩
  · cases one
  · exact ⟨_, _, rfl, rfl, Option.some.inj one, Option.some.inj two, (same.1 rfl).1⟩

end Agree

end Value

end StyleCheck
