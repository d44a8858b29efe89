import Mathlib.Data.List.Nodup
import StyleCheck.Check.Document
import StyleCheck.Proofs.Check.Finds
import StyleCheck.Proofs.Diagnostic.Report

/-!
# Looking names up

All rules for values but the one for opacities do the same. Such a rule waits for tokens of one
kind, takes a name from them and looks it up in three places: among the names that the project
permits, among those that every project knows and among those that the file defines. A name that is
in none of them is reported, with the candidate that comes closest to it. The rules differ in the
kind, in the name and in the lists.

## Main definitions

- `Lookup`: the rules that look names up, with their kinds, names and lists.
- `Lookup.Unknown`: a name that such a rule finds nowhere.

## Main statements

- `Value.mem_rules_iff`: the rules for values, those that look names up and the one for opacities.
- `Lookup.check_eq`: what such a rule finds.
- `Value.finds_rules`, `StateKey.finds_rules`: all that the rules can find at a token.
-/

namespace StyleCheck

/-! ## §1 Permitted names -/

/-- The names of the category are limited, and the name is not among them. Nothing is excluded where
the category is `.anything`. -/
def Permitted.Excludes : Permitted → Text → Prop
  | .anything, _ => False
  | .only names, name => name ∉ names

/-- `Permitted.Excludes` told by the list of names alone. The first half cannot be left out: under
`.anything` the list is empty, and every name would be missing from it. -/
theorem Permitted.excludes_iff {permitted : Permitted} {name : Text} :
    permitted.Excludes name ↔ permitted ≠ .anything ∧ name ∉ permitted.listed := by
  cases permitted <;> simp [Excludes, listed]

theorem Permitted.Excludes.eq_only {permitted : Permitted} {name : Text}
    (excludes : permitted.Excludes name) : permitted = .only permitted.listed := by
  cases permitted with
  | anything => exact excludes.elim
  | only names => rfl

theorem Permitted.Excludes.notMem {permitted : Permitted} {name : Text}
    (excludes : permitted.Excludes name) : name ∉ permitted.listed :=
  (Permitted.excludes_iff.mp excludes).2

namespace Value

/-- Words are checked under one property, and there only against a list that is not empty.

A list without names is read as `.anything`, since a project that configures no presets or recipes
does not want to hear about them. -/
def Context.wordsUnder (context : Context) (property : Text) (names : List Text) : Permitted :=
  if context.property = property ∧ names ≠ [] then .only names else .anything

theorem Context.excludes_wordsUnder {context : Context} {property name : Text}
    {names : List Text} : (context.wordsUnder property names).Excludes name ↔
      (context.property = property ∧ names ≠ []) ∧ name ∉ names := by
  unfold wordsUnder
  split
  · next checked => exact (and_iff_right checked).symm
  · next notChecked => exact iff_of_false id fun checked => notChecked checked.1

/-- Where words are checked, they are checked against the whole list. -/
theorem Context.listed_wordsUnder {context : Context} {property : Text} {names : List Text}
    (checked : context.wordsUnder property names ≠ .anything) :
    (context.wordsUnder property names).listed = names := by
  unfold wordsUnder at checked ⊢
  split_ifs at checked ⊢
  · rfl
  · exact absurd rfl checked

/-! ## §2 Rules that look names up -/

/-- The rules that look names up. -/
inductive Lookup
  | colorToken
  | customProperty
  | unit
  | preset
  | recipe
  | function
deriving DecidableEq

namespace Lookup

/-- All of them, in the order of the rules. -/
def all : List Lookup := [colorToken, customProperty, unit, preset, recipe, function]

/-- The rule, as it stands among `Value.defaultRules`. -/
def rule : Lookup → Rule Context
  | colorToken => colorTokenRule
  | customProperty => customPropertyRule
  | unit => unitRule
  | preset => presetRule
  | recipe => recipeRule
  | function => functionRule

/-- The kind of the tokens that the rule looks at. `presetRule` and `recipeRule` look at the same
ones, and their properties keep them apart. -/
def kind : Lookup → TokenKind
  | colorToken => .colorToken
  | customProperty => .customProperty
  | unit => .customUnit
  | preset | recipe => .identifier
  | function => .function

/-- The name that the rule takes from a token: the front of it for `#name.50` and `name(…)`, the end
of it for a number with a unit, the whole of it otherwise. -/
def nameOf : Lookup → Token → Text
  | colorToken, t | function, t => t.name
  | unit, t => unitOf t.text
  | customProperty, t | preset, t | recipe, t => t.text

/-- The names that the project permits, a `Permitted` for each category. Words are checked under one
property only, which `Context.wordsUnder` puts into the list. -/
def permitted (context : Context) : Lookup → Permitted
  | colorToken | customProperty => context.settings.tokens
  | unit => context.settings.units
  | preset => context.wordsUnder "preset".toText context.settings.presets
  | recipe => context.wordsUnder "recipe".toText context.settings.recipes
  | function => context.settings.funcs

/-- The names that every project knows. A number without a unit has none that could be unknown, so
the empty name is among the units. -/
def builtIn : Lookup → List Text
  | colorToken => Vocabulary.reservedColorTokens
  | customProperty => []
  | unit => [] :: Vocabulary.builtInUnits
  | preset => Vocabulary.presetModifiers ++ Vocabulary.cssGlobalValues
  | recipe => Vocabulary.cssGlobalValues
  | function => Vocabulary.cssFunctions

/-- The names that the file defines. -/
def defined (definitions : Definitions) : Lookup → List Text
  | colorToken | customProperty => definitions.tokens
  | unit | preset | recipe | function => []

/-- The names that may be suggested. They are not all the names that are accepted: the colours of
`Vocabulary.reservedColorTokens` and the words of `Vocabulary.cssGlobalValues` are missing. -/
def candidates (context : Context) (lookup : Lookup) : List Text :=
  let listed := (lookup.permitted context).listed
  match lookup with
  | colorToken => knownTokens '#' listed context.definitions
  | customProperty => knownTokens '$' listed context.definitions
  | unit => listed ++ Vocabulary.builtInUnits
  | preset => listed ++ Vocabulary.presetModifiers
  | recipe => listed
  | function => listed ++ Vocabulary.cssFunctions

/-- What is reported for a name that is `Unknown`. -/
def issue : Lookup → Text → Issue
  | colorToken => .unknownColorToken
  | customProperty => .unknownCustomProperty
  | unit => .unknownUnit
  | preset => .unknownPreset
  | recipe => .unknownRecipe
  | function => .unknownFunction

/-- A name that the rule finds nowhere: neither among the names that the project permits, nor among
those that every project knows, nor among those that the file defines.

Where all names are permitted, `Permitted.Excludes` holds of none. -/
structure Unknown (lookup : Lookup) (context : Context) (name : Text) : Prop where
  notPermitted : (lookup.permitted context).Excludes name
  notBuiltIn : name ∉ lookup.builtIn
  notDefined : name ∉ lookup.defined context.definitions

/-- The finding of an unknown name at a range, with what `suggest?` makes of the candidates. -/
def finding (lookup : Lookup) (context : Context) (name : Text) (span : Span) : Finding where
  issue := lookup.issue name
  span := span
  suggestion := suggest? name (lookup.candidates context)

end Lookup

/-- The rules for values are the one for opacities and those that look names up. -/
theorem defaultRules_eq : defaultRules = opacityRule :: Lookup.all.map Lookup.rule := rfl

/-- Every rule has a code of its own. -/
theorem nodup_codes : (defaultRules.map Rule.code).Nodup := by decide +kernel

namespace Lookup

theorem mem_all (lookup : Lookup) : lookup ∈ all := by
  cases lookup <;> decide

end Lookup

/-- `defaultRules_eq` for a single rule, to take a rule of the list apart. -/
theorem mem_rules_iff {rule : Rule Context} :
    rule ∈ defaultRules ↔ rule = opacityRule ∨ ∃ lookup : Lookup, rule = lookup.rule := by
  rw [defaultRules_eq, List.mem_cons, List.mem_map]
  refine or_congr_right (exists_congr fun lookup => ?_)
  rw [and_iff_right lookup.mem_all, eq_comm]

namespace Lookup

variable {lookup lookup' : Lookup} {context : Context} {t : Token} {name : Text} {span : Span}

theorem eq_of_code (same : lookup.rule.code = lookup'.rule.code) : lookup = lookup' := by
  have distinct := nodup_codes
  rw [defaultRules_eq, List.map_cons, List.nodup_cons, List.map_map] at distinct
  exact List.inj_on_of_nodup_map distinct.2 lookup.mem_all lookup'.mem_all same

theorem code_ne_opacity (lookup : Lookup) : lookup.rule.code ≠ opacityRule.code := by
  have distinct := nodup_codes
  rw [defaultRules_eq, List.map_cons, List.nodup_cons, List.map_map] at distinct
  exact fun same => distinct.1 (List.mem_map.mpr ⟨lookup, lookup.mem_all, same⟩)

/-- One rule reports under each code, by `nodup_codes`, so to keep the findings with that code is to
run that rule alone. -/
theorem filter_code (lookup : Lookup) :
    defaultRules.filter (·.code == lookup.rule.code) = [lookup.rule] := by
  classical
  have there : lookup.rule ∈ defaultRules := mem_rules_iff.mpr (.inr ⟨lookup, rfl⟩)
  have same : ∀ rule ∈ defaultRules,
      (rule.code == lookup.rule.code) = decide (rule = lookup.rule) := by
    intro rule hrule
    rw [Bool.eq_iff_iff, beq_iff_eq, decide_eq_true_iff]
    exact ⟨List.inj_on_of_nodup_map nodup_codes hrule there, fun same => congrArg _ same⟩
  rw [List.filter_congr same, List.filter_eq,
    List.count_eq_one_of_mem (.of_map _ nodup_codes) there]
  rfl

/-- A rule reports under its own code, whatever the name is. -/
theorem code_issue (lookup : Lookup) (name : Text) :
    (lookup.issue name).spec.code = lookup.rule.code := by
  cases lookup <;> rfl

/-- The name can be read off what is reported, by `Issue.unknownName?`. -/
theorem unknownName?_issue (lookup : Lookup) (name : Text) :
    (lookup.issue name).unknownName? = some name := by
  cases lookup <;> rfl

/-! ## §3 What they find -/

/-- The fields of `Lookup.Unknown` as one conjunction, the form in which the conditions of the rules
are compared with it. -/
theorem unknown_iff : lookup.Unknown context name ↔ (lookup.permitted context).Excludes name ∧
    name ∉ lookup.builtIn ∧ name ∉ lookup.defined context.definitions :=
  ⟨fun ⟨excludes, notBuiltIn, notDefined⟩ => ⟨excludes, notBuiltIn, notDefined⟩,
    fun ⟨excludes, notBuiltIn, notDefined⟩ => ⟨excludes, notBuiltIn, notDefined⟩⟩

open scoped Classical in
/-- A rule that looks names up asks whether the name is unknown: this is what each of the six does
to a token.

It is the only place where the six are opened. Everything further on is proved of a `Lookup`, from
its kind, its name and its lists. -/
theorem check_eq (lookup : Lookup) (context : Context) (t : Token) :
    lookup.rule.check context t =
      if t.kind = lookup.kind ∧ lookup.Unknown context (lookup.nameOf t) then
        context.find t (lookup.issue (lookup.nameOf t))
          (suggest? (lookup.nameOf t) (lookup.candidates context))
      else .ok [] := by
  cases lookup
  case colorToken | customProperty | unit | function =>
    -- The names of the category are limited, or nothing is checked.
    simp only [rule, colorTokenRule, customPropertyRule, unitRule, functionRule]
    split
    · next names kind limited =>
      rw [← ite_not]
      refine if_congr ?_ ?_ rfl
      · simp only [unknown_iff, permitted, limited, Permitted.Excludes, defined, kind]
        simp [Lookup.kind, builtIn, nameOf, Definitions.hasToken, and_assoc, and_left_comm,
          and_comm]
      · simp only [candidates, permitted, limited, Permitted.listed, nameOf, issue]
    · next other =>
      exact (if_neg fun looked => other _ looked.1 looked.2.notPermitted.eq_only).symm
  -- The property and the list of names stand in the condition of the rule, not in a limit.
  case preset | recipe =>
    simp only [rule, presetRule, recipeRule]
    split
    · next unchecked =>
      refine (if_neg fun looked => ?_).symm
      have checked := context.excludes_wordsUnder.mp looked.2.notPermitted
      simp [looked.1, Lookup.kind, checked.1] at unchecked
    · next checked =>
      rw [← ite_not]
      refine if_congr ?_ ?_ rfl
      · simp_all [unknown_iff, Lookup.kind, permitted, Context.excludes_wordsUnder, builtIn,
          defined, nameOf, and_assoc]
      · simp_all [candidates, permitted, Permitted.listed, nameOf, issue, Context.wordsUnder]

/-- A rule that looks names up finds a name that is `Unknown`. -/
theorem check_of_unknown (kind : t.kind = lookup.kind)
    (unknown : lookup.Unknown context (lookup.nameOf t))
    (placed : t.hostSpan context.base = .ok span) :
    lookup.rule.check context t = .ok [lookup.finding context (lookup.nameOf t) span] := by
  classical
  rw [check_eq, if_pos ⟨kind, unknown⟩, Context.find, placed]
  rfl

/-- It finds nothing else than `check_of_unknown` says: nothing in a token of another kind, nor in a
name that is known somewhere. -/
theorem check_of_known
    (known : ¬(t.kind = lookup.kind ∧ lookup.Unknown context (lookup.nameOf t))) :
    lookup.rule.check context t = .ok [] := by
  classical
  rw [check_eq, if_neg known]

variable {P : Finding → Prop}

/-- All that a rule that looks names up can find at a token is `Lookup.finding` of an unknown name.
-/
theorem finds_check (lookup : Lookup)
    (holds : t.kind = lookup.kind → lookup.Unknown context (lookup.nameOf t) →
      ∀ span, t.hostSpan context.base = .ok span →
        P (lookup.finding context (lookup.nameOf t) span)) :
    Finds P (lookup.rule.check context t) := by
  classical
  rw [check_eq]
  split
  · next looked => exact finds_at fun span placed => holds looked.1 looked.2 span placed
  · exact finds_nil

end Lookup

variable {context : Context} {t : Token} {P : Finding → Prop}

/-- All that the rule for opacities can find at a token: digits behind the last point of a colour
that come to more than a hundred. -/
theorem finds_opacityRule
    (holds : t.kind = .colorToken → ∀ digits, opacityDigits? t.text = some digits →
      (∃ percent, opacityPercent digits = .ok percent ∧ 100 < percent) →
        ∀ span, t.hostSpan context.base = .ok span → P { issue := .invalidOpacity digits, span }) :
    Finds P (opacityRule.check context t) := by
  simp only [opacityRule]
  refine finds_unless fun color => ?_
  split
  · exact finds_nil
  · next digits suffix =>
    have kind : t.kind = .colorToken := by simpa using color
    refine finds_bind fun percent read => finds_unless fun beyond => finds_at ?_
    exact holds kind digits suffix ⟨percent, read, Nat.not_le.mp beyond⟩

/-- All that the rules can find at a token of a value: the opacity of a colour, and unknown names.

A property of findings is proved for all values by proving it in these two cases, since `Finds`
carries over from the rules to the whole check. -/
theorem finds_rules
    (opacity : t.kind = .colorToken → ∀ digits, opacityDigits? t.text = some digits →
      (∃ percent, opacityPercent digits = .ok percent ∧ 100 < percent) →
        ∀ span, t.hostSpan context.base = .ok span → P { issue := .invalidOpacity digits, span })
    (unknown : ∀ lookup : Lookup, t.kind = lookup.kind →
      lookup.Unknown context (lookup.nameOf t) → ∀ span, t.hostSpan context.base = .ok span →
        P (lookup.finding context (lookup.nameOf t) span)) :
    ∀ rule ∈ defaultRules, Finds P (rule.check context t) := by
  intro rule hrule
  obtain rfl | ⟨lookup, rfl⟩ := mem_rules_iff.mp hrule
  · exact finds_opacityRule opacity
  · exact lookup.finds_check (unknown lookup)

end Value

/-! ## §4 State keys -/

namespace StateKey

theorem mem_rules_iff {rule : Rule Context} :
    rule ∈ defaultRules ↔ rule = syntaxRule ∨ rule = ownRule ∨ rule = aliasRule := by
  rw [defaultRules, List.mem_cons, List.mem_cons, List.mem_singleton]

variable {context : Context} {t : Token} {P : Finding → Prop}

/-- All that the rules can find at a token of a state key: a character that starts no token, an
own-state where none may stand, and an alias that neither the project nor the file defines.

The candidates for an alias are those of the project in their order, then those of the file in the
order of `Text.sort`. -/
theorem finds_rules
    (syntactic : t.kind = .unknown → ∀ span, t.hostSpan context.base = .ok span →
      P { issue := .invalidSyntax t.text, span })
    (own : t.kind = .ownState → context.insideSubElement = false →
      ∀ span, t.hostSpan context.base = .ok span → P { issue := .ownOutsideSubElement, span })
    (unknown : t.kind = .stateAlias →
      t.text ∉ context.settings.states ++ context.definitions.states →
      ∀ span, t.hostSpan context.base = .ok span →
        P { issue := .unknownAlias t.text, span
            suggestion := suggest? t.text
              (context.settings.states ++ Text.sort context.definitions.states) }) :
    ∀ rule ∈ defaultRules, Finds P (rule.check context t) := by
  intro rule hrule
  obtain rfl | rfl | rfl := mem_rules_iff.mp hrule
  · simp only [syntaxRule]
    split
    · next kind => exact finds_at (syntactic (beq_iff_eq.mp kind))
    · exact finds_nil
  · simp only [ownRule]
    split
    · next outside =>
      rw [Bool.and_eq_true, beq_iff_eq, Bool.not_eq_true'] at outside
      exact finds_at (own outside.1 outside.2)
    · exact finds_nil
  · refine finds_unless fun nowhere => finds_at ?_
    simp only [Bool.or_eq_true, bne_iff_ne, ne_eq, List.contains_iff_mem, Definitions.hasState,
      not_or, not_not] at nowhere
    refine unknown nowhere.1.1 ?_
    rw [List.mem_append, not_or]
    exact ⟨nowhere.1.2, nowhere.2⟩

end StateKey

end StyleCheck
