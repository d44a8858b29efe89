import StyleCheck.Proofs.Check.Knowledge
import StyleCheck.Proofs.Value.Numbers

/-!
# Unknown units

The lexer and the rule for units ask different lists about a unit. The lexer leaves the units of the
style sheet language to that language, unless the project has one of the same name; the rule asks
the project and the built-in units about all others. Together they report exactly the numbers whose
unit is in none of the three lists.

## Main definitions

- `HasUnknownUnit`: the numbers with such a unit.

## Main statements

- `unit_unknown_iff`: the numbers that the rule for units reports.
- `findings_units`: what is reported about the units of a value.
-/

namespace StyleCheck.Value

open Text
open Token (flatten)

/-- A number of a text whose unit is not empty, and neither permitted, nor built in, nor one of the
style sheet language. The unit is the one that `unitAhead` reads behind the longest literal. -/
def HasUnknownUnit (units : List Text) (text : Text) (t : Token) : Prop :=
  t.kind ∈ numberKinds ∧ unitAhead (text.drop t.start.toNat) ≠ [] ∧
    unitAhead (text.drop t.start.toNat) ∉
      units ++ Vocabulary.builtInUnits ++ Vocabulary.cssUnits

instance (units : List Text) (text : Text) (t : Token) :
    Decidable (HasUnknownUnit units text t) :=
  inferInstanceAs (Decidable (_ ∧ _ ∧ _))

/-- The diagnostic of the unit of a number: it names the unit, covers the number and suggests what
is closest. -/
def ReportsUnit (context : Context) (units : List Text) (text : Text) (t : Token)
    (d : Diagnostic) : Prop :=
  ∃ span : Span, (span.start : Int) = context.base + t.start ∧
    (span.stop : Int) = context.base + t.stop ∧
    d = Finding.diagnostic {
      issue := .unknownUnit (unitAhead (text.drop t.start.toNat))
      span := span
      suggestion := suggest? (unitAhead (text.drop t.start.toNat))
        (units ++ Vocabulary.builtInUnits) }

variable {context : Context} {text : Text} {t : Token} {units : List Text}

theorem reported_eq_map (spec : Diagnostic.Spec) (found : List Finding) :
    reported spec found =
      (found.filter (·.issue.spec.code == spec.code)).map Finding.diagnostic := by
  rw [reported, List.filter_map]
  rfl

/-- The numbers that the rule for units reports.

The kind of the token holds what the lexer knows of the unit, and the rule knows the rest: a number
with a unit of the style sheet language is of that kind, unless the project lists the unit, and then
the rule knows it. -/
theorem unit_unknown_iff (limited : context.settings.units = .only units)
    (ht : t ∈ flatten (lex (Lexicon.ofSettings context.settings) text)) :
    t.kind = Lookup.unit.kind ∧ Lookup.unit.Unknown context (Lookup.unit.nameOf t) ↔
      HasUnknownUnit units text t := by
  have listed : (Lexicon.ofSettings context.settings).units = units := by
    rw [Lexicon.ofSettings, limited]
    rfl
  -- Nothing is defined in a file that a unit could be looked up in.
  have nowhere (name : Text) : Lookup.unit.Unknown context name ↔
      name ≠ [] ∧ name ∉ units ++ Vocabulary.builtInUnits := by
    simp only [Lookup.unknown_iff, Lookup.permitted, limited, Permitted.Excludes, Lookup.builtIn,
      Lookup.defined, List.mem_append, List.mem_cons]
    tauto
  constructor
  · rintro ⟨kind, unknown⟩
    have isNumber : t.kind ∈ numberKinds := by
      rw [kind]
      decide
    obtain ⟨-, ⟨percent, -, -⟩ | ⟨made, -, sameUnit⟩⟩ := splitsAs_of_mem_flatten ht isNumber
    · rw [percent] at kind
      cases kind
    · -- The lexer made it a unit of the project, so the style sheet language has none of the name.
      obtain ⟨some, known⟩ := Lexicon.unitKind_eq_customUnit_iff.mp (made.symm.trans kind)
      have absent := ((nowhere _).mp unknown).2
      rw [Lookup.nameOf, sameUnit] at absent
      rw [listed, ← or_assoc] at known
      have notCss := known.resolve_left fun there => absent (List.mem_append.mpr there.symm)
      refine ⟨isNumber, some, ?_⟩
      rw [List.mem_append, not_or]
      exact ⟨absent, notCss⟩
  · rintro ⟨isNumber, some, absent⟩
    rw [List.mem_append, not_or] at absent
    obtain ⟨made, sameUnit⟩ := (splitsAs_of_mem_flatten ht isNumber).of_unit some
    refine ⟨?_, (nowhere _).mpr ?_⟩
    · rw [made]
      exact Lexicon.unitKind_eq_customUnit_iff.mpr ⟨some, .inr (.inr absent.2)⟩
    · rw [Lookup.nameOf, sameUnit]
      exact ⟨some, absent.1⟩

variable {found : List Finding}

/-- Where the units are not limited, none is reported: `units` may be left out of a configuration or
be set to `false`. -/
theorem reported_unit_eq_nil (unlimited : context.settings.units = .anything)
    (checked : findings context text = .ok found) : reported Catalogue.unknownUnit found = [] := by
  have other (name : Text) : ¬Lookup.unit.Unknown context name := fun unknown => by
    have excludes := unknown.notPermitted
    rw [Lookup.permitted, unlimited] at excludes
    exact excludes
  have silent : found.filter (·.issue.spec.code == unitRule.code) = [] := by
    have each := Lookup.unit.forall₂_findings checked (p := fun _ => false)
      (r := fun _ _ => False) (fun t _ => iff_of_false Bool.false_ne_true (other _ ·.2))
      fun _ _ chosen => absurd chosen Bool.false_ne_true
    rwa [List.filter_false, List.forall₂_nil_left_iff] at each
  rw [reported_eq_map]
  exact congrArg (List.map Finding.diagnostic) silent

/-- Where they are limited, the numbers with unknown units are reported, one by one and in their
order. Each of them is told by `unit_unknown_iff`. -/
theorem forall₂_reported_unit (limited : context.settings.units = .only units)
    (checked : findings context text = .ok found) :
    List.Forall₂ (ReportsUnit context units text)
      ((flatten (lex (Lexicon.ofSettings context.settings) text)).filter
        (HasUnknownUnit units text))
      (reported Catalogue.unknownUnit found) := by
  rw [reported_eq_map, List.forall₂_map_right_iff]
  refine Lookup.unit.forall₂_findings checked ?_ ?_
  · intro t ht
    rw [decide_eq_true_iff, unit_unknown_iff limited ht]
  · intro t ht unknown span placed
    have bounds := (Token.hostSpan_eq_ok_iff (inOrder_of_mem_flatten ht)).mp placed
    refine ⟨span, bounds.1, bounds.2, congrArg Finding.diagnostic ?_⟩
    -- The unit that the rule has taken from the text of the token is the one that lies ahead.
    obtain ⟨isNumber, some, -⟩ := of_decide_eq_true unknown
    have sameUnit := ((splitsAs_of_mem_flatten ht isNumber).of_unit some).2
    simp only [Lookup.finding, Lookup.issue, Lookup.nameOf, Lookup.candidates, Lookup.permitted,
      limited, Permitted.listed, sameUnit]

/-- What is reported about the units of a value: nothing, where the units are not limited; otherwise
the numbers with unknown units, each once, in the order in which a walk meets them.

The unit of a number is the whole name behind the longest literal that stands where the number
starts. -/
theorem findings_units (context : Context) (text : Text) {found : List Finding}
    (checked : findings context text = .ok found) :
    (∀ t ∈ flatten (lex (Lexicon.ofSettings context.settings) text), t.kind ∈ numberKinds →
      LongestLiteral (literalAhead (text.drop t.start.toNat)) (text.drop t.start.toNat)) ∧
    (context.settings.units = .anything → reported Catalogue.unknownUnit found = []) ∧
    ∀ units, context.settings.units = .only units →
      List.Forall₂ (ReportsUnit context units text)
        ((flatten (lex (Lexicon.ofSettings context.settings) text)).filter
          (HasUnknownUnit units text))
        (reported Catalogue.unknownUnit found) := by
  refine ⟨?_, ?_, ?_⟩
  · intro t ht isNumber
    exact (splitsAs_of_mem_flatten ht isNumber).literal
  · intro unlimited
    exact reported_unit_eq_nil unlimited checked
  · intro units limited
    exact forall₂_reported_unit limited checked

/-- Known and unknown units, with a sign and a fraction, in and around a call. -/
theorem findings_units_nested : ∃ context found,
    findings context "2q f(-.5zz 4px) 5% 1w".toText = .ok found ∧
    ∃ t u, t.text = "2q".toText ∧ u.text = "-.5zz".toText ∧
      List.Forall₂ (ReportsUnit context ["w".toText] "2q f(-.5zz 4px) 5% 1w".toText) [t, u]
        (reported Catalogue.unknownUnit found) := by
  obtain ⟨context, limited, some, numbers⟩ : ∃ context : Context,
      context.settings.units = .only ["w".toText] ∧
      (findings context "2q f(-.5zz 4px) 5% 1w".toText).toOption.isSome = true ∧
      ((flatten (lex (Lexicon.ofSettings context.settings)
          "2q f(-.5zz 4px) 5% 1w".toText)).filter
        (HasUnknownUnit ["w".toText] "2q f(-.5zz 4px) 5% 1w".toText)).map Token.text =
          ["2q".toText, "-.5zz".toText] :=
    ⟨{ base := 3, property := [], settings := { units := .only ["w".toText] }, definitions := {} },
      rfl, by decide +kernel, by decide +kernel⟩
  cases checked : findings context "2q f(-.5zz 4px) 5% 1w".toText with
  | error fault =>
    rw [checked] at some
    cases some
  | ok found =>
    -- The two numbers are found by evaluation, and what is reported of them by the theorem.
    have each := (findings_units context _ checked).2.2 ["w".toText] limited
    obtain ⟨t, others, tokens, first, rest⟩ := List.map_eq_cons_iff.mp numbers
    obtain ⟨u, none, rfl, second, nil⟩ := List.map_eq_cons_iff.mp rest
    obtain rfl := List.map_eq_nil_iff.mp nil
    rw [tokens] at each
    exact ⟨context, found, checked, t, u, first, second, each⟩

end StyleCheck.Value
