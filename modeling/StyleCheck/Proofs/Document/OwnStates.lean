import StyleCheck.Proofs.Check.Keys
import StyleCheck.Proofs.Document.Total

/-!
# Own-states outside sub-elements

An own-state belongs inside a sub-element. Whether a state key is inside one is known to the walk
only, and the rule that looks at the tokens of the key is told by a flag. From the walk to the
report nothing is lost on the way: own-states are reported just where they stand at the top level of
a state key that is checked and no key among the styles on the path is a sub-element.

The keys that close what is below them do so for the whole report, provided that the definitions are
given. Otherwise what is below them may still define something.

## Main definitions

- `Forest.OwnStateOutside`: an own-state stands at a range, outside every sub-element.

## Main statements

- `StateKey.exists_own_iff`: what is found in a state key about own-states.
- `Document.exists_own_iff`: what is found in a file.
- `Document.validate_own_states`: what is reported, and what is not looked at.
-/

namespace StyleCheck

/-! ## §1 State keys -/

namespace Issue

/-- The issue with own-states is told by its code: it is the only one with that code, and it has no
fields. -/
theorem eq_ownOutsideSubElement_of_code {issue : Issue}
    (same : issue.spec.code = Catalogue.ownOutsideSubElement.code) :
    issue = .ownOutsideSubElement := by
  have spec : issue.spec = spec .ownOutsideSubElement :=
    Catalogue.code_injective issue.spec_mem_all (spec_mem_all .ownOutsideSubElement) same
  have place := place_eq_of_spec_eq spec
  cases issue <;>
    first
      | rfl
      | cases place

end Issue

/-- A finding is about an own-state at a range. It has no name and no suggestion, so there is
nothing else to say of it. -/
def Finding.IsOwnAt (span : Span) (f : Finding) : Prop :=
  f.issue = .ownOutsideSubElement ∧ f.span = span

namespace StateKey

variable {context : Context} {t : Token} {span : Span}

/-- What the rules find about own-states is found at one outside sub-elements. Rules other than
`ownRule` report other issues. -/
theorem own_rules (context : Context) (t : Token) : ∀ rule ∈ defaultRules,
    Finds (fun f => f.issue = .ownOutsideSubElement → context.insideSubElement = false ∧
      t.kind = .ownState ∧ t.hostSpan context.base = .ok f.span) (rule.check context t) := by
  apply finds_rules
  · exact fun _ _ _ => nofun
  · exact fun kind outside _ placed _ => ⟨outside, kind, placed⟩
  · exact fun _ _ _ _ => nofun

/-- An own-state outside sub-elements is found by `ownRule`. -/
theorem check_of_outside (outside : context.insideSubElement = false) (kind : t.kind = .ownState)
    (placed : t.hostSpan context.base = .ok span) :
    ownRule.check context t = .ok [{ issue := .ownOutsideSubElement, span }] := by
  simp [ownRule, outside, kind, Context.find, placed, Except.map]

/-- What is found in a state key about own-states: they stand at the top level of a key that is
checked, outside every sub-element. Keys that satisfy `isExempt` are not checked at all. -/
theorem exists_own_iff {key : Text} {found : List Finding}
    (checked : findings context key = .ok found) :
    (∃ f ∈ found, f.IsOwnAt span) ↔ context.insideSubElement = false ∧ isExempt key = false ∧
      ∃ t ∈ lex context.aliases key, t.kind = .ownState ∧ t.hostSpan context.base = .ok span := by
  cases exempt : isExempt key with
  | true =>
    rw [findings, exempt, if_pos rfl, Except.ok.injEq] at checked
    subst checked
    simp
  | false =>
    -- A key that is checked has the findings about brackets first, and then those about tokens.
    obtain ⟨brackets, tokens, closed, ran, rfl⟩ := findings_eq_ok checked exempt
    constructor
    · rintro ⟨f, mem, own⟩
      rcases List.mem_append.mp mem with bracket | token
      · -- The brackets have issues of their own.
        have issue := (Bracket.finds context.base key _ closed f bracket).issue
        rw [own.1] at issue
        cases issue
      · obtain ⟨t, ht, rule, hrule, part, made, there⟩ := (mem_runAll_iff ran).mp token
        obtain ⟨outside, kind, placed⟩ := own_rules context t rule hrule part made f there own.1
        rw [own.2] at placed
        exact ⟨outside, rfl, t, ht, kind, placed⟩
    · rintro ⟨outside, -, t, ht, kind, placed⟩
      -- Conversely, the rule for own-states is one of the default ones and reports the token.
      have hrule : ownRule ∈ defaultRules := .tail _ (.head _)
      have token := (mem_runAll_iff ran).mpr
        ⟨t, ht, ownRule, hrule, _, check_of_outside outside kind placed, List.mem_cons_self⟩
      exact ⟨_, List.mem_append_right brackets token, rfl, rfl⟩

end StateKey

/-! ## §2 Documents -/

/-- An own-state stands at a range of the host file, at the top level of a state key that is checked
and not exempt, and none of the names that lead to the key among styles is that of a sub-element.

`HoldsStateKey` is a grammar of paths. Of the names on a path it hands over those among styles,
since the names in a state mapping are conditions and make no sub-element. -/
def Forest.OwnStateOutside (forest : Forest) (aliases : List Text) (span : Span) : Prop :=
  ∃ p ∈ forest.paths, ∃ styles key start, p.HoldsStateKey styles key start ∧
    (∀ name ∈ styles, StateKey.isSubElement name = false) ∧ StateKey.isExempt key = false ∧
    ∃ t ∈ StateKey.lex aliases key, t.kind = .ownState ∧
      (span.start : Int) = start + t.start ∧ (span.stop : Int) = start + t.stop

namespace Document

variable {settings : Settings} {forest : Forest}

/-- What is found in a forest about own-states, told by the paths of the forest:
`Forest.OwnStateOutside`. -/
theorem exists_own_iff {definitions : Definitions} {found : List Finding}
    (checked : findings settings definitions forest = .ok found) (span : Span) :
    (∃ f ∈ found, f.IsOwnAt span) ↔
      forest.OwnStateOutside (settings.states ++ definitions.states) span := by
  unfold findings at checked
  have each := exists_collect_iff.mp ⟨found, checked⟩
  simp only [mem_collected_iff checked]
  constructor
  · rintro ⟨f, ⟨o, ho, part, made, mem⟩, own⟩
    -- Own-states are found in state keys only: a value has issues of the other family, and
    -- `@starting` has one of its own.
    cases o with
    | stateKey inside key start =>
      obtain ⟨p, hp, styles, holds, rfl⟩ := stateKey_mem_obligations_iff.mp ho
      obtain ⟨outside, notExempt, t, ht, kind, placed⟩ :=
        (StateKey.exists_own_iff made).mp ⟨f, mem, own⟩
      rw [Token.hostSpan_eq_ok_iff (StateKey.inOrder_of_mem_lex ht)] at placed
      exact ⟨p, hp, styles, key, start, holds, insideSubElement_eq_false_iff.mp outside, notExempt,
        t, ht, kind, placed⟩
    | value property content start =>
      -- The issue would be of the other family.
      have family : f.issue.family = .value := Value.finds_family _ content part made f mem
      rw [own.1] at family
      cases family
    | startingProperty key =>
      have issue : Finds (fun f => f.issue = .startingAsProperty)
          (Obligation.findings settings definitions (.startingProperty key)) :=
        finds_at fun _ _ => rfl
      have issue : f.issue = .startingAsProperty := issue part made f mem
      rw [own.1] at issue
      cases issue
  · rintro ⟨p, hp, styles, key, start, holds, outside, notExempt, t, ht, kind, placed⟩
    have ho := stateKey_mem_obligations_iff.mpr ⟨p, hp, styles, holds, rfl⟩
    obtain ⟨part, made⟩ := each _ ho
    rw [← Token.hostSpan_eq_ok_iff (StateKey.inOrder_of_mem_lex ht)] at placed
    obtain ⟨f, mem, own⟩ := (StateKey.exists_own_iff made).mpr
      ⟨insideSubElement_eq_false_iff.mpr outside, notExempt, t, ht, kind, placed⟩
    exact ⟨f, ⟨_, ho, part, made, mem⟩, own⟩

/-- The report holds a diagnostic about an own-state at a range if and only if one stands there
outside every sub-element. What is below a key that closes it adds nothing to a report with given
definitions: without it, the report is the same.

Definitions have to be given for the second, because `Definitions.collect` does look below some of
the keys that the checks leave alone. The aliases are those of the project and those of the file,
and they may change which own-states the lexer sees. -/
theorem validate_own_states {given : Option Definitions} {v : Validation}
    (validated : validate settings given (.forest forest) = .ok v) :
    (∀ span, (∃ d ∈ v.diagnostics, d.code = Catalogue.ownOutsideSubElement.code ∧ d.span = span) ↔
      forest.OwnStateOutside (settings.states ++ v.definitions.states) span) ∧
    ∀ definitions, validate settings (some definitions) (.forest forest.pruned) =
      validate settings (some definitions) (.forest forest) := by
  obtain ⟨-, found, checked, report⟩ := validate_eq_ok validated
  constructor
  · intro span
    rw [← exists_own_iff checked span, report]
    simp only [Diagnostic.mem_report, List.mem_map]
    constructor
    · rintro ⟨_, ⟨f, mem, rfl⟩, code, place⟩
      exact ⟨f, mem, Issue.eq_ownOutsideSubElement_of_code code, place⟩
    · rintro ⟨f, mem, issue, place⟩
      refine ⟨f.diagnostic, ⟨f, mem, rfl⟩, ?_, place⟩
      show f.issue.spec.code = _
      rw [issue]
      rfl
  · intro definitions
    -- The obligations are those of the pruned forest, and nothing else depends on it.
    simp only [validate, definitionsFor, diagnostics, findings, obligations_pruned]

end Document

/-- An own-state that stands at the root, in the state mapping of a property. -/
def rootFillPath : EntryPath :=
  ⟨["fill".toText], ⟨"@own(hovered)".toText, 11, 24⟩, .text "red".toText 28 31⟩

/-- The same under a sub-element. -/
def titleFill : StyleEntries :=
  [(⟨"fill".toText, 45, 49⟩,
    .object [(⟨"@own(hovered)".toText, 54, 67⟩, .text "blue".toText 71 75)] 51 78)]

/-- A style object with both. -/
def ownFills : Forest :=
  [⟨[(⟨"fill".toText, 2, 6⟩, .object [(rootFillPath.key, rootFillPath.value)] 8 34),
     (⟨"Title".toText, 36, 41⟩, .object titleFill 43 80)], 0, 82⟩]

/-- The own-state at the root is reported at its place, and the one under a sub-element is not;
there is nothing to prune. -/
theorem Document.validate_own_states_ownFills :
    ∃ v, validate {} (some {}) (.forest ownFills) = .ok v ∧
      (∃ d ∈ v.diagnostics, d.code = Catalogue.ownOutsideSubElement.code ∧
        d.span = ⟨11, 24, by decide⟩) ∧
      validate {} (some {}) (.forest ownFills.pruned) = .ok v := by
  have checks : (validate {} (some {}) (.forest ownFills)).isOk = true := by
    decide +kernel
  cases validated : validate {} (some {}) (.forest ownFills) with
  | error fault =>
    rw [validated] at checks
    cases checks
  | ok v =>
    obtain ⟨reports, prunes⟩ := validate_own_states validated
    refine ⟨v, rfl, (reports _).mpr ?_, (prunes {}).trans validated⟩
    have given : ({} : Definitions) = v.definitions := Except.ok.inj (validate_eq_ok validated).1
    have property : ChecksValue "fill".toText := checksValue_iff.mpr (.inr (by decide))
    have holds : rootFillPath.HoldsStateKey [] "@own(hovered)".toText 11 := by
      apply EntryPath.HoldsStateKey.mapped (show rootFillPath.above = [] ++ _ :: [] from rfl)
      · exact List.forall_mem_nil _
      · exact property
      · intro content start stop value
        cases value
        decide +kernel
    -- The key is one token at the top level, with the body below it.
    have lexed : ∃ t ∈ StateKey.lex [] "@own(hovered)".toText,
        t.kind = .ownState ∧ t.start = 0 ∧ t.stop = 13 := by
      decide +kernel
    obtain ⟨t, ht, kind, start, stop⟩ := lexed
    rw [← given]
    refine ⟨rootFillPath, ?_, [], _, 11, holds, List.forall_mem_nil _, by decide, t, ht, kind,
      ?_, ?_⟩
    · exact .tail _ (.head _)
    · rw [start]
      rfl
    · rw [stop]
      rfl

end StyleCheck
