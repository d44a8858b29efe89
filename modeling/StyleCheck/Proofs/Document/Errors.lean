import StyleCheck.Proofs.Check.Knowledge
import StyleCheck.Proofs.Document.Reordering
import StyleCheck.Proofs.Document.Total

/-!
# Errors are about states

Of the settings of a project, the checks of state keys look at the states alone. All else that a
project lists, its tokens, units, functions, presets, recipes and descriptions, is there for values,
and what is found in a value is a warning. So two projects with the same states agree on the errors
of a file, although the findings in values and in state keys are collected in one walk, sorted
together and listed once each.

## Main definitions

- `Diagnostic.isState`: diagnostics of the checks of state keys.

## Main statements

- `StateKey.findings_eq_of_states`: state keys are checked by the states alone.
- `Diagnostic.isState_of_error`: what a check finds is a warning, or it is about a state.
- `Document.validate_states`: projects with the same states agree on the errors of a file.
-/

namespace StyleCheck

/-! ## §1 Diagnostics of states -/

/-- Whether the code of a diagnostic is one of the checks of state keys. -/
def Diagnostic.isState (d : Diagnostic) : Bool := RuleFamily.state.codeMark.isPrefixOf d.code

/-- The code of a diagnostic shows the family of what was found, by `Issue.family_eq_iff`. -/
theorem Finding.isState_iff {f : Finding} :
    f.diagnostic.isState = true ↔ f.issue.family = .state :=
  Issue.family_eq_iff.symm

theorem Issue.severity_of_value {issue : Issue} (value : issue.family = .value) :
    issue.spec.severity = .warning := by
  cases issue <;> first | rfl | cases value

/-- An error that is found is about a state, as what is found in a value is a `.warning`. -/
theorem Finding.isState_of_error {f : Finding} (error : f.diagnostic.severity = .error) :
    f.diagnostic.isState = true := by
  rw [isState_iff]
  cases family : f.issue.family with
  | state => rfl
  | value =>
    have warning : f.diagnostic.severity = .warning := Issue.severity_of_value family
    rw [error] at warning
    cases warning

/-- The diagnostics of states among those that word some findings. -/
def stateDiagnostics (found : List Finding) : List Diagnostic :=
  (found.map (·.diagnostic)).filter (·.isState)

theorem additive_stateDiagnostics :
    Additive fun found found' => stateDiagnostics found = stateDiagnostics found' where
  nil := rfl
  append front back := by
    simp only [stateDiagnostics, List.map_append, List.filter_append] at front back ⊢
    rw [front, back]

theorem stateDiagnostics_eq_nil {found : List Finding}
    (values : ∀ f ∈ found, f.issue.family = .value) : stateDiagnostics found = [] := by
  unfold stateDiagnostics
  rw [List.filter_eq_nil_iff, List.forall_mem_map]
  intro f mem
  rw [Finding.isState_iff, values f mem]
  exact nofun

/-! ## §2 What has to be checked -/

section Checks

variable {s s' : Settings}

theorem additive_true : Additive fun _ _ => True := ⟨trivial, fun _ _ => trivial⟩

/-- A value is checked with a result whatever is known, or never: `Alike` of a relation that always
holds says only this. -/
theorem Value.alike_returns {context context' : Context} (sameBase : context'.base = context.base)
    (positive : 0 ≤ context.base) (text : Text) :
    Alike (fun _ _ => True) (findings context text) (findings context' text) := by
  refine alike_findings additive_true (fun _ => trivial) sameBase positive text ?_
  intro lookup t t' span _ placed placed'
  obtain ⟨found, checked⟩ := lookup.exists_check placed
  obtain ⟨found', checked'⟩ := lookup.exists_check placed'
  rw [checked, checked']
  exact .ok trivial

/-- State keys are checked by the `states` of the settings alone. -/
theorem StateKey.findings_eq_of_states (states : s.states = s'.states) (base : Int)
    (d : Definitions) (insideSubElement : Bool) (key : Text) :
    findings { base, settings := s, definitions := d, insideSubElement } key =
      findings { base, settings := s', definitions := d, insideSubElement } key := by
  have same : ∀ rule ∈ defaultRules, ∀ token,
      rule.check { base, settings := s, definitions := d, insideSubElement } token =
        rule.check { base, settings := s', definitions := d, insideSubElement } token := by
    intro rule hrule token
    obtain rfl | rfl | rfl := mem_rules_iff.mp hrule
    · rfl
    · rfl
    · simp only [aliasRule, states]
      rfl
  simp only [findings, findingsOfTokens, Rule.runAll_congr same, Context.aliases, states]

/-- One thing to check shows the same about states in both projects. A value shows nothing in
either, but by `Alike` it has to come to a result in both or fail in both. -/
theorem Obligation.alike_stateDiagnostics (states : s.states = s'.states) (d : Definitions)
    {o : Obligation} (placed : o.WellPlaced) :
    Alike (fun found found' => stateDiagnostics found = stateDiagnostics found')
      (o.findings s d) (o.findings s' d) := by
  cases o with
  | value property text start =>
    -- Both runs return or fail together, and neither finds anything about a state.
    refine (Value.alike_returns (by rfl) (by exact placed) text).imp fun checked checked' _ => ?_
    rw [stateDiagnostics_eq_nil (Value.finds_family _ text _ checked),
      stateDiagnostics_eq_nil (Value.finds_family _ text _ checked')]
  | stateKey inside key start =>
    rw [findings, findings, StateKey.findings_eq_of_states states]
    apply Alike.refl
    exact fun _ => rfl
  | startingProperty key =>
    apply Alike.refl
    exact fun _ => rfl

end Checks

/-! ## §3 Documents -/

namespace Document

variable {forest : Forest} {s s' : Settings}

theorem alike_stateDiagnostics (placed : forest.WellPlaced) (states : s.states = s'.states)
    (d : Definitions) :
    Alike (fun found found' => stateDiagnostics found = stateDiagnostics found')
      (findings s d forest) (findings s' d forest) := by
  apply alike_collect additive_stateDiagnostics
  rw [List.forall₂_same]
  intro o mem
  exact o.alike_stateDiagnostics states d (wellPlaced_of_mem_obligations placed mem)

/-- What a report shows about states is a report of its own. Diagnostics about values that stand in
between make no difference to the order of the others. -/
theorem filter_isState_report {d : Definitions} {found : List Finding}
    (checked : findings s d forest = .ok found) :
    (Diagnostic.report (found.map (·.diagnostic))).filter (·.isState) =
      Diagnostic.report (stateDiagnostics found) :=
  Diagnostic.filter_report (eq_of_compare_of_plain (findsPlain s d forest found checked)) _

theorem isState_of_mem_report {found : List Finding} {d : Diagnostic}
    (mem : d ∈ Diagnostic.report (found.map (·.diagnostic))) (error : d.severity = .error) :
    d.isState = true := by
  obtain ⟨f, -, rfl⟩ := List.mem_map.mp (Diagnostic.mem_report.mp mem)
  exact Finding.isState_of_error error

/-- Whether a report holds an error is told by what it shows about states, if `isState_of_error`
holds of it. -/
theorem hasErrors_filter {report : List Diagnostic}
    (errors : ∀ d ∈ report, d.severity = .error → d.isState = true) :
    Diagnostic.hasErrors (report.filter (·.isState)) = Diagnostic.hasErrors report := by
  rw [Bool.eq_iff_iff]
  simp only [Diagnostic.hasErrors, List.any_eq_true, List.mem_filter, beq_iff_eq]
  refine exists_congr fun d => ?_
  rw [and_assoc]
  exact and_congr_right fun mem => and_iff_right_of_imp (errors d mem)

/-- Projects with the same states refuse the same files, show the same about the states of the
others, and agree on whether there are errors, all of which are about states.

`Alike` says the first: either both runs fail or both come to a validation, and then the two
validations are related. The definitions are the same in both runs, for they do not depend on the
settings. -/
theorem validate_states (placed : forest.WellPlaced) (states : s.states = s'.states)
    (given : Option Definitions) :
    Alike (fun v v' : Validation =>
        v.diagnostics.filter (·.isState) = v'.diagnostics.filter (·.isState) ∧
        (∀ d ∈ v.diagnostics, d.severity = .error → d.isState = true) ∧
        (∀ d ∈ v'.diagnostics, d.severity = .error → d.isState = true) ∧
        v.hasErrors = v'.hasErrors)
      (validate s given (.forest forest)) (validate s' given (.forest forest)) := by
  obtain ⟨d, collected⟩ := exists_definitionsFor placed given
  rw [validate, validate, collected]
  -- The two reports are compared first; what a validation says of errors is read off its report.
  have reports : Alike (fun report report' : List Diagnostic =>
      report.filter (·.isState) = report'.filter (·.isState) ∧
      (∀ d ∈ report, d.severity = .error → d.isState = true) ∧
      (∀ d ∈ report', d.severity = .error → d.isState = true))
      (diagnostics s d forest) (diagnostics s' d forest) := by
    have findings := (alike_stateDiagnostics placed states d).imp fun checked checked' same =>
      And.intro (filter_isState_report checked) (And.intro (filter_isState_report checked') same)
    refine findings.map fun _ checked => ?_
    obtain ⟨shown, shown', same⟩ := checked
    refine ⟨?_, fun _ => isState_of_mem_report, fun _ => isState_of_mem_report⟩
    rw [shown, shown', same]
  refine reports.bind fun agree => ?_
  obtain ⟨same, errors, errors'⟩ := agree
  refine .ok ⟨same, errors, errors', ?_⟩
  rw [Validation.hasErrors, Validation.hasErrors, ← hasErrors_filter errors,
    ← hasErrors_filter errors', same]

/-- A state key that cannot be read, in front of a use of a colour. -/
def percentPath : EntryPath :=
  ⟨["fill".toText], ⟨"%".toText, 10, 11⟩, .text "#a".toText 15 17⟩

/-- The property that holds them. -/
def percentFillPath : EntryPath :=
  ⟨[], ⟨"fill".toText, 2, 6⟩, .object [(percentPath.key, percentPath.value)] 8 19⟩

/-- A style object with the property. -/
def percentFill : Forest := [⟨[(percentFillPath.key, percentFillPath.value)], 0, 20⟩]

theorem wellPlaced_percentFill : percentFill.WellPlaced := by
  have paths : percentFill.paths = [percentFillPath, percentPath] := rfl
  constructor
  · decide
  · decide
  · rw [paths]
    simp [StyleValue.WellPlaced, percentFillPath, percentPath, InOrder]

/-- What is found about the key. -/
def percentFinding : Finding := { issue := .invalidSyntax "%".toText, span := ⟨10, 11, by decide⟩ }

/-- A project in which the colour is unknown has the same errors: the first validation is evaluated,
and the theorem says the rest of the second. -/
theorem validate_states_percentFill : ∃ v,
    validate { tokens := .only [] } (some {}) (.forest percentFill) = .ok v ∧
      v.diagnostics.filter (·.isState) = [percentFinding.diagnostic] ∧ v.hasErrors = true := by
  have states : ({} : Settings).states = ({ tokens := .only [] } : Settings).states := rfl
  have run := validate_states wellPlaced_percentFill states (some {})
  -- Without a list of tokens, the key is all that is wrong.
  have checked : findings {} {} percentFill = .ok [percentFinding] := by decide +kernel
  have report : Diagnostic.report [percentFinding.diagnostic] = [percentFinding.diagnostic] := by
    rw [Diagnostic.report, Diagnostic.sort, List.mergeSort_singleton]
    rfl
  have first : validate {} (some {}) (.forest percentFill) =
      .ok { diagnostics := [percentFinding.diagnostic], definitions := {} } := by
    show (diagnostics {} {} percentFill).bind _ = _
    rw [diagnostics, checked]
    exact congrArg (fun report => Except.ok (Validation.mk report {})) report
  rw [first] at run
  generalize validate { tokens := .only [] } (some {}) _ = second at run ⊢
  obtain _ | ⟨shown, -, -, errors⟩ := run
  refine ⟨_, rfl, ?_, ?_⟩
  · rw [← shown]
    decide +kernel
  · rw [← errors]
    decide +kernel

end Document

end StyleCheck
