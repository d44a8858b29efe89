import StyleCheck.Proofs.Check.Lookup
import StyleCheck.Proofs.Check.Walk
import StyleCheck.Proofs.Diagnostic.Report
import StyleCheck.Proofs.Document.Total

/-!
# Unknown tokens of a project

A project that lists its tokens has its custom properties and colours checked. Between a use and the
report on it stand the walk over the file, the lexer, the rules for values and the definitions that
the file makes for itself. Put together, a token is reported as unknown at each place where it is
used in a value that is checked, unless it is listed, reserved or defined anywhere in the file; and
nothing else is reported as an unknown token.

## Main definitions

- `ProjectToken`: custom properties and colours.
- `Forest.UsesAt`: a token is used at a range of the host file.
- `Reports`: a report holds an issue at a range.

## Main statements

- `ProjectToken.mem_check_iff`: what the rule for such tokens finds.
- `ProjectToken.mem_findings_iff`: what is found in a value.
- `Document.reports_unknown_iff`: which tokens are reported where.
-/

namespace StyleCheck

/-! ## §1 Tokens of a project -/

/-- The sorts of tokens that a project lists and a file defines: `$name` and `#name`. Both are
looked up in the same list. -/
inductive ProjectToken
  | customProperty
  | color

namespace ProjectToken

/-- The kind of such tokens in a value. -/
def kind : ProjectToken → TokenKind
  | customProperty => .customProperty
  | color => .colorToken

/-- The name that a token uses. An opacity does not belong to the name of a colour. -/
def nameOf : ProjectToken → Token → Text
  | customProperty, t => t.text
  | color, t => t.name

/-- The names that are known in every project, which are colours only. -/
def reserved : ProjectToken → List Text
  | customProperty => []
  | color => Vocabulary.reservedColorTokens

/-- What is reported for a name that nobody knows. -/
def issue : ProjectToken → Text → Issue
  | customProperty, name => .unknownCustomProperty name
  | color, name => .unknownColorToken name

/-- The rule for such tokens. -/
def rule : ProjectToken → Rule Value.Context
  | customProperty => Value.customPropertyRule
  | color => Value.colorTokenRule

/-- Such tokens are looked up like other names, by two of the rules of `Value.Lookup`. -/
def lookup : ProjectToken → Value.Lookup
  | customProperty => .customProperty
  | color => .colorToken

/-- A name that is neither reserved nor listed nor defined, wherever in the file the definition
might stand. -/
structure Unknown (sort : ProjectToken) (listed : List Text) (definitions : Definitions)
    (name : Text) : Prop where
  notReserved : name ∉ sort.reserved
  notListed : name ∉ listed
  notDefined : definitions.hasToken name = false

variable {sort : ProjectToken} {listed : List Text} {definitions : Definitions} {name : Text}
  {span : Span}

theorem unknownName?_issue (sort : ProjectToken) (name : Text) :
    (sort.issue name).unknownName? = some name := by
  cases sort <;> rfl

theorem rule_mem (sort : ProjectToken) : sort.rule ∈ Value.defaultRules := by
  cases sort
  · exact .tail _ (.tail _ (.head _))
  · exact .tail _ (.head _)

theorem code_rule (sort : ProjectToken) (name : Text) :
    sort.rule.code = (sort.issue name).spec.code := by
  cases sort <;> rfl

/-- No other rule has the same code, by `Value.nodup_codes`. -/
theorem eq_rule_of_code {rule : Rule Value.Context} (mem : rule ∈ Value.defaultRules)
    (same : rule.code = sort.rule.code) : rule = sort.rule :=
  List.inj_on_of_nodup_map Value.nodup_codes mem sort.rule_mem same

/-! ## §2 Values -/

section Values

variable {context : Value.Context} {t : Token}

/-- Where tokens are listed, they are looked up like other names, so `Value.Lookup` has said what
the rule finds. -/
theorem lookup_unknown_iff (limited : context.settings.tokens = .only listed) :
    sort.lookup.Unknown context name ↔ sort.Unknown listed context.definitions name := by
  -- Three sources of names for each sort of token: the project, the reserved ones and the file.
  have excludes : (sort.lookup.permitted context).Excludes name ↔ name ∉ listed := by
    cases sort <;> simp only [lookup, Value.Lookup.permitted, limited, Permitted.Excludes]
  have builtIn : sort.lookup.builtIn = sort.reserved := by
    cases sort <;> rfl
  have defined : sort.lookup.defined context.definitions = context.definitions.tokens := by
    cases sort <;> rfl
  have notDefined : name ∉ context.definitions.tokens ↔
      context.definitions.hasToken name = false := by
    rw [Definitions.hasToken, ← List.contains_iff_mem, Bool.not_eq_true]
  rw [Value.Lookup.unknown_iff, excludes, builtIn, defined, notDefined]
  constructor
  · rintro ⟨notListed, notReserved, notDefined⟩
    exact ⟨notReserved, notListed, notDefined⟩
  · rintro ⟨notReserved, notListed, notDefined⟩
    exact ⟨notListed, notReserved, notDefined⟩

open scoped Classical in
/-- The rule finds the tokens of its sort with unknown names; all others pass. -/
theorem check_eq (limited : context.settings.tokens = .only listed) :
    sort.rule.check context t =
      if t.kind = sort.kind ∧ sort.Unknown listed context.definitions (sort.nameOf t) then
        context.find t (sort.issue (sort.nameOf t))
          (suggest? (sort.nameOf t) (sort.lookup.candidates context))
      else .ok [] := by
  rw [← lookup_unknown_iff limited]
  cases sort with
  | customProperty => exact Value.Lookup.check_eq .customProperty context t
  | color => exact Value.Lookup.check_eq .colorToken context t

/-- What the rule finds at a token: the name that it uses, if that is unknown. What is suggested is
left open, as it depends on the whole list. -/
theorem mem_check_iff (limited : context.settings.tokens = .only listed) :
    (∃ part, sort.rule.check context t = .ok part ∧
        ∃ suggestion, { issue := sort.issue name, span, suggestion } ∈ part) ↔
      (t.kind = sort.kind ∧ sort.nameOf t = name ∧ t.hostSpan context.base = .ok span) ∧
        sort.Unknown listed context.definitions name := by
  classical
  rw [check_eq limited, Value.Context.find]
  constructor
  · rintro ⟨part, checked, suggestion, mem⟩
    split at checked
    · next unknown =>
      -- There is one finding, and its issue tells the name.
      cases made : t.hostSpan context.base with
      | error fault =>
        rw [made] at checked
        cases checked
      | ok span' =>
        rw [made] at checked
        cases checked
        rw [List.mem_singleton, Finding.mk.injEq] at mem
        obtain ⟨issue, rfl, -⟩ := mem
        have names := congrArg Issue.unknownName? issue
        rw [unknownName?_issue, unknownName?_issue, Option.some.injEq] at names
        exact ⟨⟨unknown.1, names.symm, rfl⟩, names ▸ unknown.2⟩
    · cases checked
      cases mem
  · rintro ⟨⟨kind, rfl, made⟩, unknown⟩
    rw [if_pos ⟨kind, unknown⟩, made]
    exact ⟨_, rfl, _, List.mem_singleton_self _⟩

/-- The unknown names that are found in a value are those of its tokens, at any depth of calls. -/
theorem mem_findings_iff {text : Text} {found : List Finding}
    (limited : context.settings.tokens = .only listed)
    (checked : Value.findings context text = .ok found) :
    (∃ suggestion, { issue := sort.issue name, span, suggestion } ∈ found) ↔
      (∃ t ∈ Token.flatten (Value.lex (Value.Lexicon.ofSettings context.settings) text),
        t.kind = sort.kind ∧ sort.nameOf t = name ∧ t.hostSpan context.base = .ok span) ∧
        sort.Unknown listed context.definitions name := by
  constructor
  · rintro ⟨suggestion, mem⟩
    obtain ⟨t, ht, readable, rule, hrule, part, made, mem⟩ := Value.exists_check_of_mem checked mem
    -- The code of the finding tells the rule.
    have coded := (Value.verdict_rules readable rule hrule).coded part made _ mem
    have ours : rule = sort.rule :=
      eq_rule_of_code hrule (by rw [code_rule sort name]; exact coded.1.symm)
    obtain ⟨uses, unknown⟩ := (mem_check_iff limited).mp ⟨part, ours ▸ made, suggestion, mem⟩
    exact ⟨⟨t, ht, uses⟩, unknown⟩
  · rintro ⟨⟨t, ht, uses⟩, unknown⟩
    obtain ⟨part, made, suggestion, mem⟩ := (mem_check_iff limited).mpr ⟨uses, unknown⟩
    rw [Value.findings_eq] at checked
    exact ⟨suggestion, (mem_runAll_iff checked).mpr
      ⟨t, ht, sort.rule, sort.rule_mem, part, made, mem⟩⟩

end Values

end ProjectToken

/-! ## §3 Documents -/

/-- A token of a sort uses a name at a range of the host file, in a value that is checked, at any
depth of calls. Which values are checked is told by `HoldsValue`, from the path alone. -/
def Forest.UsesAt (forest : Forest) (settings : Settings) (sort : ProjectToken) (name : Text)
    (span : Span) : Prop :=
  ∃ p ∈ forest.paths, ∃ property content start, p.HoldsValue property content start ∧
    ∃ t ∈ Token.flatten (Value.lex (Value.Lexicon.ofSettings settings) content),
      t.kind = sort.kind ∧ sort.nameOf t = name ∧
        (span.start : Int) = start + t.start ∧ (span.stop : Int) = start + t.stop

/-- A report holds an issue at a range, whatever is suggested. -/
def Reports (report : List Diagnostic) (issue : Issue) (span : Span) : Prop :=
  ∃ suggestion, Finding.diagnostic { issue, span, suggestion } ∈ report

namespace Document

variable {settings : Settings} {listed : List Text} {forest : Forest}

/-- The unknown names that are found in a forest are those that its values use. -/
theorem mem_findings_iff {definitions : Definitions} {found : List Finding}
    (limited : settings.tokens = .only listed)
    (checked : findings settings definitions forest = .ok found) (sort : ProjectToken)
    (name : Text) (span : Span) :
    (∃ suggestion, { issue := sort.issue name, span, suggestion } ∈ found) ↔
      forest.UsesAt settings sort name span ∧ sort.Unknown listed definitions name := by
  unfold findings at checked
  have each := exists_collect_iff.mp ⟨found, checked⟩
  simp only [mem_collected_iff checked]
  constructor
  · rintro ⟨suggestion, o, ho, part, made, mem⟩
    -- What is found comes of some check, and only checks of values find unknown tokens.
    cases o with
    | value property content start =>
      obtain ⟨p, hp, holds⟩ := value_mem_obligations_iff.mp ho
      obtain ⟨⟨t, ht, kind, named, placed⟩, unknown⟩ :=
        (ProjectToken.mem_findings_iff (by exact limited) made).mp ⟨suggestion, mem⟩
      rw [Token.hostSpan_eq_ok_iff (Value.inOrder_of_mem_flatten ht)] at placed
      exact ⟨⟨p, hp, property, content, start, holds, t, ht, kind, named, placed⟩, unknown⟩
    | stateKey inside key start =>
      -- The issue would be of the other family.
      have family := StateKey.finds_family _ key part made _ mem
      cases sort <;> cases family
    | startingProperty key =>
      have family : Finds (fun f => f.issue.family = .state)
          (Obligation.findings settings definitions (.startingProperty key)) :=
        finds_at fun _ _ => rfl
      have family := family part made _ mem
      cases sort <;> cases family
  · rintro ⟨⟨p, hp, property, content, start, holds, t, ht, kind, named, placed⟩, unknown⟩
    have ho := value_mem_obligations_iff.mpr ⟨p, hp, holds⟩
    obtain ⟨part, made⟩ := each _ ho
    rw [← Token.hostSpan_eq_ok_iff (Value.inOrder_of_mem_flatten ht)] at placed
    obtain ⟨suggestion, mem⟩ := (ProjectToken.mem_findings_iff (by exact limited) made).mpr
      ⟨⟨t, ht, kind, named, placed⟩, unknown⟩
    exact ⟨suggestion, _, ho, part, made, mem⟩

/-- A report names just what is found. An unknown name in a diagnostic tells the finding, by
`Finding.eq_of_diagnostic_eq`. -/
theorem reports_iff {found : List Finding} {issue : Issue} {name : Text}
    (named : issue.unknownName? = some name) (span : Span) :
    Reports (Diagnostic.report (found.map (·.diagnostic))) issue span ↔
      ∃ suggestion, { issue, span, suggestion } ∈ found := by
  refine exists_congr fun suggestion => ?_
  rw [Diagnostic.mem_report, List.mem_map]
  constructor
  · rintro ⟨f, hf, same⟩
    exact Finding.eq_of_diagnostic_eq (by exact named) same.symm ▸ hf
  · exact fun mem => ⟨_, mem, rfl⟩

/-- In a project that lists its tokens, a token is reported as unknown at a range if it is used
there in a value that is checked, and if its name is neither listed nor reserved nor defined
anywhere in the file; and only then.

Nothing is said of a project that does not list its tokens: there `settings.tokens` is `.anything`,
and the rules for tokens are silent. The definitions are told by their paths, so it does not matter
whether a definition stands in front of the use or behind it. -/
theorem reports_unknown_iff {v : Validation} (limited : settings.tokens = .only listed)
    (validated : validate settings none (.forest forest) = .ok v) (sort : ProjectToken)
    (name : Text) (span : Span) :
    Reports v.diagnostics (sort.issue name) span ↔
      forest.UsesAt settings sort name span ∧ name ∉ listed ∧ name ∉ sort.reserved ∧
        ¬∃ p ∈ forest.paths, p.Defines .token ∧ p.key.name = name := by
  obtain ⟨collected, found, checked, report⟩ := validate_eq_ok validated
  rw [report, reports_iff (sort.unknownName?_issue name),
    mem_findings_iff limited checked sort name span]
  refine and_congr_right fun _ => ?_
  -- That a name is defined in the file is said by paths here, and by a set of names in the checks.
  have defined : v.definitions.hasToken name = false ↔
      ¬∃ p ∈ forest.paths, p.Defines .token ∧ p.key.name = name := by
    rw [← Definitions.mem_names_iff collected, ← Bool.not_eq_true]
    exact not_congr List.contains_iff_mem
  rw [← defined]
  constructor
  · rintro ⟨notReserved, notListed, notDefined⟩
    exact ⟨notListed, notReserved, notDefined⟩
  · rintro ⟨notListed, notReserved, notDefined⟩
    exact ⟨notReserved, notListed, notDefined⟩

end Document

/-- A property whose value uses two tokens in a call. -/
def widthPath : EntryPath :=
  ⟨[], ⟨"width".toText, 2, 7⟩, .text "calc($gap + $lost)".toText 10 28⟩

/-- The definition of one of them, behind its use. -/
def lateGapPath : EntryPath := ⟨[], ⟨"$gap".toText, 31, 35⟩, .text "8px".toText 38 41⟩

/-- A style object with both. -/
def lateGap : Forest :=
  [⟨[(widthPath.key, widthPath.value), (lateGapPath.key, lateGapPath.value)], 0, 43⟩]

theorem paths_lateGap : lateGap.paths = [widthPath, lateGapPath] := rfl

/-- Only the token that is not defined is reported, at its place in the call. The other one is
defined behind its use. -/
theorem Document.reports_unknown_lateGap :
    ∃ v, validate { tokens := .only [] } none (.forest lateGap) = .ok v ∧
      Reports v.diagnostics (.unknownCustomProperty "$lost".toText) ⟨22, 27, by decide⟩ ∧
      ∀ span, ¬Reports v.diagnostics (.unknownCustomProperty "$gap".toText) span := by
  -- The forest validates, so `reports_unknown_iff` applies to what comes out.
  have placed : lateGap.WellPlaced := by
    refine ⟨by decide, by decide, ?_⟩
    rw [paths_lateGap]
    simp [StyleValue.WellPlaced, widthPath, lateGapPath, InOrder]
  have readable : ReadableOpacities { tokens := .only [] } lateGap := by
    intro p hp property content start holds
    obtain ⟨stop, value⟩ := holds.exists_text
    rw [paths_lateGap, List.mem_cons, List.mem_singleton] at hp
    rcases hp with rfl | rfl <;> cases value <;>
      exact Value.readableOpacities_of_length_le _ (by decide)
  obtain ⟨v, validated⟩ := (exists_validate_iff placed { tokens := .only [] } none).mpr readable
  have reports := reports_unknown_iff rfl validated .customProperty
  have defines : lateGapPath.Defines .token := EntryPath.kind?_eq_some_iff.mp (by decide)
  have notWidth : ¬widthPath.Defines .token := by
    rw [← EntryPath.kind?_eq_some_iff]
    decide
  have checks : ChecksValue widthPath.key.name := checksValue_iff.mpr (.inr (by decide))
  -- Both tokens are used in one text, under a property and not below an alias.
  have holds : widthPath.HoldsValue (propertyContext widthPath.key.name)
      "calc($gap + $lost)".toText 10 :=
    .direct (fun _ mem => absurd mem List.not_mem_nil) checks rfl
  have used : ∃ t ∈ Token.flatten (Value.lex (Value.Lexicon.ofSettings { tokens := .only [] })
      "calc($gap + $lost)".toText),
      t.kind = .customProperty ∧ t.text = "$lost".toText ∧ t.start = 12 ∧ t.stop = 17 := by
    decide +kernel
  obtain ⟨t, ht, kind, named, start, stop⟩ := used
  refine ⟨v, validated, ?_, fun span => ?_⟩
  · refine (reports _ _).mpr ⟨?_, by decide, by decide, ?_⟩
    · refine ⟨widthPath, ?_, _, _, _, holds, t, ht, kind, named, ?_, ?_⟩
      · rw [paths_lateGap]
        exact List.mem_cons_self
      · rw [start]
        rfl
      · rw [stop]
        rfl
    · -- The only token that is defined has another name.
      rintro ⟨p, hp, definesToken, same⟩
      rw [paths_lateGap, List.mem_cons, List.mem_singleton] at hp
      rcases hp with rfl | rfl
      · exact notWidth definesToken
      · exact absurd same (by decide)
  · rw [show Issue.unknownCustomProperty "$gap".toText =
      ProjectToken.customProperty.issue "$gap".toText from rfl, reports]
    rintro ⟨-, -, -, notDefined⟩
    refine notDefined ⟨lateGapPath, ?_, defines, rfl⟩
    rw [paths_lateGap]
    exact List.mem_cons_of_mem _ List.mem_cons_self

end StyleCheck
