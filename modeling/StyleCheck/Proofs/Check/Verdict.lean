import StyleCheck.Proofs.Check.Plain
import StyleCheck.Proofs.StateKey.Tokens
import StyleCheck.Proofs.Text.Span
import StyleCheck.Proofs.Value.Tokens

/-!
# What a rule comes to

At a token, a rule finds nothing, or it finds one issue under its own code, at the place of the
token. There are no other results, but for opacities with so many digits that they are not read. So
a check fails only where a place is no range or where such an opacity stands.

## Main definitions

- `Verdict`: what a rule may come to.
- `Value.ReadableOpacity`: the opacity of a token can be read.

## Main statements

- `Value.verdict_rules`, `StateKey.verdict_rules`: the default rules.
- `Value.exists_rules_iff`: where the default rules for values come to a result.
- `Bracket.exists_findings`: the brackets of a key can always be checked.
-/

namespace StyleCheck

/-! ## §1 Verdicts -/

/-- What a rule with a code may come to at a place: nothing, or one finding there, or the fault of a
place that is no range. -/
inductive Verdict (code : Text) (place : Except Fault Span) : Except Fault (List Finding) → Prop
  /-- Nothing is wrong. -/
  | silent : Verdict code place (.ok [])
  /-- One thing is wrong. -/
  | finds {issue : Issue} (suggestion : Option Text) : issue.spec.code = code →
      Verdict code place (place.map fun span => [{ issue, span, suggestion }])

namespace Verdict

variable {code : Text} {place : Except Fault Span} {check : Except Fault (List Finding)}

theorem ifKnown {known : Prop} [Decidable known] (h : Verdict code place check) :
    Verdict code place (if known then .ok [] else check) := by
  split
  · exact .silent
  · exact h

/-- At a range, there is a result. -/
theorem exists_ok {span : Span} (h : Verdict code (.ok span) check) :
    ∃ found, check = .ok found := by
  cases h with
  | silent => exact ⟨[], rfl⟩
  | finds suggestion coded => exact ⟨_, rfl⟩

/-- What is found has the `code` of the rule and the place of the token. -/
theorem coded (h : Verdict code place check) :
    Finds (fun f => f.issue.spec.code = code ∧ place = .ok f.span) check := by
  cases h with
  | silent => exact finds_nil
  | finds suggestion coded => exact finds_at fun span made => ⟨coded, made⟩

end Verdict

/-- The family of the checks that find an issue, by which a host filters what it shows. -/
def Issue.family : Issue → RuleFamily
  | unknownColorToken _ | unknownCustomProperty _ | unknownUnit _ | unknownPreset _
  | unknownRecipe _ | unknownFunction _ | invalidOpacity _ => .value
  | invalidSyntax _ | unmatchedBracket .. | mismatchedBracket .. | unclosedBracket ..
  | ownOutsideSubElement | unknownAlias _ | startingAsProperty => .state

/-- The code of an issue shows its family: `codeMark` stands in front of it. -/
theorem Issue.family_eq_iff {issue : Issue} {family : RuleFamily} :
    issue.family = family ↔ family.codeMark.isPrefixOf issue.spec.code = true := by
  cases issue <;> cases family <;> simp only [Issue.family, spec] <;> decide +kernel

/-! ## §2 Places -/

namespace Token

variable {t : Token} {base : Int}

theorem hostSpan_eq_ok_iff (inOrder : InOrder t.start t.stop) {span : Span} :
    t.hostSpan base = .ok span ↔
      (span.start : Int) = base + t.start ∧ (span.stop : Int) = base + t.stop := by
  obtain ⟨own, made⟩ := Span.exists_ofBounds_iff.mpr inOrder
  have bounds := Span.ofBounds_eq_ok_iff.mp made
  have moved : t.hostSpan base = own.shift base := by
    rw [hostSpan, Token.span, made]
    rfl
  rw [moved, Span.shift_eq_ok_iff, bounds.1, bounds.2, Int.add_comm base, Int.add_comm base]

theorem exists_hostSpan (inOrder : InOrder t.start t.stop) (positive : 0 ≤ base) :
    ∃ span, t.hostSpan base = .ok span := by
  obtain ⟨first, ordered⟩ := inOrder
  refine ⟨⟨(base + t.start).toNat, (base + t.stop).toNat, by omega⟩, ?_⟩
  rw [hostSpan_eq_ok_iff ⟨first, ordered⟩]
  exact ⟨Int.toNat_of_nonneg (by omega), Int.toNat_of_nonneg (by omega)⟩

end Token

/-! ## §3 Values -/

namespace Value

variable {context : Context} {t : Token}

theorem inOrder_of_mem_flatten {lexicon : Lexicon} {text : Text}
    (ht : t ∈ Token.flatten (lex lexicon text)) : InOrder t.start t.stop := by
  obtain ⟨place, c, cs, -, rfl⟩ := exists_firstToken_of_mem_flatten (Text.StandsAt.self text) ht
  simp only [InOrder, firstToken]
  omega

/-- The opacity of a token can be read: if it is a colour with one, the digits are not too many.
`digitLimit` is how many can be read as a number. -/
def ReadableOpacity (t : Token) : Prop :=
  t.kind = .colorToken → ∀ digits, opacityDigits? t.text = some digits →
    digits.length ≤ digitLimit

/-- The rule for opacities comes to a `Verdict` where it can read the digits. -/
theorem verdict_opacityRule (readable : ReadableOpacity t) :
    Verdict opacityRule.code (t.hostSpan context.base) (opacityRule.check context t) := by
  simp only [opacityRule]
  split
  · exact .silent
  · next kind =>
    split
    · exact .silent
    · next digits suffix =>
      -- With few enough digits there is a percentage, within its bounds or not.
      have few : ¬digitLimit < digits.length :=
        Nat.not_lt.mpr (readable (by simpa using kind) digits suffix)
      have percent : ∃ percent, opacityPercent digits = .ok percent := by
        rw [opacityPercent, if_neg few]
        split <;> exact ⟨_, rfl⟩
      obtain ⟨percent, read⟩ := percent
      rw [read]
      exact .ifKnown (.finds none rfl)

/-- An opacity that cannot be read is a fault, `Fault.numeralTooLong`. -/
theorem opacityRule_of_not_readableOpacity (long : ¬ReadableOpacity t) :
    ∃ digits, opacityRule.check context t = .error (.numeralTooLong digits) := by
  unfold ReadableOpacity at long
  push Not at long
  obtain ⟨kind, digits, suffix, many⟩ := long
  refine ⟨digits.length, ?_⟩
  simp only [opacityRule, kind, suffix, bne_self_eq_false, Bool.false_eq_true, if_false]
  rw [opacityPercent, if_pos many]
  rfl

theorem Lookup.verdict_rule (lookup : Lookup) :
    Verdict lookup.rule.code (t.hostSpan context.base) (lookup.rule.check context t) := by
  classical
  rw [lookup.check_eq]
  split
  · exact .finds _ (lookup.code_issue _)
  · exact .silent

/-- A rule that looks names up comes to a result at a token that makes a range. Unlike `opacityRule`
it has no other reason to fail. -/
theorem Lookup.exists_check {span : Span} (lookup : Lookup)
    (placed : t.hostSpan context.base = .ok span) :
    ∃ found, lookup.rule.check context t = .ok found := by
  have verdict : Verdict lookup.rule.code (t.hostSpan context.base)
      (lookup.rule.check context t) := lookup.verdict_rule
  rw [placed] at verdict
  exact verdict.exists_ok

theorem verdict_rules (readable : ReadableOpacity t) : ∀ rule ∈ defaultRules,
    Verdict rule.code (t.hostSpan context.base) (rule.check context t) := by
  intro rule hrule
  obtain rfl | ⟨lookup, rfl⟩ := mem_rules_iff.mp hrule
  · exact verdict_opacityRule readable
  · exact lookup.verdict_rule

/-- An opacity that was checked could be read. -/
theorem readableOpacity_of_check (checked : ∃ found, opacityRule.check context t = .ok found) :
    ReadableOpacity t := by
  by_contra long
  obtain ⟨found, checked⟩ := checked
  obtain ⟨digits, fails⟩ : ∃ digits,
      opacityRule.check context t = .error (.numeralTooLong digits) :=
    opacityRule_of_not_readableOpacity long
  rw [checked] at fails
  cases fails

/-- At a range, the rules come to a result if and only if the opacity can be read. Only
`opacityRule` can fail, so the condition is about that one. -/
theorem exists_rules_iff (placed : ∃ span, t.hostSpan context.base = .ok span) :
    (∀ rule ∈ defaultRules, ∃ found, rule.check context t = .ok found) ↔ ReadableOpacity t := by
  constructor
  · intro each
    exact readableOpacity_of_check (each opacityRule List.mem_cons_self)
  · intro readable rule hrule
    obtain ⟨span, made⟩ := placed
    have verdict : Verdict rule.code (t.hostSpan context.base) (rule.check context t) :=
      verdict_rules readable rule hrule
    rw [made] at verdict
    exact verdict.exists_ok

/-- The default rules belong to their family, so that running them starts with no fault. What is
left is `Rule.runAll`. -/
theorem findings_eq (context : Context) (text : Text) : findings context text =
    Rule.runAll defaultRules context
      (Token.flatten (lex (Lexicon.ofSettings context.settings) text)) := by
  have family : Rule.checkFamily .value defaultRules = .ok () := by
    rfl
  rw [findings, findingsOfTokens, family]
  rfl

/-- What is found in a value is found by a rule at a token whose opacity can be read. -/
theorem exists_check_of_mem {text : Text} {found : List Finding}
    (checked : findings context text = .ok found) {f : Finding} (mem : f ∈ found) :
    ∃ t ∈ Token.flatten (lex (Lexicon.ofSettings context.settings) text), ReadableOpacity t ∧
      ∃ rule ∈ defaultRules, ∃ part, rule.check context t = .ok part ∧ f ∈ part := by
  rw [findings_eq] at checked
  obtain ⟨t, ht, rule, hrule, part, made, there⟩ := (mem_runAll_iff checked).mp mem
  -- The opacity was read, since the rule for opacities has come to a result as well.
  have each := exists_runAll_iff.mp ⟨found, checked⟩
  exact ⟨t, ht, readableOpacity_of_check (each t ht _ List.mem_cons_self), rule, hrule, part, made,
    there⟩

/-- What a rule finds at a token is what is found there under its code, by `filter_code`. -/
theorem Lookup.check_eq_filter (lookup : Lookup) {found : List Finding}
    (ran : Rule.runOn defaultRules context t = .ok found) :
    lookup.rule.check context t = .ok (found.filter (·.issue.spec.code == lookup.rule.code)) := by
  have readable : ReadableOpacity t :=
    readableOpacity_of_check (exists_collect_iff.mp ⟨found, ran⟩ _ List.mem_cons_self)
  have coded : ∀ rule ∈ defaultRules, ∀ part, rule.check context t = .ok part →
      ∀ f ∈ part, f.issue.spec.code = rule.code := fun rule hrule part made f mem =>
    ((verdict_rules readable rule hrule).coded part made f mem).1
  have alone := runOn_filter_code ran coded (· == lookup.rule.code)
  rwa [lookup.filter_code, runOn_singleton] at alone

/-- What is found under the code of a rule, token by token: one finding for each token with an
unknown name, in order.

The tokens are chosen by any test `p` that agrees with the rule, and of the findings any relation
`r` is shown that holds of `Lookup.finding`. -/
theorem Lookup.forall₂_findings (lookup : Lookup) {text : Text} {found : List Finding}
    (checked : findings context text = .ok found) {p : Token → Bool}
    (unknown_iff : ∀ t ∈ Token.flatten (lex (Lexicon.ofSettings context.settings) text),
      p t = true ↔ t.kind = lookup.kind ∧ lookup.Unknown context (lookup.nameOf t))
    {r : Token → Finding → Prop}
    (holds : ∀ t ∈ Token.flatten (lex (Lexicon.ofSettings context.settings) text), p t = true →
      ∀ span, t.hostSpan context.base = .ok span →
        r t (lookup.finding context (lookup.nameOf t) span)) :
    List.Forall₂ r ((Token.flatten (lex (Lexicon.ofSettings context.settings) text)).filter p)
      (found.filter (·.issue.spec.code == lookup.rule.code)) := by
  rw [findings_eq] at checked
  refine forall₂_filter_of_collect checked fun t ht part ran => ?_
  have alone : lookup.rule.check context t = _ := lookup.check_eq_filter ran
  -- A token that is not chosen has nothing found at it, and one that is chosen has one thing.
  cases looked : p t with
  | false =>
    have known := lookup.check_of_known fun unknown => by
      rw [← unknown_iff t ht, looked] at unknown
      cases unknown
    rw [alone, Except.ok.injEq] at known
    rw [known, List.filter_cons_of_neg (Bool.eq_false_iff.mp looked)]
    exact .nil
  | true =>
    obtain ⟨kind, unknown⟩ := (unknown_iff t ht).mp looked
    -- The rule has come to a result, so the place of the token makes a range.
    obtain ⟨span, placed⟩ : ∃ span, t.hostSpan context.base = .ok span := by
      classical
      rw [lookup.check_eq, if_pos ⟨kind, unknown⟩, Context.find] at alone
      cases placed : t.hostSpan context.base with
      | error fault =>
        rw [placed] at alone
        cases alone
      | ok span => exact ⟨span, rfl⟩
    rw [Lookup.check_of_unknown kind unknown placed, Except.ok.injEq] at alone
    rw [← alone, List.filter_cons_of_pos looked]
    exact .cons (holds t ht looked span placed) .nil

/-- What is found in a value is of the family of values. -/
theorem finds_family (context : Context) (text : Text) :
    Finds (fun f => f.issue.family = .value) (findings context text) := by
  rw [findings_eq]
  refine finds_runAll fun t _ => ?_
  apply finds_rules
  · exact fun _ _ _ _ _ _ => rfl
  · exact fun lookup _ _ _ _ => by cases lookup <;> rfl

end Value

/-! ## §4 Brackets -/

theorem Finding.IsBracket.family {f : Finding} (h : f.IsBracket) : f.issue.family = .state := by
  have bracket := h.issue
  -- All issues of brackets are of the family of states.
  cases issue : f.issue <;> simp_all [Issue.isBracket, Issue.family]

namespace Bracket

variable {base : Int}

theorem exists_charSpan (positive : 0 ≤ base) (position : Nat) :
    ∃ span, charSpan base position = .ok span :=
  Span.exists_ofBounds_iff.mpr ⟨by omega, by omega⟩

/-- The walk through a key comes to its end, whatever the `stack` is. -/
theorem exists_scan (positive : 0 ≤ base) (key : Text) (position : Nat) (stack : List Open) :
    ∃ scanned, scan base position stack key = .ok scanned := by
  induction key generalizing position stack with
  | nil => exact ⟨_, rfl⟩
  | cons c cs ih =>
    rw [scan]
    split
    · exact ih _ _
    · obtain ⟨span, made⟩ := exists_charSpan positive position
      obtain ⟨behind, scanned⟩ := ih (position + 1) stack.tail
      rw [made, scanned]
      exact ⟨_, rfl⟩
    · exact ih _ _

theorem exists_unclosed (positive : 0 ≤ base) (stack : List Open) :
    ∃ opening, stack.mapM (unclosed base) = .ok opening := by
  induction stack with
  | nil => exact ⟨_, rfl⟩
  | cons last stack ih =>
    obtain ⟨span, made⟩ := exists_charSpan positive last.position
    obtain ⟨opening, rest⟩ := ih
    rw [List.mapM_cons, unclosed, made, rest]
    exact ⟨_, rfl⟩

/-- The brackets of a key can always be checked. -/
theorem exists_findings (positive : 0 ≤ base) (key : Text) :
    ∃ found, findings base key = .ok found := by
  obtain ⟨⟨closing, stack⟩, scanned⟩ := exists_scan positive key 0 []
  obtain ⟨opening, rest⟩ := exists_unclosed positive stack.reverse
  refine ⟨closing ++ opening, ?_⟩
  rw [findings, scanned]
  show (stack.reverse.mapM (unclosed base) >>= fun opening => .ok (closing ++ opening)) = _
  rw [rest]
  rfl

end Bracket

/-! ## §5 State keys -/

namespace StateKey

variable {context : Context} {t : Token}

theorem inOrder_of_mem_lex {aliases : List Text} {key : Text} (ht : t ∈ lex aliases key) :
    InOrder t.start t.stop := by
  obtain ⟨⟨above, ordered, -⟩, -⟩ := isSliceOf_of_mem_lex ht
  exact ⟨above, ordered⟩

/-- All rules for state keys come to a verdict, with no condition on the token. -/
theorem verdict_rules : ∀ rule ∈ defaultRules,
    Verdict rule.code (t.hostSpan context.base) (rule.check context t) := by
  intro rule hrule
  obtain rfl | rfl | rfl := mem_rules_iff.mp hrule
  · simp only [syntaxRule]
    split
    · exact .finds none rfl
    · exact .silent
  · simp only [ownRule]
    split
    · exact .finds none rfl
    · exact .silent
  · exact .ifKnown (.finds _ rfl)

theorem findingsOfTokens_eq (context : Context) (tokens : List Token) :
    findingsOfTokens defaultRules context tokens =
      Rule.runAll defaultRules context tokens := by
  have family : Rule.checkFamily .state defaultRules = .ok () := by
    rfl
  rw [findingsOfTokens, family]
  rfl

/-- The findings in a key that is not exempt are those about its brackets and those of the rules, in
this order. -/
theorem findings_eq_ok {key : Text} {found : List Finding}
    (checked : findings context key = .ok found) (notExempt : isExempt key = false) :
    ∃ brackets tokens, Bracket.findings context.base key = .ok brackets ∧
      Rule.runAll defaultRules context (lex context.aliases key) = .ok tokens ∧
      found = brackets ++ tokens := by
  rw [findings, notExempt, if_neg Bool.false_ne_true, findingsOfTokens_eq] at checked
  cases closed : Bracket.findings context.base key with
  | error fault =>
    rw [closed] at checked
    cases checked
  | ok brackets =>
    cases ran : Rule.runAll defaultRules context (lex context.aliases key) with
    | error fault =>
      rw [closed, ran] at checked
      cases checked
    | ok tokens =>
      rw [closed, ran] at checked
      exact ⟨brackets, tokens, rfl, rfl, (Except.ok.inj checked).symm⟩

/-- What is found in a state key is of the family of state keys, about its brackets and about its
tokens. -/
theorem finds_family (context : Context) (key : Text) :
    Finds (fun f => f.issue.family = .state) (findings context key) := by
  refine finds_unless fun _ => finds_append ?_ ?_
  · exact (Bracket.finds context.base key).mono fun f bracket => bracket.family
  · rw [findingsOfTokens_eq]
    refine finds_runAll fun t _ => ?_
    apply finds_rules
    · exact fun _ _ _ => rfl
    · exact fun _ _ _ _ => rfl
    · exact fun _ _ _ _ => rfl

/-- The rules come to a result at all tokens of a key. -/
theorem exists_runAll (positive : 0 ≤ context.base) (aliases : List Text) (key : Text) :
    ∃ found, Rule.runAll defaultRules context (lex aliases key) = .ok found := by
  rw [exists_runAll_iff]
  intro t ht rule hrule
  obtain ⟨span, made⟩ := Token.exists_hostSpan (inOrder_of_mem_lex ht) positive
  have verdict : Verdict rule.code (t.hostSpan context.base) (rule.check context t) :=
    verdict_rules rule hrule
  rw [made] at verdict
  exact verdict.exists_ok

/-- A state key can always be checked. -/
theorem exists_findings (positive : 0 ≤ context.base) (key : Text) :
    ∃ found, findings context key = .ok found := by
  unfold findings
  split
  · exact ⟨[], rfl⟩
  · obtain ⟨brackets, checked⟩ := Bracket.exists_findings positive key
    obtain ⟨found, ran⟩ := exists_runAll positive context.aliases key
    rw [checked, findingsOfTokens_eq, ran]
    exact ⟨_, rfl⟩

end StateKey

end StyleCheck
