import StyleCheck.Proofs.Check.Names
import StyleCheck.Proofs.Check.Verdict

/-!
# What state keys are judged by

The rules for state keys are run on the top-level tokens of a key alone, although bodies hang below
some of them. Nothing is missed: the grammars of bodies pass over what they do not know, and they
have neither own-states nor aliases, so that no rule has anything to say about a token below
another. And the aliases that are configured or defined have no say in what the tokens are, unless
they are called like keywords; they decide which aliases are reported, and nothing else.

## Main statements

- `findingsOfTokens_flatten`: the rules on all tokens of a key and on the top-level ones.
- `lex_keywords`: the tokens of a key and what is found in it, with other aliases.
-/

namespace StyleCheck

/-! ## §1 Trees -/

section Rules

variable {Context : Type} {rules : List (Rule Context)} {context : Context}

/-- Rules that have nothing to say below the tokens of a list may leave out what hangs there. So
`Token.flatten` adds nothing. -/
theorem runAll_flatten {tokens : List Token}
    (silent : ∀ t ∈ tokens, ∀ u ∈ Token.flatten t.children, ∀ rule ∈ rules,
      rule.check context u = .ok []) :
    Rule.runAll rules context (Token.flatten tokens) = Rule.runAll rules context tokens := by
  induction tokens with
  | nil => rfl
  | cons t ts ih =>
    rw [List.forall_mem_cons] at silent
    have below := runAll_of_silent silent.1
    rw [Token.flatten_cons, runAll_cons, runAll_cons, runAll_append, below, ih silent.2]
    cases Rule.runAll rules context ts with
    | error fault => rfl
    | ok found => rfl

end Rules

namespace StateKey

/-! ## §2 Bodies -/

/-- No rule has anything to say about the kinds of tokens in bodies: `.unknown`, `.ownState` and
`.stateAlias` are not among them. -/
theorem silent_of_bodyKinds {context : Context} {t : Token} (kind : t.kind ∈ bodyKinds) :
    ∀ rule ∈ defaultRules, rule.check context t = .ok [] := by
  have other {k : TokenKind} (absent : k ∉ bodyKinds) : t.kind ≠ k := by
    rintro rfl
    exact absent kind
  intro rule hrule
  obtain rfl | rfl | rfl := mem_rules_iff.mp hrule
  · simp [syntaxRule, other (k := .unknown) (by decide)]
  · simp [ownRule, other (k := .ownState) (by decide)]
  · simp [aliasRule, other (k := .stateAlias) (by decide)]

/-- Checking the top-level tokens of a key loses nothing: the default rules find the same in the
whole tree, and where the key stands at an offset that is not negative, they come to a result.

Tokens below others are those of bodies. They have one of the `bodyKinds`, about which no default
rule has anything to say. -/
theorem findingsOfTokens_flatten (aliases : List Text) (key : Text) (context : Context) :
    findingsOfTokens defaultRules context (Token.flatten (lex aliases key)) =
        findingsOfTokens defaultRules context (lex aliases key) ∧
      (0 ≤ context.base →
        ∃ found, findingsOfTokens defaultRules context (lex aliases key) = .ok found) := by
  rw [findingsOfTokens_eq, findingsOfTokens_eq]
  constructor
  · apply runAll_flatten
    intro t ht u hu
    rw [Token.flatten_eq_self fun v hv => (leaf_of_mem_children ht hv).1] at hu
    exact silent_of_bodyKinds (leaf_of_mem_children ht hu).2
  · exact fun positive => exists_runAll positive aliases key

/-- A state with a body, an alias and a character that no rule covers, in the body and outside.
Those in the body are no tokens, so each is reported once. -/
theorem findingsOfTokens_flatten_body :
    (lex [] "@own(a, %@x) & @x%".toText).length <
        (Token.flatten (lex [] "@own(a, %@x) & @x%".toText)).length ∧
      ∃ (context : Context) (found : List Finding), findingsOfTokens defaultRules context
          (Token.flatten (lex [] "@own(a, %@x) & @x%".toText)) = .ok found ∧
        found.map (·.issue.spec.code) =
          [ownRule.code, aliasRule.code, syntaxRule.code] := by
  obtain ⟨context, positive, codes⟩ : ∃ context : Context, 0 ≤ context.base ∧
      (findingsOfTokens defaultRules context
        (lex [] "@own(a, %@x) & @x%".toText)).toOption.map (List.map (·.issue.spec.code)) =
          some [ownRule.code, aliasRule.code, syntaxRule.code] :=
    ⟨{ base := 3, settings := {}, definitions := {} }, by decide, by decide +kernel⟩
  obtain ⟨same, total⟩ := findingsOfTokens_flatten [] "@own(a, %@x) & @x%".toText context
  obtain ⟨found, ran⟩ := total positive
  rw [ran] at codes
  exact ⟨by decide +kernel, context, found, same.trans ran, Option.some.inj codes⟩

/-! ## §3 Aliases -/

variable {context context' : Context} {key : Text} {found found' : List Finding}

/-- The rules other than that for aliases do not ask for any: `syntaxRule` looks at the token alone,
and `ownRule` at where the key stands. -/
theorem runAll_syntax_own_congr (sameBase : context'.base = context.base)
    (sameInside : context'.insideSubElement = context.insideSubElement) (tokens : List Token) :
    Rule.runAll [syntaxRule, ownRule] context tokens =
      Rule.runAll [syntaxRule, ownRule] context' tokens := by
  refine Rule.runAll_congr ?_ tokens
  intro rule hrule t
  simp only [List.mem_cons, List.not_mem_nil, or_false] at hrule
  obtain rfl | rfl := hrule
  · simp only [syntaxRule, Context.find, sameBase]
  · simp only [ownRule, Context.find, sameBase, sameInside]

/-- What the rules find, but for the findings about aliases. They are those of `aliasRule`, which is
the only rule with that code. -/
theorem runAll_filter_other {tokens : List Token}
    (ran : Rule.runAll defaultRules context tokens = .ok found) :
    Rule.runAll [syntaxRule, ownRule] context tokens =
      .ok (found.filter (·.issue.spec.code != Catalogue.unknownAlias.code)) := by
  have others : defaultRules.filter (·.code != Catalogue.unknownAlias.code) =
      [syntaxRule, ownRule] := by
    rfl
  rw [← others]
  refine runAll_filter_code ran ?_ (· != Catalogue.unknownAlias.code)
  intro t ht rule hrule part made f mem
  exact ((verdict_rules rule hrule).coded part made f mem).1

/-- With the same keywords among the aliases, two checks of a key can differ only in their findings
about aliases.

What is found about brackets is not affected either, as `Bracket.findings` reads the brackets off
the text. -/
theorem filter_findings_eq (sameBase : context'.base = context.base)
    (sameInside : context'.insideSubElement = context.insideSubElement)
    (same : SameKeywords context.aliases context'.aliases)
    (checked : findings context key = .ok found) (checked' : findings context' key = .ok found') :
    found.filter (·.issue.spec.code != Catalogue.unknownAlias.code) =
      found'.filter (·.issue.spec.code != Catalogue.unknownAlias.code) := by
  -- Keys that are exempt are not looked at in either run.
  cases exempt : isExempt key with
  | true =>
    rw [findings, exempt] at checked checked'
    exact congrArg _ (Except.ok.inj (checked.symm.trans checked'))
  | false =>
    obtain ⟨brackets, tokens, closed, ran, rfl⟩ := findings_eq_ok checked exempt
    obtain ⟨brackets', tokens', closed', ran', rfl⟩ := findings_eq_ok checked' exempt
    rw [sameBase, closed, Except.ok.injEq] at closed'
    rw [← lex_congr same] at ran'
    have others := runAll_filter_other ran
    rw [runAll_syntax_own_congr sameBase sameInside, runAll_filter_other ran',
      Except.ok.injEq] at others
    rw [List.filter_append, List.filter_append, closed', others]

/-- The tokens of a key are the same with the aliases that are called like keywords alone. So
whatever else is configured or defined, the tokens stay as they are, and what is found in the key
stays as it is but for the findings about aliases.

An alias that is called like a keyword does matter: `SameKeywords` asks that both contexts have the
same of these. -/
theorem lex_keywords (aliases : List Text) (key : Text) :
    lex aliases key = lex (aliases.filter (atKeywords.contains ·)) key ∧
      ∀ context context' : Context, context'.base = context.base →
        context'.insideSubElement = context.insideSubElement →
        SameKeywords context.aliases context'.aliases →
        lex context.aliases key = lex context'.aliases key ∧
          (∀ found found', findings context key = .ok found →
            findings context' key = .ok found' →
            found.filter (·.issue.spec.code != Catalogue.unknownAlias.code) =
              found'.filter (·.issue.spec.code != Catalogue.unknownAlias.code)) ∧
          (0 ≤ context.base → ∃ found found', findings context key = .ok found ∧
            findings context' key = .ok found') := by
  refine ⟨lex_congr (sameKeywords_filter aliases) key, ?_⟩
  intro context context' sameBase sameInside same
  refine ⟨lex_congr same key, ?_, ?_⟩
  · intro found found' checked checked'
    exact filter_findings_eq sameBase sameInside same checked checked'
  · intro positive
    obtain ⟨found, checked⟩ := exists_findings positive key
    obtain ⟨found', checked'⟩ := exists_findings (sameBase ▸ positive) key
    exact ⟨found, found', checked, checked'⟩

/-- An alias is configured for one check and unknown to the other. The tokens are the same, and only
the second check reports it. -/
theorem lex_keywords_configured :
    ∃ (context context' : Context) (found found' : List Finding),
      findings context "@x & @own(a)".toText = .ok found ∧
      findings context' "@x & @own(a)".toText = .ok found' ∧ found.length < found'.length ∧
      found.filter (·.issue.spec.code != Catalogue.unknownAlias.code) =
        found'.filter (·.issue.spec.code != Catalogue.unknownAlias.code) := by
  obtain ⟨context, context', sameBase, sameInside, positive, same, one, two⟩ :
      ∃ context context' : Context, context'.base = context.base ∧
        context'.insideSubElement = context.insideSubElement ∧ 0 ≤ context.base ∧
        SameKeywords context.aliases context'.aliases ∧
        (findings context "@x & @own(a)".toText).toOption.map List.length = some 1 ∧
        (findings context' "@x & @own(a)".toText).toOption.map List.length = some 2 := by
    refine ⟨{ base := 3, settings := { states := ["@x".toText] }, definitions := {} },
      { base := 3, settings := {}, definitions := {} }, rfl, rfl, by decide, ?_, ?_, ?_⟩
    · unfold SameKeywords
      decide +kernel
    · decide +kernel
    · decide +kernel
  obtain ⟨-, others, total⟩ :=
    (lex_keywords [] "@x & @own(a)".toText).2 context context' sameBase sameInside same
  obtain ⟨found, found', checked, checked'⟩ := total positive
  rw [checked] at one
  rw [checked'] at two
  have more : found.length < found'.length := by
    rw [Option.some.inj one, Option.some.inj two]
    decide
  exact ⟨context, context', found, found', checked, checked', more,
    others found found' checked checked'⟩

end StateKey

end StyleCheck
