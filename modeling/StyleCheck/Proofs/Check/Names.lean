import StyleCheck.Proofs.Check.Lookup
import StyleCheck.Proofs.StateKey.Keywords
import StyleCheck.Proofs.Style.Reordering
import StyleCheck.Proofs.Text.Order

/-!
# Checks look at names alone

A check asks the definitions of a file whether a name is among them, and where it suggests a name it
looks through them in their sorted order. So two collections of the same names are as good as one
another.

## Main statements

- `Value.findings_congr`, `StateKey.findings_congr`: what is found in a value and in a state key.
- `Obligation.findings_congr`: what is found in one thing to check.
-/

namespace StyleCheck

open Definitions (SameNames)

variable {d d' : Definitions}

/-! ## §1 Names -/

namespace Definitions.SameNames

/-- The rules for colours and custom properties ask `hasToken` only. -/
theorem hasToken (h : SameNames d d') (name : Text) : d.hasToken name = d'.hasToken name := by
  simp only [Definitions.hasToken, List.contains_eq_mem, h.tokens.mem_iff]

/-- The rule for aliases asks `hasState` only. -/
theorem hasState (h : SameNames d d') (name : Text) : d.hasState name = d'.hasState name := by
  simp only [Definitions.hasState, List.contains_eq_mem, h.states.mem_iff]

/-- `Text.sort` forgets the order in which states were collected. -/
theorem sort_states (h : SameNames d d') : Text.sort d.states = Text.sort d'.states :=
  Text.sort_eq_of_perm h.states

/-- The candidates for colours and custom properties come in the order of `Text.sort`, so they are
the same list for the same names. -/
theorem knownTokens (h : SameNames d d') (sigil : CodePoint) (permitted : List Text) :
    Value.knownTokens sigil permitted d = Value.knownTokens sigil permitted d' := by
  rw [Value.knownTokens, Value.knownTokens, Text.sort_eq_of_perm (h.tokens.filter _)]

end Definitions.SameNames

/-! ## §2 Rules -/

theorem mapM_congr {ε α β : Type} {f g : α → Except ε β} {l : List α} (same : ∀ a ∈ l, f a = g a) :
    l.mapM f = l.mapM g := by
  induction l with
  | nil => rfl
  | cons a l ih =>
    rw [List.mapM_cons, List.mapM_cons, same a List.mem_cons_self,
      ih fun a ha => same a (List.mem_cons_of_mem _ ha)]

/-- Rules that find the same in every token find the same in all tokens, whatever the contexts are.
-/
theorem Rule.runAll_congr {Context : Type} {rules : List (Rule Context)} {c c' : Context}
    (same : ∀ rule ∈ rules, ∀ token, rule.check c token = rule.check c' token)
    (tokens : List Token) : runAll rules c tokens = runAll rules c' tokens := by
  have each (token : Token) : runOn rules c token = runOn rules c' token := by
    rw [runOn, runOn, mapM_congr fun rule hrule => same rule hrule token]
  rw [runAll, runAll, mapM_congr fun token _ => each token]

/-! ## §3 Values -/

/-- What is found in a value depends on the names that the file defines, not on their order. Only
`colorTokenRule` and `customPropertyRule` look at them. -/
theorem Value.findings_congr (h : SameNames d d') (base : Int) (property : Text)
    (settings : Settings) (text : Text) :
    Value.findings { base, property, settings, definitions := d } text =
      Value.findings { base, property, settings, definitions := d' } text := by
  have same : ∀ rule ∈ defaultRules, ∀ token,
      rule.check { base, property, settings, definitions := d } token =
        rule.check { base, property, settings, definitions := d' } token := by
    intro rule hrule token
    obtain rfl | ⟨lookup, rfl⟩ := mem_rules_iff.mp hrule
    · rfl
    · cases lookup with
      | colorToken =>
        simp only [Lookup.rule, colorTokenRule, h.hasToken, h.knownTokens]
        rfl
      | customProperty =>
        simp only [Lookup.rule, customPropertyRule, h.hasToken, h.knownTokens]
        rfl
      -- The other rules do not ask for definitions.
      | unit | preset | recipe | function => rfl
  rw [Value.findings, Value.findings, findingsOfTokens, findingsOfTokens, Rule.runAll_congr same]

/-! ## §4 State keys -/

namespace StateKey

/-- What is found in a state key depends on the names that the file defines, not on their order.

Here they are looked at twice: by `aliasRule`, and by the lexer, which takes the defined aliases for
keywords. The second is settled by `lex_congr`. -/
theorem findings_congr (h : SameNames d d') (base : Int) (settings : Settings)
    (insideSubElement : Bool) (key : Text) :
    findings { base, settings, definitions := d, insideSubElement } key =
      findings { base, settings, definitions := d', insideSubElement } key := by
  have same : ∀ rule ∈ defaultRules, ∀ token,
      rule.check { base, settings, definitions := d, insideSubElement } token =
        rule.check { base, settings, definitions := d', insideSubElement } token := by
    intro rule hrule token
    obtain rfl | rfl | rfl := mem_rules_iff.mp hrule
    · rfl
    · rfl
    · simp only [aliasRule, h.hasState, h.sort_states]
      rfl
  -- The lexer is given the aliases of the project and those of the file.
  have aliases : SameKeywords (settings.states ++ d.states) (settings.states ++ d'.states) := by
    intro name _
    rw [List.mem_append, List.mem_append, h.states.mem_iff]
  simp only [findings, findingsOfTokens, Rule.runAll_congr same, Context.aliases,
    lex_congr aliases]

end StateKey

theorem Obligation.findings_congr (h : SameNames d d') (settings : Settings) (o : Obligation) :
    o.findings settings d = o.findings settings d' := by
  cases o with
  | value property text start => exact Value.findings_congr h start property settings text
  | stateKey inside key start => exact StateKey.findings_congr h start settings inside key
  | startingProperty key => rfl

end StyleCheck
