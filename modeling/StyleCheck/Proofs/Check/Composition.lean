import StyleCheck.Proofs.Check.Names
import StyleCheck.Proofs.Check.Verdict
import StyleCheck.Proofs.Value.Words

/-!
# Checking values in parts

Every rule looks at one token at a time, and of where the token stands it uses nothing but the range
in the host file. So what is found in a value is put together from what is found in its parts, each
of which stands where it stands in the file: a value can be cut between two of its tokens, and the
arguments of a call can be checked as a value of their own.

## Main definitions

- `IsBoundary`: where a value can be cut.

## Main statements

- `runAll_shift`: moving tokens is the same as moving the text they are in.
- `findings_of_boundary`, `findings_call`: what is found in the two halves of a value and in a call.
- `findings_compose`: both.
-/

namespace StyleCheck

/-! ## §1 Rules on parts -/

section Rules

variable {Context : Type} {rules : List (Rule Context)} {context : Context}

/-- A rule that finds nothing in a token could as well be left out.

So the rules at a token are only those that have something to say about its kind. -/
theorem runOn_cons_of_silent {rule : Rule Context} {t : Token}
    (silent : rule.check context t = .ok []) :
    Rule.runOn (rule :: rules) context t = Rule.runOn rules context t := by
  simp only [Rule.runOn, List.mapM_cons, silent]
  cases rules.mapM fun (rule : Rule Context) => rule.check context t with
  | error fault => rfl
  | ok parts => rfl

end Rules

/-! ## §2 Moving -/

namespace Token

variable {t : Token} {base : Int}

/-- The range of a token in the host file is that between its offsets there, each moved by `base`.
-/
theorem hostSpan_eq_ofBounds (inOrder : InOrder t.start t.stop) :
    t.hostSpan base = Span.ofBounds (t.start + base) (t.stop + base) := by
  obtain ⟨own, made⟩ := Span.exists_ofBounds_iff.mpr inOrder
  have bounds := Span.ofBounds_eq_ok_iff.mp made
  rw [hostSpan, Token.span, made, ← bounds.1, ← bounds.2]
  rfl

/-- A token that is moved in its text stands where it stands in a text that is moved.

Both times the range is that of its offsets, and these add up. -/
theorem hostSpan_shift (inOrder : InOrder t.start t.stop) (delta : Nat) :
    (shift delta t).hostSpan base = t.hostSpan (base + delta) := by
  have moved : InOrder (shift delta t).start (shift delta t).stop := by
    obtain ⟨first, ordered⟩ := inOrder
    rw [shift_start, shift_stop]
    exact ⟨by omega, by omega⟩
  rw [hostSpan_eq_ofBounds moved, hostSpan_eq_ofBounds inOrder, shift_start, shift_stop,
    Int.add_assoc, Int.add_assoc, Int.add_comm base]

end Token

namespace Value

open Text

variable {context : Context}

/-- A rule finds the same at a token that is moved as in a text that is moved.

This holds of each rule in `defaultRules`. -/
theorem check_shift {t : Token} (inOrder : InOrder t.start t.stop) (delta : Nat) :
    ∀ rule ∈ defaultRules, rule.check context (Token.shift delta t) =
      rule.check { context with base := context.base + delta } t := by
  -- Every rule reads a token by its kind, text and name, and these stay.
  simp only [defaultRules, List.forall_mem_cons, List.not_mem_nil, false_imp_iff, implies_true,
    and_true, opacityRule, colorTokenRule, customPropertyRule, unitRule, presetRule, recipeRule,
    functionRule, Context.find, Token.shift_kind, Token.shift_text, Token.shift_name,
    Token.hostSpan_shift inOrder]

/-- The tokens of a value, moved: what is found in them is found in the value, moved.

Tokens are moved at every depth, by `Token.shiftAll`. -/
theorem runAll_shift (context : Context) (text : Text) (delta : Nat) :
    Rule.runAll defaultRules context (Token.flatten (Token.shiftAll delta
        (lex (Lexicon.ofSettings context.settings) text))) =
      findings { context with base := context.base + delta } text := by
  have each : ∀ t ∈ Token.flatten (lex (Lexicon.ofSettings context.settings) text),
      Rule.runOn defaultRules context (Token.shift delta t) =
        Rule.runOn defaultRules { context with base := context.base + delta } t := by
    intro t ht
    rw [Rule.runOn, Rule.runOn, mapM_congr (check_shift (inOrder_of_mem_flatten ht) delta)]
  rw [findings_eq, Token.flatten_shiftAll, Rule.runAll, Rule.runAll, List.mapM_map]
  exact congrArg (Except.map List.flatten) (mapM_congr each)

/-! ## §3 Cutting a value -/

/-- A place where a value can be cut: its start, or where some of its top-level tokens ends. -/
def IsBoundary (lexicon : Lexicon) (text : Text) (cut : Nat) : Prop :=
  cut = 0 ∨ ∃ t ∈ lex lexicon text, t.stop = cut

/-- The tokens in front of a boundary end there, so the list of tokens is cut where the value is.
What is in front `Tiles` the value up to the cut. -/
theorem IsBoundary.exists_tiles {lexicon : Lexicon} {text : Text} {cut : Nat}
    (h : IsBoundary lexicon text cut) :
    ∃ left right, lex lexicon text = left ++ right ∧ Tiles left 0 cut := by
  obtain rfl | ⟨t, mem, stop⟩ := h
  · exact ⟨[], lex lexicon text, rfl, rfl⟩
  · -- The tokens up to the one that ends there come in front.
    obtain ⟨left, right, split⟩ := List.append_of_mem mem
    have covers := (lexes lexicon).tiles 0 text
    have upTo : lex lexicon text = (left ++ [t]) ++ right := by
      rw [split, List.append_assoc, List.singleton_append]
    rw [← lex, upTo] at covers
    obtain ⟨middle, front, -⟩ := tiles_append.mp covers
    refine ⟨left ++ [t], right, upTo, ?_⟩
    rw [← stop, front.stop_eq]
    exact front

/-- A value can be checked in two parts.

By `lex_cut`, the tokens of the two parts are those in front of the boundary and those behind it. -/
theorem findings_of_boundary {text : Text} {cut : Nat}
    (boundary : IsBoundary (Lexicon.ofSettings context.settings) text cut) :
    findings context text =
      findings context (text.take cut) >>= fun front =>
        findings { context with base := context.base + cut } (text.drop cut) >>= fun back =>
          .ok (front ++ back) := by
  obtain ⟨left, right, lexed, ends⟩ := boundary.exists_tiles
  obtain ⟨front, back⟩ := lex_cut lexed ends
  -- The tokens behind the cut are those of the second half, moved by the length of the first.
  have moved : right = Token.shiftAll cut
      (lex (Lexicon.ofSettings context.settings) (text.drop cut)) := by
    rw [back, Token.shiftAll_shiftAll, Int.add_left_neg, Token.shiftAll_zero]
  rw [findings_eq, lexed, Token.flatten_append, runAll_append, findings_eq context (text.take cut),
    front, moved, runAll_shift]

/-! ## §4 Calls -/

/-- Only the rule for functions has anything to say about a call.

The others are about kinds of their own, and a call is of the kind `function`. -/
theorem runOn_call {t : Token} (call : t.kind = .function) :
    Rule.runOn defaultRules context t = functionRule.check context t := by
  -- A call is no colour token, and the other rules look at tokens of another kind.
  have opacity : opacityRule.check context t = .ok [] := by simp [opacityRule, call]
  have other (lookup : Lookup) (notFunction : lookup.kind ≠ .function) :
      lookup.rule.check context t = .ok [] :=
    Lookup.check_of_known fun looked => notFunction (looked.1.symm.trans call)
  rw [defaultRules_eq, runOn_cons_of_silent opacity]
  simp only [Lookup.all, List.map_cons, List.map_nil]
  rw [runOn_cons_of_silent (other .colorToken (by decide)),
    runOn_cons_of_silent (other .customProperty (by decide)),
    runOn_cons_of_silent (other .unit (by decide)),
    runOn_cons_of_silent (other .preset (by decide)),
    runOn_cons_of_silent (other .recipe (by decide)), runOn_singleton]
  rfl

/-- A call is checked by the rule for functions, and its arguments like a value of their own.

By `lex_callText`, the call is one token, with the tokens of its arguments below. -/
theorem findings_call {word arguments : Text} (isWord : IsWord word)
    (balanced : Balanced arguments) :
    findings context (callText word arguments) =
      functionRule.check context
          (callToken (Lexicon.ofSettings context.settings) word arguments) >>= fun own =>
        findings { context with base := context.base + word.length + 1 } arguments >>= fun inner =>
          .ok (own ++ inner) := by
  have moved : context.base + word.length + 1 = context.base + (word.length + 1 : Nat) := by
    push_cast
    omega
  -- The walk meets the call first, then the tokens of its arguments, moved behind its name.
  rw [findings_eq, lex_callText _ isWord balanced, Token.flatten_cons, Token.flatten_nil,
    List.append_nil, runAll_cons, runOn_call rfl, moved, ← runAll_shift]
  rfl

/-! ## §5 Parts of values -/

/-- What is found in a value is found in its parts, one after the other.

The value may be cut where one of its top-level tokens ends, and a call with balanced arguments is
checked by the rule for functions first and then like its arguments. Both are equations between
checks, so they hold of the failures as well. -/
theorem findings_compose (context : Context) :
    (∀ text cut, IsBoundary (Lexicon.ofSettings context.settings) text cut →
      findings context text =
        findings context (text.take cut) >>= fun front =>
          findings { context with base := context.base + cut } (text.drop cut) >>= fun back =>
            .ok (front ++ back)) ∧
    (∀ word arguments, IsWord word → Balanced arguments →
      lex (Lexicon.ofSettings context.settings) (callText word arguments) =
        [callToken (Lexicon.ofSettings context.settings) word arguments] ∧
      findings context (callText word arguments) =
        functionRule.check context
            (callToken (Lexicon.ofSettings context.settings) word arguments) >>= fun own =>
          findings { context with base := context.base + word.length + 1 } arguments >>=
            fun inner => .ok (own ++ inner)) := by
  refine ⟨?_, ?_⟩
  · intro text cut boundary
    exact findings_of_boundary boundary
  · intro word arguments isWord balanced
    exact ⟨lex_callText _ isWord balanced, findings_call isWord balanced⟩

/-- A colour in front of a call, and a call within that call. -/
theorem findings_compose_nested : ∃ context : Context, context.base = 4 ∧
    (findings context "#a.500 f(g(2q))".toText).toOption.map List.length = some 4 ∧
    (findings context "#a.500 f(g(2q))".toText =
      findings context "#a.500 ".toText >>= fun front =>
        findings { context with base := context.base + (7 : Nat) } "f(g(2q))".toText >>=
          fun back => .ok (front ++ back)) ∧
    (findings context (callText "f".toText "g(2q)".toText) =
      functionRule.check context (callToken (Lexicon.ofSettings context.settings)
          "f".toText "g(2q)".toText) >>= fun own =>
        findings { context with base := context.base + ("f".toText.length : Nat) + 1 }
            "g(2q)".toText >>= fun inner => .ok (own ++ inner)) := by
  refine ⟨{ base := 4, property := [], settings := { funcs := .only [] }, definitions := {} }, rfl,
    ?_, ?_, ?_⟩
  · decide +kernel
  · refine (findings_compose _).1 "#a.500 f(g(2q))".toText 7 (.inr ?_)
    decide +kernel
  · refine ((findings_compose _).2 "f".toText "g(2q)".toText ⟨_, _, rfl, ?_, ?_⟩ ⟨?_, ?_⟩).2
    · decide
    · decide
    · intro front inFront
      -- A beginning of the arguments has one of six lengths.
      have beginnings : ∀ n ≤ 5,
          closed ("g(2q)".toText.take n) ≤ opened ("g(2q)".toText.take n) := by
        decide
      rw [List.prefix_iff_eq_take.mp inFront]
      exact beginnings front.length inFront.length_le
    · decide

end Value

end StyleCheck
