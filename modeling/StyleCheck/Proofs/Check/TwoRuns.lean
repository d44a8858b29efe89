import StyleCheck.Proofs.Alike
import StyleCheck.Proofs.Check.Verdict
import StyleCheck.Proofs.Value.Lexicon

/-!
# Two runs over one text

A text that is checked twice, by rules that know different things, is compared part by part: what is
found in both runs is put together in the same order, so it is enough to compare what one rule finds
in one token. In a value that leaves the rules that look names up. Both runs see the same tokens, up
to the kinds of units and of words, and the rule for opacities asks for nothing but the token.

## Main definitions

- `Additive`: relations of findings that are settled part by part.

## Main statements

- `alike_collect`: two runs over lists whose elements correspond.
- `Value.alike_findings`: two runs over a value.
-/

namespace StyleCheck

/-! ## §1 Parts -/

/-- A relation of findings that holds of the whole if it holds of the parts. Equality after a filter
is one, and so is being a sublist. -/
structure Additive (related : List Finding → List Finding → Prop) : Prop where
  nil : related [] []
  append : ∀ {front front' back back'}, related front front' → related back back' →
    related (front ++ back) (front' ++ back')

variable {related : List Finding → List Finding → Prop}

theorem Additive.flatten (additive : Additive related) {parts parts' : List (List Finding)}
    (each : List.Forall₂ related parts parts') : related parts.flatten parts'.flatten := by
  induction each with
  | nil => exact additive.nil
  | cons first _ ih => exact additive.append first ih

theorem alike_collect (additive : Additive related) {α β : Type}
    {check : α → Except Fault (List Finding)} {check' : β → Except Fault (List Finding)}
    {l : List α} {l' : List β}
    (each : List.Forall₂ (fun a b => Alike related (check a) (check' b)) l l') :
    Alike related ((l.mapM check).map List.flatten) ((l'.mapM check').map List.flatten) :=
  (alike_mapM each).map fun _ parts => additive.flatten parts

theorem alike_runAll (additive : Additive related) {C C' : Type} {context : C} {context' : C'}
    {rules : List (Rule C)} {rules' : List (Rule C')} {tokens tokens' : List Token}
    (each : List.Forall₂ (fun t t' => List.Forall₂ (fun (rule : Rule C) (rule' : Rule C') =>
      Alike related (rule.check context t) (rule'.check context' t')) rules rules')
      tokens tokens') :
    Alike related (Rule.runAll rules context tokens) (Rule.runAll rules' context' tokens') :=
  alike_collect additive (each.imp fun _ _ run => alike_collect additive run)

/-! ## §2 Values -/

namespace Value

variable {l l' : Lexicon} {context context' : Context} {t t' : Token}

theorem Recast.hostSpan_eq (h : Recast l l' t t') (base : Int) :
    t'.hostSpan base = t.hostSpan base := by
  rw [Token.hostSpan, Token.hostSpan, Token.span, Token.span, h.start, h.stop]

/-- The opacity of a colour is judged by the token alone, and `Recast` tokens have the same text. -/
theorem opacityRule_check_eq (h : Recast l l' t t') (sameBase : context'.base = context.base) :
    opacityRule.check context' t' = opacityRule.check context t := by
  have color : (t'.kind != .colorToken) = (t.kind != .colorToken) := by
    rw [Bool.eq_iff_iff, bne_iff_ne, bne_iff_ne, ne_eq, ne_eq, h.kind.colorToken_iff]
  simp only [opacityRule, color, h.text, Context.find, h.hostSpan_eq, sameBase]

/-- Two runs over a value come out alike if every rule that looks names up comes out alike at every
token.

The tokens of the two runs differ in their kinds only, by `recast_lex`. Where a rule is compared,
both tokens are known to have a range in the host file, and the same one. -/
theorem alike_findings (additive : Additive related) (refl : ∀ found, related found found)
    (sameBase : context'.base = context.base) (positive : 0 ≤ context.base) (text : Text)
    (lookups : ∀ (lookup : Lookup) (t t' : Token) (span : Span),
      Recast (Lexicon.ofSettings context.settings) (Lexicon.ofSettings context'.settings) t t' →
      t.hostSpan context.base = .ok span → t'.hostSpan context'.base = .ok span →
      Alike related (lookup.rule.check context t) (lookup.rule.check context' t')) :
    Alike related (findings context text) (findings context' text) := by
  rw [findings_eq, findings_eq]
  -- The tokens of the two runs correspond, and their rules are the same.
  apply alike_runAll additive
  have recast := recast_lex (Lexicon.ofSettings context.settings)
    (Lexicon.ofSettings context'.settings) text
  have inOrder : ∀ t ∈ Token.flatten (lex (Lexicon.ofSettings context.settings) text),
      InOrder t.start t.stop := fun t ht => inOrder_of_mem_flatten ht
  refine ((List.forall₂_and_left _ _).mpr ⟨inOrder, recast⟩).imp ?_
  intro t t' ⟨inOrder, recast⟩
  obtain ⟨span, placed⟩ := Token.exists_hostSpan inOrder positive
  have placed' : t'.hostSpan context'.base = .ok span := by
    rw [sameBase, recast.hostSpan_eq, placed]
  rw [List.forall₂_same, defaultRules_eq, List.forall_mem_cons, List.forall_mem_map]
  refine ⟨?_, fun lookup _ => lookups lookup t t' span recast placed placed'⟩
  rw [opacityRule_check_eq recast sameBase]
  exact .refl refl _

end Value

end StyleCheck
