import StyleCheck.Proofs.Text.Sparse
import StyleCheck.StateKey.Lexer

/-!
# The grammars of bodies

Every token of a body is read off the front of what follows its first character, and this character
alone, with the one behind it where a number may start with a point, decides whether there is a
token.

## Main definitions

- `Body.Starts`: the characters at which a token of a body starts.

## Main statements

- `Body.reads_token`: the tokens of a body are read off the front.
- `Body.token?_eq_none_iff`: the grammar passes over exactly the characters where none starts.
-/

namespace StyleCheck.StateKey

open Text

/-! ## §1 What tokens take -/

/-- A text that starts with a character takes just that one, and any other text none. -/
private theorem reads_lone {scan : Text → Text} (c : CodePoint)
    (starts : ∀ cs, scan (c :: cs) = [c]) (differs : ∀ cs, cs.head? ≠ some c → scan cs = []) :
    Reads id scan :=
  .onHead c starts differs (fun _ => rfl) (.const rfl) (.const rfl)

theorem reads_secondColon : Reads id secondColon := by
  refine reads_lone (CodePoint.char ':') (fun _ => rfl) fun cs differs => ?_
  unfold secondColon
  split
  · simp at differs
  · rfl

theorem reads_comparisonTail : Reads id comparisonTail := by
  refine reads_lone (CodePoint.char '=') (fun _ => rfl) fun cs differs => ?_
  unfold comparisonTail
  split
  · simp at differs
  · rfl

theorem reads_pseudoName : Reads id pseudoName :=
  reads_secondColon.andThen (fun _ => reads_dashedName) (· ++ ·) fun _ _ => rfl

theorem reads_pseudoTail : Reads id pseudoTail :=
  reads_pseudoName.andThen (fun _ => reads_group _ _) (· ++ ·) fun _ _ => rfl

theorem reads_attributeTail : Reads id attributeTail := reads_groupTail _ _ 1

/-- The value of a modifier: a quoted text, in which a backslash `escapes` or does not, or a name.
-/
def assigned (escapes : Bool) : Text → Text
  | '"' :: r => CodePoint.char '"' :: (if escapes then quotedTail '"' r else plainQuotedTail '"' r)
  | '\'' :: r =>
    CodePoint.char '\'' :: (if escapes then quotedTail '\'' r else plainQuotedTail '\'' r)
  | value => dashedName value

/-- What follows the name of a modifier, with the kind that it makes of the modifier. -/
def assignment (escapes : Bool) : Text → TokenKind × Text
  | '=' :: value => (.valueMod, CodePoint.char '=' :: assigned escapes value)
  | _ => (.booleanMod, [])

/-- A modifier is its name and the `assignment` behind it, if there is one. -/
theorem modifier_eq (escapes : Bool) (cs : Text) :
    modifier escapes cs =
      ((assignment escapes (cs.drop (dashedName cs).length)).1,
        dashedName cs ++ (assignment escapes (cs.drop (dashedName cs).length)).2) := by
  simp only [modifier]
  generalize cs.drop (dashedName cs).length = behind
  unfold assignment
  split
  · next value =>
    split
    · rfl
    · rfl
    · simp [assigned]
  · simp

private theorem reads_quotedValue (escapes : Bool) (quote : CodePoint) :
    Reads List.tail fun r =>
      quote :: (if escapes then quotedTail quote r else plainQuotedTail quote r) :=
  (Reads.iteConst escapes (reads_quotedTail quote) (reads_plainQuotedTail quote)).cons quote

/-- The value of a modifier is read: a text between quotes of either kind, or a name. -/
theorem reads_assigned (escapes : Bool) : Reads id (assigned escapes) := by
  -- Without the first kind of quote there is the second one, or a name.
  have other : Reads id fun cs =>
      if cs.head? = some (CodePoint.char '\'') then assigned escapes cs else dashedName cs := by
    refine .onHead (CodePoint.char '\'') ?_ ?_ (fun _ => rfl) (reads_quotedValue escapes _)
      reads_dashedName
    · intro rest
      rfl
    · intro cs differs
      rw [if_neg differs]
  -- The first kind of quote is tried first.
  refine .onHead (CodePoint.char '"') (fun _ => rfl) ?_ (fun _ => rfl)
    (reads_quotedValue escapes _) other
  intro cs differs
  split
  · rfl
  · next differs' =>
    unfold assigned
    split
    · simp at differs
    · simp at differs'
    · rfl

/-- A modifier is read: its name, then the sign and the value. These two are an `assignment`. -/
theorem reads_modifier (escapes : Bool) : Reads Prod.snd (modifier escapes) := by
  -- Whether a value follows the name is decided by the next character alone.
  have behind : Reads Prod.snd (assignment escapes) := by
    refine .onHead (CodePoint.char '=') (fun _ => rfl) ?_ (fun _ => rfl)
      ((reads_assigned escapes).map
        (fun value => (TokenKind.valueMod, CodePoint.char '=' :: value)) fun _ => rfl)
      (.const (a := (.booleanMod, [])) rfl)
    intro cs differs
    unfold assignment
    split
    · simp at differs
    · rfl
  rw [funext (modifier_eq escapes)]
  exact reads_dashedName.andThen (fun _ => behind) (fun name a => (a.1, name ++ a.2))
    fun _ _ => rfl

theorem reads_queryNumber (c : CodePoint) : Reads Prod.snd (queryNumber c) :=
  (reads_unsignedNumeral.behindFirst c).andThen (fun _ => reads_takeWhile isQueryUnitChar)
    (fun numeral unit =>
      (if unit.isEmpty then TokenKind.number else TokenKind.cssUnit, numeral ++ unit))
    fun _ _ => rfl

/-! ## §2 Tokens of bodies -/

/-- What the token at a character takes of the characters behind it. -/
def tailOf (token : Option (TokenKind × Text)) : Text := token.elim [] Prod.snd

theorem reads_selectorToken (c : CodePoint) : Reads tailOf (selectorToken c) :=
  .iteConst _ (reads_kindOnly _) <|
  .iteConst _ (reads_kindOnly _) <|
  .iteConst _ (reads_kind _ reads_pseudoTail) <|
  .iteConst _ (reads_kind _ reads_dashedName) <|
  .iteConst _ (reads_kind _ reads_attributeTail) <|
  .iteConst _ (reads_kind _ reads_dashedName) reads_none

theorem reads_conditionToken {word : Text → TokenKind × Text} (h : Reads Prod.snd word)
    (c : CodePoint) : Reads tailOf (conditionToken word c) := by
  refine .iteConst _ (reads_kind _ reads_comparisonTail) ?_
  refine .iteConst _ (reads_kindOnly _) ?_
  refine .iteConst _ (reads_kindOnly _) ?_
  refine .ifUnsigned c (reads_some (reads_queryNumber c)) (.iteConst _ (reads_some h) reads_none) ?_
  intro cs starts
  simp only [tailOf, Option.elim_some, queryNumber, List.length_append, List.length_drop]
  omega

/-- The tokens of a body are read off the front, for each of the three grammars of `Body.token?`. -/
theorem Body.reads_token (body : Body) (c : CodePoint) : Reads tailOf (body.token? c) := by
  -- Queries and conditions differ only in what they take words for.
  cases body with
  | selector => exact reads_selectorToken c
  | query =>
    have word : Reads Prod.snd fun cs => (TokenKind.identifier, dashedName cs) :=
      reads_dashedName.map (fun name => (TokenKind.identifier, name)) fun _ => rfl
    exact reads_conditionToken word c
  | condition => exact reads_conditionToken (reads_modifier false) c

theorem Body.isPrefix_of_token {body : Body} {c : CodePoint} {cs tail : Text} {kind : TokenKind}
    (h : body.token? c cs = some (kind, tail)) : tail <+: cs := by
  have front := (body.reads_token c).isPrefix cs
  rwa [h] at front

/-! ## §3 Where tokens start -/

/-- A token of the body starts at a character, with some text behind it.

In a selector that is a combinator, a comma, what a pseudo-class, a class or an attribute starts
with, or what a name starts with. In queries and conditions it is a comparison, a logical operator,
a comma, what a name starts with, or a number: a digit, or a point with a digit behind it. -/
def Body.Starts : Body → CodePoint → Text → Prop
  | .selector, c, _ => c ∈ ">+~,:.[".toText ∨ isNameStart c = true
  | _, c, cs =>
    c ∈ "<>=&|!^,".toText ∨ isDigit c = true ∨ isNameStart c = true ∨
      c = CodePoint.char '.' ∧ ∃ d, cs.head? = some d ∧ isDigit d = true

theorem startsUnsigned_cons_iff {c : CodePoint} {cs : Text} :
    startsUnsigned (c :: cs) = true ↔
      isDigit c = true ∨ c = CodePoint.char '.' ∧ ∃ d, cs.head? = some d ∧ isDigit d = true := by
  by_cases point : c = CodePoint.char '.'
  · subst point
    have noDigit : isDigit (CodePoint.char '.') = false := by decide
    cases cs <;> simp [startsUnsigned, startsWithDigit, noDigit]
  · simp [startsUnsigned, startsWithDigit, point]

theorem selectorToken_eq_none_iff {c : CodePoint} {cs : Text} :
    selectorToken c cs = none ↔ ¬Body.selector.Starts c cs := by
  have characters : ">+~,:.[".toText = ">+~".toText ++ ",:.[".toText := by decide
  have others : c ∈ ",:.[".toText ↔ c = ',' ∨ c = ':' ∨ c = '.' ∨ c = '[' := by
    simp [String.toText]
  simp only [selectorToken, Body.Starts, ite_some_eq_none_iff, characters, others, List.mem_append,
    isCombinator, List.contains_iff_mem, beq_iff_eq, not_or]
  tauto

theorem conditionToken_eq_none_iff {word : Text → TokenKind × Text} {c : CodePoint} {cs : Text} :
    conditionToken word c cs = none ↔ ¬Body.query.Starts c cs := by
  have characters : "<>=&|!^,".toText =
      "<>=".toText ++ ("&|!^".toText ++ [CodePoint.char ',']) := by decide
  simp only [conditionToken, Body.Starts, ite_some_eq_none_iff, startsUnsigned_cons_iff, characters,
    List.mem_append, List.mem_singleton, isComparison, isLogicalOperator, List.contains_iff_mem,
    beq_iff_eq, not_or]
  tauto

/-- The grammar passes over a character just where no token of the body starts. -/
theorem Body.token?_eq_none_iff {body : Body} {c : CodePoint} {cs : Text} :
    body.token? c cs = none ↔ ¬body.Starts c cs := by
  cases body with
  | selector => exact selectorToken_eq_none_iff
  | query =>
    rw [Body.token?]
    exact conditionToken_eq_none_iff
  | condition =>
    rw [Body.token?]
    exact conditionToken_eq_none_iff

end StyleCheck.StateKey
