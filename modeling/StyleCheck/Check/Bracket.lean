import StyleCheck.Diagnostic.Finding

/-!
# Bracket balance

Checks the parentheses and square brackets of a state key on its raw text, whatever its tokens
are. Each closing bracket takes the last open one: a bracket without partner is unmatched, a
partner of the other sort is a mismatch, and what is still open at the end is unclosed.

## Main definitions

- `Bracket.scan`: the findings and the brackets left open, character by character.
- `Bracket.findings`: the findings of a key.
-/

namespace StyleCheck.Bracket

/-- The closing bracket of an opening one. `( )` and `[ ]` are the only brackets. -/
def closerOf? : CodePoint → Option CodePoint
  | '(' => some ')'
  | '[' => some ']'
  | _ => none

/-- The opening bracket of a closing one. -/
def openerOf? : CodePoint → Option CodePoint
  | ')' => some '('
  | ']' => some '['
  | _ => none

/-- A bracket that is open: its sort, the `closer` it waits for, and its position in the key. -/
structure Open where
  opener : CodePoint
  closer : CodePoint
  position : Nat
deriving DecidableEq, Repr

/-- The issue with a closing bracket, if there is one, given the last open bracket.

Without one the closing bracket is unmatched, and if the last one waits for another `closer` it is
mismatched. -/
def closingIssue? (closer opener : CodePoint) : Option Open → Option Issue
  | none => some (.unmatchedBracket closer opener)
  | some last =>
    if last.closer == closer then none
    else some (.mismatchedBracket closer last.closer last.opener last.position)

/-- The span of one character of the key in the host file. -/
def charSpan (base : Int) (position : Nat) : Except Fault Span := Span.at? (base + position) 1

/-- The findings in the rest of a key that starts at a position, given the open brackets, last one
first; and the brackets that are open at its end.

A closing bracket takes the last open one off the `stack`, also where the two do not match. -/
def scan (base : Int) (position : Nat) (stack : List Open) :
    Text → Except Fault (List Finding × List Open)
  | [] => .ok ([], stack)
  | c :: cs =>
    match closerOf? c, openerOf? c with
    | some closer, _ => scan base (position + 1) (⟨c, closer, position⟩ :: stack) cs
    | none, some opener => do
      let span ← charSpan base position
      let found := (closingIssue? c opener stack.head?).toList.map fun issue => { issue, span }
      let (rest, unclosed) ← scan base (position + 1) stack.tail cs
      .ok (found ++ rest, unclosed)
    | none, none => scan base (position + 1) stack cs

/-- The finding of a bracket that is never closed. -/
def unclosed (base : Int) (bracket : Open) : Except Fault Finding :=
  (charSpan base bracket.position).map fun span =>
    { issue := .unclosedBracket bracket.opener bracket.closer, span }

/-- The findings of a key that stands at an offset: closing brackets in order, then the unclosed
ones in order. The `stack` has the last one first, so it is turned round. -/
def findings (base : Int) (key : Text) : Except Fault (List Finding) := do
  let (closing, stack) ← scan base 0 [] key
  let opening ← stack.reverse.mapM (unclosed base)
  .ok (closing ++ opening)

end StyleCheck.Bracket
