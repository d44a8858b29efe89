import StyleCheck.Text.Basic

/-!
# Sparse token runs

Some grammars keep the characters at which a token starts and pass over all others. Such a grammar
is given by a function that says which token, if any, starts at a character; the scan collects the
tokens up to a stop character and tells how far it came.

## Main definitions

- `Fragment`: a token of such a run, with its position.
- `sparse`: the fragments of a text, and the number of characters they and the gaps take.
-/

namespace StyleCheck.Text

/-- A token among skipped characters: its kind, its text and where it starts. -/
structure Fragment (κ : Type) where
  kind : κ
  text : Text
  start : Nat
deriving DecidableEq, Repr

/-- Where a fragment ends: its `start` and the length of its text. -/
def Fragment.stop {κ : Type} (f : Fragment κ) : Nat := f.start + f.text.length

/-- The fragments of a text at a `position`, up to a stop character outside all fragments, and the
number of characters in front of that stop character.

The `grammar` gives, for a character and what follows it, the kind of the token that starts there
and its further characters. -/
def sparse {κ : Type} (grammar : CodePoint → Text → Option (κ × Text))
    (isStop : CodePoint → Bool) (position : Nat) : Text → List (Fragment κ) × Nat
  | [] => ([], 0)
  | c :: cs =>
    if isStop c then ([], 0)
    else match grammar c cs with
      | none =>
        let (fragments, length) := sparse grammar isStop (position + 1) cs
        (fragments, length + 1)
      | some (kind, tail) =>
        let taken := tail.length + 1
        let (fragments, length) :=
          sparse grammar isStop (position + taken) (cs.drop tail.length)
        (⟨kind, c :: tail, position⟩ :: fragments, length + taken)
termination_by cs => cs.length
decreasing_by
  · simp
  · simp only [List.length_cons, List.length_drop]; omega

end StyleCheck.Text
