import Mathlib.Tactic.Common
import StyleCheck.Text.Scan

/-!
# Parentheses in pairs

An argument list ends at the parenthesis that closes it. Which one that is can be said by counting:
no beginning of the list closes more parentheses than it opens, and if the list is closed at all, it
closes as many as it opens and a closing parenthesis follows.

## Main definitions

- `NeverOvercloses`, `Balanced`: the two conditions.

## Main statements

- `eq_of_balanced`: there is one such parenthesis.
- `untilClosed_cases`: the scan for the closing parenthesis stops in front of it, or takes all of a
  text that has none.
-/

namespace StyleCheck.Text

/-- How many parentheses a text opens. -/
def opened (cs : Text) : Nat := cs.count (CodePoint.char '(')

/-- How many parentheses a text closes. -/
def closed (cs : Text) : Nat := cs.count (CodePoint.char ')')

/-- No beginning of the text closes more parentheses than it opens: of none of them is `closed`
above `opened`. -/
def NeverOvercloses (cs : Text) : Prop := ∀ front, front <+: cs → closed front ≤ opened front

/-- Every parenthesis of the text has its counterpart in it. Beside `NeverOvercloses` this asks for
as many of the one sort as of the other. -/
def Balanced (cs : Text) : Prop := NeverOvercloses cs ∧ closed cs = opened cs

/-! ## §1 Counting -/

section Counting

variable (cs : Text) {c : CodePoint}

/-- Counting goes character by character: a parenthesis counts once, for `opened` or for `closed`,
and no other character counts. -/
@[simp] theorem opened_nil : opened [] = 0 := rfl

@[simp] theorem closed_nil : closed [] = 0 := rfl

@[simp] theorem opened_open : opened (CodePoint.char '(' :: cs) = opened cs + 1 := by
  simp [opened]

@[simp] theorem closed_open : closed (CodePoint.char '(' :: cs) = closed cs := by
  simp [closed]

@[simp] theorem opened_close : opened (CodePoint.char ')' :: cs) = opened cs := by
  simp [opened]

@[simp] theorem closed_close : closed (CodePoint.char ')' :: cs) = closed cs + 1 := by
  simp [closed]

theorem opened_other (h : c ≠ CodePoint.char '(') : opened (c :: cs) = opened cs :=
  List.count_cons_of_ne h

theorem closed_other (h : c ≠ CodePoint.char ')') : closed (c :: cs) = closed cs :=
  List.count_cons_of_ne h

@[simp] theorem opened_append (front back : Text) :
    opened (front ++ back) = opened front + opened back := List.count_append

@[simp] theorem closed_append (front back : Text) :
    closed (front ++ back) = closed front + closed back := List.count_append

end Counting

/-- A text that `NeverOvercloses` cannot go on with a closing parenthesis where it is balanced. The
beginning that ends with this parenthesis closes one more than it opens. -/
theorem not_neverOvercloses_of_balanced {args rest : Text} (balanced : Balanced args) :
    ¬NeverOvercloses (args ++ CodePoint.char ')' :: rest) := by
  intro never
  have more := never (args ++ [CodePoint.char ')']) ⟨rest, by simp⟩
  simp only [opened_append, closed_append, opened_close, closed_close, opened_nil, closed_nil,
    balanced.2] at more
  omega

/-- Where one text goes on with a closing parenthesis behind two `Balanced` ones, they are one. -/
theorem eq_of_balanced {args args' rest rest' : Text} (balanced : Balanced args)
    (balanced' : Balanced args')
    (same : args ++ CodePoint.char ')' :: rest = args' ++ CodePoint.char ')' :: rest') :
    args = args' := by
  -- If one is longer, it goes on with a closing parenthesis behind the other.
  rcases List.append_eq_append_iff.mp same with ⟨more, split, behind⟩ | ⟨more, split, behind⟩
  · cases more with
    | nil => rw [split, List.append_nil]
    | cons c more =>
      rw [List.cons_append, List.cons.injEq] at behind
      rw [← behind.1] at split
      exact absurd (split ▸ balanced'.1) (not_neverOvercloses_of_balanced balanced)
  · cases more with
    | nil => rw [split, List.append_nil]
    | cons c more =>
      rw [List.cons_append, List.cons.injEq] at behind
      rw [← behind.1] at split
      exact absurd (split ▸ balanced.1) (not_neverOvercloses_of_balanced balanced')

theorem balanced_of_notMem {cs : Text} (noOpen : CodePoint.char '(' ∉ cs)
    (noClose : CodePoint.char ')' ∉ cs) : Balanced cs := by
  have none {front : Text} (h : front <+: cs) : closed front = 0 :=
    List.count_eq_zero.mpr fun there => noClose (h.subset there)
  refine ⟨fun front h => ?_, ?_⟩
  · rw [none h]
    exact Nat.zero_le _
  · rw [none (List.prefix_refl cs), opened, List.count_eq_zero.mpr noOpen]

/-- A balanced text may stand anywhere in a `Balanced` one. -/
theorem Balanced.insert {front middle back : Text} (h : Balanced (front ++ back))
    (h' : Balanced middle) : Balanced (front ++ (middle ++ back)) := by
  have even := h.2
  have even' := h'.2
  simp only [opened_append, closed_append] at even
  refine ⟨fun part inWhole => ?_, ?_⟩
  · -- A beginning of the whole ends in the first text, in the middle one, or behind it.
    rcases List.prefix_or_prefix_of_prefix inWhole (List.prefix_append front _) with inFront | all
    · exact h.1 part (inFront.trans (List.prefix_append front back))
    obtain ⟨more, rfl⟩ := all
    have inRest : more <+: middle ++ back := (List.prefix_append_right_inj front).mp inWhole
    rcases List.prefix_or_prefix_of_prefix inRest (List.prefix_append middle _) with inMiddle | all'
    · -- In the middle, what the first text leaves open only helps.
      have below := h.1 front (List.prefix_append front back)
      have below' := h'.1 more inMiddle
      simp only [opened_append, closed_append]
      omega
    · -- Behind the middle text, which closes what it opens, the count is that without it.
      obtain ⟨more, rfl⟩ := all'
      have inBack : more <+: back := (List.prefix_append_right_inj middle).mp inRest
      have below := h.1 (front ++ more) ((List.prefix_append_right_inj front).mpr inBack)
      simp only [opened_append, closed_append] at below ⊢
      omega
  · -- The whole opens as many as it closes, because both texts do.
    simp only [opened_append, closed_append]
    omega

/-! ## §2 The scan for the closing parenthesis -/

theorem untilClosed_open (depth : Nat) (cs : Text) :
    untilClosed depth (CodePoint.char '(' :: cs) =
      CodePoint.char '(' :: untilClosed (depth + 1) cs := by
  simp [untilClosed]

theorem untilClosed_close_one (cs : Text) : untilClosed 1 (CodePoint.char ')' :: cs) = [] := by
  simp [untilClosed]

theorem untilClosed_close (depth : Nat) (cs : Text) :
    untilClosed (depth + 2) (CodePoint.char ')' :: cs) =
      CodePoint.char ')' :: untilClosed (depth + 1) cs := by
  simp [untilClosed]

theorem untilClosed_other (depth : Nat) {c : CodePoint} (cs : Text)
    (notOpen : c ≠ CodePoint.char '(') (notClose : c ≠ CodePoint.char ')') :
    untilClosed depth (c :: cs) = c :: untilClosed depth cs := by
  simp [untilClosed, notOpen, notClose]

/-- With one parenthesis open and `depth` more, no beginning of what is scanned closes them all.

This is the invariant of the scan: it stops in front of the parenthesis that would close the last
one. -/
theorem closed_le_of_isPrefix_untilClosed {depth : Nat} {cs front : Text}
    (h : front <+: untilClosed (depth + 1) cs) : closed front ≤ opened front + depth := by
  induction cs generalizing depth front with
  | nil =>
    rw [untilClosed, List.prefix_nil] at h
    simp [h]
  | cons c cs ih =>
    -- A parenthesis that opens or closes moves the bound for the rest by one.
    cases front with
    | nil => simp
    | cons d front =>
      by_cases opens : c = CodePoint.char '('
      · rw [opens, untilClosed_open, List.cons_prefix_cons] at h
        obtain ⟨rfl, inner⟩ := h
        have fewer := ih inner
        rw [opened_open, closed_open]
        omega
      by_cases closes : c = CodePoint.char ')'
      · cases depth with
        | zero =>
          -- At the last parenthesis nothing is scanned, so there is no such beginning.
          rw [closes, untilClosed_close_one, List.prefix_nil] at h
          cases h
        | succ depth =>
          rw [closes, untilClosed_close, List.cons_prefix_cons] at h
          obtain ⟨rfl, inner⟩ := h
          have fewer := ih inner
          rw [opened_close, closed_close]
          omega
      · rw [untilClosed_other _ _ opens closes, List.cons_prefix_cons] at h
        obtain ⟨rfl, inner⟩ := h
        rw [opened_other _ opens, closed_other _ closes]
        exact ih inner

/-- The scan takes everything, or it stops in front of the parenthesis that closes the last open
one.

In the second case it has closed the `depth` others, which are those that it was not called for. -/
theorem untilClosed_eq_or_closes (depth : Nat) (cs : Text) :
    untilClosed (depth + 1) cs = cs ∨
      ∃ rest, cs = untilClosed (depth + 1) cs ++ CodePoint.char ')' :: rest ∧
        closed (untilClosed (depth + 1) cs) = opened (untilClosed (depth + 1) cs) + depth := by
  -- The induction is on the text, for every depth, since a parenthesis changes the depth.
  induction cs generalizing depth with
  | nil => exact .inl rfl
  | cons c cs ih =>
    by_cases opens : c = CodePoint.char '('
    · rw [opens, untilClosed_open]
      obtain all | ⟨rest, split, count⟩ := ih (depth + 1)
      · exact .inl (by rw [all])
      · refine .inr ⟨rest, by rw [List.cons_append, ← split], ?_⟩
        rw [opened_open, closed_open]
        omega
    by_cases closes : c = CodePoint.char ')'
    · cases depth with
      | zero =>
        rw [closes, untilClosed_close_one]
        exact .inr ⟨cs, rfl, rfl⟩
      | succ depth =>
        rw [closes, untilClosed_close]
        obtain all | ⟨rest, split, count⟩ := ih depth
        · exact .inl (by rw [all])
        · refine .inr ⟨rest, by rw [List.cons_append, ← split], ?_⟩
          rw [opened_close, closed_close]
          omega
    · rw [untilClosed_other _ _ opens closes]
      obtain all | ⟨rest, split, count⟩ := ih depth
      · exact .inl (by rw [all])
      · refine .inr ⟨rest, by rw [List.cons_append, ← split], ?_⟩
        rwa [opened_other _ opens, closed_other _ closes]

theorem neverOvercloses_untilClosed (cs : Text) : NeverOvercloses (untilClosed 1 cs) :=
  fun _ h => closed_le_of_isPrefix_untilClosed h

/-- What is scanned behind an opening parenthesis is all there is, or it is balanced and the
parenthesis that closes it follows.

This is `untilClosed_eq_or_closes` where nothing else is open. -/
theorem untilClosed_cases (cs : Text) :
    untilClosed 1 cs = cs ∨ Balanced (untilClosed 1 cs) ∧
      ∃ rest, cs = untilClosed 1 cs ++ CodePoint.char ')' :: rest := by
  obtain all | ⟨rest, split, count⟩ := untilClosed_eq_or_closes 0 cs
  · exact .inl all
  · exact .inr ⟨⟨neverOvercloses_untilClosed cs, count⟩, rest, split⟩

/-- The scan takes a balanced text up to the parenthesis behind it.

The parenthesis at which it stops is the same one by `eq_of_balanced`. -/
theorem untilClosed_of_balanced {args : Text} (balanced : Balanced args) (rest : Text) :
    untilClosed 1 (args ++ CodePoint.char ')' :: rest) = args := by
  have never := neverOvercloses_untilClosed (args ++ CodePoint.char ')' :: rest)
  obtain all | ⟨balanced', rest', split⟩ := untilClosed_cases (args ++ CodePoint.char ')' :: rest)
  · rw [all] at never
    exact absurd never (not_neverOvercloses_of_balanced balanced)
  · exact (eq_of_balanced balanced balanced' split).symm

end StyleCheck.Text
