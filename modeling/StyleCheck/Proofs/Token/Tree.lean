import Mathlib.Tactic.Common
import StyleCheck.Token.Walk

/-!
# Token trees

How the walk over a token forest and the move into another coordinate space go along with the way
the forest is put together.

## Main statements

- `flatten_cons`: a walk meets a token, then what hangs below it, then the rest.
- `flatten_shiftAll`: a walk over moved tokens.
- `shift_shift`, `shift_zero`: moves add up.
-/

namespace StyleCheck.Token

/-! ## §1 The walk -/

mutual

private theorem map_fst_preorderOne (d e : Nat) :
    ∀ t : Token, (preorderOne d t).map Prod.fst = (preorderOne e t).map Prod.fst
  | ⟨kind, text, start, stop, children⟩ => by
    simp only [preorderOne, List.map_cons]
    rw [map_fst_preorder (d + 1) (e + 1) children]

private theorem map_fst_preorder (d e : Nat) :
    ∀ ts : List Token, (preorder d ts).map Prod.fst = (preorder e ts).map Prod.fst
  | [] => rfl
  | t :: ts => by
    simp only [preorder, List.map_append]
    rw [map_fst_preorderOne d e t, map_fst_preorder d e ts]

end

@[simp] theorem flatten_nil : flatten [] = [] := rfl

@[simp] theorem flatten_cons (t : Token) (ts : List Token) :
    flatten (t :: ts) = t :: (flatten t.children ++ flatten ts) := by
  obtain ⟨kind, text, start, stop, children⟩ := t
  simp only [flatten, preorder, preorderOne, List.map_append, List.map_cons, List.cons_append]
  rw [map_fst_preorder (0 + 1) 0 children]

theorem flatten_append (ts us : List Token) : flatten (ts ++ us) = flatten ts ++ flatten us := by
  induction ts with
  | nil => rfl
  | cons t ts ih =>
    rw [List.cons_append, flatten_cons, ih, flatten_cons, List.cons_append, List.append_assoc]

theorem mem_flatten {t : Token} {ts : List Token} :
    t ∈ flatten ts ↔ ∃ u ∈ ts, t = u ∨ t ∈ flatten u.children := by
  induction ts with
  | nil => simp
  | cons u us ih =>
    simp only [flatten_cons, List.mem_cons, List.mem_append, ih, exists_eq_or_imp, or_assoc]

/-- Where no token has children, the walk goes along the list. -/
theorem flatten_eq_self {ts : List Token} (leaves : ∀ t ∈ ts, t.children = []) :
    flatten ts = ts := by
  induction ts with
  | nil => rfl
  | cons u us ih =>
    have rest := ih fun t h => leaves t (List.mem_cons_of_mem u h)
    rw [flatten_cons, leaves u List.mem_cons_self, rest]
    rfl

/-! ## §2 Moving -/

@[simp] theorem shiftAll_nil (d : Int) : shiftAll d [] = [] := rfl

@[simp] theorem shiftAll_cons (d : Int) (t : Token) (ts : List Token) :
    shiftAll d (t :: ts) = shift d t :: shiftAll d ts := rfl

theorem shiftAll_eq_map (d : Int) (ts : List Token) : shiftAll d ts = ts.map (shift d) := by
  induction ts with
  | nil => rfl
  | cons t ts ih => rw [shiftAll_cons, List.map_cons, ih]

section Fields

variable (d : Int) (t : Token)

@[simp] theorem shift_kind : (shift d t).kind = t.kind := by
  cases t
  rfl

@[simp] theorem shift_text : (shift d t).text = t.text := by
  cases t
  rfl

@[simp] theorem shift_start : (shift d t).start = t.start + d := by
  cases t
  rfl

@[simp] theorem shift_stop : (shift d t).stop = t.stop + d := by
  cases t
  rfl

@[simp] theorem shift_children : (shift d t).children = shiftAll d t.children := by
  cases t
  rfl

@[simp] theorem shift_name : (shift d t).name = t.name := by
  rw [name, name, shift_kind, shift_text]

end Fields

mutual

private theorem preorderOne_shift (d : Int) (depth : Nat) :
    ∀ t : Token, (preorderOne depth (shift d t)).map Prod.fst =
      ((preorderOne depth t).map Prod.fst).map (shift d)
  | ⟨kind, text, start, stop, children⟩ => by
    simp only [shift, preorderOne, List.map_cons]
    rw [preorder_shiftAll d (depth + 1) children]

private theorem preorder_shiftAll (d : Int) (depth : Nat) :
    ∀ ts : List Token, (preorder depth (shiftAll d ts)).map Prod.fst =
      ((preorder depth ts).map Prod.fst).map (shift d)
  | [] => rfl
  | t :: ts => by
    simp only [shiftAll, preorder, List.map_append]
    rw [preorderOne_shift d depth t, preorder_shiftAll d depth ts]

end

/-- A walk over moved tokens meets the same tokens, each moved by `shift`. -/
theorem flatten_shiftAll (d : Int) (ts : List Token) :
    flatten (shiftAll d ts) = (flatten ts).map (shift d) :=
  preorder_shiftAll d 0 ts

mutual

theorem shift_shift (d e : Int) : ∀ t : Token, shift d (shift e t) = shift (e + d) t
  | ⟨kind, text, start, stop, children⟩ => by
    simp only [shift, mk.injEq, true_and]
    exact ⟨by omega, by omega, shiftAll_shiftAll d e children⟩

/-- The same of a forest, which `shift_shift` needs for the children. -/
theorem shiftAll_shiftAll (d e : Int) :
    ∀ ts : List Token, shiftAll d (shiftAll e ts) = shiftAll (e + d) ts
  | [] => rfl
  | t :: ts => by
    simp only [shiftAll_cons]
    rw [shift_shift d e t, shiftAll_shiftAll d e ts]

end

mutual

theorem shift_zero : ∀ t : Token, shift 0 t = t
  | ⟨kind, text, start, stop, children⟩ => by
    simp only [shift, mk.injEq, true_and]
    exact ⟨by omega, by omega, shiftAll_zero children⟩

theorem shiftAll_zero : ∀ ts : List Token, shiftAll 0 ts = ts
  | [] => rfl
  | t :: ts => by
    rw [shiftAll_cons, shift_zero t, shiftAll_zero ts]

end

/-- Moving a forest by `d` and back again leaves it as it was. -/
theorem shiftAll_neg_shiftAll (d : Int) (ts : List Token) :
    shiftAll (-d) (shiftAll d ts) = ts := by
  rw [shiftAll_shiftAll, Int.add_right_neg, shiftAll_zero]

end StyleCheck.Token
