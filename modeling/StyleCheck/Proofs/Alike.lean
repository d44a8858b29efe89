import Mathlib.Data.List.Forall2
import Mathlib.Tactic.Common

/-!
# Results that come out alike

A computation over a list that may fail stops at the first failure, so another order of the list may
fail for another cause. What stays is whether it fails at all, and what it comes to otherwise, up
to the order.

## Main definitions

- `Alike`: both fail, or both come to related values.

## Main statements

- `alike_mapM`: collecting over lists whose elements correspond.
- `alike_mapM_of_perm`: collecting over a list in another order.
- `alike_foldlM_of_perm`: folding over it, where the order of two steps does not matter.
-/

namespace StyleCheck

variable {ε α β γ : Type}

/-- Both computations fail, each for a cause of its own, or both come to values, which are
`related`.

The causes are not compared. A list in another order may come to another failure first. -/
inductive Alike (related : α → β → Prop) : Except ε α → Except ε β → Prop
  | error (e e' : ε) : Alike related (.error e) (.error e')
  | ok {a : α} {b : β} : related a b → Alike related (.ok a) (.ok b)

namespace Alike

theorem refl {related : α → α → Prop} (h : ∀ a, related a a) (x : Except ε α) :
    Alike related x x := by
  cases x with
  | error e => exact .error e e
  | ok a => exact .ok (h a)

theorem trans {related : α → α → Prop} {x y z : Except ε α} (first : Alike related x y)
    (second : Alike related y z) (h : ∀ a b c, related a b → related b c → related a c) :
    Alike related x z := by
  cases first with
  | error e e' => cases second with
    | error _ e'' => exact .error e e''
  | ok ab => cases second with
    | ok bc => exact .ok (h _ _ _ ab bc)

theorem bind {related : α → β → Prop} {γ' : Type} {related' : γ → γ' → Prop} {x : Except ε α}
    {y : Except ε β} {f : α → Except ε γ} {g : β → Except ε γ'} (first : Alike related x y)
    (next : ∀ {a b}, related a b → Alike related' (f a) (g b)) :
    Alike related' (x >>= f) (y >>= g) := by
  cases first with
  | error e e' => exact .error e e'
  | ok ab => exact next ab

theorem map {related : α → β → Prop} {γ' : Type} {related' : γ → γ' → Prop} {x : Except ε α}
    {y : Except ε β} {f : α → γ} {g : β → γ'} (first : Alike related x y)
    (next : ∀ {a b}, x = .ok a → related a b → related' (f a) (g b)) :
    Alike related' (x.map f) (y.map g) := by
  cases first with
  | error e e' => exact .error e e'
  | ok ab => exact .ok (next rfl ab)

theorem imp {related related' : α → β → Prop} {x : Except ε α} {y : Except ε β}
    (h : Alike related x y)
    (weaker : ∀ {a b}, x = .ok a → y = .ok b → related a b → related' a b) :
    Alike related' x y := by
  cases h with
  | error e e' => exact .error e e'
  | ok ab => exact .ok (weaker rfl rfl ab)

theorem and {related related' : α → β → Prop} {x : Except ε α} {y : Except ε β}
    (first : Alike related x y) (second : Alike related' x y) :
    Alike (fun a b => related a b ∧ related' a b) x y := by
  cases first with
  | error e e' => exact .error e e'
  | ok ab => cases second with
    | ok ab' => exact .ok ⟨ab, ab'⟩

/-- What holds of the values only in some case is said for that case, if they come out alike
anyway. -/
theorem given {related related' : α → β → Prop} {x : Except ε α} {y : Except ε β} {case : Prop}
    (anyway : Alike related' x y) (inCase : case → Alike related x y) :
    Alike (fun a b => case → related a b) x y := by
  cases anyway with
  | error e e' => exact .error e e'
  | ok _ =>
    refine .ok fun holds => ?_
    cases inCase holds with
    | ok ab => exact ab

end Alike

theorem alike_mapM {δ : Type} {related : β → δ → Prop} {f : α → Except ε β} {g : γ → Except ε δ}
    {l : List α} {l' : List γ}
    (each : List.Forall₂ (fun a a' => Alike related (f a) (g a')) l l') :
    Alike (List.Forall₂ related) (l.mapM f) (l'.mapM g) := by
  induction each with
  | nil => exact .ok .nil
  | cons first _ ih =>
    rw [List.mapM_cons, List.mapM_cons]
    exact first.bind fun here => ih.bind fun behind => .ok (.cons here behind)

/-- Collecting over a list in another order comes to the same values in another order.

The induction is on how the order is changed, and `swap` is the step that matters. -/
theorem alike_mapM_of_perm {f : α → Except ε β} {l l' : List α} (same : l.Perm l') :
    Alike List.Perm (l.mapM f) (l'.mapM f) := by
  induction same with
  | nil => exact .ok .nil
  | cons a _ ih =>
    rw [List.mapM_cons, List.mapM_cons]
    refine (Alike.refl Eq.refl (f a)).bind ?_
    rintro b _ rfl
    exact ih.bind fun bs => .ok (bs.cons b)
  | swap a b l =>
    -- If one of the two fails, both orders fail, perhaps for the cause of the other one.
    simp only [List.mapM_cons]
    cases f a with
    | error e => cases f b <;> exact .error _ _
    | ok a' => cases f b with
      | error e => exact .error _ _
      | ok b' => cases l.mapM f with
        | error e => exact .error _ _
        | ok l' => exact .ok (.swap a' b' l')
  | trans _ _ ih ih' => exact ih.trans ih' fun _ _ _ => List.Perm.trans

section FoldlM

variable {related : β → β → Prop} {step : β → α → Except ε β}

theorem alike_foldlM (steps : ∀ {b b'} a, related b b' → Alike related (step b a) (step b' a))
    (l : List α) {b b' : β} (start : related b b') :
    Alike related (l.foldlM step b) (l.foldlM step b') := by
  induction l generalizing b b' with
  | nil => exact .ok start
  | cons a l ih =>
    rw [List.foldlM_cons, List.foldlM_cons]
    exact (steps a start).bind ih

/-- Folding over a list in another order comes to a related state, where the order of two steps does
not matter.

That is `swaps`; it may leave related states instead of one, and `steps` carries the relation
through the rest of the list. -/
theorem alike_foldlM_of_perm (refl : ∀ b, related b b)
    (trans : ∀ a b c, related a b → related b c → related a c)
    (steps : ∀ {b b'} a, related b b' → Alike related (step b a) (step b' a))
    (swaps : ∀ b a a', Alike related (step b a >>= (step · a')) (step b a' >>= (step · a)))
    {l l' : List α} (same : l.Perm l') (b : β) :
    Alike related (l.foldlM step b) (l'.foldlM step b) := by
  induction same generalizing b with
  | nil => exact .ok (refl b)
  | cons a _ ih =>
    rw [List.foldlM_cons, List.foldlM_cons]
    refine (Alike.refl Eq.refl (step b a)).bind ?_
    rintro b' _ rfl
    exact ih b'
  | swap a a' l =>
    -- The states behind the two steps are related, and the rest goes on from there.
    simp only [List.foldlM_cons, ← bind_assoc]
    exact (swaps b a' a).bind fun start => alike_foldlM steps l start
  | trans _ _ ih ih' => exact (ih b).trans (ih' b) trans

end FoldlM

end StyleCheck
