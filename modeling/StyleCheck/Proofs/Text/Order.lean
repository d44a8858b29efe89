import Mathlib.Logic.Function.Basic
import StyleCheck.Text.Basic

/-!
# Sorting by a comparison

Where a comparison tells the elements of a list apart, sorting forgets the order in which they came.
Texts are compared like the lists of the numbers of their code points, so no two texts are equal in
their order.

## Main statements

- `mergeSort_eq_of_perm`: the same elements in another order are sorted alike.
- `Text.sort_eq_of_perm`: the case of texts.
-/

namespace StyleCheck

/-! ## §1 Sorted lists -/

section Sorting

variable {α : Type} {cmp : α → α → Ordering} [Std.TransCmp cmp]

theorem pairwise_mergeSort_isLE (l : List α) :
    (l.mergeSort fun a b => (cmp a b).isLE).Pairwise fun a b => (cmp a b).isLE = true := by
  apply List.pairwise_mergeSort
  · intro a b c
    exact Std.TransCmp.isLE_trans
  · intro a b
    have swapped : cmp b a = (cmp a b).swap := Std.OrientedCmp.eq_swap
    rw [swapped]
    cases cmp a b <;> rfl

/-- Lists of the same elements are sorted alike, if the comparison tells these elements apart.

Both results are in order, by `pairwise_mergeSort_isLE`, and in an order without ties there is only
one way to list some elements. -/
theorem mergeSort_eq_of_perm {l l' : List α} (same : l.Perm l')
    (apart : ∀ a ∈ l, ∀ b ∈ l, cmp a b = .eq → a = b) :
    (l.mergeSort fun a b => (cmp a b).isLE) = l'.mergeSort fun a b => (cmp a b).isLE := by
  have sorts (l : List α) : (l.mergeSort fun a b => (cmp a b).isLE).Perm l :=
    List.mergeSort_perm l _
  apply List.Perm.eq_of_pairwise ?_ (pairwise_mergeSort_isLE l) (pairwise_mergeSort_isLE l')
  · exact (sorts l).trans (same.trans (sorts l').symm)
  · intro a b ha hb ab ba
    rw [(sorts l).mem_iff] at ha
    rw [(sorts l').mem_iff, ← same.mem_iff] at hb
    exact apart a ha b hb (Std.OrientedCmp.isLE_antisymm ab ba)

end Sorting

/-! ## §2 Texts -/

namespace Text

/-- Comparing texts is comparing lists of code points by their numbers. -/
theorem compare_eq_compareLex :
    Text.compare = List.compareLex fun c d : CodePoint => Ord.compare c.toNat d.toNat := by
  funext a b
  induction a generalizing b with
  | nil => cases b <;> rfl
  | cons c a ih =>
    cases b with
    | nil => rfl
    | cons d b =>
      rw [Text.compare, List.compareLex_cons_cons, Nat.compare_eq_ite_lt, ih b]
      split
      · rfl
      · -- The first characters are equal or one comes first; the recursion is only used in one
        -- case.
        split <;> rfl

instance : Std.LawfulEqCmp fun c d : CodePoint => Ord.compare c.toNat d.toNat where
  compare_self := Std.ReflCmp.compare_self
  eq_of_compare same := CodePoint.toNat_injective (Std.LawfulEqCmp.eq_of_compare same)

instance : Std.TransCmp fun c d : CodePoint => Ord.compare c.toNat d.toNat :=
  inferInstanceAs (Std.TransCmp (compareOn CodePoint.toNat))

instance : Std.TransCmp Text.compare := by
  rw [compare_eq_compareLex]
  infer_instance

instance : Std.LawfulEqCmp Text.compare := by
  rw [compare_eq_compareLex]
  infer_instance

theorem sort_eq_of_perm {texts texts' : List Text} (same : texts.Perm texts') :
    Text.sort texts = Text.sort texts' :=
  mergeSort_eq_of_perm same fun _ _ _ _ => Std.LawfulEqCmp.eq_of_compare

end Text

end StyleCheck
