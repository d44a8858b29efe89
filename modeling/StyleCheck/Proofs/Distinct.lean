import Mathlib.Data.List.Sort
import StyleCheck.Distinct

/-!
# First occurrences

Keeping the first occurrences leaves out elements of a list, so that each of them stands once in
what is left. Lists can be added up this way: what is kept of two lists is told by what is kept of
the first one, and adding a list again changes nothing.

## Main statements

- `mem_firstOccurrences`, `nodup_firstOccurrences`: what is left.
- `eq_firstOccurrences_iff`: what is left, and in which order.
- `firstOccurrences_append`: a list behind another.
- `firstOccurrences_append_left`, `firstOccurrences_append_twice`: lists added one after the other.
-/

namespace StyleCheck

variable {α : Type} [DecidableEq α]

theorem firstOccurrences_sublist (l : List α) : (firstOccurrences l).Sublist l := by
  induction l with
  | nil => exact .slnil
  | cons a l ih =>
    rw [firstOccurrences]
    exact (List.filter_sublist.trans ih).cons_cons a

theorem nodup_firstOccurrences (l : List α) : (firstOccurrences l).Nodup := by
  induction l with
  | nil => exact .nil
  | cons a l ih =>
    rw [firstOccurrences, List.nodup_cons]
    exact ⟨by simp, ih.sublist List.filter_sublist⟩

theorem mem_firstOccurrences {a : α} {l : List α} : a ∈ firstOccurrences l ↔ a ∈ l := by
  induction l with
  | nil => exact .rfl
  | cons b l ih =>
    rw [firstOccurrences, List.mem_cons, List.mem_filter, ih, List.mem_cons, decide_eq_true_eq]
    by_cases same : a = b <;> simp [same]

/-- What is left stands in the order in which it comes first in the list. The order is that of
`List.idxOf`. -/
theorem pairwise_firstOccurrences (l : List α) :
    (firstOccurrences l).Pairwise fun a b => l.idxOf a < l.idxOf b := by
  induction l with
  | nil => exact .nil
  | cons a l ih =>
    rw [firstOccurrences, List.pairwise_cons]
    have behind {b : α} (hb : b ∈ (firstOccurrences l).filter (· ≠ a)) : a ≠ b := by
      intro same
      simpa [same] using List.of_mem_filter hb
    constructor
    · intro b hb
      rw [List.idxOf_cons_self, List.idxOf_cons_ne l (behind hb)]
      exact Nat.succ_pos _
    · -- Behind the first element, every place is one further than in the rest of the list.
      refine (ih.sublist List.filter_sublist).imp_of_mem fun hb hc before => ?_
      rw [List.idxOf_cons_ne l (behind hb), List.idxOf_cons_ne l (behind hc)]
      exact Nat.succ_lt_succ before

/-- The first occurrences are told by what stands in the list and by where it comes first: each
element stands once, and those that come first earlier stand before those that come first later.

That no element stands twice is part of the order, since `l.idxOf a < l.idxOf a` holds of none. -/
theorem eq_firstOccurrences_iff {l kept : List α} : kept = firstOccurrences l ↔
    (∀ a, a ∈ kept ↔ a ∈ l) ∧ kept.Pairwise fun a b => l.idxOf a < l.idxOf b := by
  constructor
  · rintro rfl
    exact ⟨fun _ => mem_firstOccurrences, pairwise_firstOccurrences l⟩
  · rintro ⟨members, ordered⟩
    have : Std.Irrefl fun a b => l.idxOf a < l.idxOf b := ⟨fun _ => Nat.lt_irrefl _⟩
    have : Std.Antisymm fun a b => l.idxOf a < l.idxOf b :=
      ⟨fun _ _ less more => absurd more (Nat.lt_asymm less)⟩
    refine ordered.eq_of_mem_iff (pairwise_firstOccurrences l) fun a => ?_
    rw [members, mem_firstOccurrences]

/-- Of a list behind another, what does not stand in the other is kept. -/
theorem firstOccurrences_append (l l' : List α) : firstOccurrences (l ++ l') =
    firstOccurrences l ++ (firstOccurrences l').filter (· ∉ l) := by
  induction l with
  | nil =>
    have all : (firstOccurrences l').filter (· ∉ []) = firstOccurrences l' :=
      List.filter_eq_self.mpr fun _ _ => decide_eq_true List.not_mem_nil
    rw [all]
    rfl
  | cons a l ih =>
    -- An element that is neither the first one nor among the others is in neither.
    have both (b : α) : (decide (b ≠ a) && decide (b ∉ l)) = decide (b ∉ a :: l) := by
      rw [← Bool.decide_and, decide_eq_decide, List.mem_cons, not_or]
    rw [List.cons_append, firstOccurrences, ih, List.filter_append, List.filter_filter,
      firstOccurrences, List.cons_append, funext both]

theorem firstOccurrences_eq_self {l : List α} (distinct : l.Nodup) : firstOccurrences l = l := by
  induction l with
  | nil => rfl
  | cons a l ih =>
    obtain ⟨new, distinct⟩ := List.nodup_cons.mp distinct
    rw [firstOccurrences, ih distinct, List.filter_eq_self.mpr]
    intro b hb
    rw [decide_eq_true_eq]
    exact fun same => new (same ▸ hb)

/-- What has been added up already can be added up again with more behind it. -/
theorem firstOccurrences_append_left (l l' : List α) :
    firstOccurrences (firstOccurrences l ++ l') = firstOccurrences (l ++ l') := by
  rw [firstOccurrences_append, firstOccurrences_append,
    firstOccurrences_eq_self (nodup_firstOccurrences l)]
  simp only [mem_firstOccurrences]

/-- A list that has been added is not added once more. -/
theorem firstOccurrences_append_twice (l l' : List α) :
    firstOccurrences (firstOccurrences (l ++ l') ++ l') = firstOccurrences (l ++ l') := by
  have known : (firstOccurrences l').filter (· ∉ l ++ l') = [] := by
    rw [List.filter_eq_nil_iff]
    intro a ha
    rw [mem_firstOccurrences] at ha
    simp [ha]
  rw [firstOccurrences_append_left, firstOccurrences_append, known, List.append_nil]

end StyleCheck
