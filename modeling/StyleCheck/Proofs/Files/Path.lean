import Mathlib.Tactic.Common
import StyleCheck.Files.Path

/-!
# Directories above a path

The ancestors of a path go up one name at a time. Those within a given directory are the first ones,
so going up as long as they are within it meets them all.

## Main statements

- `takeWhile_isWithin`: going up through a directory meets all ancestors within it.
-/

namespace StyleCheck.Path

/-- Where an element has a property only if all before it have it, the elements that have it are
the first ones. -/
private theorem takeWhile_eq_filter {α : Type} {p : α → Bool} {l : List α}
    (first : l.Pairwise fun a b => p b = true → p a = true) : l.takeWhile p = l.filter p := by
  induction l with
  | nil => rfl
  | cons a l ih =>
    rw [List.pairwise_cons] at first
    by_cases h : p a = true
    · rw [List.takeWhile_cons_of_pos h, List.filter_cons_of_pos h, ih first.2]
    · rw [List.takeWhile_cons_of_neg h, List.filter_cons_of_neg h]
      have none : ∀ b ∈ l, ¬p b = true := fun b hb hpb => h (first.1 b hb hpb)
      exact (List.filter_eq_nil_iff.mpr none).symm

theorem isWithin_iff {p directory : Path} :
    p.isWithin directory = true ↔ p.anchor = directory.anchor ∧ directory.parts <+: p.parts := by
  rw [isWithin, Bool.and_eq_true, beq_iff_eq, List.isPrefixOf_iff_prefix]

/-- Each ancestor of a path is an ancestor of those before it, so once one is outside of a
directory, all further ones are. -/
theorem pairwise_ancestors (p : Path) :
    p.ancestors.Pairwise fun a b => b.anchor = a.anchor ∧ b.parts <+: a.parts := by
  rw [ancestors, List.pairwise_map]
  refine List.pairwise_lt_range.imp fun {i j} before => ⟨rfl, ?_⟩
  exact List.take_prefix_take_left (by omega)

theorem takeWhile_isWithin (p directory : Path) :
    p.ancestors.takeWhile (·.isWithin directory) = p.ancestors.filter (·.isWithin directory) := by
  refine takeWhile_eq_filter (p.pairwise_ancestors.imp fun {a b} above within => ?_)
  rw [isWithin_iff] at within ⊢
  exact ⟨above.1.symm.trans within.1, within.2.trans above.2⟩

end StyleCheck.Path
