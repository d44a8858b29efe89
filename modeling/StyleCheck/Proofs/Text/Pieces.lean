import Mathlib.Tactic.Common
import StyleCheck.Text.Basic

/-!
# Texts in pieces

A text that is split at a separator falls into pieces without it, and pieces without it that are
joined by the separator are found again by splitting.

## Main statements

- `splitOn_join`: splitting a text that was joined.
- `notMem_of_mem_splitOn`: no piece holds the separator.
-/

namespace StyleCheck.Text

variable {separator : CodePoint}

/-- Splitting a text is `List.splitOn`, so that its lemmas can be used. -/
theorem splitOn_eq (t : Text) : Text.splitOn separator t = List.splitOn separator t := by
  induction t with
  | nil => rfl
  | cons c cs ih =>
    rw [Text.splitOn, List.splitOn_cons_eq_if_modifyHead, ih]
    split
    · rfl
    · -- There is always a first piece.
      have some := List.splitOn_ne_nil separator cs
      cases pieces : List.splitOn separator cs with
      | nil => exact absurd pieces some
      | cons piece pieces => rfl

/-- Joining pieces by one character is `List.intercalate`. -/
theorem join_eq (pieces : List Text) :
    join [separator] pieces = [separator].intercalate pieces := by
  induction pieces with
  | nil => rfl
  | cons piece pieces ih =>
    cases pieces with
    | nil => simp [join]
    | cons next pieces =>
      rw [join, ih, List.intercalate_cons_cons]
      exact List.cons_ne_nil next pieces

/-- Pieces without the `separator` are found again in the text that they make. -/
theorem splitOn_join {pieces : List Text} (some : pieces ≠ [])
    (plain : ∀ piece ∈ pieces, separator ∉ piece) :
    Text.splitOn separator (join [separator] pieces) = pieces := by
  rw [splitOn_eq, join_eq]
  exact List.splitOn_intercalate separator plain some

/-- The first piece of a text that starts with something else than a `separator` starts the same. -/
theorem splitOn_cons_of_ne {c : CodePoint} (other : c ≠ separator) (cs : Text) :
    ∃ piece pieces, Text.splitOn separator cs = piece :: pieces ∧
      Text.splitOn separator (c :: cs) = (c :: piece) :: pieces := by
  rw [splitOn_eq, splitOn_eq, List.splitOn_cons_eq_if_modifyHead, if_neg (by simpa using other)]
  cases whole : List.splitOn separator cs with
  | nil => exact absurd whole (List.splitOn_ne_nil separator cs)
  | cons piece pieces => exact ⟨piece, pieces, rfl, rfl⟩

/-- No piece holds the separator that the text was split at. -/
theorem notMem_of_mem_splitOn {t piece : Text} (h : piece ∈ Text.splitOn separator t) :
    separator ∉ piece := by
  induction t generalizing piece with
  | nil =>
    rw [Text.splitOn, List.mem_singleton] at h
    exact h ▸ List.not_mem_nil
  | cons c cs ih =>
    by_cases same : c = separator
    · rw [Text.splitOn, if_pos (by simpa using same)] at h
      -- At the separator a new piece starts, and it is empty.
      rcases List.mem_cons.mp h with rfl | later
      · exact List.not_mem_nil
      · exact ih later
    · -- The character joins the first of the later pieces, and the others are pieces already.
      obtain ⟨first, pieces, behind, splits⟩ := splitOn_cons_of_ne same cs
      rw [splits] at h
      rw [behind] at ih
      rcases List.mem_cons.mp h with rfl | later
      · rw [List.mem_cons, not_or]
        exact ⟨Ne.symm same, ih List.mem_cons_self⟩
      · exact ih (List.mem_cons_of_mem _ later)

end StyleCheck.Text
