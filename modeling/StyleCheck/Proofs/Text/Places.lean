import Mathlib.Tactic.Common
import StyleCheck.Text.Basic

/-!
# Places in a source text

A part of a source, together with the place where it stands. A lexer that is given a part and its
place answers with offsets into the source; `StandsAt` is what ties these offsets to the part.
-/

namespace StyleCheck.Text

/-- The text stands in the source at a position. -/
def StandsAt (source : Text) (position : Nat) (text : Text) : Prop :=
  ∃ front back, source = front ++ (text ++ back) ∧ front.length = position

namespace StandsAt

variable {source text first second : Text} {position : Nat}

theorem self (text : Text) : StandsAt text 0 text := ⟨[], [], by simp, rfl⟩

/-- What lies ahead of an offset stands there. -/
theorem of_drop_eq (inside : position ≤ source.length)
    (ahead : source.drop position = text ++ second) : StandsAt source position text := by
  refine ⟨source.take position, second, ?_, List.length_take_of_le inside⟩
  rw [← ahead, List.take_append_drop]

/-- Characters that lie ahead of an offset stand there. -/
theorem of_drop_eq_cons {c : CodePoint} (ahead : source.drop position = c :: (text ++ second)) :
    StandsAt source position (c :: text) := by
  refine of_drop_eq ?_ ahead
  have some := congrArg List.length ahead
  rw [List.length_drop, List.length_cons] at some
  omega

theorem end_le (h : StandsAt source position text) : position + text.length ≤ source.length := by
  obtain ⟨front, back, rfl, rfl⟩ := h
  simp only [List.length_append]
  omega

/-- The source between the two ends of a part is that part.

So what a lexer answers about a part, by offsets into the source, can be read off the part:
`StandsAt` is all that has to be known of the source. -/
theorem slice_eq (h : StandsAt source position text) :
    slice source position (position + text.length) = text := by
  obtain ⟨front, back, rfl, rfl⟩ := h
  rw [slice, List.take_length_add_append, List.drop_left, List.take_left]

theorem left (h : StandsAt source position (first ++ second)) : StandsAt source position first := by
  obtain ⟨front, back, rfl, rfl⟩ := h
  exact ⟨front, second ++ back, by rw [List.append_assoc first], rfl⟩

theorem right (h : StandsAt source position (first ++ second)) :
    StandsAt source (position + first.length) second := by
  obtain ⟨front, back, rfl, rfl⟩ := h
  exact ⟨front ++ first, back, by simp only [List.append_assoc], List.length_append⟩

/-- A first part that has a character more than is said of it. -/
theorem leftCons {c : CodePoint} (h : StandsAt source position (c :: (first ++ second))) :
    StandsAt source position (c :: first) := by
  rw [← List.cons_append] at h
  exact h.left

end StandsAt

/-- Behind a text that lies ahead of an offset lies what follows it. -/
theorem drop_length_of_drop_eq_append {source front back : Text} {position : Nat}
    (ahead : source.drop position = front ++ back) :
    source.drop (position + front.length) = back := by
  rw [← List.drop_drop, ahead, List.drop_left]

/-- Behind the first of the characters that lie ahead of an offset lie the others. -/
theorem drop_succ_of_drop_eq_cons {source cs : Text} {position : Nat} {c : CodePoint}
    (ahead : source.drop position = c :: cs) :
    position + 1 ≤ source.length ∧ source.drop (position + 1) = cs := by
  constructor
  · have some := congrArg List.length ahead
    rw [List.length_drop, List.length_cons] at some
    omega
  · rw [← List.drop_drop, ahead, List.drop_succ_cons, List.drop_zero]

theorem getElem?_of_drop_eq_cons {source cs : Text} {position : Nat} {c : CodePoint}
    (ahead : source.drop position = c :: cs) : source[position]? = some c := by
  rw [← List.head?_drop, ahead, List.head?_cons]

/-- A part of a text is made up of its two parts, in front of an offset and behind it. The offset
`middle` has to lie between the ends. -/
theorem slice_append (source : Text) {low middle high : Nat} (front : low ≤ middle)
    (back : middle ≤ high) :
    slice source low middle ++ slice source middle high = slice source low high := by
  have long : high - low = (middle - low) + (high - middle) := by omega
  have there : low + (middle - low) = middle := by omega
  simp only [slice, List.drop_take]
  rw [long, List.take_add, List.drop_drop, there]

theorem slice_append_drop (source : Text) {low high : Nat} (ordered : low ≤ high) :
    slice source low high ++ source.drop high = source.drop low := by
  have behind : source.drop high = (source.drop low).drop (high - low) := by
    rw [List.drop_drop, Nat.add_sub_cancel' ordered]
  rw [slice, List.drop_take, behind, List.take_append_drop]

/-- What is in a part of a text stands somewhere between its ends. -/
theorem exists_getElem?_of_mem_slice {source : Text} {low high : Nat} {c : CodePoint}
    (h : c ∈ slice source low high) :
    ∃ offset, low ≤ offset ∧ offset < high ∧ source[offset]? = some c := by
  obtain ⟨i, there⟩ := List.mem_iff_getElem?.mp h
  rw [slice, List.getElem?_drop, List.getElem?_take] at there
  split at there
  · next below => exact ⟨low + i, Nat.le_add_right low i, below, there⟩
  · cases there

end StyleCheck.Text
