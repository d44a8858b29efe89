import Mathlib.Order.Bounds.Basic
import Mathlib.Tactic.Common
import StyleCheck.EditDistance

/-!
# What the edit distance measures

The distance of two texts is filled in row by row, along the shorter one. What it counts is the
edits of a single character that it takes to turn the one text into the other: no script of edits
that does so is shorter, wherever in the text its edits are made and in whatever order.

Between the rows and the scripts stands a recursion on both texts. It looks at their first
characters, the rows at their last ones, and it comes to the same from either end.

## Main definitions

- `Edit`, `Edit.run`: edits of a single character at a place of a text, and scripts of them.
- `EditableIn`: a script of a given length turns one text into another.
- `recursiveDistance`: the distance by recursion on both texts.

## Main statements

- `editableIn_recursiveDistance`, `recursiveDistance_le`: the recursion counts a shortest script.
- `recursiveDistance_concat`: the recursion from the other end.
- `editRow_eq`: the rows hold the distances to the prefixes of a text.
- `editDistance_isLeast`: the distance is the least length of a script.
-/

namespace StyleCheck

/-! ## §1 Scripts -/

/-- A change at the front of a text. -/
inductive Edit.Change
  | insert (c : CodePoint)
  | delete
  | replace (c : CodePoint)
deriving DecidableEq, Repr

/-- A change of a single character at a place of a text, which is counted in the text as it is when
the edit is made. -/
structure Edit where
  place : Nat
  change : Edit.Change
deriving DecidableEq, Repr

namespace Edit

/-- The text after a change at its front. In an empty one there is nothing to delete or replace. -/
def Change.apply : Change → Text → Option Text
  | insert c, cs => some (c :: cs)
  | delete, _ :: cs => some cs
  | replace c, _ :: cs => some (c :: cs)
  | _, [] => none

/-- The text after an edit, if the text has such a place. -/
def apply (e : Edit) (text : Text) : Option Text :=
  if e.place ≤ text.length then
    (e.change.apply (text.drop e.place)).map (text.take e.place ++ ·)
  else none

/-- The text after a script of edits, which are made one after the other. -/
def run (script : List Edit) (text : Text) : Option Text :=
  script.foldlM (fun current e => e.apply current) text

/-- The edit one place further back. -/
def later (e : Edit) : Edit := { e with place := e.place + 1 }

theorem apply_later (e : Edit) (c : CodePoint) (text : Text) :
    e.later.apply (c :: text) = (e.apply text).map (c :: ·) := by
  simp only [apply, later, List.length_cons, Nat.add_le_add_iff_right, List.drop_succ_cons,
    List.take_succ_cons]
  split
  · rw [Option.map_map]
    rfl
  · rfl

/-- What stands in front of all edits of a script stays. -/
theorem run_later (script : List Edit) (c : CodePoint) (text : Text) :
    run (script.map later) (c :: text) = (run script text).map (c :: ·) := by
  induction script generalizing text with
  | nil => rfl
  | cons e script ih =>
    show (e.later.apply (c :: text)).bind (run (script.map later)) =
      ((e.apply text).bind (run script)).map (c :: ·)
    rw [apply_later]
    cases e.apply text with
    | none => rfl
    | some next => exact ih next

end Edit

/-- Some script of a given length turns the one text into the other. Nothing is asked of the order
or of the places of its edits. -/
def EditableIn (n : Nat) (a b : Text) : Prop :=
  ∃ script : List Edit, Edit.run script a = some b ∧ script.length = n

namespace EditableIn

variable {n : Nat} {a b : Text}

/-- A character that both texts start with costs nothing. -/
theorem keep (c : CodePoint) (h : EditableIn n a b) : EditableIn n (c :: a) (c :: b) := by
  obtain ⟨script, turns, long⟩ := h
  refine ⟨script.map Edit.later, ?_, ?_⟩
  · rw [Edit.run_later, turns]
    rfl
  · rw [List.length_map, long]

/-- One more edit, at the front of the text and before all others. -/
theorem change {a' : Text} (change : Edit.Change) (first : change.apply a = some a')
    (h : EditableIn n a' b) : EditableIn (n + 1) a b := by
  obtain ⟨script, turns, long⟩ := h
  refine ⟨⟨0, change⟩ :: script, ?_, ?_⟩
  · have here : Edit.apply ⟨0, change⟩ a = some a' := by
      simp [Edit.apply, first]
    show (Edit.apply ⟨0, change⟩ a).bind (Edit.run script) = some b
    rw [here]
    exact turns
  · rw [List.length_cons, long]

end EditableIn

/-! ## §2 The recursion on both texts -/

/-- The distance of two texts by their first characters: the one is deleted, or the other is
inserted, or the one is replaced by the other, at no cost if they are the same. -/
def recursiveDistance : Text → Text → Nat
  | [], b => b.length
  | a, [] => a.length
  | c :: a, d :: b =>
    min (min (recursiveDistance a (d :: b) + 1) (recursiveDistance (c :: a) b + 1))
      (recursiveDistance a b + if c == d then 0 else 1)
termination_by a b => a.length + b.length

@[simp] theorem recursiveDistance_nil (b : Text) : recursiveDistance [] b = b.length := by
  rw [recursiveDistance]

@[simp] theorem recursiveDistance_nil_right (a : Text) : recursiveDistance a [] = a.length := by
  cases a with
  | nil => rw [recursiveDistance]
  | cons c a => rw [recursiveDistance]; exact List.cons_ne_nil c a

theorem recursiveDistance_cons (c d : CodePoint) (a b : Text) :
    recursiveDistance (c :: a) (d :: b) =
      min (min (recursiveDistance a (d :: b) + 1) (recursiveDistance (c :: a) b + 1))
        (recursiveDistance a b + if c == d then 0 else 1) := by
  rw [recursiveDistance]

/-- Deleting and inserting are each other's opposite, and replacing is its own. -/
theorem recursiveDistance_comm (a b : Text) : recursiveDistance a b = recursiveDistance b a := by
  fun_induction recursiveDistance a b with
  | case1 b => rw [recursiveDistance_nil_right]
  | case2 a some => rw [recursiveDistance_nil]
  | case3 c a d b delete insert replace =>
    have cost : (d == c) = (c == d) := Bool.beq_comm
    rw [recursiveDistance_cons d c b a, cost, delete, insert, replace,
      Nat.min_comm (recursiveDistance b (c :: a) + 1)]

/-! ## §3 The recursion counts a shortest script -/

/-- A script as short as the recursion says: it is made along with the recursion, one edit for each
step that costs something.

Together with `recursiveDistance_le` this makes the recursion the least length of a script. -/
theorem editableIn_recursiveDistance (a b : Text) : EditableIn (recursiveDistance a b) a b := by
  fun_induction recursiveDistance a b with
  | case1 b =>
    -- All of the text is inserted, its first character first.
    induction b with
    | nil => exact ⟨[], rfl, rfl⟩
    | cons d b ih => exact (ih.keep d).change (.insert d) rfl
  | case2 a some =>
    clear some
    induction a with
    | nil => exact ⟨[], rfl, rfl⟩
    | cons c a ih => exact ih.change .delete rfl
  | case3 c a d b delete insert replace =>
    -- The least of the three is attained by one of them.
    generalize recursiveDistance a (d :: b) = n at delete
    generalize recursiveDistance (c :: a) b = m at insert
    generalize recursiveDistance a b = k at replace
    have least : min (min (n + 1) (m + 1)) (k + if c == d then 0 else 1) = n + 1 ∨
        min (min (n + 1) (m + 1)) (k + if c == d then 0 else 1) = m + 1 ∨
        min (min (n + 1) (m + 1)) (k + if c == d then 0 else 1) =
          k + if c == d then 0 else 1 := by
      omega
    obtain least | least | least := least
    · rw [least]
      exact delete.change .delete rfl
    · rw [least]
      exact (insert.keep d).change (.insert d) rfl
    · rw [least]
      split
      · next same =>
        rw [beq_iff_eq.mp same]
        exact replace.keep d
      · exact (replace.keep d).change (.replace d) rfl

/-- One more character costs at most one more edit. -/
theorem recursiveDistance_le_cons_right (a b : Text) (d : CodePoint) :
    recursiveDistance a (d :: b) ≤ recursiveDistance a b + 1 := by
  cases a with
  | nil => rw [recursiveDistance_nil, recursiveDistance_nil, List.length_cons]
  | cons c a =>
    rw [recursiveDistance_cons]
    omega

theorem recursiveDistance_cons_le (a b : Text) (c : CodePoint) :
    recursiveDistance (c :: a) b ≤ recursiveDistance a b + 1 := by
  rw [recursiveDistance_comm, recursiveDistance_comm a]
  exact recursiveDistance_le_cons_right b a c

/-- A character less costs at most one more edit. -/
theorem recursiveDistance_le_cons (a b : Text) (c : CodePoint) :
    recursiveDistance a b ≤ recursiveDistance (c :: a) b + 1 := by
  induction b with
  | nil =>
    simp only [recursiveDistance_nil_right, List.length_cons]
    omega
  | cons d b ih =>
    -- Where the longer text keeps its first character for that of the other one, the shorter text
    -- gets that one back by an insertion.
    have shorter := recursiveDistance_le_cons_right a b d
    rw [recursiveDistance_cons]
    omega

/-- A text that is no further from any other than one edit more than a second text is. It is the
invariant of a single edit, at whatever place it is made. -/
def WithinOne (a a' : Text) : Prop :=
  ∀ b, recursiveDistance a b ≤ recursiveDistance a' b + 1

/-- A character in front of both texts keeps them within one. -/
theorem WithinOne.cons {a a' : Text} (h : WithinOne a a') (c : CodePoint) :
    WithinOne (c :: a) (c :: a') := by
  intro b
  induction b with
  | nil =>
    have short := h []
    simp only [recursiveDistance_nil_right, List.length_cons] at short ⊢
    omega
  | cons d b ih =>
    have delete := h (d :: b)
    have replace := h b
    rw [recursiveDistance_cons, recursiveDistance_cons]
    omega

theorem WithinOne.append {a a' : Text} (h : WithinOne a a') (front : Text) :
    WithinOne (front ++ a) (front ++ a') := by
  induction front with
  | nil => exact h
  | cons c front ih => exact ih.cons c

/-- Replacing a first character changes no distance by more than one. -/
theorem withinOne_replace (c d : CodePoint) (a : Text) : WithinOne (c :: a) (d :: a) := by
  intro b
  induction b with
  | nil => simp only [recursiveDistance_nil_right, List.length_cons]; omega
  | cons e b ih =>
    -- Whatever is done with the one first character can be done with the other, and only where the
    -- one is kept and the other is not does it cost more.
    have delete := recursiveDistance_cons_le a (e :: b) c
    have shorter := recursiveDistance_le_cons_right a b e
    have replace := recursiveDistance_cons c e a b
    rw [recursiveDistance_cons d]
    split at replace <;> omega

/-- A change at the front changes no distance by more than one. -/
theorem withinOne_of_change {change : Edit.Change} {a a' : Text}
    (changed : change.apply a = some a') : WithinOne a a' := by
  intro b
  cases change with
  | insert c =>
    cases changed
    exact recursiveDistance_le_cons a b c
  | delete =>
    -- There has to be a character to delete or to replace.
    cases a with
    | nil => cases changed
    | cons c a =>
      cases changed
      exact recursiveDistance_cons_le _ b c
  | replace d =>
    cases a with
    | nil => cases changed
    | cons c a =>
      cases changed
      exact withinOne_replace c d a b

/-- An edit at any place changes no distance by more than one: `WithinOne.append` puts back what
stands in front of the place. -/
theorem withinOne_of_edit {e : Edit} {a a' : Text} (edited : e.apply a = some a') :
    WithinOne a a' := by
  unfold Edit.apply at edited
  split at edited
  · -- The edit is a change at the front of what lies behind its place.
    obtain ⟨rest, changed, rfl⟩ := Option.map_eq_some_iff.mp edited
    have within := (withinOne_of_change changed).append (a.take e.place)
    rwa [List.take_append_drop] at within
  · cases edited

theorem recursiveDistance_self (a : Text) : recursiveDistance a a = 0 := by
  induction a with
  | nil => rw [recursiveDistance_nil, List.length_nil]
  | cons c a ih =>
    rw [recursiveDistance_cons, ih, beq_self_eq_true, if_pos rfl]
    omega

/-- No script is shorter than the recursion says. -/
theorem recursiveDistance_le {n : Nat} {a b : Text} (h : EditableIn n a b) :
    recursiveDistance a b ≤ n := by
  obtain ⟨script, turns, rfl⟩ := h
  -- The induction is on the script, for all texts that it may start from.
  induction script generalizing a with
  | nil =>
    cases turns
    rw [recursiveDistance_self, List.length_nil]
  | cons e script ih =>
    -- The first edit brings the text one step closer at most.
    obtain ⟨next, edited, rest⟩ := Option.bind_eq_some_iff.mp turns
    have behind := ih rest
    have step := withinOne_of_edit edited b
    rw [List.length_cons]
    omega

/-! ## §4 The rows -/

/-- The least of nine numbers in three rows is that of the same numbers in three columns. -/
private theorem min_of_rows_eq (p q r s t u v w z k l : Nat) :
    min (min (min (min (p + 1) (q + 1)) (r + k) + 1) (min (min (s + 1) (t + 1)) (u + k) + 1))
        (min (min (v + 1) (w + 1)) (z + k) + l) =
      min (min (min (min (p + 1) (s + 1)) (v + l) + 1) (min (min (q + 1) (t + 1)) (w + l) + 1))
        (min (min (r + 1) (u + 1)) (z + l) + k) := by
  simp only [← Nat.add_min_add_right]
  ac_rfl

/-- The recursion can as well deal with the last characters.

The rows grow at their ends while the recursion eats away the fronts, and this is what lets one be
compared with the other. -/
theorem recursiveDistance_concat (a b : Text) (x y : CodePoint) :
    recursiveDistance (a ++ [x]) (b ++ [y]) =
      min (min (recursiveDistance a (b ++ [y]) + 1) (recursiveDistance (a ++ [x]) b + 1))
        (recursiveDistance a b + if x == y then 0 else 1) := by
  -- A text of one character against a longer one, where both ends meet.
  have one (x y : CodePoint) (b : Text) : recursiveDistance [x] (b ++ [y]) =
      min (min (b.length + 2) (recursiveDistance [x] b + 1))
        (b.length + if x == y then 0 else 1) := by
    induction b with
    | nil =>
      rw [List.nil_append, recursiveDistance_cons]
      simp
    | cons d b ih =>
      rw [List.cons_append, recursiveDistance_cons, recursiveDistance_cons, ih]
      simp only [recursiveDistance_nil, List.length_cons, List.length_append, List.length_nil]
      omega
  fun_induction recursiveDistance a b with
  | case1 b =>
    rw [List.nil_append, one]
    simp only [recursiveDistance_nil, List.length_append, List.length_singleton]
  | case2 a some =>
    have cost : (x == y) = (y == x) := Bool.beq_comm
    rw [List.nil_append, recursiveDistance_comm, one, recursiveDistance_comm a, cost]
    simp only [recursiveDistance_nil_right, List.length_append, List.length_singleton,
      recursiveDistance_comm [y]]
    omega
  | case3 c a d b delete insert replace =>
    -- From either end, one step on the first characters and one on the last are taken.
    simp only [List.cons_append] at delete insert ⊢
    rw [recursiveDistance_cons c d (a ++ [x]), delete, insert, replace,
      recursiveDistance_cons c d a (b ++ [y]), recursiveDistance_cons c d (a ++ [x]) b]
    exact min_of_rows_eq ..

/-- What a row holds behind the entry for a prefix of the target: the distances of a text to the
longer prefixes. -/
def rowBehind (source : Text) : Text → Text → List Nat
  | _, [] => []
  | front, d :: rest =>
    recursiveDistance source (front ++ [d]) :: rowBehind source (front ++ [d]) rest

/-- A row is made of the row above it, entry by entry. The entry to the left and the two above are
the three distances of `recursiveDistance_concat`. -/
theorem editRowTail_eq (source : Text) (c : CodePoint) (front rest : Text) :
    editRowTail c (recursiveDistance (source ++ [c]) front) (recursiveDistance source front) rest
      (rowBehind source front rest) = rowBehind (source ++ [c]) front rest := by
  induction rest generalizing front with
  | nil => rfl
  | cons d rest ih =>
    -- The entry is made of the three beside it just as the recursion says.
    rw [rowBehind, rowBehind, editRowTail, ← recursiveDistance_concat, ih]

/-- The row of a text: its distances to all prefixes of the target. -/
def distanceRow (source target : Text) : List Nat :=
  recursiveDistance source [] :: rowBehind source [] target

theorem nextEditRow_eq (source target : Text) (c : CodePoint) :
    nextEditRow target (distanceRow source target) c = distanceRow (source ++ [c]) target := by
  have first : recursiveDistance (source ++ [c]) [] = recursiveDistance source [] + 1 := by simp
  rw [distanceRow, nextEditRow, ← first, editRowTail_eq, distanceRow]

theorem rowBehind_nil (front rest : Text) :
    rowBehind [] front rest = List.range' (front.length + 1) rest.length := by
  induction rest generalizing front with
  | nil => rfl
  | cons d rest ih =>
    rw [rowBehind, ih, recursiveDistance_nil, List.length_append, List.length_singleton,
      List.length_cons, List.range'_succ]

/-- Row by row, the loop comes to the row of the whole text. -/
theorem editRow_eq (source target : Text) : editRow source target = distanceRow source target := by
  have start : List.range (target.length + 1) = distanceRow [] target := by
    rw [distanceRow, rowBehind_nil, recursiveDistance_nil, List.range_eq_range', List.range'_succ]
    rfl
  -- After each of its rounds, the loop has come to the row of what it has read.
  have rounds (done rest : Text) : rest.foldl (nextEditRow target) (distanceRow done target) =
      distanceRow (done ++ rest) target := by
    induction rest generalizing done with
    | nil => rw [List.foldl_nil, List.append_nil]
    | cons c rest ih =>
      rw [List.foldl_cons, nextEditRow_eq, ih, List.append_assoc, List.singleton_append]
  rw [editRow, start, rounds, List.nil_append]

theorem getLastD_rowBehind (source front rest : Text) :
    (rowBehind source front rest).getLastD (recursiveDistance source front) =
      recursiveDistance source (front ++ rest) := by
  induction rest generalizing front with
  | nil => rw [rowBehind, List.getLastD_nil, List.append_nil]
  | cons d rest ih =>
    rw [rowBehind, List.getLastD_cons, ih, List.append_assoc, List.singleton_append]

theorem getLastD_editRow (source target : Text) :
    (editRow source target).getLastD 0 = recursiveDistance source target := by
  rw [editRow_eq, distanceRow, List.getLastD_cons, getLastD_rowBehind, List.nil_append]

/-- The rows come to the distance by recursion, whichever of the texts they run along. That the
program runs them along the shorter one makes no difference, by `recursiveDistance_comm`. -/
theorem editDistance_eq (a b : Text) : editDistance a b = recursiveDistance a b := by
  unfold editDistance
  split
  · rw [getLastD_editRow, recursiveDistance_comm]
  · rw [getLastD_editRow]

/-- The edit distance of two texts is the least number of insertions, deletions and replacements of
single characters that turn the one into the other, over all scripts of such edits; and it is what
the recursion on both texts comes to.

That no script is shorter is `recursiveDistance_le`, and `editRow_eq` relates the recursion to the
rows. -/
theorem editDistance_isLeast (a b : Text) :
    IsLeast {n | EditableIn n a b} (editDistance a b) ∧
      editDistance a b = recursiveDistance a b := by
  rw [editDistance_eq]
  refine ⟨⟨editableIn_recursiveDistance a b, ?_⟩, rfl⟩
  intro n turns
  exact recursiveDistance_le turns

end StyleCheck
