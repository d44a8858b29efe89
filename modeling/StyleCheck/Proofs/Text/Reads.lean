import Mathlib.Tactic.Common
import StyleCheck.Text.Scan

/-!
# Reading off the front of a text

Every scanner and every lexeme takes some characters off the front of a text. What the lexers rely
on is said once here: the characters that are taken are the first ones of the text, and cutting the
text off anywhere behind them changes nothing about what is read. A reader with both properties may
look at what follows its own characters, but it cannot tell a text that ends there from one that
goes on.

## Main definitions

- `Reads`: a reader with both properties.
- `Reads.andThen`, `Reads.ite`, `Reads.onHead`: readers made of readers.

The scanners of `StyleCheck.Text.Scan` follow, one `reads_` lemma each.
-/

namespace StyleCheck.Text

/-! ## §1 Readers -/

/-- The answer of `read` takes the characters `taken` off the front of a text, and depends on
nothing that a cut behind these characters removes. -/
structure Reads {α : Type} (taken : α → Text) (read : Text → α) : Prop where
  isPrefix : ∀ cs, taken (read cs) <+: cs
  stable : ∀ cs n, (taken (read cs)).length ≤ n → read (cs.take n) = read cs

namespace Reads

variable {α β γ : Type} {taken : α → Text} {read : Text → α}

/-- What is taken and what is left of a text, by `List.drop`, make up the text. -/
theorem append_drop (h : Reads taken read) (cs : Text) :
    taken (read cs) ++ cs.drop (taken (read cs)).length = cs :=
  List.prefix_iff_eq_append.mp (h.isPrefix cs)

theorem length_le (h : Reads taken read) (cs : Text) : (taken (read cs)).length ≤ cs.length :=
  (h.isPrefix cs).length_le

/-- The front of a text is read as all of it is, if nothing that is read lies behind.

This is `Reads.stable` for a cut between two texts. -/
theorem read_front (h : Reads taken read) {front back : Text}
    (enough : (taken (read (front ++ back))).length ≤ front.length) :
    read front = read (front ++ back) := by
  have cut := h.stable (front ++ back) front.length enough
  rwa [List.take_left] at cut

/-! ## §2 Readers made of readers -/

/-- A reader that takes nothing and does not look at the text. Its answer is always `a`. -/
theorem const {a : α} (nothing : taken a = []) : Reads taken fun _ => a where
  isPrefix cs := by simp [nothing]
  stable _ _ _ := rfl

/-- Another answer from the same characters: `f` may change all but what is `taken`. -/
theorem map {taken' : β → Text} (h : Reads taken read) (f : α → β)
    (same : ∀ a, taken' (f a) = taken a) : Reads taken' fun cs => f (read cs) where
  isPrefix cs := by
    rw [same]
    exact h.isPrefix cs
  stable cs n enough := by
    rw [same] at enough
    rw [h.stable cs n enough]

/-- A reader behind a character that is taken already. -/
theorem cons {scan : Text → Text} (c : CodePoint) (h : Reads id scan) :
    Reads List.tail fun cs => c :: scan cs :=
  h.map (c :: ·) fun _ => rfl

/-- One reader, then another on what the first one leaves.

Which reader comes second may depend on what the first one answers. The answer of the two is joined
by `join`, which takes what the one and the other take, as `both` says. -/
theorem andThen {taken₂ : β → Text} {taken₃ : γ → Text} {next : α → Text → β}
    (first : Reads taken read) (second : ∀ a, Reads taken₂ (next a)) (join : α → β → γ)
    (both : ∀ a b, taken₃ (join a b) = taken a ++ taken₂ b) :
    Reads taken₃ fun cs =>
      join (read cs) (next (read cs) (cs.drop (taken (read cs)).length)) where
  isPrefix cs := by
    have inner : taken₂ (next (read cs) (cs.drop (taken (read cs)).length)) <+:
        cs.drop (taken (read cs)).length := (second _).isPrefix _
    have outer := (List.prefix_append_right_inj (taken (read cs))).mpr inner
    rwa [first.append_drop cs, ← both] at outer
  stable cs n enough := by
    rw [both, List.length_append] at enough
    -- The first reader reads the same, so the cut falls on what the second one is given.
    have same : read (cs.take n) = read cs := first.stable cs n (by omega)
    rw [same, List.drop_take, (second _).stable _ _ (by omega)]

/-- One of two readers, by a `condition` that a cut behind what is taken leaves alone. -/
theorem ite {left right : Text → α} {condition : Text → Bool}
    (hleft : Reads taken left) (hright : Reads taken right)
    (kept : ∀ cs n, (taken (if condition cs then left cs else right cs)).length ≤ n →
      condition (cs.take n) = condition cs) :
    Reads taken fun cs => if condition cs then left cs else right cs where
  isPrefix cs := by
    split
    · exact hleft.isPrefix cs
    · exact hright.isPrefix cs
  stable cs n enough := by
    rw [kept cs n enough]
    split at enough
    · next yes => rw [if_pos yes, if_pos yes, hleft.stable cs n enough]
    · next no => rw [if_neg no, if_neg no, hright.stable cs n enough]

/-- One of two readers, by a `condition` that is not about the text. -/
theorem iteConst {left right : Text → α} (condition : Bool)
    (hleft : Reads taken left) (hright : Reads taken right) :
    Reads taken fun cs => if condition then left cs else right cs :=
  ite hleft hright fun _ _ _ => rfl

/-- A reader that goes one way behind a given first character, which it takes, and another way where
the text starts differently or is empty.

The two ways are `behind` and `other`. The first one is judged by what it takes after the first
character, since the character itself is taken in any case. -/
theorem onHead {behind other : Text → α} (head : CodePoint)
    (starts : ∀ rest, read (head :: rest) = behind rest)
    (differs : ∀ cs, cs.head? ≠ some head → read cs = other cs)
    (takes : ∀ rest, (taken (behind rest)).head? = some head)
    (hbehind : Reads (fun a => (taken a).tail) behind) (hother : Reads taken other) :
    Reads taken read where
  isPrefix cs := by
    by_cases h : cs.head? = some head
    · -- The first character is part of what is taken, so it comes off on both sides.
      obtain ⟨rest, rfl⟩ := List.head?_eq_some_iff.mp h
      obtain ⟨front, htaken⟩ := List.head?_eq_some_iff.mp (takes rest)
      have inner : (taken (behind rest)).tail <+: rest := hbehind.isPrefix rest
      rw [starts, htaken]
      rw [htaken, List.tail_cons] at inner
      exact (List.prefix_cons_inj head).mpr inner
    · rw [differs cs h]
      exact hother.isPrefix cs
  stable cs n enough := by
    by_cases h : cs.head? = some head
    · obtain ⟨rest, rfl⟩ := List.head?_eq_some_iff.mp h
      obtain ⟨front, htaken⟩ := List.head?_eq_some_iff.mp (takes rest)
      rw [starts, htaken, List.length_cons] at enough
      -- The head is taken, so it stands in front of the cut.
      obtain ⟨m, rfl⟩ : ∃ m, n = m + 1 := ⟨n - 1, by omega⟩
      rw [List.take_succ_cons, starts, starts]
      refine hbehind.stable rest m ?_
      rw [htaken, List.tail_cons]
      omega
    · -- A cut cannot put the head in front of a text that starts differently.
      rw [differs cs h] at enough ⊢
      have cut : (cs.take n).head? ≠ some head := by
        cases cs with
        | nil => simp
        | cons c rest => cases n <;> simp_all
      rw [differs _ cut, hother.stable cs n enough]

/-- What is read behind a first character, when the reader is given that character again.

What `scan` takes may be empty; then there is nothing behind the first character either. -/
theorem behindFirst {scan : Text → Text} (h : Reads id scan) (c : CodePoint) :
    Reads id fun cs => (scan (c :: cs)).drop 1 where
  isPrefix cs := by
    obtain ⟨rest, whole⟩ : scan (c :: cs) <+: c :: cs := h.isPrefix (c :: cs)
    rw [id_eq]
    cases front : scan (c :: cs) with
    | nil => simp
    | cons d front' =>
      rw [front, List.cons_append, List.cons.injEq] at whole
      exact ⟨rest, by simpa using whole.2⟩
  stable cs n enough := by
    -- Counting the first character, the cut is one place further back.
    have long : (scan (c :: cs)).length ≤ n + 1 := by
      simp only [id_eq, List.length_drop] at enough
      omega
    have cut := h.stable (c :: cs) (n + 1) long
    rw [List.take_succ_cons] at cut
    rw [cut]

end Reads

/-! ## §3 Scanners -/

/-- A scanner that goes from state to state is a reader, if state and character alone decide whether
it stops in front of the character, stops behind it, or goes on.

The three ways are those of `cons`; on an empty text it takes nothing, by `nil`. Scanners that count
how deep they are or remember a backslash follow from this one. -/
theorem reads_of_steps {σ : Type} (scan : σ → Text → Text) (nil : ∀ s, scan s [] = [])
    (cons : ∀ s c, (∀ cs, scan s (c :: cs) = []) ∨ (∀ cs, scan s (c :: cs) = [c]) ∨
      ∃ next, ∀ cs, scan s (c :: cs) = c :: scan next cs) (s : σ) : Reads id (scan s) where
  isPrefix cs := by
    simp only [id_eq]
    induction cs generalizing s with
    | nil => simp [nil]
    | cons c cs ih =>
      rcases cons s c with stops | closes | ⟨next, goesOn⟩
      · rw [stops]
        exact List.nil_prefix
      · rw [closes]
        exact ⟨cs, rfl⟩
      · rw [goesOn]
        exact (List.prefix_cons_inj c).mpr (ih next)
  stable cs n enough := by
    simp only [id_eq] at enough
    induction cs generalizing s n with
    | nil => rw [List.take_nil]
    | cons c cs ih =>
      rcases cons s c with stops | closes | ⟨next, goesOn⟩
      · -- Nothing is taken, so the cut may fall anywhere.
        cases n with
        | zero => rw [List.take_zero, nil, stops]
        | succ n => rw [List.take_succ_cons, stops, stops]
      · -- One character is taken, and the cut lies behind it.
        rw [closes, List.length_singleton] at enough
        obtain ⟨m, rfl⟩ : ∃ m, n = m + 1 := ⟨n - 1, by omega⟩
        rw [List.take_succ_cons, closes, closes]
      · rw [goesOn, List.length_cons] at enough
        -- The cut falls behind the character, so the scan of what follows is cut as well.
        obtain ⟨m, rfl⟩ : ∃ m, n = m + 1 := ⟨n - 1, by omega⟩
        rw [List.take_succ_cons, goesOn, goesOn, ih next m (by omega)]

theorem reads_takeWhile (p : CodePoint → Bool) : Reads id (List.takeWhile p) := by
  refine reads_of_steps (fun _ : Unit => List.takeWhile p) (fun _ => rfl) ?_ ()
  intro _ c
  by_cases h : p c = true
  · exact .inr (.inr ⟨(), fun _ => List.takeWhile_cons_of_pos h⟩)
  · exact .inl fun _ => List.takeWhile_cons_of_neg h

/-- What a run of a class leaves does not go on with the class. -/
theorem head_drop_takeWhile (p : CodePoint → Bool) (cs : Text) :
    (cs.drop (cs.takeWhile p).length).head?.all (!p ·) = true := by
  induction cs with
  | nil => rfl
  | cons c cs ih =>
    by_cases h : p c
    · rw [List.takeWhile_cons_of_pos h, List.length_cons, List.drop_succ_cons]
      exact ih
    · rw [List.takeWhile_cons_of_neg h]
      simpa using h

/-- Up to the first occurrence of `stop` is what stands in front of it. -/
theorem upTo_append {stop : CodePoint} {front : Text} (h : stop ∉ front) (behind : Text) :
    upTo stop (front ++ stop :: behind) = front := by
  have differ : ∀ c ∈ front, (c != stop) = true := by
    intro c there
    rw [bne_iff_ne]
    rintro rfl
    exact h there
  rw [upTo, List.takeWhile_append_of_pos differ, List.takeWhile_cons_of_neg (by simp),
    List.append_nil]

/-- The scanner `digits` reads a text, as do the next ones, which are runs of a class too. -/
theorem reads_digits : Reads id digits := reads_takeWhile isDigit

theorem reads_name : Reads id name := reads_takeWhile isNameChar

theorem reads_dashedName : Reads id dashedName := reads_takeWhile isDashedNameChar

/-- A name in front of a parenthesis is all that `dashedName` reads there. -/
theorem dashedName_open {name : Text} (dashed : name.all isDashedNameChar = true) (inside : Text) :
    dashedName (name ++ CodePoint.char '(' :: inside) = name := by
  have ends : isDashedNameChar (CodePoint.char '(') = false := by decide
  rw [dashedName, List.takeWhile_append_of_pos (List.all_eq_true.mp dashed),
    List.takeWhile_cons_of_neg (by simp [ends]), List.append_nil]

/-- At most one character, whichever it is. -/
theorem reads_takeOne : Reads id (List.take 1 : Text → Text) where
  isPrefix cs := List.take_prefix 1 cs
  stable cs n enough := by
    cases cs <;> cases n <;> simp_all

/-- A digit comes first just where `digits` takes something. -/
theorem startsWithDigit_eq_true_iff {cs : Text} :
    startsWithDigit cs = true ↔ digits cs ≠ [] := by
  cases cs with
  | nil => simp [startsWithDigit, digits]
  | cons c cs => by_cases h : isDigit c <;> simp [startsWithDigit, digits, h]

/-- A cut leaves alone whether a digit comes first, if it is no cut in front of all `digits`. -/
theorem startsWithDigit_take {cs : Text} {n : Nat} (enough : (digits cs).length ≤ n) :
    startsWithDigit (cs.take n) = startsWithDigit cs := by
  rw [Bool.eq_iff_iff, startsWithDigit_eq_true_iff, startsWithDigit_eq_true_iff]
  have cut : digits (cs.take n) = digits cs := reads_digits.stable cs n enough
  rw [cut]

/-- A fraction is read: a dot, and the digits behind it, of which there is at least one.

The dot alone is not taken. So a cut right behind the dot takes nothing away, as it has nothing to
take in the whole text either. -/
theorem reads_fraction : Reads id fraction where
  isPrefix cs := by
    unfold fraction
    split
    · split
      · exact (List.prefix_cons_inj _).mpr (reads_digits.isPrefix _)
      · exact List.nil_prefix
    · exact List.nil_prefix
  stable cs n enough := by
    unfold fraction at enough ⊢
    split at enough
    · next rest =>
      cases n with
      -- A cut in front of the dot is only allowed where no fraction is read.
      | zero =>
        split at enough
        · simp at enough
        · next no => simp [no]
      | succ n =>
        rw [List.take_succ_cons]
        -- Behind the dot, the cut keeps the digits, and so it keeps whether there are any.
        by_cases h : startsWithDigit rest = true
        · have long : (digits rest).length ≤ n := by simpa [h] using enough
          have cut : digits (rest.take n) = digits rest := reads_digits.stable rest n long
          simp only [startsWithDigit_take long, cut]
        · have none : digits rest = [] := by
            rwa [startsWithDigit_eq_true_iff, not_not] at h
          have long : (digits rest).length ≤ n := by simp [none]
          simp [startsWithDigit_take long, h]
    · next rest other =>
      split
      · -- The text does not start with a dot, and no cut of it does.
        next rest' cut =>
        exfalso
        cases cs with
        | nil => simp at cut
        | cons c cs => cases n <;> simp_all
      · rfl

/-- A numeral is read: digits, then a `fraction`. -/
theorem reads_unsignedNumeral : Reads id unsignedNumeral :=
  reads_digits.andThen (fun _ => reads_fraction) (· ++ ·) fun _ _ => rfl

/-- A numeral starts just where `unsignedNumeral` takes something. -/
theorem startsUnsigned_eq_true_iff {cs : Text} :
    startsUnsigned cs = true ↔ unsignedNumeral cs ≠ [] := by
  unfold startsUnsigned
  split
  · next rest =>
    -- In front of a dot there are no digits, so the numeral is the fraction.
    have noDigit : isDigit (CodePoint.char '.') = false := by decide
    by_cases h : startsWithDigit rest <;> simp [unsignedNumeral, digits, fraction, noDigit, h]
  · next other =>
    rw [startsWithDigit_eq_true_iff]
    cases h : digits cs with
    | nil =>
      -- No fraction starts where the text does not start with a dot.
      have noFraction : fraction cs = [] := by
        unfold fraction
        split
        · next rest => exact absurd rfl (other rest)
        · rfl
      simp [unsignedNumeral, h, noFraction]
    | cons c front => simp [unsignedNumeral, h]

/-- A cut behind a numeral leaves alone that a numeral comes first; what the numeral takes is
`unsignedNumeral`. -/
theorem startsUnsigned_take {cs : Text} {n : Nat} (enough : (unsignedNumeral cs).length ≤ n) :
    startsUnsigned (cs.take n) = startsUnsigned cs := by
  rw [Bool.eq_iff_iff, startsUnsigned_eq_true_iff, startsUnsigned_eq_true_iff]
  have cut : unsignedNumeral (cs.take n) = unsignedNumeral cs :=
    reads_unsignedNumeral.stable cs n enough
  rw [cut]

/-- A number where one starts, with its first character given, and something else elsewhere.

The reader `left` has to take the whole numeral, as `whole` says. Otherwise a cut inside of the
numeral might leave none. -/
theorem Reads.ifUnsigned {α : Type} {taken : α → Text} {left right : Text → α} (c : CodePoint)
    (hleft : Reads taken left) (hright : Reads taken right)
    (whole : ∀ cs, startsUnsigned (c :: cs) = true →
      (unsignedNumeral (c :: cs)).length ≤ (taken (left cs)).length + 1) :
    Reads taken fun cs => if startsUnsigned (c :: cs) then left cs else right cs := by
  refine .ite hleft hright fun cs n enough => ?_
  rw [← List.take_succ_cons]
  refine startsUnsigned_take ?_
  -- A number takes its numeral, and where there is none, no cut is too early.
  by_cases starts : startsUnsigned (c :: cs) = true
  · rw [if_pos starts] at enough
    have long := whole cs starts
    omega
  · rw [startsUnsigned_eq_true_iff, not_not] at starts
    simp [starts]

/-! ## §4 Brackets and quotes -/

/-- The rest of a group is read, through the bracket that closes it.

The state is the `depth`: an opening bracket adds one, a closing one takes one away, and the group
ends where none is left. So this is a case of `reads_of_steps`. -/
theorem reads_groupTail (opener closer : CodePoint) (depth : Nat) :
    Reads id (groupTail opener closer depth) := by
  refine reads_of_steps (groupTail opener closer) (fun _ => rfl) ?_ depth
  intro depth c
  by_cases opens : (c == opener) = true
  · exact .inr (.inr ⟨depth + 1, fun cs => by simp only [groupTail, if_pos opens]⟩)
  by_cases closes : (c == closer) = true
  · -- A closing bracket ends the group at depth one, and is taken.
    by_cases last : depth ≤ 1
    · exact .inr (.inl fun cs => by
        simp only [groupTail, if_neg opens, if_pos closes, if_pos last])
    · exact .inr (.inr ⟨depth - 1, fun cs => by
        simp only [groupTail, if_neg opens, if_pos closes, if_neg last]⟩)
  · exact .inr (.inr ⟨depth, fun cs => by simp only [groupTail, if_neg opens, if_neg closes]⟩)

/-- What stands in front of a closing parenthesis is read.

This is like `reads_groupTail`, but the last parenthesis is left in the text. -/
theorem reads_untilClosed (depth : Nat) : Reads id (untilClosed depth) := by
  refine reads_of_steps untilClosed (fun _ => rfl) ?_ depth
  intro depth c
  by_cases opens : (c == CodePoint.char '(') = true
  · exact .inr (.inr ⟨depth + 1, fun cs => by simp only [untilClosed, if_pos opens]⟩)
  by_cases closes : (c == CodePoint.char ')') = true
  · -- The last parenthesis stops the scanner in front of it.
    by_cases last : depth ≤ 1
    · exact .inl fun cs => by
        simp only [untilClosed, if_neg opens, if_pos closes, if_pos last]
    · exact .inr (.inr ⟨depth - 1, fun cs => by
        simp only [untilClosed, if_neg opens, if_pos closes, if_neg last]⟩)
  · exact .inr (.inr ⟨depth, fun cs => by simp only [untilClosed, if_neg opens, if_neg closes]⟩)

/-- What follows a backslash in a quoted text: any character, then the text goes on. -/
def escapedTail (quote : CodePoint) : Text → Text
  | [] => []
  | c :: cs => c :: quotedTail quote cs

/-- A backslash goes along with what `escapedTail` takes behind it. -/
theorem quotedTail_backslash (quote : CodePoint) (cs : Text) :
    quotedTail quote (CodePoint.char '\\' :: cs) = CodePoint.char '\\' :: escapedTail quote cs := by
  cases cs <;> rfl

theorem quotedTail_cons (quote : CodePoint) {c : CodePoint} (h : c ≠ CodePoint.char '\\')
    (cs : Text) :
    quotedTail quote (c :: cs) = if c == quote then [c] else c :: quotedTail quote cs := by
  simp [quotedTail, h]

/-- The rest of a quoted text is read, through the closing quote. The state is whether a backslash
was read last: `escapedTail` or `quotedTail`. -/
theorem reads_quotedTail (quote : CodePoint) : Reads id (quotedTail quote) := by
  -- The scanner has a second state, behind a backslash, where any character is taken along.
  refine reads_of_steps (fun escaped => if escaped then escapedTail quote else quotedTail quote)
    ?_ ?_ false
  · intro escaped
    cases escaped <;> rfl
  · intro escaped c
    cases escaped with
    | true => exact .inr (.inr ⟨false, fun _ => rfl⟩)
    | false =>
      by_cases backslash : c = CodePoint.char '\\'
      · subst backslash
        exact .inr (.inr ⟨true, quotedTail_backslash quote⟩)
      · by_cases closes : (c == quote) = true
        · refine .inr (.inl fun cs => ?_)
          exact (quotedTail_cons quote backslash cs).trans (if_pos closes)
        · refine .inr (.inr ⟨false, fun cs => ?_⟩)
          exact (quotedTail_cons quote backslash cs).trans (if_neg closes)

theorem reads_plainQuotedTail (quote : CodePoint) : Reads id (plainQuotedTail quote) :=
  (reads_takeWhile (· != quote)).andThen (fun _ => reads_takeOne) (· ++ ·) fun _ _ => rfl

/-- A group is read: an opening bracket and all that `groupTail` takes behind it. -/
theorem reads_group (opener closer : CodePoint) : Reads id (group opener closer) := by
  have behind : Reads List.tail fun cs => opener :: groupTail opener closer 1 cs :=
    (reads_groupTail opener closer 1).cons opener
  have other : Reads id fun _ => [] := .const rfl
  refine .onHead opener ?_ ?_ (fun _ => rfl) behind other
  · intro rest
    simp [group]
  · intro cs other
    -- Without the bracket, nothing is read.
    cases cs with
    | nil => rfl
    | cons c cs =>
      have differs : c ≠ opener := by simpa using other
      simp [group, differs]

end StyleCheck.Text
