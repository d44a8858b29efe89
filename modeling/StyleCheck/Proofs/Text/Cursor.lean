import StyleCheck.Proofs.Text.Places
import StyleCheck.Proofs.Text.Reads
import StyleCheck.Text.Cursor

/-!
# Reading at a cursor

A cursor moves over what a scanner takes of the characters ahead. At a position of its source, that
is all there is to it: what it answers is what the scanner takes, and the cursor stands right behind
that.

## Main statements

- `take_eq`: reading at a position of the source.
- `readGroup_eq`, `readQuoted_eq`: the same for groups and for quoted texts.
-/

namespace StyleCheck

namespace Text

/-- From a character on, the character lies ahead and then the rest. -/
theorem drop_eq_cons_of_getElem? {source : Text} {position : Nat} {c : CodePoint}
    (there : source[position]? = some c) :
    source.drop position = c :: source.drop (position + 1) := by
  obtain ⟨inside, rfl⟩ := List.getElem?_eq_some_iff.mp there
  exact List.drop_eq_getElem_cons inside

end Text

namespace Cursor

variable {source : Text} {position : Nat}

/-- What lies ahead of a cursor is what `List.drop` leaves of the source. -/
theorem ahead_eq : ahead ⟨source, position⟩ = .ok (source.drop position) := by
  rw [ahead, if_pos (Int.natCast_nonneg position), Int.toNat_natCast]

theorem advance_eq {steps : Nat} (inside : position + steps ≤ source.length) :
    advance ⟨source, position⟩ steps = ⟨source, (position + steps : Nat)⟩ := by
  rw [advance, Cursor.mk.injEq]
  exact ⟨rfl, by push_cast; omega⟩

/-- What a cursor has passed since `start` is that part of the source. -/
theorem sliceFrom_eq {start : Nat} (before : start ≤ position) (inside : position ≤ source.length) :
    sliceFrom ⟨source, position⟩ start = Text.slice source start position := by
  have clipped {i : Nat} (low : i ≤ source.length) : bound ⟨source, position⟩ i = i := by
    rw [bound, if_pos (Int.natCast_nonneg i), Int.toNat_natCast, Nat.min_eq_left low]
  rw [sliceFrom, clipped inside, clipped (Nat.le_trans before inside)]

/-- What a scanner takes of the characters ahead is what the cursor answers and passes.

That it takes them off the front is `Reads.isPrefix`, for every scanner that has a `reads_` lemma.
-/
theorem take_eq {scanner : Text → Text} (inside : position ≤ source.length)
    (front : scanner (source.drop position) <+: source.drop position) :
    (⟨source, position⟩ : Cursor).take scanner = .ok (scanner (source.drop position),
      ⟨source, (position + (scanner (source.drop position)).length : Nat)⟩) := by
  obtain ⟨behind, ahead⟩ := front
  have stands := Text.StandsAt.of_drop_eq inside ahead.symm
  have passed := sliceFrom_eq (Nat.le_add_right position _) stands.end_le
  rw [stands.slice_eq] at passed
  simp only [take, ahead_eq, Except.map, advance_eq stands.end_le, passed]

/-- At an opening bracket or not, a cursor reads what `Text.group` takes. -/
theorem readGroup_eq {opener closer : CodePoint} (inside : position ≤ source.length) :
    (⟨source, position⟩ : Cursor).readGroup [opener] [closer] =
      .ok (Text.group opener closer (source.drop position),
        ⟨source, (position + (Text.group opener closer (source.drop position)).length : Nat)⟩) :=
  take_eq inside ((Text.reads_group opener closer).isPrefix _)

/-- At a quote, a cursor reads the quote and what `Text.quotedTail` takes behind it. -/
theorem readQuoted_eq {quote : CodePoint} {cs : Text}
    (ahead : source.drop position = quote :: cs) :
    (⟨source, position⟩ : Cursor).readQuoted = .ok (quote :: Text.quotedTail quote cs,
      ⟨source, (position + (quote :: Text.quotedTail quote cs).length : Nat)⟩) := by
  have inside : position ≤ source.length :=
    Nat.le_of_succ_le (Text.drop_succ_of_drop_eq_cons ahead).1
  have front : Text.quotedFrom (source.drop position) <+: source.drop position := by
    rw [ahead]
    exact (List.prefix_cons_inj quote).mpr ((Text.reads_quotedTail quote).isPrefix cs)
  have taken := take_eq inside front
  rwa [ahead] at taken

end Cursor

end StyleCheck
