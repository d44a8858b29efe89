/-!
# Code points

What a text is made of: characters, and the surrogates that some documents write in pairs for a
character beyond the first plane. Nothing keeps a surrogate from standing alone. It is no character
then, but it counts and compares like one.

## Main definitions

- `CodePoint`: characters and surrogates.
- `CodePoint.toNat`, `CodePoint.ofNat`: code points by number.
- `CodePoint.joined?`: the character that a pair of surrogates stands for.

Code points are their numbers (`ofNat_toNat`), and ordered by them.
-/

namespace StyleCheck

/-- A character or a surrogate.

The half of a surrogate pair may stand alone in a text that is read from an escape, so `Char` is not
enough. -/
inductive CodePoint
  | char (c : Char)
  /-- The surrogate with a given place among the 2048 that there are. -/
  | surrogate (place : Fin 0x800)
deriving DecidableEq, Repr

namespace CodePoint

instance : Coe Char CodePoint := ⟨.char⟩

/-! ## §1 Numbers -/

/-- The number of a code point; the surrogates lie in between those of the characters. -/
def toNat : CodePoint → Nat
  | char c => c.toNat
  | surrogate place => 0xD800 + place

/-- The code point with the number `n`. There is none beyond the last character, and the first one
stands in for it. -/
def ofNat (n : Nat) : CodePoint :=
  if h : 0xD800 ≤ n ∧ n < 0xE000 then surrogate ⟨n - 0xD800, by omega⟩ else char (Char.ofNat n)

theorem ofNat_toNat (c : CodePoint) : ofNat c.toNat = c := by
  cases c with
  | char c =>
    have valid : c.toNat < 0xD800 ∨ 0xDFFF < c.toNat ∧ c.toNat < 0x110000 := c.valid
    have outside : ¬(0xD800 ≤ c.toNat ∧ c.toNat < 0xE000) := by omega
    simp only [toNat, ofNat, dif_neg outside, Char.ofNat_toNat]
  | surrogate place =>
    have inside : 0xD800 ≤ 0xD800 + place.val ∧ 0xD800 + place.val < 0xE000 := by omega
    simp only [toNat, ofNat, dif_pos inside, Nat.add_sub_cancel_left]

theorem toNat_injective {c d : CodePoint} (h : c.toNat = d.toNat) : c = d := by
  rw [← ofNat_toNat c, h, ofNat_toNat]

instance : LE CodePoint := ⟨fun c d => c.toNat ≤ d.toNat⟩

instance (c d : CodePoint) : Decidable (c ≤ d) := inferInstanceAs (Decidable (c.toNat ≤ d.toNat))

theorem le_iff_toNat_le {c d : CodePoint} : c ≤ d ↔ c.toNat ≤ d.toNat := Iff.rfl

/-! ## §2 Pairs -/

/-- The character that two numbers stand for, if `first` is that of a surrogate from the first half
and `second` of one from the second. -/
def joined? (first second : Nat) : Option CodePoint :=
  if 0xD800 ≤ first ∧ first < 0xDC00 ∧ 0xDC00 ≤ second ∧ second < 0xE000 then
    some (ofNat (0x10000 + (first - 0xD800) * 0x400 + (second - 0xDC00)))
  else none

/-! ## §3 Showing -/

/-- The character itself, or the replacement that is printed for a surrogate. -/
def toChar : CodePoint → Char
  | char c => c
  | surrogate _ => '\ufffd'

end CodePoint

end StyleCheck
