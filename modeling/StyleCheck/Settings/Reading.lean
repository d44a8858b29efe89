import StyleCheck.Fault
import StyleCheck.Settings.ConfigValue
import StyleCheck.Text.CharClass

/-!
# Reading documents

What the readers of the document formats share. A reader of a part of a document returns the value
it read and what is left of the text; what is left is shorter, which is why reading ends.

Readers of lists and mappings call each other for what these hold. The system lets calls be nested
only so deep, and how much room is left depends on the calls around a reader. So the room is an
argument, and a list or a mapping takes its share of it with `enter`.

## Main definitions

- `ReadError`: why a text is no document.
- `enter`: the room that is left for calls inside of a list or a mapping.
- `Reading`: a value read off the front of a text, with the rest.
- `nextChar?`: the next character behind white space.
- `hexValue?`, `hexNumber?`, `charOf?`: characters written by their numbers.
- `lengthToMark?`: where a quoted string ends.
-/

namespace StyleCheck

/-- Why a text is no document of its format. -/
inductive ReadError
  /-- It breaks the rules of the format. -/
  | malformed
  /-- It holds a decimal integer with more digits than are read. -/
  | numeralTooLong (digits : Nat)
  /-- It holds more lists and mappings inside of one another than there is room for. -/
  | nestedTooDeep (activity : Text)
deriving DecidableEq, Repr

/-- The room for nested calls that a system has if nothing else is said; each call of `enter` takes
of it. -/
def callRoom : Nat := 1000

/-- The room that is left for nested calls after some more of them. The `activity` is what the fault
names where they do not fit. -/
def enter (activity : Text) (calls room : Nat) : Except ReadError Nat :=
  if calls ≤ room then .ok (room - calls) else .error (.nestedTooDeep activity)

/-- A value read off the front of a text, with the rest of it. That the rest is `shorter` is why the
readers end. -/
structure Reading (source : Text) (α : Type) where
  value : α
  rest : Text
  shorter : rest.length < source.length

namespace Reading

variable {α β : Type}

/-- The reading that takes `count` characters off `cs`, and `c` besides. -/
def take (c : CodePoint) (cs : Text) (value : α) (count : Nat) : Reading (c :: cs) α where
  value := value
  rest := cs.drop count
  shorter := by simp only [List.length_cons, List.length_drop]; omega

/-- A reading with another value. -/
def map {s : Text} (r : Reading s α) (f : α → β) : Reading s β :=
  { value := f r.value, rest := r.rest, shorter := r.shorter }

/-- A reading of what is left of a text, as a reading of the text itself; nothing but the bound on
the `rest` changes. -/
def widen {s t : Text} (r : Reading s α) (h : s.length ≤ t.length) : Reading t α :=
  { value := r.value, rest := r.rest, shorter := Nat.lt_of_lt_of_le r.shorter h }

/-- A reading of what the `first` one left. -/
def after {s : Text} (first : Reading s β) (r : Reading first.rest α) : Reading s α :=
  r.widen (Nat.le_of_lt first.shorter)

end Reading

theorem length_dropWhile_le (p : CodePoint → Bool) (cs : Text) :
    (cs.dropWhile p).length ≤ cs.length :=
  (List.dropWhile_sublist p).length_le

/-- The first character that is not to be `skipped`. -/
def nextChar? (skipped : CodePoint → Bool) (s : Text) : Option (Reading s CodePoint) :=
  match h : s.dropWhile skipped with
  | [] => none
  | c :: rest =>
    some { value := c, rest, shorter := by
             have le := length_dropWhile_le skipped s
             rw [h] at le
             exact le }

/-! ## Characters by number -/

/-- The value of hexadecimal digits, in letters of either case. There is none if another character
occurs. -/
def hexValue? (cs : Text) : Option Nat :=
  cs.foldlM (fun value c =>
    if Text.isDigit c then some (16 * value + (c.toNat - '0'.toNat))
    else if 'a' ≤ c ∧ c ≤ 'f' then some (16 * value + (c.toNat - 'a'.toNat + 10))
    else if 'A' ≤ c ∧ c ≤ 'F' then some (16 * value + (c.toNat - 'A'.toNat + 10))
    else none) 0

/-- The number that `width` hexadecimal digits at the front of a text write. -/
def hexNumber? (width : Nat) (cs : Text) : Option Nat :=
  let digits := cs.take width
  if digits.length < width then none else hexValue? digits

/-- The character with a number; a surrogate is no character, unlike a `CodePoint`. -/
def charOf? (n : Nat) : Option CodePoint := if n.isValidChar then some (.ofNat n) else none

/-- The number of characters before a closing `mark`, if there is one. With `escapes`, a backslash
takes the character behind it along. -/
def lengthToMark? (mark : Text) (escapes : Bool) : Text → Option Nat
  | [] => none
  | c :: cs =>
    if mark.isPrefixOf (c :: cs) then some 0
    else if escapes && c == '\\' then match cs with
      | [] => none
      | _ :: behind => (lengthToMark? mark escapes behind).map (· + 2)
    else (lengthToMark? mark escapes cs).map (· + 1)

end StyleCheck
