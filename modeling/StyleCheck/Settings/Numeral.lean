import StyleCheck.Settings.Reading

/-!
# Numerals in documents

The document formats write numbers alike: a sign, whole digits that do not start with a zero
unless they are one, a fraction and an exponent. They differ in the signs that they know and in
what counts as a run of digits. A numeral of whole digits alone is an integer, and integers beyond
the digit limit are refused.

## Main definitions

- `Numeral`, `Numeral.scan`: a numeral, taken apart.
- `Numeral.read`: a number off the front of a text.
-/

namespace StyleCheck

/-- A numeral, taken apart. -/
structure Numeral where
  sign : Text
  whole : Text
  /-- The fraction and the exponent. -/
  behind : Text
deriving DecidableEq, Repr

namespace Numeral

variable (signs : Text) (digits : Text → Text)

/-- One of the `signs`, or nothing. -/
def scanSign : Text → Text
  | c :: _ => if signs.contains c then [c] else []
  | [] => []

/-- The whole digits: a zero alone, or digits that do not start with one. -/
def scanWhole : Text → Text
  | '0' :: _ => ['0']
  | cs => digits cs

/-- A decimal point with `digits` behind it; nothing where no digit follows the point. -/
def scanFraction : Text → Text
  | '.' :: cs => if (digits cs).isEmpty then [] else '.' :: digits cs
  | _ => []

/-- An exponent, behind `e` or `E`; nothing where it has no `digits`. -/
def scanExponent : Text → Text
  | [] => []
  | mark :: cs =>
    let sign := scanSign ['+', '-'] cs
    let power := digits (cs.drop sign.length)
    if (mark == 'e' || mark == 'E') && !power.isEmpty then mark :: sign ++ power else []

/-- The numeral that a text starts with. Without whole digits there is none, and `whole` is empty.
-/
def scan (cs : Text) : Numeral :=
  let sign := scanSign signs cs
  let whole := scanWhole digits (cs.drop sign.length)
  let behind := cs.drop (sign.length + whole.length)
  let fraction := scanFraction digits behind
  { sign, whole, behind := fraction ++ scanExponent digits (behind.drop fraction.length) }

/-- The written form of a numeral. -/
def toText (n : Numeral) : Text := n.sign ++ n.whole ++ n.behind

/-- The number of digits of `whole`; an underscore that groups them does not count. -/
def digitCount (n : Numeral) : Nat := (n.whole.filter Text.isDigit).length

/-- A number off the front of a text. The first character belongs to it or there is none.

The digits of an integer are limited by `digitLimit`, and those of a fraction or an exponent are
not. -/
def read (c : CodePoint) (cs : Text) : Except ReadError (Reading (c :: cs) ConfigValue) :=
  let n := scan signs digits (c :: cs)
  if n.whole.isEmpty then .error .malformed
  -- Only integers are limited; a fraction or an exponent makes the number a float.
  else if n.behind.isEmpty && digitLimit < n.digitCount then
    .error (.numeralTooLong n.digitCount)
  else .ok (.take c cs (.number n.toText) (n.toText.length - 1))

end Numeral

end StyleCheck
