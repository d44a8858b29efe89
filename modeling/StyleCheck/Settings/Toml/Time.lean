import StyleCheck.Text.DecimalDigit
import StyleCheck.Text.Scan

/-!
# Dates and times in TOML documents

A date, a date with a time of day, which may say how far it is from universal time, or a time of
day alone. Settings look at none of them, so it only matters where they end and whether there is
such a day.

## Main definitions

- `Toml.afterClock?`: what follows a time of day.
- `Toml.Day`, `Toml.readDay?`: days of the calendar.
- `Toml.afterMoment`: what follows a date, with all that belongs to it.
-/

namespace StyleCheck.Toml

/-! ## §1 Numbers of fixed width -/

/-- A number of exactly `width` digits between `least` and `most`, with what follows it. -/
def fixedNumber? (width least most : Nat) (cs : Text) : Option (Nat × Text) :=
  let digits := cs.take width
  let value := Text.numeralValue digits
  if digits.length == width && digits.all Text.isDigit && least ≤ value && value ≤ most then
    some (value, cs.drop width)
  else none

/-- What follows a character. -/
def after? (c : CodePoint) : Text → Option Text
  | [] => none
  | d :: cs => if c == d then some cs else none

/-! ## §2 Times of day -/

/-- What follows hours and minutes, as in `07:32`. -/
def afterMinutes? (cs : Text) : Option Text := do
  let (_, cs) ← fixedNumber? 2 0 23 cs
  let (_, cs) ← fixedNumber? 2 0 59 (← after? ':' cs)
  return cs

/-- What follows a time of day: hours, minutes and seconds, perhaps with a fraction. Seconds may not
be left out. -/
def afterClock? (cs : Text) : Option Text := do
  let (_, cs) ← fixedNumber? 2 0 59 (← after? ':' (← afterMinutes? cs))
  return cs.drop (Text.fraction cs).length

/-- What follows the distance from universal time, a `Z` or one with a sign, where it is given. -/
def afterZone (cs : Text) : Text :=
  match cs with
  | [] => []
  | c :: behind =>
    if c == 'Z' || c == 'z' then behind
    else if c == '+' || c == '-' then (afterMinutes? behind).getD cs
    else cs

/-! ## §3 Dates -/

/-- A day as it is written; `Day.exists` tells whether the calendar has it. -/
structure Day where
  year : Nat
  month : Nat
  day : Nat
deriving DecidableEq, Repr

/-- The number of days in a month. -/
def monthLength (year month : Nat) : Nat :=
  if month == 2 then
    if year % 4 == 0 && (year % 100 != 0 || year % 400 == 0) then 29 else 28
  else if month == 4 || month == 6 || month == 9 || month == 11 then 30
  else 31

/-- Whether the calendar has a day; it starts with the year one. -/
def Day.exists (d : Day) : Bool := 1 ≤ d.year && d.day ≤ monthLength d.year d.month

/-- A written day, whether it exists or not, with what follows it. Only the bounds of its parts are
looked at here. -/
def readDay? (cs : Text) : Option (Day × Text) := do
  let (year, cs) ← fixedNumber? 4 0 9999 cs
  let (month, cs) ← fixedNumber? 2 1 12 (← after? '-' cs)
  let (day, cs) ← fixedNumber? 2 1 31 (← after? '-' cs)
  return (⟨year, month, day⟩, cs)

/-- What follows a date, given what follows its day: a time of day belongs to it if one stands
behind a blank or a `T`. -/
def afterMoment (cs : Text) : Text :=
  match cs with
  | [] => []
  | c :: behind =>
    if c == 'T' || c == 't' || c == ' ' then ((afterClock? behind).map afterZone).getD cs else cs

end StyleCheck.Toml
