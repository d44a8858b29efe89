import StyleCheck.Settings.Reading

/-!
# Strings in TOML documents

There are four sorts of strings: basic ones between double quotes, in which a backslash starts an
escape, and literal ones between single quotes; and of both sorts long ones, between three quotes,
which may run over several lines.

## Main definitions

- `Toml.readQuoted`: a string of any sort.
- `Toml.readShort`: a string on one line, as it may also stand in a key.
-/

namespace StyleCheck.Toml

/-! ## §1 Characters -/

/-- A space or a tab. -/
def isGap (c : CodePoint) : Bool := c == ' ' || c == '\t'

/-- A space, a tab or a line break. -/
def isLongGap (c : CodePoint) : Bool := isGap c || c == '\n'

/-- A control character other than the tab. Apart from line breaks between lines, none may stand in
a document, and a string needs an escape for it. -/
def isControl (c : CodePoint) : Bool := (c.toNat < 0x20 && c != '\t') || c.toNat == 0x7f

/-- Whether a character may stand in a string as it is; a line break only in a `long` one. -/
def isAllowed (long : Bool) (c : CodePoint) : Bool := !isControl c || (long && c == '\n')

/-! ## §2 Escapes -/

/-- What a letter behind a backslash stands for. -/
def escaped? : CodePoint → Option CodePoint
  | 'b' => some '\x08'
  | 't' => some '\t'
  | 'n' => some '\n'
  | 'f' => some '\x0c'
  | 'r' => some '\r'
  | '"' => some '"'
  | '\\' => some '\\'
  | _ => none

/-- How many digits follow a letter that announces a number: four behind `u`, eight behind `U`. -/
def codeDigits? : CodePoint → Option Nat
  | 'u' => some 4
  | 'U' => some 8
  | _ => none

/-- The character whose number is given by `count` digits; a surrogate is none. -/
def codedChar? (count : Nat) (cs : Text) : Option CodePoint := (hexNumber? count cs).bind charOf?

/-- What follows a backslash at the end of a line: the line break and all gaps around it drop
out. -/
def behindFold? (cs : Text) : Option Text :=
  match cs.dropWhile isGap with
  | '\n' :: lines => some (lines.dropWhile isLongGap)
  | _ => none

theorem length_le_of_behindFold? {cs rest : Text} (h : behindFold? cs = some rest) :
    rest.length ≤ cs.length := by
  unfold behindFold? at h
  split at h
  · next lines eq =>
    cases h
    have lines_le := length_dropWhile_le isLongGap lines
    have le := length_dropWhile_le isGap cs
    rw [eq, List.length_cons] at le
    omega
  · cases h

/-- The text that the characters between the quotes of a basic string stand for; `long` tells of
which sort it is. -/
def unescape (long : Bool) (s : Text) : Option Text :=
  match s with
  | [] => some []
  | '\\' :: cs =>
    -- Only a long string can be continued on the next line.
    match h : if long then behindFold? cs else none with
    | some rest =>
      have lt : rest.length < (CodePoint.char '\\' :: cs).length := by
        split at h
        · exact Nat.lt_succ_of_le (length_le_of_behindFold? h)
        · cases h
      unescape long rest
    | none =>
      match cs with
      | [] => none
      | letter :: behind =>
        match codeDigits? letter with
        | some count => do
          return (← codedChar? count behind) :: (← unescape long (behind.drop count))
        | none => do return (← escaped? letter) :: (← unescape long behind)
  | c :: cs => if isAllowed long c then (unescape long cs).map (c :: ·) else none
termination_by s.length
decreasing_by
  · exact lt
  all_goals simp only [List.length_cons, List.length_drop]; omega

/-! ## §3 Strings -/

/-- The text that the characters between two quotes stand for. Only double quotes make escapes
count; between single ones all is taken as it stands. -/
def content? (quote : CodePoint) (long : Bool) (written : Text) : Option Text :=
  if quote == '"' then unescape long written
  else if written.all (isAllowed long) then some written
  else none

/-- A string on one line, of which the opening `quote` is the first character. -/
def readShort (quote : CodePoint) (cs : Text) : Except ReadError (Reading (quote :: cs) Text) :=
  match lengthToMark? [quote] (quote == '"') cs with
  | none => .error .malformed
  | some length => match content? quote false (cs.take length) with
    | none => .error .malformed
    | some content => .ok (.take quote cs content (length + 1))

/-- How many characters the opening of a long string takes behind its first quote: two quotes and
a line break, if one follows them. -/
def openingLength (cs : Text) : Nat := if (cs.drop 2).head? == some '\n' then 3 else 2

/-- A long string, of which the opening `quote` is the first character. Up to two quotes may stand
in front of the closing three, and they belong to the content. -/
def readLong (quote : CodePoint) (cs : Text) : Except ReadError (Reading (quote :: cs) Text) :=
  let opening := openingLength cs
  let behind := cs.drop opening
  match lengthToMark? (List.replicate 3 quote) (quote == '"') behind with
  | none => .error .malformed
  | some length => match content? quote true (behind.take length) with
    | none => .error .malformed
    | some content =>
      let spare := ((behind.drop (length + 3)).take 2).takeWhile (· == quote)
      .ok (.take quote cs (content ++ spare) (opening + length + 3 + spare.length))

/-- A string of any sort, of which the opening `quote` is the first character: three of them make it
a long one. -/
def readQuoted (quote : CodePoint) (cs : Text) : Except ReadError (Reading (quote :: cs) Text) :=
  if [quote, quote].isPrefixOf cs then readLong quote cs else readShort quote cs

end StyleCheck.Toml
