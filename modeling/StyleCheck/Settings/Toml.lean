import StyleCheck.Settings.Numeral
import StyleCheck.Settings.Toml.Draft
import StyleCheck.Settings.Toml.Quoted
import StyleCheck.Settings.Toml.Time

/-!
# Reading TOML documents

Reads the TOML of configuration files. A document is a sequence of lines; each one holds a header
or an entry or nothing, and changes the document under construction accordingly. Only arrays and
long strings run over several lines.

A list takes two nested calls, one for a value and one for its items, and an inline table takes
three, since an entry lies in between. The calls for what holds no value are left out of account.

## Main definitions

- `Toml.readKey`: dotted keys.
- `Toml.readValue`: values.
- `Toml.readStatement`, `Toml.readLines`: headers and entries, line by line.
- `Toml.read`: a whole document.
-/

namespace StyleCheck.Toml

/-! ## §1 Between the parts -/

/-- What follows the end of the line, where nothing but gaps and a comment is left on it. With
`inComment`, the comment has begun already. -/
def nextLine? (inComment : Bool) : Text → Option Text
  | [] => some []
  | c :: cs =>
    if c == '\n' then some cs
    else if inComment then if isControl c then none else nextLine? true cs
    else if isGap c then nextLine? false cs
    else if c == '#' then nextLine? true cs
    else none

/-- What follows gaps, line breaks and comments. Unlike `nextLine?` it goes on behind the end of the
line. -/
def skipLines? (inComment : Bool) : Text → Option Text
  | [] => some []
  | c :: cs =>
    if c == '\n' then skipLines? false cs
    else if inComment then if isControl c then none else skipLines? true cs
    else if isGap c then skipLines? false cs
    else if c == '#' then skipLines? true cs
    else some (c :: cs)

theorem length_le_of_nextLine? {inComment : Bool} {s rest : Text}
    (h : nextLine? inComment s = some rest) : rest.length ≤ s.length := by
  induction s generalizing inComment with
  | nil => cases h; exact Nat.le_refl _
  | cons c cs ih =>
    unfold nextLine? at h
    split at h
    · cases h; exact Nat.le_succ _
    · split at h
      · split at h
        · cases h
        · exact Nat.le_succ_of_le (ih h)
      · split at h
        · exact Nat.le_succ_of_le (ih h)
        · split at h
          · exact Nat.le_succ_of_le (ih h)
          · cases h

theorem length_le_of_skipLines? {inComment : Bool} {s rest : Text}
    (h : skipLines? inComment s = some rest) : rest.length ≤ s.length := by
  induction s generalizing inComment with
  | nil => cases h; exact Nat.le_refl _
  | cons c cs ih =>
    unfold skipLines? at h
    split at h
    · exact Nat.le_succ_of_le (ih h)
    · split at h
      · split at h
        · cases h
        · exact Nat.le_succ_of_le (ih h)
      · split at h
        · exact Nat.le_succ_of_le (ih h)
        · split at h
          · exact Nat.le_succ_of_le (ih h)
          · cases h; exact Nat.le_refl _

/-- The next character behind what `skipLines?` skips. -/
def nextInList? (s : Text) : Option (Reading s CodePoint) :=
  match h : skipLines? false s with
  | some (c :: rest) => some { value := c, rest, shorter := length_le_of_skipLines? h }
  | _ => none

/-! ## §2 Keys -/

/-- A character of a name that needs no quotes. -/
def isBare (c : CodePoint) : Bool := Text.isLetter c || Text.isDigit c || c == '-' || c == '_'

/-- A single name in a key: characters that satisfy `isBare`, or a string on one line. -/
def readName (s : Text) : Except ReadError (Reading s Text) :=
  match s with
  | [] => .error .malformed
  | c :: cs =>
    if isBare c then
      let name := (c :: cs).takeWhile isBare
      .ok (.take c cs name (name.length - 1))
    else if c == '"' || c == '\'' then readShort c cs
    else .error .malformed

/-- A dotted key, with the gaps behind it. The names read before the last one are its `parents`. -/
def readKey (s : Text) : Except ReadError (Reading s Key) := do
  let name ← readName s
  match nextChar? isGap name.rest with
  | some ⟨'.', behind, shorter⟩ =>
    have lt : (behind.dropWhile isGap).length < s.length :=
      Nat.lt_of_le_of_lt (length_dropWhile_le isGap behind) (Nat.lt_trans shorter name.shorter)
    (readKey (behind.dropWhile isGap)).map fun r =>
      (r.map fun key => { key with parents := name.value :: key.parents }).widen (Nat.le_of_lt lt)
  | _ =>
    .ok { value := ⟨[], name.value⟩, rest := name.rest.dropWhile isGap
          shorter := Nat.lt_of_le_of_lt (length_dropWhile_le isGap name.rest) name.shorter }
termination_by s.length

/-! ## §3 Values -/

/-- The words with a meaning of their own. -/
def keywords : List (Text × ConfigValue) :=
  [("true".toText, .boolean true), ("false".toText, .boolean false)]
    ++ ["inf", "+inf", "-inf", "nan", "+nan", "-nan"].map fun word =>
      (word.toText, .number word.toText)

/-- The digits of a base that is named by a letter: `x`, `o` or `b`. -/
def baseDigit? : CodePoint → Option (CodePoint → Bool)
  | 'x' => some Text.isHexDigit
  | 'o' => some fun c => '0' ≤ c && c ≤ '7'
  | 'b' => some fun c => c == '0' || c == '1'
  | _ => none

/-- Digits behind others; an underscore may stand between two of them, and one that is not followed
by a digit ends the run. -/
def moreDigits (isDigit : CodePoint → Bool) : Text → Text
  | [] => []
  | '_' :: c :: cs => if isDigit c then '_' :: c :: moreDigits isDigit cs else []
  | c :: cs => if isDigit c then c :: moreDigits isDigit cs else []

/-- A run of digits, which may be grouped by underscores as in `1_000`. -/
def groupedDigits (isDigit : CodePoint → Bool) : Text → Text
  | [] => []
  | c :: cs => if isDigit c then c :: moreDigits isDigit cs else []

/-- An integer in a base that is named, as in `0xff`; nothing where there is none. -/
def basedNumeral : Text → Text
  | '0' :: letter :: cs =>
    match baseDigit? letter with
    | none => []
    | some isDigit =>
      let digits := groupedDigits isDigit cs
      if digits.isEmpty then [] else '0' :: letter :: digits
  | _ => []

/-- The part of `s` that stands before a given ending of it. -/
def before (s rest : Text) : Text := s.take (s.length - rest.length)

/-- A value that is no string, list or table: one of the `keywords`, a date or time, or else a
number. -/
def readScalar (c : CodePoint) (cs : Text) : Except ReadError (Reading (c :: cs) ConfigValue) :=
  let s := c :: cs
  match keywords.find? fun e => e.1.isPrefixOf s with
  | some (word, value) => .ok (.take c cs value (word.length - 1))
  | none =>
    match readDay? s with
    | some (day, rest) =>
      -- What has the form of a date is one, or else an error; it is never read as a number.
      let written := before s (afterMoment rest)
      if day.exists then .ok (.take c cs (.time written) (written.length - 1))
      else .error .malformed
    | none =>
      match afterClock? s with
      | some rest =>
        let written := before s rest
        .ok (.take c cs (.time written) (written.length - 1))
      | none =>
        let based := basedNumeral s
        if based.isEmpty then Numeral.read ['+', '-'] (groupedDigits Text.isDigit) c cs
        else .ok (.take c cs (.number based) (based.length - 1))

mutual

/-- A value off the front of a text, with `room` for so many nested calls. A list takes two of them,
and a table takes three. -/
def readValue (room : Nat) (s : Text) : Except ReadError (Reading s ConfigValue) :=
  match s with
  | [] => .error .malformed
  | '[' :: cs => do
    let room ← enter [] 2 room
    (readItems room cs).map fun r => (r.map .list).widen (Nat.le_succ _)
  | '\x7b' :: cs => do
    let room ← enter [] 3 room
    match nextChar? isGap cs with
    | some ⟨'\x7d', rest, shorter⟩ => .ok ⟨.mapping [], rest, Nat.lt_succ_of_lt shorter⟩
    | _ => (readEntries room {} cs).map fun r =>
      (r.map fun table => .mapping table.entries).widen (Nat.le_succ _)
  | c :: cs =>
    if c == '"' || c == '\'' then (readQuoted c cs).map (·.map .text)
    else readScalar c cs
termination_by 2 * s.length
decreasing_by all_goals simp only [List.length_cons]; omega

/-- The items that are left of a list, through its closing bracket. A comma may stand behind the
last item, and line breaks and comments anywhere between. -/
def readItems (room : Nat) (s : Text) : Except ReadError (Reading s (List ConfigValue)) :=
  match nextInList? s with
  | none => .error .malformed
  | some ⟨']', rest, shorter⟩ => .ok ⟨[], rest, shorter⟩
  | some ⟨c, rest, shorter⟩ => do
    let item ← readValue room (c :: rest)
    have le : item.rest.length < s.length := Nat.lt_of_lt_of_le item.shorter shorter
    match nextInList? item.rest with
    | some ⟨']', rest, shorter⟩ => .ok ⟨[item.value], rest, Nat.lt_trans shorter le⟩
    | some ⟨',', rest, shorter⟩ =>
      have lt : rest.length < s.length := Nat.lt_trans shorter le
      (readItems room rest).map fun r => (r.map (item.value :: ·)).widen (Nat.le_of_lt lt)
    | _ => .error .malformed
termination_by 2 * s.length + 1
decreasing_by
  · simp only [List.length_cons]; omega
  · omega

/-- The entries of a table, after those in `table`, through its closing brace. Unlike a list it must
end on the line on which it starts. -/
def readEntries (room : Nat) (table : Draft) (s : Text) : Except ReadError (Reading s Draft) := do
  have le := length_dropWhile_le isGap s
  let entry ← readEntry room (s.dropWhile isGap)
  match table.assign false entry.value.1 entry.value.2 with
  | none => .error .malformed
  | some table =>
    match nextChar? isGap entry.rest with
    | some ⟨'\x7d', rest, shorter⟩ =>
      .ok ⟨table, rest, Nat.lt_of_lt_of_le (Nat.lt_trans shorter entry.shorter) le⟩
    | some ⟨',', rest, shorter⟩ =>
      have lt : rest.length < s.length :=
        Nat.lt_of_lt_of_le (Nat.lt_trans shorter entry.shorter) le
      (readEntries room table rest).map (·.widen (Nat.le_of_lt lt))
    | _ => .error .malformed
termination_by 2 * s.length + 1
decreasing_by all_goals omega

/-- A key and its value. -/
def readEntry (room : Nat) (s : Text) : Except ReadError (Reading s (Key × ConfigValue)) := do
  let key ← readKey s
  match nextChar? isGap key.rest with
  | some ⟨'=', behind, shorter⟩ =>
    have lt : (behind.dropWhile isGap).length < s.length :=
      Nat.lt_of_le_of_lt (length_dropWhile_le isGap behind) (Nat.lt_trans shorter key.shorter)
    let value ← readValue room (behind.dropWhile isGap)
    return (value.map fun v => (key.value, v)).widen (Nat.le_of_lt lt)
  | _ => .error .malformed
termination_by 2 * s.length
decreasing_by all_goals omega

end

/-! ## §4 Documents -/

/-- A header whose opening brackets have been passed, through the `closing` ones. -/
def readHeader (closing : Text) (s : Text) : Except ReadError (Reading s Key) := do
  have le := length_dropWhile_le isGap s
  let key ← readKey (s.dropWhile isGap)
  if closing.isPrefixOf key.rest then
    return { value := key.value, rest := key.rest.drop closing.length
             shorter := Nat.lt_of_le_of_lt (List.drop_sublist ..).length_le
               (Nat.lt_of_lt_of_le key.shorter le) }
  else .error .malformed

/-- A reading of a change to a draft, with the draft after that change. What `Draft` refuses is no
document of the format. -/
def applied {s : Text} {α : Type} (r : Reading s α) (change : α → Option Draft) :
    Except ReadError (Reading s Draft) :=
  match change r.value with
  | none => .error .malformed
  | some draft => .ok (r.map fun _ => draft)

/-- A header or an entry, with the `draft` after it. Only a header ends the current section. -/
def readStatement (room : Nat) (draft : Draft) (s : Text) : Except ReadError (Reading s Draft) :=
  match s with
  | '[' :: '[' :: cs => do
    let key ← readHeader "]]".toText cs
    applied (key.widen (Nat.le_trans (Nat.le_succ _) (Nat.le_succ _))) draft.endSection.openItem
  | '[' :: cs => do
    let key ← readHeader "]".toText cs
    applied (key.widen (Nat.le_succ _)) draft.endSection.openTable
  | s => do
    let entry ← readEntry room s
    applied entry fun (key, value) => draft.assign true key value

/-- The lines of a document, added to a `draft`. On each stands a statement, a comment or nothing.
-/
def readLines (room : Nat) (draft : Draft) (s : Text) : Except ReadError Draft :=
  match s with
  | [] => .ok draft
  | c :: cs =>
    if isGap c || c == '\n' then readLines room draft cs
    else if c == '#' then
      match h : nextLine? true cs with
      | none => .error .malformed
      | some rest =>
        have : rest.length < (c :: cs).length := Nat.lt_succ_of_le (length_le_of_nextLine? h)
        readLines room draft rest
    else do
      let statement ← readStatement room draft (c :: cs)
      match h : nextLine? false statement.rest with
      | none => .error .malformed
      | some rest =>
        have : rest.length < (c :: cs).length :=
          Nat.lt_of_le_of_lt (length_le_of_nextLine? h) statement.shorter
        readLines room statement.value rest
termination_by s.length
decreasing_by
  · exact Nat.lt_succ_self _
  all_goals assumption

/-- The value that a whole document holds: the `.mapping` that its lines build up. -/
def read (document : Text) (room : Nat := callRoom) : Except ReadError ConfigValue :=
  (readLines room {} document).map fun draft => .mapping draft.entries

end StyleCheck.Toml
