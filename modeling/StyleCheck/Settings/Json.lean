import StyleCheck.Settings.Numeral
import StyleCheck.Text.Scan

/-!
# Reading JSON documents

Reads the JSON of configuration files. Two liberties are taken beyond the format: the words `NaN`
and `Infinity` count as numbers, and of two entries with one key the last one counts. A byte order
mark in front of the document is refused.

A list or a mapping takes one nested call. The calls for what holds no value, such as those that
make up an error, are left out of account.

## Main definitions

- `Json.unescape`: the text that the inside of a string stands for.
- `Json.readValue`: a value off the front of a text.
- `Json.read`: a whole document.
-/

namespace StyleCheck.Json

/-! ## §1 Scalars -/

/-- White space between the parts of a document. -/
def isSpace (c : CodePoint) : Bool := c == ' ' || c == '\t' || c == '\n' || c == '\r'

/-- What a letter behind a backslash stands for; `u` announces a number and is none of them. -/
def escaped? : CodePoint → Option CodePoint
  | '"' => some '"'
  | '\\' => some '\\'
  | '/' => some '/'
  | 'b' => some '\x08'
  | 'f' => some '\x0c'
  | 'n' => some '\n'
  | 'r' => some '\r'
  | 't' => some '\t'
  | _ => none

/-- The number that an escape `\uXXXX` at the front of a text writes. -/
def escapedNumber? : Text → Option Nat
  | '\\' :: 'u' :: cs => hexNumber? 4 cs
  | _ => none

/-- The text that the characters between two quotes stand for.

The number of an escape may be that of a surrogate, so what comes out need not be a text that can be
printed; two of them in a row are joined by `CodePoint.joined?`. -/
def unescape (s : Text) : Option Text :=
  match s with
  | [] => some []
  | '\\' :: 'u' :: cs => do
    let number ← hexNumber? 4 cs
    let behind := cs.drop 4
    -- Two surrogates make a character only where both are escapes, one right behind the other.
    match (escapedNumber? behind).bind (CodePoint.joined? number) with
    | some whole => return whole :: (← unescape (behind.drop 6))
    | none => return .ofNat number :: (← unescape behind)
  | '\\' :: letter :: cs => do return (← escaped? letter) :: (← unescape cs)
  | c :: cs => if c.toNat < 0x20 || c == '\\' then none else return c :: (← unescape cs)
termination_by s.length
decreasing_by all_goals simp only [List.length_cons, List.length_drop]; omega

/-- A string whose opening quote has been passed. -/
def readString (cs : Text) : Except ReadError (Reading ('"' :: cs) Text) :=
  match lengthToMark? ['"'] true cs with
  | none => .error .malformed
  | some length => match unescape (cs.take length) with
    | none => .error .malformed
    | some content => .ok (.take '"' cs content (length + 1))

/-- The words with a meaning of their own. -/
def keywords : List (Text × ConfigValue) :=
  [("null".toText, .null), ("true".toText, .boolean true), ("false".toText, .boolean false),
   ("NaN".toText, .number "NaN".toText), ("Infinity".toText, .number "Infinity".toText),
   ("-Infinity".toText, .number "-Infinity".toText)]

/-- One of the `keywords`, or else a number. -/
def readScalar (c : CodePoint) (cs : Text) : Except ReadError (Reading (c :: cs) ConfigValue) :=
  match keywords.find? fun e => e.1.isPrefixOf (c :: cs) with
  | some (word, value) => .ok (.take c cs value (word.length - 1))
  | none => Numeral.read ['-'] Text.digits c cs

/-! ## §2 Values -/

/-- What goes on where there is no room for the call of one more list; `ReadError.nestedTooDeep`
carries these words. -/
def whileInList : Text := " while decoding a JSON array from a unicode string".toText

/-- The same where the next one is a mapping. -/
def whileInMapping : Text := " while decoding a JSON object from a unicode string".toText

mutual

/-- A value off the front of a text. A list and a mapping take one call each of the `room`. -/
def readValue (room : Nat) (s : Text) : Except ReadError (Reading s ConfigValue) :=
  match s with
  | [] => .error .malformed
  | '"' :: cs => (readString cs).map (·.map .text)
  | '[' :: cs => do
    let room ← enter whileInList 1 room
    match nextChar? isSpace cs with
    | some ⟨']', rest, shorter⟩ => .ok ⟨.list [], rest, Nat.lt_succ_of_lt shorter⟩
    | _ =>
      have le := length_dropWhile_le isSpace cs
      (readItems room (cs.dropWhile isSpace)).map fun r =>
        (r.map .list).widen (Nat.le_succ_of_le le)
  | '\x7b' :: cs => do
    let room ← enter whileInMapping 1 room
    match nextChar? isSpace cs with
    | some ⟨'\x7d', rest, shorter⟩ => .ok ⟨.mapping [], rest, Nat.lt_succ_of_lt shorter⟩
    | _ =>
      have le := length_dropWhile_le isSpace cs
      (readEntries room [] (cs.dropWhile isSpace)).map fun r =>
        (r.map .mapping).widen (Nat.le_succ_of_le le)
  | c :: cs => readScalar c cs
termination_by (s.length, 0)
decreasing_by all_goals exact Prod.Lex.left _ _ (Nat.lt_succ_of_le le)

/-- The items that are left of a list, through its closing bracket. All of them have the same
`room`. -/
def readItems (room : Nat) (s : Text) : Except ReadError (Reading s (List ConfigValue)) := do
  let item ← readValue room s
  match nextChar? isSpace item.rest with
  | some ⟨']', rest, shorter⟩ => .ok (item.after ⟨[item.value], rest, shorter⟩)
  | some ⟨',', rest, shorter⟩ =>
    have lt : (rest.dropWhile isSpace).length < s.length :=
      Nat.lt_of_le_of_lt (length_dropWhile_le isSpace rest) (Nat.lt_trans shorter item.shorter)
    (readItems room (rest.dropWhile isSpace)).map fun r =>
      (r.map (item.value :: ·)).widen (Nat.le_of_lt lt)
  | _ => .error .malformed
termination_by (s.length, 1)
decreasing_by
  · exact Prod.Lex.right _ Nat.zero_lt_one
  · exact Prod.Lex.left _ _ lt

/-- The entries of a mapping, after the `entries` read before, through its closing brace. -/
def readEntries (room : Nat) (entries : ConfigEntries) (s : Text) :
    Except ReadError (Reading s ConfigEntries) :=
  match s with
  | '"' :: cs => do
    let key ← readString cs
    match nextChar? isSpace key.rest with
    | some ⟨':', behind, colon⟩ =>
      have lt : (behind.dropWhile isSpace).length < (CodePoint.char '"' :: cs).length :=
        Nat.lt_of_le_of_lt (length_dropWhile_le isSpace behind) (Nat.lt_trans colon key.shorter)
      let value ← readValue room (behind.dropWhile isSpace)
      let entries := entries.put key.value value.value
      match nextChar? isSpace value.rest with
      | some ⟨'\x7d', rest, shorter⟩ =>
        .ok ⟨entries, rest, Nat.lt_trans shorter (Nat.lt_trans value.shorter lt)⟩
      | some ⟨',', rest, shorter⟩ =>
        have lt' : (rest.dropWhile isSpace).length < (CodePoint.char '"' :: cs).length :=
          Nat.lt_of_le_of_lt (length_dropWhile_le isSpace rest)
            (Nat.lt_trans shorter (Nat.lt_trans value.shorter lt))
        (readEntries room entries (rest.dropWhile isSpace)).map (·.widen (Nat.le_of_lt lt'))
      | _ => .error .malformed
    | _ => .error .malformed
  | _ => .error .malformed
termination_by (s.length, 1)
decreasing_by
  · exact Prod.Lex.left _ _ lt
  · exact Prod.Lex.left _ _ lt'

end

/-- The value that a whole document holds; nothing but white space may stand behind it. -/
def read (document : Text) (room : Nat := callRoom) : Except ReadError ConfigValue :=
  if document.head? == some '\ufeff' then .error .malformed
  else do
    let value ← readValue room (document.dropWhile isSpace)
    if value.rest.all isSpace then .ok value.value else .error .malformed

end StyleCheck.Json
