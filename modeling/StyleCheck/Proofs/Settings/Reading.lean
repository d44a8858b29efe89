import Mathlib.Algebra.GroupWithZero.Nat
import Mathlib.Data.List.TakeWhile
import Mathlib.Tactic.Common
import StyleCheck.Settings.Loading

/-!
# What readers leave, and what they refuse

Both document formats are read by readers of parts that call each other. All of them keep the same
promise: what is left of a text is an end of it, a numeral is refused for its length only where the
text holds that many digits in a row, and calls run out of room only where the brackets that open in
the text stand for more calls than there is room for. So it can be told by looking at a text,
without reading it, that nothing in it goes beyond the limits.

The promise of nested readers is kept with less room: `Sound.enter` gives back to the bracket what
the readers behind it had to do without.

## Main definitions

- `HoldsLongRow`: a text holds so many digits in a row, more than are read.
- `ConfigFormat.calls`, `callsIn`: the calls that a bracket stands for, and those of a text.
- `Warrants`, `Sound`: what a text may be refused for, and the promise of a reader of a part.

## Main statements

- `Json.sound_values`, `Toml.sound_readStatement`: the readers keep the promise.
- `ConfigFormat.warrants_of_read`: a document is refused only in a way that its text warrants.
-/

namespace StyleCheck

/-! ## §1 Rows of digits -/

/-- A text holds so many `digits` in a row, and they are more than are read.

Underscores may stand between the digits, as they may in TOML; JSON has none, but the condition need
not tell the formats apart. -/
def HoldsLongRow (digits : Nat) (s : Text) : Prop :=
  digitLimit < digits ∧ ∃ row, row <:+: s ∧ (∀ c ∈ row, Text.isDigit c = true ∨ c = '_') ∧
    row.countP Text.isDigit = digits

theorem HoldsLongRow.mono {digits : Nat} {s t : Text} (h : HoldsLongRow digits s)
    (part : s <:+: t) : HoldsLongRow digits t := by
  obtain ⟨beyond, row, inside, only, count⟩ := h
  exact ⟨beyond, row, inside.trans part, only, count⟩

/-- What a format takes for a run of digits: the characters at the front of a text that are digits,
or digits and underscores. `Numeral.read` has such a run as a parameter. -/
structure TakesDigits (digits : Text → Text) : Prop where
  isPrefix : ∀ cs, digits cs <+: cs
  only : ∀ cs, ∀ c ∈ digits cs, Text.isDigit c = true ∨ c = '_'

theorem takesDigits_digits : TakesDigits Text.digits where
  isPrefix _ := List.takeWhile_prefix _
  only _ _ among := .inl (List.mem_takeWhile_imp among)

/-! ## §2 Brackets that open -/

/-- The nested calls that a bracket stands for where it opens: one in JSON, and in TOML two for a
list and three for an inline table. No other character stands for any.

These are the calls of the reader between the bracket and the value that is nested in it. -/
def ConfigFormat.calls : ConfigFormat → CodePoint → Nat
  | json, c => if c = '[' ∨ c = '\x7b' then 1 else 0
  | toml, c => if c = '[' then 2 else if c = '\x7b' then 3 else 0

/-- The calls that the characters of a text stand for. Brackets inside of strings count as well, so
this is more than reading the text ever needs. -/
def callsIn (calls : CodePoint → Nat) (s : Text) : Nat := (s.map calls).sum

theorem callsIn_cons (calls : CodePoint → Nat) (c : CodePoint) (cs : Text) :
    callsIn calls (c :: cs) = calls c + callsIn calls cs := by
  rw [callsIn, List.map_cons, List.sum_cons, callsIn]

/-- An end of a text stands for no more `calls` than the text. -/
theorem callsIn_le_of_suffix {calls : CodePoint → Nat} {s t : Text} (ending : s <:+ t) :
    callsIn calls s ≤ callsIn calls t := by
  obtain ⟨front, rfl⟩ := ending
  rw [callsIn, callsIn, List.map_append, List.sum_append]
  exact Nat.le_add_left _ _

namespace Toml

/-- Behind a first digit, digits and single underscores are a run. -/
theorem takesDigits_moreDigits : TakesDigits (moreDigits Text.isDigit) := by
  constructor
  · -- First that a run is a beginning of the text, and then what characters it has.
    intro cs
    fun_induction moreDigits Text.isDigit cs with
    | case1 => exact List.prefix_rfl
    | case2 c cs digit ih => exact (List.prefix_append_right_inj [CodePoint.char '_', c]).mpr ih
    | case3 => exact List.nil_prefix
    | case4 c cs _ digit ih => exact (List.prefix_cons_inj c).mpr ih
    | case5 => exact List.nil_prefix
  · intro cs
    fun_induction moreDigits Text.isDigit cs with
    | case1 => simp
    | case2 c cs digit ih => simpa [digit] using ih
    | case3 => simp
    | case4 c cs _ digit ih => simpa [digit] using ih
    | case5 => simp

/-- Digits in groups are a run, which is what TOML reads. The first digit is read by itself, and the
rest by `takesDigits_moreDigits`. -/
theorem takesDigits_groupedDigits : TakesDigits (groupedDigits Text.isDigit) := by
  constructor
  · intro cs
    fun_cases groupedDigits Text.isDigit cs with
    | case1 => exact List.prefix_rfl
    | case2 c cs digit => exact (List.prefix_cons_inj c).mpr (takesDigits_moreDigits.isPrefix cs)
    | case3 => exact List.nil_prefix
  · intro cs
    fun_cases groupedDigits Text.isDigit cs with
    | case1 => simp
    | case2 c cs digit => simpa [digit] using takesDigits_moreDigits.only cs
    | case3 => simp

end Toml

/-! ## §3 The promise of a reader -/

variable {calls : CodePoint → Nat} {room : Nat}

/-- The text warrants that it is refused in this way, with room for so many nested calls.

A text is malformed if nothing else is said. It is refused for a numeral only if it holds a
`HoldsLongRow`, and for want of room only if its characters stand for more calls than there is room
for, which `callsIn` counts. -/
def Warrants (calls : CodePoint → Nat) (room : Nat) (s : Text) : ReadError → Prop
  | .malformed => True
  | .numeralTooLong digits => HoldsLongRow digits s
  | .nestedTooDeep _ => room < callsIn calls s

theorem Warrants.mono {s t : Text} {e : ReadError} (h : Warrants calls room s e)
    (ending : s <:+ t) : Warrants calls room t e := by
  cases e with
  | malformed => trivial
  | numeralTooLong digits => exact HoldsLongRow.mono h ending.isInfix
  | nestedTooDeep activity => exact Nat.lt_of_lt_of_le h (callsIn_le_of_suffix ending)

/-- What comes of reading a part of a document off the front of a text, with `room` for so many
nested calls: what is left is an end of the text, or the text warrants that it is refused.

Nothing is said of the value that is read. -/
inductive Sound (calls : CodePoint → Nat) (room : Nat) (s : Text) {source : Text} {α : Type} :
    Except ReadError (Reading source α) → Prop
  | read {r : Reading source α} : r.rest <:+ s → Sound calls room s (.ok r)
  | refused {e : ReadError} : Warrants calls room s e → Sound calls room s (.error e)

namespace Sound

variable {s t source source' : Text} {α β : Type} {x : Except ReadError (Reading source α)}

theorem malformed : Sound calls room s (.error .malformed : Except ReadError (Reading source α)) :=
  .refused trivial

theorem mono (h : Sound calls room s x) (ending : s <:+ t) : Sound calls room t x := by
  cases h with
  | read left => exact .read (left.trans ending)
  | refused warrants => exact .refused (warrants.mono ending)

/-- Another value, or another account of what was read, changes nothing about the rest. -/
theorem map {f : Reading source α → Reading source' β} (h : Sound calls room s x)
    (same : ∀ r, (f r).rest = r.rest) : Sound calls room s (x.map f) := by
  cases h with
  | read left => exact .read (same _ ▸ left)
  | refused warrants => exact .refused warrants

/-- What is read behind a first part is read off an end of the text, and so it is `Sound` as a part
of the whole. -/
theorem bind {f : Reading source α → Except ReadError (Reading source' β)}
    (h : Sound calls room s x) (next : ∀ r, r.rest <:+ s → Sound calls room s (f r)) :
    Sound calls room s (x >>= f) := by
  cases h with
  | read left => exact next _ left
  | refused warrants => exact .refused warrants

theorem take {c : CodePoint} {cs : Text} {value : α} {count : Nat} :
    Sound calls room (c :: cs) (.ok (Reading.take c cs value count)) :=
  .read ((List.drop_suffix count cs).trans (List.suffix_cons c cs))

/-- What is read behind a bracket that opens is read with less `room`, namely without that for the
calls that the bracket stands for.

This is where the two counts meet: the room goes down by what the bracket costs, and the calls of
the text behind it are fewer by the same number. -/
theorem enter {c : CodePoint} {cs activity : Text} {cost : Nat}
    {f : Nat → Except ReadError (Reading source α)} (stands : calls c = cost)
    (inside : ∀ room, Sound calls room cs (f room)) :
    Sound calls room (c :: cs) (StyleCheck.enter activity cost room >>= f) := by
  subst stands
  have behind : cs <:+ c :: cs := List.suffix_cons c cs
  unfold StyleCheck.enter
  split
  · next enough =>
    show Sound calls room (c :: cs) (f (room - calls c))
    generalize result : f (room - calls c) = x
    cases result ▸ inside (room - calls c) with
    | read left => exact .read (left.trans behind)
    | @refused e warrants =>
      refine .refused ?_
      cases e with
      | malformed => trivial
      | numeralTooLong digits => exact HoldsLongRow.mono warrants behind.isInfix
      | nestedTooDeep activity =>
        -- The calls that the bracket stands for make up for the room that it takes.
        have beyond : room - calls c < callsIn calls cs := warrants
        show room < callsIn calls (c :: cs)
        rw [callsIn_cons]
        omega
  · next none =>
    refine .refused ?_
    show room < callsIn calls (c :: cs)
    rw [callsIn_cons]
    omega

/-- A text is refused only in a way that it `Warrants`. -/
theorem warrants (h : Sound calls room s x) {e : ReadError} (refused : x = .error e) :
    Warrants calls room s e := by
  cases h with
  | read => cases refused
  | refused warrants => cases refused; exact warrants

end Sound

section Skipping

variable {skipped : CodePoint → Bool} {s : Text}

theorem nextChar?_suffix {r : Reading s CodePoint} (h : nextChar? skipped s = some r) :
    r.rest <:+ s := by
  unfold nextChar? at h
  split at h
  · cases h
  · next c rest front =>
    cases h
    have whole : c :: rest <:+ s := front ▸ List.dropWhile_suffix skipped
    exact (List.suffix_cons c rest).trans whole

/-- What stands behind a next character and what is skipped after it is an end of whatever the text
is an end of. -/
theorem nextChar?_behind_suffix {t : Text} {r : Reading s CodePoint}
    (h : nextChar? skipped s = some r) (left : s <:+ t) : r.rest.dropWhile skipped <:+ t :=
  (List.dropWhile_suffix skipped).trans ((nextChar?_suffix h).trans left)

theorem Toml.skipLines?_suffix {inComment : Bool} {rest : Text}
    (h : Toml.skipLines? inComment s = some rest) : rest <:+ s := by
  induction s generalizing inComment with
  | nil => cases h; exact List.suffix_rfl
  | cons c cs ih =>
    have later {inComment : Bool} (h : Toml.skipLines? inComment cs = some rest) :
        rest <:+ c :: cs := (ih h).trans (List.suffix_cons c cs)
    unfold Toml.skipLines? at h
    grind

theorem Toml.nextLine?_suffix {inComment : Bool} {rest : Text}
    (h : Toml.nextLine? inComment s = some rest) : rest <:+ s := by
  induction s generalizing inComment with
  | nil => cases h; exact List.suffix_rfl
  | cons c cs ih =>
    have later {inComment : Bool} (h : Toml.nextLine? inComment cs = some rest) :
        rest <:+ c :: cs := (ih h).trans (List.suffix_cons c cs)
    unfold Toml.nextLine? at h
    grind

theorem Toml.nextInList?_suffix {r : Reading s CodePoint} (h : Toml.nextInList? s = some r) :
    r.value :: r.rest <:+ s := by
  unfold Toml.nextInList? at h
  split at h
  · next c rest skips =>
    cases h
    exact Toml.skipLines?_suffix skips
  · cases h

end Skipping

/-! ## §4 Numerals -/

namespace Numeral

variable {digits : Text → Text}

/-- The whole digits of a numeral are a run of digits as well, be it a zero alone or what `digits`
takes. -/
theorem takesDigits_scanWhole (takes : TakesDigits digits) : TakesDigits (scanWhole digits) := by
  constructor
  · intro cs
    unfold scanWhole
    split
    · exact List.cons_prefix_cons.mpr ⟨rfl, List.nil_prefix⟩
    · exact takes.isPrefix _
  · intro cs
    unfold scanWhole
    split
    · decide
    · exact takes.only _

/-- To read a numeral is sound. It is refused for its length only where its whole digits, which
stand in the text, are more than `digitLimit`. -/
theorem sound_read (takes : TakesDigits digits) (signs : Text) (c : CodePoint) (cs : Text) :
    Sound calls room (c :: cs) (read signs digits c cs) := by
  unfold read
  dsimp only
  split
  · exact .malformed
  · split
    · next beyond =>
      -- The row is that of the whole digits, which stand behind the sign.
      rw [Bool.and_eq_true, decide_eq_true_eq] at beyond
      refine .refused ⟨beyond.2, (scan signs digits (c :: cs)).whole, ?_, ?_, ?_⟩
      · have front := (takesDigits_scanWhole takes).isPrefix
        exact (front _).isInfix.trans (List.drop_suffix _ _).isInfix
      · exact (takesDigits_scanWhole takes).only _
      · rw [digitCount, List.countP_eq_length_filter]
    · exact .take

end Numeral

/-! ## §5 JSON -/

namespace Json

theorem sound_readString (cs : Text) : Sound calls room ('"' :: cs) (readString cs) := by
  unfold readString
  split
  · exact .malformed
  · split
    · exact .malformed
    · exact .take

theorem sound_readScalar (c : CodePoint) (cs : Text) :
    Sound calls room (c :: cs) (readScalar c cs) := by
  unfold readScalar
  split
  · exact .take
  · exact Numeral.sound_read takesDigits_digits _ c cs

section Values

variable {s : Text}

/-- Behind a bracket, items and entries are read with less room, so they have to be `Sound` with
any. -/
theorem sound_readValue_of
    (items : ∀ room t, t.length < s.length →
      Sound ConfigFormat.json.calls room t (readItems room t))
    (entries : ∀ room t, t.length < s.length →
      Sound ConfigFormat.json.calls room t (readEntries room [] t)) :
    Sound ConfigFormat.json.calls room s (readValue room s) := by
  rw [readValue.eq_def]
  split
  · exact .malformed
  · next cs => exact (sound_readString cs).map fun _ => rfl
  · next cs =>
    -- A list is empty, or its items follow behind white space; a mapping is read alike.
    refine .enter (by decide) fun room => ?_
    split
    · next closes => exact .read (nextChar?_suffix closes)
    · refine .map (.mono (items room _ ?_) (List.dropWhile_suffix isSpace)) fun _ => rfl
      exact Nat.lt_succ_of_le (length_dropWhile_le isSpace cs)
  · next cs =>
    refine .enter (by decide) fun room => ?_
    split
    · next closes => exact .read (nextChar?_suffix closes)
    · refine .map (.mono (entries room _ ?_) (List.dropWhile_suffix isSpace)) fun _ => rfl
      exact Nat.lt_succ_of_le (length_dropWhile_le isSpace cs)
  · exact sound_readScalar _ _

/-- Items are sound where a value is and where further items are. The comma and the bracket behind
an item are `nextChar?` of what it leaves. -/
theorem sound_readItems_of (value : Sound calls room s (readValue room s))
    (items : ∀ t, t.length < s.length → Sound calls room t (readItems room t)) :
    Sound calls room s (readItems room s) := by
  rw [readItems.eq_def]
  refine value.bind fun item left => ?_
  dsimp only
  -- Behind the item the list is closed, or goes on behind a comma.
  split
  · next closes => exact .read ((nextChar?_suffix closes).trans left)
  · next rest shorter comma =>
    have ending : rest.dropWhile isSpace <:+ s := nextChar?_behind_suffix comma left
    refine .map (.mono (items _ ?_) ending) fun _ => rfl
    exact Nat.lt_of_le_of_lt (length_dropWhile_le isSpace rest) (Nat.lt_trans shorter item.shorter)
  · exact .malformed

/-- Entries are sound where values are and where further entries are. -/
theorem sound_readEntries_of
    (value : ∀ t, t.length < s.length → Sound calls room t (readValue room t))
    (more : ∀ entries t, t.length < s.length → Sound calls room t (readEntries room entries t))
    (entries : ConfigEntries) : Sound calls room s (readEntries room entries s) := by
  rw [readEntries.eq_def]
  split
  · next cs =>
    refine (sound_readString cs).bind fun key left => ?_
    dsimp only
    -- A colon and a value belong to the key; then the mapping is closed, or goes on behind a comma.
    split
    · next behind shorter colon =>
      have ending : behind.dropWhile isSpace <:+ '"' :: cs := nextChar?_behind_suffix colon left
      have lt := Nat.lt_of_le_of_lt (length_dropWhile_le isSpace behind)
        (Nat.lt_trans shorter key.shorter)
      refine ((value _ lt).mono ending).bind fun read left' => ?_
      split
      · next closes => exact .read ((nextChar?_suffix closes).trans left')
      · next rest shorter' comma =>
        have ending' : rest.dropWhile isSpace <:+ '"' :: cs := nextChar?_behind_suffix comma left'
        refine .map (.mono (more _ _ ?_) ending') fun _ => rfl
        exact Nat.lt_of_le_of_lt (length_dropWhile_le isSpace rest)
          (Nat.lt_trans shorter' (Nat.lt_trans read.shorter lt))
      · exact .malformed
    · exact .malformed
  · exact .malformed

end Values

/-- Values, items and entries call each other for ever shorter texts, with whatever `room` is left.

So the induction is on the length of the text, for all rooms, and the three are proved together;
each of the lemmas above takes what it needs of the others as a hypothesis. -/
theorem sound_values (room : Nat) (s : Text) :
    Sound ConfigFormat.json.calls room s (readValue room s) ∧
      Sound ConfigFormat.json.calls room s (readItems room s) ∧
      ∀ entries, Sound ConfigFormat.json.calls room s (readEntries room entries s) := by
  induction n : s.length using Nat.strongRecOn generalizing room s with
  | _ n ih =>
    subst n
    have value : Sound ConfigFormat.json.calls room s (readValue room s) :=
      sound_readValue_of (fun room t lt => (ih _ lt room t rfl).2.1)
        fun room t lt => (ih _ lt room t rfl).2.2 []
    refine ⟨value, ?_, ?_⟩
    · exact sound_readItems_of value fun t lt => (ih _ lt room t rfl).2.1
    · exact sound_readEntries_of (fun t lt => (ih _ lt room t rfl).1)
        fun entries t lt => (ih _ lt room t rfl).2.2 entries

/-- A JSON document is refused only in a way that its text warrants. -/
theorem warrants_of_read {document : Text} {e : ReadError}
    (refused : read document room = .error e) :
    Warrants ConfigFormat.json.calls room document e := by
  unfold read at refused
  split at refused
  · cases refused; trivial
  · cases value : readValue room (document.dropWhile isSpace) with
    | ok r =>
      -- Whatever stands behind the value makes the document malformed and nothing else.
      simp only [value, bind, Except.bind] at refused
      split at refused <;> cases refused
      trivial
    | error e =>
      simp only [value, bind, Except.bind] at refused
      cases refused
      have warrants := (sound_values room _).1.warrants value
      exact warrants.mono (List.dropWhile_suffix isSpace)

end Json

/-! ## §6 TOML -/

namespace Toml

section Strings

variable (quote : CodePoint) (cs : Text)

theorem sound_readShort : Sound calls room (quote :: cs) (readShort quote cs) := by
  unfold readShort
  split
  · exact .malformed
  · split
    · exact .malformed
    · exact .take

theorem sound_readLong : Sound calls room (quote :: cs) (readLong quote cs) := by
  unfold readLong
  dsimp only
  split
  · exact .malformed
  · split
    · exact .malformed
    · exact .take

theorem sound_readQuoted : Sound calls room (quote :: cs) (readQuoted quote cs) := by
  unfold readQuoted
  split
  · exact sound_readLong quote cs
  · exact sound_readShort quote cs

end Strings

/-- To read a TOML scalar is sound. Words, days and times may be read, and numbers in a named base
have no limit. -/
theorem sound_readScalar (c : CodePoint) (cs : Text) :
    Sound calls room (c :: cs) (readScalar c cs) := by
  unfold readScalar
  dsimp only
  -- Words, days and times are tried first; of the numbers, those in a named base have no limit.
  split
  · exact .take
  · split
    · split
      · exact .take
      · exact .malformed
    · split
      · exact .take
      · split
        · exact Numeral.sound_read takesDigits_groupedDigits _ c cs
        · exact .take

theorem sound_readName (s : Text) : Sound calls room s (readName s) := by
  unfold readName
  split
  · exact .malformed
  · split
    · exact .take
    · split
      · exact sound_readShort _ _
      · exact .malformed

/-- To read a key, with points between its parts, is sound. -/
theorem sound_readKey (s : Text) : Sound calls room s (readKey s) := by
  -- Behind a point a shorter key is read.
  induction n : s.length using Nat.strongRecOn generalizing s with
  | _ n ih =>
    subst n
    rw [readKey]
    refine (sound_readName s).bind fun name left => ?_
    dsimp only
    split
    · next behind shorter point =>
      have ending : behind.dropWhile isGap <:+ s := nextChar?_behind_suffix point left
      refine .map (.mono (ih _ ?_ _ rfl) ending) fun _ => rfl
      have lt := Nat.lt_trans shorter name.shorter
      exact Nat.lt_of_le_of_lt (length_dropWhile_le isGap behind) lt
    · exact .read ((List.dropWhile_suffix isGap).trans left)

section Values

variable {s : Text}

/-- A value is sound where the items of lists and the entries of tables are, with any room. A list
or a table costs more calls here than in JSON. -/
theorem sound_readValue_of
    (items : ∀ room t, t.length < s.length →
      Sound ConfigFormat.toml.calls room t (readItems room t))
    (entries : ∀ room t, t.length < s.length →
      Sound ConfigFormat.toml.calls room t (readEntries room {} t)) :
    Sound ConfigFormat.toml.calls room s (readValue room s) := by
  rw [readValue.eq_def]
  split
  · exact .malformed
  · next cs =>
    exact .enter (by decide) fun room => (items room cs (Nat.lt_succ_self _)).map fun _ => rfl
  · next cs =>
    refine .enter (by decide) fun room => ?_
    split
    · next closes => exact .read (nextChar?_suffix closes)
    · exact (entries room cs (Nat.lt_succ_self _)).map fun _ => rfl
  · split
    · exact (sound_readQuoted _ _).map fun _ => rfl
    · exact sound_readScalar _ _

/-- Items are sound where values are, also at a text that is no shorter: an item may start where the
list does. -/
theorem sound_readItems_of
    (value : ∀ t, t.length ≤ s.length → Sound calls room t (readValue room t))
    (items : ∀ t, t.length < s.length → Sound calls room t (readItems room t)) :
    Sound calls room s (readItems room s) := by
  rw [readItems.eq_def]
  split
  · exact .malformed
  · next closes => exact .read ((List.suffix_cons _ _).trans (nextInList?_suffix closes))
  · next c rest shorter _ starts =>
    refine ((value (c :: rest) shorter).mono (nextInList?_suffix starts)).bind fun item left => ?_
    have lt : item.rest.length < s.length := Nat.lt_of_lt_of_le item.shorter shorter
    dsimp only
    split
    · next closes =>
      have ending := (nextInList?_suffix closes).trans left
      exact .read ((List.suffix_cons _ _).trans ending)
    · next rest' shorter' comma =>
      have ending : rest' <:+ s :=
        (List.suffix_cons _ _).trans ((nextInList?_suffix comma).trans left)
      exact .map ((items _ (Nat.lt_trans shorter' lt)).mono ending) fun _ => rfl
    · exact .malformed

/-- An entry is sound where the value behind its key is. -/
theorem sound_readEntry_of
    (value : ∀ t, t.length < s.length → Sound calls room t (readValue room t)) :
    Sound calls room s (readEntry room s) := by
  rw [readEntry.eq_def]
  refine (sound_readKey s).bind fun key left => ?_
  dsimp only
  split
  · next behind shorter equals =>
    have ending : behind.dropWhile isGap <:+ s := nextChar?_behind_suffix equals left
    have lt := Nat.lt_of_le_of_lt (length_dropWhile_le isGap behind)
      (Nat.lt_trans shorter key.shorter)
    exact ((value _ lt).mono ending).bind fun read left' => .read left'
  · exact .malformed

/-- The entries of an inline table are sound where single entries are and where further ones are. -/
theorem sound_readEntries_of
    (entry : ∀ t, t.length ≤ s.length → Sound calls room t (readEntry room t))
    (more : ∀ table t, t.length < s.length → Sound calls room t (readEntries room table t))
    (table : Draft) : Sound calls room s (readEntries room table s) := by
  rw [readEntries.eq_def]
  have le := length_dropWhile_le isGap s
  refine ((entry _ le).mono (List.dropWhile_suffix isGap)).bind fun read left => ?_
  -- The entry may be refused for its key; then the table is closed, or goes on behind a comma.
  split
  · exact .malformed
  · split
    · next closes => exact .read ((nextChar?_suffix closes).trans left)
    · next rest shorter comma =>
      have ending : rest <:+ s := (nextChar?_suffix comma).trans left
      refine .map (.mono (more _ _ ?_) ending) fun _ => rfl
      exact Nat.lt_of_lt_of_le (Nat.lt_trans shorter read.shorter) le
    · exact .malformed

end Values

/-- Values, items and entries call each other for texts that get shorter; a list or a table reads
its first item or entry off a text that need not be shorter. -/
theorem sound_values (room : Nat) (s : Text) :
    Sound ConfigFormat.toml.calls room s (readValue room s) ∧
      Sound ConfigFormat.toml.calls room s (readItems room s) ∧
      Sound ConfigFormat.toml.calls room s (readEntry room s) ∧
      ∀ table, Sound ConfigFormat.toml.calls room s (readEntries room table s) := by
  induction n : s.length using Nat.strongRecOn generalizing room s with
  | _ n ih =>
    subst n
    have value (t : Text) (le : t.length ≤ s.length) :
        Sound ConfigFormat.toml.calls room t (readValue room t) := by
      apply sound_readValue_of
      · exact fun room u lt => (ih _ (Nat.lt_of_lt_of_le lt le) room u rfl).2.1
      · exact fun room u lt => (ih _ (Nat.lt_of_lt_of_le lt le) room u rfl).2.2.2 {}
    have entry (t : Text) (le : t.length ≤ s.length) :
        Sound ConfigFormat.toml.calls room t (readEntry room t) :=
      sound_readEntry_of fun u lt => (ih _ (Nat.lt_of_lt_of_le lt le) room u rfl).1
    refine ⟨value s le_rfl, ?_, entry s le_rfl, ?_⟩
    · exact sound_readItems_of value fun t lt => (ih _ lt room t rfl).2.1
    · exact sound_readEntries_of entry fun table t lt => (ih _ lt room t rfl).2.2.2 table

theorem sound_readHeader (closing s : Text) : Sound calls room s (readHeader closing s) := by
  unfold readHeader
  have ending : s.dropWhile isGap <:+ s := List.dropWhile_suffix isGap
  refine ((sound_readKey _).mono ending).bind fun key left => ?_
  split
  · exact .read ((List.drop_suffix _ _).trans left)
  · exact .malformed

theorem sound_applied {s source : Text} {α : Type} {r : Reading source α} (left : r.rest <:+ s)
    (change : α → Option Draft) : Sound calls room s (applied r change) := by
  unfold applied
  split
  · exact .malformed
  · exact .read left

/-- To read a statement is sound, be it a header or an entry. -/
theorem sound_readStatement (draft : Draft) (s : Text) :
    Sound ConfigFormat.toml.calls room s (readStatement room draft s) := by
  unfold readStatement
  -- Two opening brackets are tried before one, and what starts with neither is an entry.
  split
  · next cs =>
    have ending : cs <:+ '[' :: '[' :: cs := ⟨['[', '['], rfl⟩
    refine ((sound_readHeader _ cs).mono ending).bind fun key left => ?_
    apply sound_applied
    exact left
  · next cs _ =>
    have ending : cs <:+ '[' :: cs := List.suffix_cons _ cs
    refine ((sound_readHeader _ cs).mono ending).bind fun key left => ?_
    apply sound_applied
    exact left
  · exact (sound_values room _).2.2.1.bind fun entry left => sound_applied left _

/-- What is refused of a document is one of its statements. -/
theorem warrants_of_readLines {draft : Draft} {s : Text} {e : ReadError}
    (refused : readLines room draft s = .error e) :
    Warrants ConfigFormat.toml.calls room s e := by
  fun_induction readLines room draft s with
  | case1 => cases refused
  | case2 draft c cs _ ih => exact (ih refused).mono (List.suffix_cons c cs)
  | case3 => cases refused; trivial
  | case4 draft c cs _ _ rest line _ ih =>
    have ending : rest <:+ c :: cs := (nextLine?_suffix line).trans (List.suffix_cons c cs)
    exact (ih refused).mono ending
  | case5 draft c cs _ _ ih =>
    have sound : Sound ConfigFormat.toml.calls room (c :: cs)
        (readStatement room draft (c :: cs)) := sound_readStatement draft (c :: cs)
    cases statement : readStatement room draft (c :: cs) with
    | error e =>
      rw [statement] at refused
      cases refused
      exact sound.warrants statement
    | ok r =>
      -- The statement was read, so what is refused stands on a later line.
      rw [statement] at refused sound
      dsimp only [bind, Except.bind] at refused
      split at refused
      · cases refused; trivial
      · next rest line =>
        cases sound with
        | read left => exact (ih r rest line refused).mono ((nextLine?_suffix line).trans left)

/-- A TOML document is refused only in a way that its text warrants: some statement is refused, and
it stands in the text. -/
theorem warrants_of_read {document : Text} {e : ReadError}
    (refused : read document room = .error e) :
    Warrants ConfigFormat.toml.calls room document e := by
  cases lines : readLines room {} document with
  | ok draft =>
    rw [read, lines] at refused
    cases refused
  | error e =>
    rw [read, lines] at refused
    cases refused
    exact warrants_of_readLines lines

end Toml

/-! ## §7 Both formats -/

/-- A document is refused only in a way that its text `Warrants`, in whichever format it is read. -/
theorem ConfigFormat.warrants_of_read {format : ConfigFormat} {document : Text} {e : ReadError}
    (refused : format.read document room = .error e) :
    Warrants format.calls room document e := by
  cases format with
  | json => exact Json.warrants_of_read refused
  | toml =>
    cases reads : Toml.read document room with
    | ok value =>
      rw [ConfigFormat.read, reads] at refused
      cases refused
    | error e =>
      rw [ConfigFormat.read, reads] at refused
      cases refused
      exact Toml.warrants_of_read reads

end StyleCheck
