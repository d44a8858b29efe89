import StyleCheck.Proofs.Token.Stream
import StyleCheck.Proofs.Value.Lexeme

/-!
# The tokens of a value

A value is cut into tokens without a gap, and so is the argument list of every call in it, in the
coordinates of the whole value.

## Main definitions

- `firstToken`: the token that is made of the first lexeme.
- `IsCall`, `ArgumentSpan`: calls, and where their arguments stand.
- `EndsPart`: what may follow a part of a value that is lexed on its own.

## Main statements

- `EndsPart.read_eq`: what takes no closing parenthesis is read of a part as of the whole value.
- `lexFrom_induction`: induction along the tokens of a text, into the arguments of calls as well.
- `exists_firstToken_ahead`: every token, at any depth, is made from the front of what lies ahead.
- `lex_covers`: tokens cover the text, and arguments their call, at every depth.
-/

namespace StyleCheck.Value

open Text
open Token (flatten)

variable {lexicon : Lexicon}

/-! ## §1 One token -/

/-- The token that the first lexeme of the text `c :: cs` makes at a position.

If the lexeme has arguments, these are lexed again, and their tokens are the children. -/
def firstToken (lexicon : Lexicon) (position : Nat) (c : CodePoint) (cs : Text) : Token where
  kind := (Lexeme.read lexicon c cs).kind
  text := c :: (Lexeme.read lexicon c cs).tail
  start := position
  stop := (position + 1 + (Lexeme.read lexicon c cs).tail.length : Nat)
  children := match (Lexeme.read lexicon c cs).arguments with
    | none => []
    | some (skip, length) => lexFrom lexicon (position + 1 + skip) ((cs.drop skip).take length)

theorem lexFrom_nil (position : Nat) : lexFrom lexicon position [] = [] := by
  rw [lexFrom]

/-- The lexer of values is a lexing loop, told by what `Lexeme.read` takes. -/
theorem takesTail (lexicon : Lexicon) : TakesTail (lexFrom lexicon) (firstToken lexicon)
    fun _ c cs => (Lexeme.read lexicon c cs).tail where
  isPrefix _ c cs := (Lexeme.reads_read lexicon c).isPrefix cs
  text _ _ _ := rfl
  start _ _ _ := rfl
  stop _ _ _ := rfl
  nil := lexFrom_nil
  cons position c cs := by
    rw [lexFrom]
    rfl

/-- So all that holds of such loops holds of it, in particular `Lexes.tiles`. -/
theorem lexes (lexicon : Lexicon) : Lexes (lexFrom lexicon) (firstToken lexicon) :=
  (takesTail lexicon).lexes

theorem children_of_plain {position : Nat} {c : CodePoint} {cs : Text}
    (plain : (Lexeme.read lexicon c cs).arguments = none) :
    (firstToken lexicon position c cs).children = [] := by
  rw [firstToken, plain]

/-! ## §2 Calls -/

/-- A call: the token of a function that is written with an argument list. A bare `.function` is
none. -/
def IsCall (t : Token) : Prop := t.kind = .function ∧ CodePoint.char '(' ∈ t.text

/-- The arguments of a call stand between two offsets: behind the first opening parenthesis, and in
front of the one that closes it or up to the end of the token.

The text of the token tells which offsets these are, by `ArgumentSpan.unique`. -/
def ArgumentSpan (t : Token) (low high : Int) : Prop :=
  ∃ name arguments close, t.text = name ++ CodePoint.char '(' :: (arguments ++ close) ∧
    CodePoint.char '(' ∉ name ∧ Lexeme.ClosedBy arguments close ∧
    low = t.start + (name.length + 1) ∧ high = low + arguments.length

/-- A text has one first opening parenthesis.

So the name of a call and what stands behind it are told by its text. -/
theorem eq_of_append_open {name name' rest rest' : Text} (none : CodePoint.char '(' ∉ name)
    (none' : CodePoint.char '(' ∉ name')
    (same : name ++ CodePoint.char '(' :: rest = name' ++ CodePoint.char '(' :: rest') :
    name = name' ∧ rest = rest' := by
  obtain rfl : name = name' := by
    rw [← upTo_append none rest, same, upTo_append none' rest']
  exact ⟨rfl, List.tail_eq_of_cons_eq (List.append_cancel_left same)⟩

/-- A token has at most one argument span: closed arguments and open ones cannot be taken for each
other. -/
theorem ArgumentSpan.unique {t : Token} {low high low' high' : Int} (h : ArgumentSpan t low high)
    (h' : ArgumentSpan t low' high') : low = low' ∧ high = high' := by
  obtain ⟨name, arguments, close, text, none, closed, rfl, rfl⟩ := h
  obtain ⟨name', arguments', close', text', none', closed', rfl, rfl⟩ := h'
  rw [text] at text'
  obtain ⟨rfl, behind⟩ := eq_of_append_open none none' text'
  have same : arguments = arguments' := by
    -- Arguments end at their parenthesis or with the text. Of one text, both cannot hold, since a
    -- text that never overcloses does not go on with the parenthesis.
    obtain ⟨rfl, balanced⟩ | ⟨rfl, never⟩ := closed <;>
      obtain ⟨rfl, balanced'⟩ | ⟨rfl, never'⟩ := closed'
    · exact List.append_cancel_right behind
    · rw [List.append_nil] at behind
      exact absurd (behind ▸ never') (not_neverOvercloses_of_balanced balanced)
    · rw [List.append_nil] at behind
      exact absurd (behind ▸ never) (not_neverOvercloses_of_balanced balanced')
    · simpa using behind
  subst same
  exact ⟨rfl, rfl⟩

namespace Lexeme.CallParts

variable {c : CodePoint} {name arguments close rest : Text}

/-- The token of a call: its children are the tokens of its arguments.

The arguments start behind the name and the parenthesis, so their tokens are made at `position +
(name.length + 2)`, counting the first character `c`. -/
theorem first_eq (h : CallParts lexicon c name arguments close rest) (position : Nat) :
    firstToken lexicon position c (name ++ CodePoint.char '(' :: (arguments ++ close) ++ rest) =
      { kind := .function, text := c :: (name ++ CodePoint.char '(' :: (arguments ++ close))
        start := position
        stop := (position + 1 + (name ++ CodePoint.char '(' :: (arguments ++ close)).length : Nat)
        children := lexFrom lexicon (position + (name.length + 2)) arguments } := by
  -- Behind the name and the parenthesis lie the arguments.
  have behind : (name ++ CodePoint.char '(' :: (arguments ++ close) ++ rest).drop
      (name.length + 1) = arguments ++ (close ++ rest) := by
    rw [List.append_assoc, List.drop_length_add_append, List.cons_append, List.append_assoc]
    rfl
  rw [firstToken, h.read_eq]
  simp only [behind, List.take_left, Token.mk.injEq, true_and]
  rw [Nat.add_assoc, Nat.add_comm 1]

/-- The arguments of a call span what its parts say, as `ArgumentSpan` asks of the token. -/
theorem argumentSpan (h : CallParts lexicon c name arguments close rest) (position : Nat) :
    ArgumentSpan
      (firstToken lexicon position c (name ++ CodePoint.char '(' :: (arguments ++ close) ++ rest))
      (position + (name.length + 2) : Nat)
      (position + (name.length + 2) + arguments.length : Nat) := by
  rw [h.first_eq]
  refine ⟨c :: name, arguments, close, rfl, h.noneBefore, h.closedBy, ?_, ?_⟩
  · rw [List.length_cons]
    push_cast
    omega
  · push_cast
    omega

/-- The arguments stand in the source where their tokens say, which is behind the name and the
parenthesis. -/
theorem standsAt_arguments {source : Text} {position : Nat}
    (stands : StandsAt source position
      (c :: (name ++ CodePoint.char '(' :: (arguments ++ close) ++ rest))) :
    StandsAt source (position + (name.length + 2)) arguments := by
  have regrouped : c :: (name ++ CodePoint.char '(' :: (arguments ++ close) ++ rest) =
      (c :: (name ++ [CodePoint.char '('])) ++ (arguments ++ (close ++ rest)) := by simp
  rw [regrouped] at stands
  have behind := stands.right.left
  rwa [List.length_cons, List.length_append, List.length_singleton] at behind

end Lexeme.CallParts

/-! ## §3 The ends of parts -/

/-- What may follow a part of a value that is lexed on its own: nothing, or what closes the
arguments of a call. So it is empty, or starts with a closing parenthesis. -/
def EndsPart (back : Text) : Prop := ∀ c ∈ back.head?, c = CodePoint.char ')'

theorem endsPart_nil : EndsPart [] := nofun

/-- What follows the arguments of a call, where the call itself is followed by the end of a part,
ends a part as well. -/
theorem Lexeme.CallParts.endsPart {c : CodePoint} {name arguments close rest back : Text}
    (h : CallParts lexicon c name arguments close rest) (ends : EndsPart back) :
    EndsPart (close ++ (rest ++ back)) := by
  obtain ⟨rfl, -⟩ | ⟨rfl, -⟩ := h.closedBy
  · rintro _ ⟨⟩
    rfl
  · rw [h.rest_eq_nil]
    exact ends

/-- Whatever takes no closing parenthesis is read of a part as of all that lies ahead.

A part is followed by nothing or by such a parenthesis, and a reader that took anything of what
follows would take it first. -/
theorem EndsPart.read_eq {α : Type} {taken : α → Text} {read : Text → α} {front back : Text}
    (ends : EndsPart back) (reads : Reads taken read)
    (free : CodePoint.char ')' ∉ taken (read (front ++ back))) :
    read front = read (front ++ back) := by
  refine reads.read_front ?_
  -- What is taken ends within the part, or it takes the parenthesis behind.
  rcases List.prefix_or_prefix_of_prefix (reads.isPrefix (front ++ back))
    (List.prefix_append front back) with inside | ⟨more, beyond⟩
  · exact inside.length_le
  · have split := reads.isPrefix (front ++ back)
    rw [← beyond, List.prefix_append_right_inj] at split
    cases more with
    | nil => rw [← beyond, List.append_nil]
    | cons c more =>
      obtain ⟨others, rfl⟩ := split
      obtain rfl : c = CodePoint.char ')' := ends c rfl
      rw [← beyond] at free
      exact absurd (List.mem_append_right front List.mem_cons_self) free

/-! ## §4 Tokens at every depth -/

/-- Induction along the tokens of a text, and into the arguments of its calls.

A round of the lexer comes upon a call or upon anything else. For a call there are two hypotheses,
one for its `arguments` and one for what follows it. -/
theorem lexFrom_induction (lexicon : Lexicon) {motive : Nat → Text → Prop}
    (nil : ∀ position, motive position [])
    (call : ∀ position c name arguments close rest,
      Lexeme.CallParts lexicon c name arguments close rest →
      LexStep (lexFrom lexicon) (firstToken lexicon) position c
        (name ++ CodePoint.char '(' :: (arguments ++ close)) rest →
      motive (position + (name.length + 2)) arguments →
      motive (position + ((name ++ CodePoint.char '(' :: (arguments ++ close)).length + 1)) rest →
      motive position (c :: (name ++ CodePoint.char '(' :: (arguments ++ close) ++ rest)))
    (plain : ∀ position c tail rest,
      (Lexeme.read lexicon c (tail ++ rest)).arguments = none →
      LexStep (lexFrom lexicon) (firstToken lexicon) position c tail rest →
      motive (position + (tail.length + 1)) rest → motive position (c :: (tail ++ rest)))
    (position : Nat) (text : Text) : motive position text := by
  induction long : text.length using Nat.strongRecOn generalizing position text with
  | _ n ih =>
    cases text with
    | nil => exact nil position
    | cons c cs =>
      obtain ⟨tail, rest, rfl, step⟩ := (lexes lexicon).cons position c cs
      have shorter : rest.length < n := by
        rw [← long, List.length_cons, List.length_append]
        omega
      -- The rest of the text and the arguments of its first token are both shorter than the text.
      have behind := ih rest.length shorter (position + (tail.length + 1)) rest rfl
      obtain ⟨name, arguments, close, rest', split, parts⟩ | ⟨plainLexeme, -⟩ :=
        Lexeme.read_call_or_plain lexicon c (tail ++ rest)
      · -- What the round takes is all of the call, as its token says.
        have taken : tail = name ++ CodePoint.char '(' :: (arguments ++ close) := by
          have text := step.text
          rw [split, parts.first_eq, List.cons.injEq] at text
          exact text.2.symm
        subst taken
        rw [List.append_cancel_left_eq] at split
        subst split
        refine call position c name arguments close rest parts step ?_ behind
        refine ih arguments.length ?_ _ arguments rfl
        rw [← long]
        simp only [List.length_cons, List.length_append]
        omega
      · exact plain position c tail rest plainLexeme step behind

/-- Every token of a part of a source, at any depth, is made from the front of what lies ahead of it
in the source. What follows then is the end of a part, if that is what follows the whole part.

The lexer sees only `cs`, which is what is left of the part; `back'` lies behind that. -/
theorem exists_firstToken_of_drop_eq {source text back : Text} {position : Nat}
    (ahead : source.drop position = text ++ back) {t : Token}
    (ht : t ∈ flatten (lexFrom lexicon position text)) :
    ∃ place c cs back', source.drop place = c :: (cs ++ back') ∧
      (EndsPart back → EndsPart back') ∧ t = firstToken lexicon place c cs := by
  induction position, text using lexFrom_induction lexicon generalizing back with
  | nil position =>
    rw [lexFrom_nil] at ht
    cases ht
  | call position c name arguments close rest parts step inside behind =>
    rw [step.lexFrom_eq, Token.flatten_cons, List.mem_cons, List.mem_append] at ht
    rcases ht with rfl | below | later
    · exact ⟨position, c, _, back, ahead, id, rfl⟩
    · -- Below a call stand the tokens of its arguments.
      rw [parts.first_eq] at below
      have front : source.drop position = (c :: (name ++ [CodePoint.char '('])) ++
          (arguments ++ (close ++ (rest ++ back))) := by
        rw [ahead]
        simp
      have behindName := drop_length_of_drop_eq_append front
      rw [List.length_cons, List.length_append, List.length_singleton] at behindName
      obtain ⟨place, d, cs, back', stands, ends, made⟩ := inside behindName below
      exact ⟨place, d, cs, back', stands, fun h => ends (parts.endsPart h), made⟩
    · -- A later token stands behind the call.
      have front : source.drop position =
          (c :: (name ++ CodePoint.char '(' :: (arguments ++ close))) ++ (rest ++ back) := by
        rw [ahead, List.cons_append, List.cons_append, List.append_assoc]
      exact behind (drop_length_of_drop_eq_append front) later
  | plain position c tail rest plainLexeme step behind =>
    rw [step.lexFrom_eq, Token.flatten_cons, children_of_plain plainLexeme, Token.flatten_nil,
      List.nil_append, List.mem_cons] at ht
    rcases ht with rfl | later
    · exact ⟨position, c, _, back, ahead, id, rfl⟩
    · have front : source.drop position = (c :: tail) ++ (rest ++ back) := by
        rw [ahead, List.cons_append, List.cons_append, List.append_assoc]
      exact behind (drop_length_of_drop_eq_append front) later

/-- Every token of a part of a source, at any depth, is made where it `StandsAt` in the source. -/
theorem exists_firstToken_of_mem_flatten {source : Text} {position : Nat} {text : Text}
    (stands : StandsAt source position text) {t : Token}
    (ht : t ∈ flatten (lexFrom lexicon position text)) :
    ∃ place c cs, StandsAt source place (c :: cs) ∧ t = firstToken lexicon place c cs := by
  obtain ⟨front, back, rfl, rfl⟩ := stands
  obtain ⟨place, c, cs, back', ahead, -, made⟩ := exists_firstToken_of_drop_eq List.drop_left ht
  exact ⟨place, c, cs, .of_drop_eq_cons ahead, made⟩

/-- Every token of a value, at any depth, is made from the front of what lies ahead of it, although
what follows the arguments of a call is not seen from within. -/
theorem exists_firstToken_ahead {text : Text} {t : Token}
    (ht : t ∈ flatten (lex lexicon text)) :
    ∃ place c cs back, text.drop place = c :: (cs ++ back) ∧ EndsPart back ∧
      t = firstToken lexicon place c cs := by
  have ahead : text.drop 0 = text ++ [] := by
    rw [List.drop_zero, List.append_nil]
  obtain ⟨place, c, cs, back, stands, ends, made⟩ := exists_firstToken_of_drop_eq ahead ht
  exact ⟨place, c, cs, back, stands, ends endsPart_nil, made⟩

theorem start_lt_stop_of_mem {source : Text} {position : Nat} {text : Text}
    (stands : StandsAt source position text) {t : Token}
    (ht : t ∈ lexFrom lexicon position text) : t.start < t.stop := by
  obtain ⟨front, c, cs, rfl, rfl⟩ := (lexes lexicon).exists_first_of_mem ht
  exact ((lexes lexicon).first_isSliceOf stands.right).2

/-! ## §5 Covering -/

/-- The tokens of a value cover it: top-level tokens are not empty, stand one right behind the other
and take all of the text.

At any depth the text of a token is the slice of the value between its offsets, the children of a
call are not empty and cover exactly its arguments, and other tokens have no children. -/
theorem lex_covers (lexicon : Lexicon) (text : Text) :
    Tiles (lex lexicon text) 0 text.length ∧ (∀ t ∈ lex lexicon text, t.start < t.stop) ∧
    ∀ t ∈ flatten (lex lexicon text), t.IsSliceOf text ∧
      (IsCall t → ∃ low high, ArgumentSpan t low high ∧ Tiles t.children low high ∧
        ∀ u ∈ t.children, u.start < u.stop) ∧
      (¬IsCall t → t.children = []) := by
  refine ⟨?_, fun t ht => start_lt_stop_of_mem (StandsAt.self text) ht, ?_⟩
  · have covers := (lexes lexicon).tiles 0 text
    rwa [Nat.zero_add] at covers
  · intro t ht
    obtain ⟨place, c, cs, stands, rfl⟩ := exists_firstToken_of_mem_flatten (StandsAt.self text) ht
    refine ⟨((lexes lexicon).first_isSliceOf stands).1, ?_⟩
    obtain ⟨name, arguments, close, rest, rfl, parts⟩ | ⟨plainLexeme, noCall⟩ :=
      Lexeme.read_call_or_plain lexicon c cs
    · -- A call shows the parts that it is made of.
      have isCall : IsCall (firstToken lexicon place c
          (name ++ CodePoint.char '(' :: (arguments ++ close) ++ rest)) := by
        rw [parts.first_eq]
        exact ⟨rfl, by simp⟩
      refine ⟨fun _ => ⟨_, _, parts.argumentSpan place, ?_, ?_⟩, fun noCall => absurd isCall noCall⟩
      · rw [parts.first_eq]
        exact (lexes lexicon).tiles _ arguments
      · intro u hu
        rw [parts.first_eq] at hu
        exact start_lt_stop_of_mem (Lexeme.CallParts.standsAt_arguments stands) hu
    · -- What is no call is a plain lexeme, which has no arguments to be lexed.
      exact ⟨fun call => absurd call noCall, fun _ => children_of_plain plainLexeme⟩

theorem lex_covers_open_call :
    ∃ t ∈ lex {} "f(g(a) b".toText, IsCall t ∧
      ∃ low high, ArgumentSpan t low high ∧ Tiles t.children low high := by
  have call : ∃ t ∈ lex {} "f(g(a) b".toText,
      t.kind = .function ∧ CodePoint.char '(' ∈ t.text := by decide +kernel
  obtain ⟨t, ht, call⟩ := call
  have there := Token.mem_flatten.mpr ⟨t, ht, .inl rfl⟩
  have covers := ((lex_covers {} "f(g(a) b".toText).2.2 t there).2.1 call
  obtain ⟨low, high, span, tiles, -⟩ := covers
  exact ⟨t, ht, call, low, high, span, tiles⟩

end StyleCheck.Value
