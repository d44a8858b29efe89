import StyleCheck.Proofs.Value.Tokens

/-!
# Closed and open calls

Where a call ends is decided by counting parentheses, and whatever they stand in is counted, be it a
string. Its arguments are then lexed, and there a string is taken as a whole, with the parentheses
in it; so a call in them may count from a place that the count for the outer one had not thought of.
Still the two counts never come apart. If a call in some arguments is not closed, one of their
parentheses is never closed, in whatever way the others are taken; so the arguments are not
balanced, and the outer call is not closed either. Hence a call is closed, or all that is open
around it runs to the end of the value together with it.

## Main definitions

- `IsClosed`: calls that end with the parenthesis that closes their arguments.
- `LeavesOpen`: texts with a parenthesis that is never closed.

## Main statements

- `stop_of_not_isClosed`: a call that is not closed goes to the end, and leaves its text open.
- `calls_closed_or_open`: what all of this comes to for every call of a value.
-/

namespace StyleCheck.Value

open Text
open Token (flatten)

/-! ## §1 Parentheses that stay open -/

/-- One of the parentheses of the text is never closed: what follows it `NeverOvercloses`. -/
def LeavesOpen (text : Text) : Prop :=
  ∃ front inside, text = front ++ CodePoint.char '(' :: inside ∧ NeverOvercloses inside

/-- A parenthesis that stays open does so whatever stands in `front`. -/
theorem LeavesOpen.append {text : Text} (h : LeavesOpen text) (front : Text) :
    LeavesOpen (front ++ text) := by
  obtain ⟨front', inside, rfl, never⟩ := h
  exact ⟨front ++ front', inside, (List.append_assoc _ _ _).symm, never⟩

/-- A text that leaves a parenthesis open does not close as many as it opens, or it closes one that
it has not opened.

So it is not `Balanced`. -/
theorem LeavesOpen.not_balanced {text : Text} (h : LeavesOpen text) : ¬Balanced text := by
  obtain ⟨front, inside, rfl, never⟩ := h
  rintro ⟨noneOver, even⟩
  have before := noneOver front (List.prefix_append front _)
  have behind := never inside (List.prefix_refl inside)
  simp only [opened_append, closed_append, opened_open, closed_open] at even
  omega

/-! ## §2 Closed calls -/

/-- A call is closed if it ends with the parenthesis that closes its arguments, which are `Balanced`
then. -/
def IsClosed (t : Token) : Prop :=
  ∃ name arguments, t.text = name ++ CodePoint.char '(' :: (arguments ++ [CodePoint.char ')']) ∧
    CodePoint.char '(' ∉ name ∧ Balanced arguments

variable {lexicon : Lexicon}

namespace Lexeme.CallParts

variable {c : CodePoint} {name arguments close rest : Text}

/-- The `arguments` of a call never close more than they open, whether the call is closed or not. -/
theorem neverOvercloses (h : CallParts lexicon c name arguments close rest) :
    NeverOvercloses arguments := by
  obtain ⟨-, balanced⟩ | ⟨-, never⟩ := h.closedBy
  · exact balanced.1
  · exact never

/-- A call makes a token that `IsCall`. -/
theorem isCall {position : Nat} (h : CallParts lexicon c name arguments close rest) :
    IsCall (firstToken lexicon position c
      (name ++ CodePoint.char '(' :: (arguments ++ close) ++ rest)) := by
  rw [h.first_eq]
  exact ⟨rfl, by simp⟩

/-- A call with a parenthesis behind its arguments is closed. -/
theorem isClosed {position : Nat}
    (h : CallParts lexicon c name arguments [CodePoint.char ')'] rest)
    (balanced : Balanced arguments) :
    IsClosed (firstToken lexicon position c
      (name ++ CodePoint.char '(' :: (arguments ++ [CodePoint.char ')']) ++ rest)) := by
  rw [h.first_eq]
  exact ⟨c :: name, arguments, rfl, h.noneBefore, balanced⟩

/-- A call without one is not. Its arguments are all that is left; if they were closed at their end,
they would not be what `untilClosed` takes. -/
theorem not_isClosed {position : Nat} (h : CallParts lexicon c name arguments [] rest) :
    ¬IsClosed (firstToken lexicon position c
      (name ++ CodePoint.char '(' :: (arguments ++ []) ++ rest)) := by
  rw [h.first_eq]
  rintro ⟨name', arguments', text, none, balanced⟩
  obtain ⟨-, same⟩ := eq_of_append_open h.noneBefore none text
  rw [List.append_nil] at same
  exact not_neverOvercloses_of_balanced balanced (same ▸ h.neverOvercloses)

end Lexeme.CallParts

theorem not_isCall_of_plain {position : Nat} {c : CodePoint} {cs : Text}
    (plain : (Lexeme.read lexicon c cs).arguments = none) :
    ¬IsCall (firstToken lexicon position c cs) := by
  obtain ⟨name, arguments, close, rest, rfl, parts⟩ | ⟨-, noCall⟩ :=
    Lexeme.read_call_or_plain lexicon c cs
  · rw [parts.read_eq] at plain
    cases plain
  · exact noCall

/-! ## §3 Open calls -/

/-- A call that is not closed goes on to the end of the text that was lexed, however deep it is in
it, and leaves that text open.

That it `LeavesOpen` the text is what carries the induction: arguments that are left open are not
balanced, so the call around them is not closed. -/
theorem stop_of_not_isClosed {position : Nat} {text : Text} {t : Token}
    (ht : t ∈ flatten (lexFrom lexicon position text)) (call : IsCall t)
    (notClosed : ¬IsClosed t) : t.stop = (position + text.length : Nat) ∧ LeavesOpen text := by
  induction position, text using lexFrom_induction lexicon with
  | nil position =>
    rw [lexFrom_nil] at ht
    cases ht
  | call position c name arguments close rest parts step inside behind =>
    rw [step.lexFrom_eq, Token.flatten_cons, List.mem_cons, List.mem_append] at ht
    rcases ht with rfl | below | later
    · -- The call itself: without a closing parenthesis, there is nothing behind it.
      obtain ⟨rfl, balanced⟩ | ⟨rfl, never⟩ := parts.closedBy
      · exact absurd (parts.isClosed balanced) notClosed
      obtain rfl := parts.rest_eq_nil
      refine ⟨?_, c :: name, arguments, by simp, never⟩
      rw [parts.first_eq]
      simp only [List.length_cons, List.length_append, List.length_nil]
      push_cast
      omega
    · -- A call in the arguments: they are not balanced, so they go on to the end of the text.
      rw [parts.first_eq] at below
      obtain ⟨stop, opens⟩ := inside below
      obtain ⟨-, balanced⟩ | ⟨rfl, -⟩ := parts.closedBy
      · exact absurd balanced opens.not_balanced
      obtain rfl := parts.rest_eq_nil
      have whole := opens.append (c :: (name ++ [CodePoint.char '(']))
      refine ⟨?_, by simpa using whole⟩
      rw [stop]
      simp only [List.length_cons, List.length_append, List.length_nil]
      push_cast
      omega
    · -- A call behind it.
      obtain ⟨stop, opens⟩ := behind later
      refine ⟨?_, opens.append (c :: (name ++ CodePoint.char '(' :: (arguments ++ close)))⟩
      rw [stop]
      simp only [List.length_cons, List.length_append]
      push_cast
      omega
  | plain position c tail rest plainLexeme step behind =>
    rw [step.lexFrom_eq, Token.flatten_cons, children_of_plain plainLexeme, Token.flatten_nil,
      List.nil_append, List.mem_cons] at ht
    rcases ht with rfl | later
    · -- Of a round without a call, only later tokens are left.
      exact absurd call (not_isCall_of_plain plainLexeme)
    · obtain ⟨stop, opens⟩ := behind later
      refine ⟨?_, opens.append (c :: tail)⟩
      rw [stop, List.length_cons, List.length_append]
      push_cast
      omega

/-- Where a call is not closed, neither is a call around it.

This goes for any depth, as `t` may stand anywhere below `c`. -/
theorem not_isClosed_of_mem_children {text : Text} {t c : Token}
    (hc : c ∈ flatten (lex lexicon text)) (ht : t ∈ flatten c.children) (call : IsCall t)
    (notClosed : ¬IsClosed t) : IsCall c ∧ ¬IsClosed c := by
  obtain ⟨place, d, cs, -, rfl⟩ := exists_firstToken_of_mem_flatten (StandsAt.self text) hc
  obtain ⟨name, arguments, close, rest, rfl, parts⟩ | ⟨plain, -⟩ :=
    Lexeme.read_call_or_plain lexicon d cs
  · -- The arguments around the call are left open by it, so nothing closes them.
    have below := ht
    rw [parts.first_eq] at below
    have opens := (stop_of_not_isClosed below call notClosed).2
    obtain ⟨-, balanced⟩ | ⟨rfl, -⟩ := parts.closedBy
    · exact absurd balanced opens.not_balanced
    · exact ⟨parts.isCall, parts.not_isClosed⟩
  · rw [children_of_plain plain] at ht
    cases ht

/-! ## §4 All calls of a value -/

/-- The arguments of a call of a value never close more than they open. The call ends right behind
the parenthesis that closes them, if it is closed, and with the arguments otherwise.

Which offsets these are is told by `ArgumentSpan`. -/
theorem exists_argumentSpan {text : Text} {t : Token} (ht : t ∈ flatten (lex lexicon text))
    (call : IsCall t) :
    ∃ low high, ArgumentSpan t low high ∧ NeverOvercloses (slice text low.toNat high.toNat) ∧
      (IsClosed t → t.stop = high + 1 ∧ Balanced (slice text low.toNat high.toNat)) ∧
      (¬IsClosed t → t.stop = high) := by
  obtain ⟨place, c, cs, stands, rfl⟩ := exists_firstToken_of_mem_flatten (StandsAt.self text) ht
  obtain ⟨name, arguments, close, rest, rfl, parts⟩ | ⟨-, noCall⟩ :=
    Lexeme.read_call_or_plain lexicon c cs
  · have inSource := (Lexeme.CallParts.standsAt_arguments stands).slice_eq
    refine ⟨_, _, parts.argumentSpan place, ?_⟩
    rw [Int.toNat_natCast, Int.toNat_natCast, inSource]
    -- What closes the arguments is one character or none, and the offsets add up.
    refine ⟨parts.neverOvercloses, fun closed => ?_, fun notClosed => ?_⟩
    · obtain ⟨rfl, balanced⟩ | ⟨rfl, -⟩ := parts.closedBy
      · refine ⟨?_, balanced⟩
        rw [parts.first_eq]
        simp only [List.length_cons, List.length_append, List.length_nil]
        push_cast
        omega
      · exact absurd closed parts.not_isClosed
    · obtain ⟨rfl, balanced⟩ | ⟨rfl, -⟩ := parts.closedBy
      · exact absurd (parts.isClosed balanced) notClosed
      · rw [parts.first_eq]
        simp only [List.length_cons, List.length_append, List.length_nil]
        push_cast
        omega
  · exact absurd call noCall

/-- Every call of a value, at any depth and under any lexicon, has arguments that never close more
than they open.

It ends with the parenthesis that closes them, which are balanced then, or it and all the calls
around it are open and go on to the end of the value. So a closed call has only closed calls in its
arguments. -/
theorem calls_closed_or_open (lexicon : Lexicon) (text : Text) :
    ∀ t ∈ flatten (lex lexicon text), IsCall t →
      (∃ low high, ArgumentSpan t low high ∧ NeverOvercloses (slice text low.toNat high.toNat) ∧
        (IsClosed t → t.stop = high + 1 ∧ Balanced (slice text low.toNat high.toNat)) ∧
        (¬IsClosed t → t.stop = high)) ∧
      (IsClosed t ∨ t.stop = text.length ∧
        ∀ c ∈ flatten (lex lexicon text), t ∈ flatten c.children →
          IsCall c ∧ ¬IsClosed c ∧ c.stop = text.length) ∧
      (IsClosed t → ∀ u ∈ flatten t.children, IsCall u → IsClosed u) := by
  intro t ht call
  -- The value starts at the offset zero, so the end of the text is its length.
  have atEnd {u : Token} (hu : u ∈ flatten (lex lexicon text)) (call : IsCall u)
      (notClosed : ¬IsClosed u) : u.stop = text.length := by
    have stop := (stop_of_not_isClosed hu call notClosed).1
    rwa [Nat.zero_add] at stop
  refine ⟨exists_argumentSpan ht call, ?_, fun closed u hu callInside => ?_⟩
  · by_cases closed : IsClosed t
    · exact .inl closed
    · refine .inr ⟨atEnd ht call closed, fun c hc around => ?_⟩
      obtain ⟨outer, notClosed⟩ := not_isClosed_of_mem_children hc around call closed
      exact ⟨outer, notClosed, atEnd hc outer notClosed⟩
  · by_contra notClosed
    exact (not_isClosed_of_mem_children ht hu callInside notClosed).2 closed

/-- A call in a call, both of them open, behind one that is closed in spite of the string in its
arguments. -/
theorem calls_closed_or_open_quoted : ∃ t ∈ flatten (lex {} "f(g(\")\") h(2 k(3".toText),
    t.text = "k(3".toText ∧ IsCall t ∧ t.stop = 16 ∧
      ∀ c ∈ flatten (lex {} "f(g(\")\") h(2 k(3".toText), t ∈ flatten c.children →
        IsCall c ∧ ¬IsClosed c ∧ c.stop = 16 := by
  have there : ∃ t ∈ flatten (lex {} "f(g(\")\") h(2 k(3".toText), t.text = "k(3".toText ∧
      t.kind = .function ∧ CodePoint.char '(' ∈ t.text := by
    decide +kernel
  obtain ⟨t, ht, word, call⟩ := there
  obtain closed | ⟨stop, around⟩ :=
    (calls_closed_or_open {} "f(g(\")\") h(2 k(3".toText t ht call).2.1
  · obtain ⟨name, arguments, closing, -⟩ := closed
    have last := congrArg List.getLast? (word.symm.trans closing)
    rw [← List.cons_append, ← List.append_assoc, List.getLast?_concat] at last
    exact absurd last (by decide)
  · exact ⟨t, ht, word, call, stop, around⟩

end StyleCheck.Value
