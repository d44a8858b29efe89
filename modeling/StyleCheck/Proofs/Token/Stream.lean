import StyleCheck.Proofs.Text.Places
import StyleCheck.Proofs.Token.Tree

/-!
# Token streams

The lexers have one loop in common: take a token off the front, and go on with what is left, as far
ahead as the token is long. Whatever the tokens are, such a loop cuts its text into tokens without a
gap; and if a token does not depend on what lies behind it, neither does the list of tokens up to
any point.

## Main definitions

- `Tiles`: tokens one right behind the other, from one offset to another.
- `Token.IsSliceOf`: a token whose text is the source between its offsets.
- `Lexes`, `Lexes.Local`: such a loop, and one whose tokens do not depend on what lies behind.
- `TakesTail`: such a loop, told by what the first token takes.

## Main statements

- `Lexes.tiles`: the tokens of a text cover it.
- `Lexes.Local.split`: a cut between two tokens cuts the list of tokens.
- `Lexes.Local.lex_between`: what some tokens take is lexed alone as within the text.
-/

namespace StyleCheck

open Text (StandsAt slice)

/-! ## §1 Tokens and their places -/

namespace Token

/-- The text of the token is what stands in the `source` between its offsets. -/
def IsSliceOf (t : Token) (source : Text) : Prop :=
  0 ≤ t.start ∧ t.start ≤ t.stop ∧ t.stop ≤ source.length ∧
    t.text = slice source t.start.toNat t.stop.toNat

/-- A token is a slice of the source where its text `StandsAt` its offsets. -/
theorem IsSliceOf.of_standsAt {t : Token} {source : Text} {position : Nat}
    (stands : StandsAt source position t.text) (start : t.start = position)
    (stop : t.stop = (position + t.text.length : Nat)) : t.IsSliceOf source := by
  have inside := stands.end_le
  refine ⟨by omega, by omega, by omega, ?_⟩
  rw [start, stop, Int.toNat_natCast, Int.toNat_natCast, stands.slice_eq]

theorem IsSliceOf.length_le {t : Token} {source : Text} (h : t.IsSliceOf source) :
    t.text.length ≤ source.length := by
  obtain ⟨-, -, -, text⟩ := h
  simp only [text, slice, List.length_drop, List.length_take]
  omega

end Token

/-- The tokens stand one right behind the other, from one offset up to another. Without tokens the
two are the same. -/
def Tiles : List Token → Int → Int → Prop
  | [], low, high => low = high
  | t :: ts, low, high => t.start = low ∧ Tiles ts t.stop high

/-- Two rows of tokens are one, if the second one starts where the first one ends. -/
theorem tiles_append {xs ys : List Token} {low high : Int} :
    Tiles (xs ++ ys) low high ↔ ∃ middle, Tiles xs low middle ∧ Tiles ys middle high := by
  induction xs generalizing low with
  | nil => simp [Tiles]
  | cons x xs ih =>
    simp only [List.cons_append, Tiles, ih]
    constructor
    · rintro ⟨start, middle, front, back⟩
      exact ⟨middle, ⟨start, front⟩, back⟩
    · rintro ⟨middle, ⟨start, front⟩, back⟩
      exact ⟨start, middle, front, back⟩

/-- The first of some tokens starts where they start. -/
theorem Tiles.start_eq {t : Token} {ts : List Token} {low high : Int}
    (h : Tiles (t :: ts) low high) : t.start = low := h.1

/-- The last of some tokens ends where they end. -/
theorem Tiles.stop_eq {t : Token} {ts : List Token} {low high : Int}
    (h : Tiles (ts ++ [t]) low high) : t.stop = high := by
  obtain ⟨middle, -, start, stop⟩ := tiles_append.mp h
  exact stop

/-- Where some tokens end is told by where they start. -/
theorem Tiles.unique {ts : List Token} {low high high' : Int} (h : Tiles ts low high)
    (h' : Tiles ts low high') : high = high' := by
  induction ts generalizing low with
  | nil => exact Eq.trans (Eq.symm h) h'
  | cons t ts ih => exact ih h.2 h'.2

/-- Tokens in a row are a row of tokens between two of them.

These are the tokens from the index `i` up to and with the index `j`, and they reach from the start
of the one to the end of the other. -/
theorem Tiles.between {ts : List Token} {low high : Int} (h : Tiles ts low high) {i j : Nat}
    (ordered : i ≤ j) (inside : j < ts.length) :
    Tiles ((ts.take (j + 1)).drop i) ts[i].start ts[j].stop := by
  have upTo : ts.take (j + 1) = ts.take j ++ [ts[j]] := List.take_succ_eq_append_getElem inside
  have long : i < (ts.take (j + 1)).length := by
    rw [List.length_take]
    omega
  -- What is left is not empty, so it starts with the token at `i`.
  have from' : (ts.take (j + 1)).drop i = ts[i] :: (ts.take (j + 1)).drop (i + 1) := by
    rw [List.drop_eq_getElem_cons long, List.getElem_take]
  -- First cut behind the last of the tokens, then in front of the first one.
  rw [← List.take_append_drop (j + 1) ts] at h
  obtain ⟨middle, front, -⟩ := tiles_append.mp h
  have ends : middle = ts[j].stop := by
    rw [upTo] at front
    exact front.stop_eq.symm
  rw [← List.take_append_drop i (ts.take (j + 1))] at front
  obtain ⟨start, -, back⟩ := tiles_append.mp front
  have starts : ts[i].start = start := by
    rw [from'] at back
    exact back.start_eq
  rwa [starts, ← ends]

/-- Tokens that are not empty start where they start, or later. -/
theorem Tiles.low_le {ts : List Token} {low high : Int} (h : Tiles ts low high)
    (some : ∀ t ∈ ts, t.start < t.stop) {t : Token} (ht : t ∈ ts) : low ≤ t.start := by
  induction ts generalizing low with
  | nil => cases ht
  | cons first ts ih =>
    obtain ⟨long, others⟩ := List.forall_mem_cons.mp some
    rcases List.mem_cons.mp ht with rfl | later
    · exact Int.le_of_eq h.1.symm
    · have behind := ih h.2 others later
      have start := h.1
      omega

/-- Of tokens that are not empty, one that starts later starts behind the other. So in a row that
`Tiles` a text the offsets tell the order. -/
theorem Tiles.stop_le {ts : List Token} {low high : Int} (h : Tiles ts low high)
    (some : ∀ t ∈ ts, t.start < t.stop) {t u : Token} (ht : t ∈ ts) (hu : u ∈ ts)
    (before : t.start < u.start) : t.stop ≤ u.start := by
  induction ts generalizing low with
  | nil => cases ht
  | cons first ts ih =>
    have others := (List.forall_mem_cons.mp some).2
    rcases List.mem_cons.mp ht with rfl | tLater
    · rcases List.mem_cons.mp hu with rfl | uLater
      · exact absurd before (Int.lt_irrefl _)
      · exact h.2.low_le others uLater
    · rcases List.mem_cons.mp hu with rfl | uLater
      · -- The other token stands behind the one that is said to start later.
        have long := some u List.mem_cons_self
        have behind := h.2.low_le others tLater
        omega
      · exact ih h.2 others tLater uLater

/-! ## §2 Lexing loops -/

/-- One round of a lexing loop: the first token starts at the position and takes a character and
some of what follows it, and the lexer goes on behind. -/
structure LexStep (lexFrom : Nat → Text → List Token) (first : Nat → CodePoint → Text → Token)
    (position : Nat) (c : CodePoint) (tail rest : Text) : Prop where
  text : (first position c (tail ++ rest)).text = c :: tail
  start : (first position c (tail ++ rest)).start = position
  stop : (first position c (tail ++ rest)).stop = (position + (tail.length + 1) : Nat)
  lexFrom_eq : lexFrom position (c :: (tail ++ rest)) =
    first position c (tail ++ rest) :: lexFrom (position + (tail.length + 1)) rest

/-- A lexer that takes tokens off the front of a text until nothing is left. Each of its rounds is a
`LexStep`. -/
structure Lexes (lexFrom : Nat → Text → List Token) (first : Nat → CodePoint → Text → Token) :
    Prop where
  nil : ∀ position, lexFrom position [] = []
  cons : ∀ position c cs, ∃ tail rest, cs = tail ++ rest ∧
    LexStep lexFrom first position c tail rest

/-- A lexing loop by the characters that the first token takes behind its first one.

The lexers of values and of state keys are given in this form; `TakesTail.lexes` makes the other
form of it, which is told by the rounds of the loop. -/
structure TakesTail (lexFrom : Nat → Text → List Token) (first : Nat → CodePoint → Text → Token)
    (tail : Nat → CodePoint → Text → Text) : Prop where
  isPrefix : ∀ position c cs, tail position c cs <+: cs
  text : ∀ position c cs, (first position c cs).text = c :: tail position c cs
  start : ∀ position c cs, (first position c cs).start = position
  stop : ∀ position c cs,
    (first position c cs).stop = (position + 1 + (tail position c cs).length : Nat)
  nil : ∀ position, lexFrom position [] = []
  cons : ∀ position c cs, lexFrom position (c :: cs) = first position c cs ::
    lexFrom (position + 1 + (tail position c cs).length) (cs.drop (tail position c cs).length)

namespace TakesTail

variable {lexFrom : Nat → Text → List Token} {first : Nat → CodePoint → Text → Token}
variable {tail : Nat → CodePoint → Text → Text}

/-- A round of the loop takes just what `tail` answers. -/
theorem lexStep_iff (h : TakesTail lexFrom first tail) {position : Nat} {c : CodePoint}
    {front rest : Text} :
    LexStep lexFrom first position c front rest ↔ tail position c (front ++ rest) = front := by
  constructor
  · intro step
    have text := step.text
    rw [h.text, List.cons.injEq] at text
    exact text.2
  · intro taken
    -- The offsets count the first character either way.
    have regroup : position + 1 + front.length = position + (front.length + 1) := by omega
    refine ⟨?_, h.start _ _ _, ?_, ?_⟩
    · rw [h.text, taken]
    · rw [h.stop, taken, regroup]
    · rw [h.cons, taken, List.drop_left, regroup]

theorem lexes (h : TakesTail lexFrom first tail) : Lexes lexFrom first where
  nil := h.nil
  cons position c cs := by
    obtain ⟨rest, split⟩ := h.isPrefix position c cs
    refine ⟨_, rest, split.symm, h.lexStep_iff.mpr ?_⟩
    rw [split]

/-- A `first` token that takes all of the text is the only one. -/
theorem lexFrom_single (h : TakesTail lexFrom first tail) {position : Nat} {c : CodePoint}
    {cs : Text} (all : tail position c cs = cs) :
    lexFrom position (c :: cs) = [first position c cs] := by
  rw [h.cons, all, List.drop_length, h.nil]

end TakesTail

/-- A text ends where what follows its first token ends. -/
private theorem end_regroup (position : Nat) (c : CodePoint) (tail rest : Text) :
    position + (c :: (tail ++ rest)).length = position + (tail.length + 1) + rest.length := by
  rw [List.length_cons, List.length_append]
  omega

namespace Lexes

variable {lexFrom : Nat → Text → List Token} {first : Nat → CodePoint → Text → Token}

/-- Induction along the rounds of the loop.

A round is given as a `LexStep`, which says all that is known of it. -/
theorem induction (h : Lexes lexFrom first) {motive : Nat → Text → Prop}
    (nil : ∀ position, motive position [])
    (cons : ∀ position c tail rest, LexStep lexFrom first position c tail rest →
      motive (position + (tail.length + 1)) rest → motive position (c :: (tail ++ rest)))
    (position : Nat) (text : Text) : motive position text := by
  induction n : text.length using Nat.strongRecOn generalizing position text with
  | _ n ih =>
    cases text with
    | nil => exact nil position
    | cons c cs =>
      obtain ⟨tail, rest, rfl, step⟩ := h.cons position c cs
      -- A round takes at least the first character.
      refine cons position c tail rest step (ih rest.length ?_ _ rest rfl)
      rw [← n, List.length_cons, List.length_append]
      omega

/-- The tokens of a text cover it, in order and without a gap.

By `Tiles`, each starts where the one before ends. -/
theorem tiles (h : Lexes lexFrom first) (position : Nat) (text : Text) :
    Tiles (lexFrom position text) position (position + text.length : Nat) := by
  induction position, text using h.induction with
  | nil position =>
    rw [h.nil]
    rfl
  | cons position c tail rest step ih =>
    rw [step.lexFrom_eq, Tiles, step.stop, end_regroup]
    exact ⟨step.start, ih⟩

/-- Every token of a text is made where the lexer has come to in the text.

So what holds of `first`, wherever it is applied, holds of every token. -/
theorem exists_first_of_mem (h : Lexes lexFrom first) {position : Nat} {text : Text} {t : Token}
    (ht : t ∈ lexFrom position text) :
    ∃ front c cs, text = front ++ c :: cs ∧ t = first (position + front.length) c cs := by
  induction position, text using h.induction with
  | nil position =>
    rw [h.nil] at ht
    cases ht
  | cons position c tail rest step ih =>
    rw [step.lexFrom_eq] at ht
    rcases List.mem_cons.mp ht with rfl | later
    · exact ⟨[], c, tail ++ rest, rfl, rfl⟩
    · -- A later token stands behind the characters that this round takes.
      obtain ⟨front, d, ds, rfl, rfl⟩ := ih later
      refine ⟨c :: (tail ++ front), d, ds, ?_, ?_⟩
      · rw [List.cons_append, List.append_assoc]
      · rw [end_regroup]

/-- The `first` token of a part of a source is a slice of the source, and not empty. -/
theorem first_isSliceOf (h : Lexes lexFrom first) {source : Text} {position : Nat} {c : CodePoint}
    {cs : Text} (stands : StandsAt source position (c :: cs)) :
    (first position c cs).IsSliceOf source ∧
      (first position c cs).start < (first position c cs).stop := by
  obtain ⟨tail, rest, rfl, step⟩ := h.cons position c cs
  refine ⟨Token.IsSliceOf.of_standsAt ?_ step.start ?_, ?_⟩
  · rw [step.text]
    exact stands.leftCons
  · rw [step.stop, step.text, List.length_cons]
  · rw [step.start, step.stop]
    omega

/-! ## §3 Local lexers -/

/-- A lexer whose first token depends only on what the token takes, and on its position only as far
as offsets go.

From `stable` it follows that a text can be cut between two tokens, and from `moved` that its parts
can be lexed on their own. -/
structure Local (lexFrom : Nat → Text → List Token) (first : Nat → CodePoint → Text → Token) : Prop
    extends Lexes lexFrom first where
  stable : ∀ position c front back,
    (first position c (front ++ back)).text.length ≤ front.length + 1 →
    first position c front = first position c (front ++ back)
  moved : ∀ position (delta : Nat) text,
    lexFrom (position + delta) text = Token.shiftAll delta (lexFrom position text)

namespace Local

/-- A round of the loop is the same if the text ends somewhere behind the first token.

The text is cut between `front` and `back`, and the token takes nothing of either. -/
theorem step_front (h : Local lexFrom first) {position : Nat} {c : CodePoint}
    {tail front back : Text} (step : LexStep lexFrom first position c tail (front ++ back)) :
    LexStep lexFrom first position c tail front ∧
      first position c (tail ++ front) = first position c (tail ++ (front ++ back)) := by
  have same : first position c (tail ++ front) = first position c (tail ++ (front ++ back)) := by
    rw [← List.append_assoc]
    refine h.stable position c (tail ++ front) back ?_
    rw [List.append_assoc, step.text, List.length_cons, List.length_append]
    omega
  -- The round in the shorter text has a token of the same text, so it takes the same characters.
  obtain ⟨tail', rest', split, step'⟩ := h.cons position c (tail ++ front)
  have taken : tail' = tail := by
    have text' := step'.text
    rw [← split, same, step.text, List.cons.injEq] at text'
    exact text'.2.symm
  subst taken
  rw [List.append_cancel_left_eq] at split
  subst split
  exact ⟨step', same⟩

/-- Where the list of tokens is cut, the text can be cut: each part of it has one of the two lists
as its tokens.

The induction is on the tokens in front of the cut. Each of them takes some characters off the text,
and `step_front` says that it does so in the shorter text too. -/
theorem split (h : Local lexFrom first) {position : Nat} {text : Text} {xs ys : List Token}
    (lexed : lexFrom position text = xs ++ ys) :
    ∃ front back, text = front ++ back ∧ lexFrom position front = xs ∧
      lexFrom (position + front.length) back = ys := by
  induction xs generalizing position text with
  | nil => exact ⟨[], text, rfl, h.nil position, lexed⟩
  | cons x xs ih =>
    cases text with
    | nil =>
      rw [h.nil] at lexed
      cases lexed
    | cons c cs =>
      obtain ⟨tail, rest, rfl, step⟩ := h.cons position c cs
      rw [step.lexFrom_eq, List.cons_append, List.cons.injEq] at lexed
      obtain ⟨rfl, lexed⟩ := lexed
      obtain ⟨front, back, rfl, hfront, hback⟩ := ih lexed
      -- The cut lies behind the first token, which is therefore read as before.
      obtain ⟨cut, same⟩ := h.step_front step
      refine ⟨c :: (tail ++ front), back, ?_, ?_, ?_⟩
      · rw [List.cons_append, List.append_assoc]
      · rw [cut.lexFrom_eq, same, hfront]
      · rwa [end_regroup]

/-- What some tokens in a row take of a source is lexed alone as it is within the source, up to
offsets.

The text is cut in front of these tokens and behind them, and then moved to the start. That a cut
behind a token changes nothing is what `Local` asks for. -/
theorem lex_middle (h : Local lexFrom first) {source : Text} {position : Nat} {text : Text}
    (stands : StandsAt source position text) {xs middle ys : List Token} {low high : Int}
    (lexed : lexFrom position text = xs ++ (middle ++ ys)) (covers : Tiles middle low high)
    (some : middle ≠ []) :
    lexFrom 0 (slice source low.toNat high.toNat) = Token.shiftAll (-low) middle := by
  obtain ⟨front, behind, rfl, -, hbehind⟩ := h.split lexed
  obtain ⟨part, back, rfl, hpart, -⟩ := h.split hbehind
  have place : StandsAt source (position + front.length) part := stands.right.left
  have whole := h.tiles (position + front.length) part
  rw [hpart] at whole
  -- Tokens that are there at all tell where they start and end.
  have ends : low = (position + front.length : Nat) ∧
      high = (position + front.length + part.length : Nat) := by
    refine ⟨?_, ?_⟩
    · cases middle with
      | nil => exact absurd rfl some
      | cons t ts => rw [← covers.start_eq, whole.start_eq]
    · obtain ⟨ts, t, rfl⟩ := (List.eq_nil_or_concat middle).resolve_left some
      rw [List.concat_eq_append] at covers whole
      rw [← covers.stop_eq, whole.stop_eq]
  rw [ends.1, ends.2, Int.toNat_natCast, Int.toNat_natCast, place.slice_eq, ← hpart,
    ← Nat.zero_add (position + front.length), h.moved, Nat.zero_add,
    Token.shiftAll_neg_shiftAll]

/-- What stands between the start of one token and the end of another is lexed alone to the tokens
between, moved to the start.

This is `lex_middle` for tokens that are told by their indices. -/
theorem lex_between (h : Local lexFrom first) {source : Text} {position : Nat} {text : Text}
    (stands : StandsAt source position text) {i j : Nat} (ordered : i ≤ j)
    (inside : j < (lexFrom position text).length) :
    lexFrom 0 (slice source (lexFrom position text)[i].start.toNat
        (lexFrom position text)[j].stop.toNat) =
      Token.shiftAll (-(lexFrom position text)[i].start)
        (((lexFrom position text).take (j + 1)).drop i) := by
  have covers := (h.tiles position text).between ordered inside
  -- The list is cut in front of the index `i` and behind the index `j`.
  have lexed : lexFrom position text = (lexFrom position text).take i ++
      (((lexFrom position text).take (j + 1)).drop i ++
        (lexFrom position text).drop (j + 1)) := by
    have first : ((lexFrom position text).take (j + 1)).take i =
        (lexFrom position text).take i := by
      rw [List.take_take, Nat.min_eq_left (by omega)]
    rw [← List.append_assoc, ← first, List.take_append_drop, List.take_append_drop]
  refine h.lex_middle stands lexed covers fun none => ?_
  rw [List.drop_eq_nil_iff, List.length_take] at none
  omega

end Local

end Lexes

end StyleCheck
