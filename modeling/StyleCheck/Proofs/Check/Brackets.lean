import StyleCheck.Check.Bracket
import StyleCheck.Proofs.Text.Parentheses
import StyleCheck.Proofs.Text.Places
import StyleCheck.Proofs.Text.Span

/-!
# The pairs of brackets in a key

The check for brackets goes through a key with a stack of the brackets that are open. Without
ranges and findings, this is a pairing: every closing bracket comes with the one that was open last,
if there was any, and the stack is left at the end. What is found can be read off the pairing.

Nothing is found just where the brackets are well nested, and then every closing bracket has its
partner of the same sort.

## Main definitions

- `Bracket.pairing`: the closing brackets with their partners, and the brackets that are left open.
- `Bracket.Closes`, `Bracket.WellNested`: a text closes what is open, and nothing else.
- `Bracket.Pairs`: a closing bracket of a key with its partner.

## Main statements

- `Bracket.findings_eq`: what is found, by the pairing.
- `Bracket.findings_eq_nil_iff`: nothing is found where brackets are well nested.
- `Bracket.Closes.balanced`: where brackets are well nested, parentheses are balanced.
- `Bracket.WellNested.exists_partner`: a bracket of a well nested key has a partner, with a well
  nested text in between.
-/

namespace StyleCheck.Bracket

open Text

/-! ## §1 The pairing -/

/-- A closing bracket: its position, its sort, the opener it is for, and the bracket that was open
last. -/
structure Closing where
  position : Nat
  closer : CodePoint
  opener : CodePoint
  last : Option Open

/-- The closing brackets in the rest of a key that starts at a position, given the open brackets,
last one first; and the brackets that are open at its end.

This goes the way of `scan`, without ranges and findings, and it cannot fail. -/
def pairing (position : Nat) (stack : List Open) : Text → List Closing × List Open
  | [] => ([], stack)
  | c :: cs =>
    match closerOf? c, openerOf? c with
    | some closer, _ => pairing (position + 1) (⟨c, closer, position⟩ :: stack) cs
    | none, some opener =>
      let (rest, unclosed) := pairing (position + 1) stack.tail cs
      (⟨position, c, opener, stack.head?⟩ :: rest, unclosed)
    | none, none => pairing (position + 1) stack cs

section Steps

variable {c closer opener : CodePoint} (position : Nat) (stack : List Open) (cs : Text)

/-- An opening bracket is pushed on the stack, a closing one takes the last one off it, and any
other character leaves it as it is.

These equations of `pairing` are what inductions over a key use. -/
theorem pairing_open (opens : closerOf? c = some closer) :
    pairing position stack (c :: cs) =
      pairing (position + 1) (⟨c, closer, position⟩ :: stack) cs := by
  rw [pairing, opens]

theorem pairing_close (opens : closerOf? c = none) (closes : openerOf? c = some opener) :
    pairing position stack (c :: cs) =
      (⟨position, c, opener, stack.head?⟩ :: (pairing (position + 1) stack.tail cs).1,
        (pairing (position + 1) stack.tail cs).2) := by
  rw [pairing, opens, closes]

theorem pairing_other (opens : closerOf? c = none) (closes : openerOf? c = none) :
    pairing position stack (c :: cs) = pairing (position + 1) stack cs := by
  rw [pairing, opens, closes]

end Steps

/-- The range of a character in the host file; `charSpan` comes to it where `base` is not negative.
-/
def charPlace (base position : Nat) : Span := ⟨base + position, base + position + 1, by omega⟩

theorem charSpan_eq (base position : Nat) :
    charSpan base position = .ok (charPlace base position) := by
  rw [charSpan, Span.at?, Span.ofBounds_eq_ok_iff]
  simp [charPlace]

/-- What is found at a closing bracket, if anything: the `closingIssue?` at its place. -/
def Closing.finding? (base : Nat) (closing : Closing) : Option Finding :=
  (closingIssue? closing.closer closing.opener closing.last).map fun issue =>
    { issue, span := charPlace base closing.position }

/-- What is found about a bracket that is left open. -/
def Open.finding (base : Nat) (bracket : Open) : Finding :=
  { issue := .unclosedBracket bracket.opener bracket.closer
    span := charPlace base bracket.position }

section Findings

variable (base : Nat)

/-- The check comes to what the pairing says: the closing brackets at fault, and the brackets that
are left open. -/
theorem scan_eq (position : Nat) (stack : List Open) (key : Text) :
    scan base position stack key =
      .ok ((pairing position stack key).1.filterMap (Closing.finding? base),
        (pairing position stack key).2) := by
  induction key generalizing position stack with
  | nil => rfl
  | cons c cs ih =>
    rw [scan, pairing]
    cases closerOf? c with
    | some closer => exact ih _ _
    | none => cases openerOf? c with
      | none => exact ih _ _
      | some opener =>
        -- A closing bracket is a finding or none, by what it takes off the stack.
        simp only [charSpan_eq, ih, List.filterMap_cons, Closing.finding?]
        cases closingIssue? c opener stack.head? <;> rfl

theorem mapM_unclosed (stack : List Open) :
    stack.mapM (unclosed base) = .ok (stack.map (Open.finding base)) := by
  induction stack with
  | nil => rfl
  | cons last stack ih =>
    rw [List.mapM_cons, ih, unclosed, charSpan_eq]
    rfl

/-- What is found in a key: the closing brackets at fault, then the brackets that are left open.

The stack has the bracket that was opened last in front, so it is turned round to report them in
their order. -/
theorem findings_eq (key : Text) :
    findings base key = .ok ((pairing 0 [] key).1.filterMap (Closing.finding? base) ++
      (pairing 0 [] key).2.reverse.map (Open.finding base)) := by
  rw [findings, scan_eq]
  show ((pairing 0 [] key).2.reverse.mapM (unclosed base) >>= fun opening =>
    Except.ok (_ ++ opening)) = _
  rw [mapM_unclosed]
  rfl

end Findings

/-! ## §2 Where brackets stand -/

section Positions

variable {source cs : Text} {position : Nat} {stack : List Open}

/-- An open bracket is where its position says, and waits for the closer of its sort. -/
def Open.InText (source : Text) (bracket : Open) : Prop :=
  source[bracket.position]? = some bracket.opener ∧
    closerOf? bracket.opener = some bracket.closer

/-- A closing bracket is where its `position` says. -/
def Closing.InText (source : Text) (closing : Closing) : Prop :=
  source[closing.position]? = some closing.closer ∧
    openerOf? closing.closer = some closing.opener

/-- All brackets of a pairing stand in the source where their positions say.

This goes for those on the stack too, which were met before; `known` says so, and is what the
induction carries along. -/
theorem inText_pairing (ahead : source.drop position = cs)
    (known : ∀ bracket ∈ stack, bracket.InText source) :
    (∀ closing ∈ (pairing position stack cs).1, closing.InText source) ∧
      ∀ bracket ∈ (pairing position stack cs).2, bracket.InText source := by
  induction cs generalizing position stack with
  | nil => exact ⟨nofun, known⟩
  | cons c cs ih =>
    have here := getElem?_of_drop_eq_cons ahead
    have next := (drop_succ_of_drop_eq_cons ahead).2
    cases opens : closerOf? c with
    | some closer =>
      rw [pairing_open _ _ _ opens]
      -- The bracket that is pushed stands here, and those below it were known.
      apply ih next
      intro bracket mem
      rcases List.mem_cons.mp mem with rfl | before
      · exact ⟨here, opens⟩
      · exact known bracket before
    | none => cases closes : openerOf? c with
      | none =>
        rw [pairing_other _ _ _ opens closes]
        exact ih next known
      | some opener =>
        rw [pairing_close _ _ _ opens closes]
        obtain ⟨closings, unclosed⟩ :=
          ih next fun bracket mem => known bracket (List.mem_of_mem_tail mem)
        -- The closing bracket stands here, and the later ones by the hypothesis.
        refine ⟨?_, unclosed⟩
        intro closing mem
        rcases List.mem_cons.mp mem with rfl | later
        · exact ⟨here, closes⟩
        · exact closings closing later

end Positions

/-! ## §3 Well nested brackets -/

/-- The characters of a text are no brackets, or open brackets that the text closes itself, or close
the brackets that are open, given by the closers they wait for. Nothing is open at the end. -/
inductive Closes : List CodePoint → Text → Prop
  | nil : Closes [] []
  | other {c : CodePoint} {awaited : List CodePoint} {cs : Text} : closerOf? c = none →
      openerOf? c = none → Closes awaited cs → Closes awaited (c :: cs)
  | opens {c closer : CodePoint} {awaited : List CodePoint} {cs : Text} :
      closerOf? c = some closer → Closes (closer :: awaited) cs → Closes awaited (c :: cs)
  | closes {c opener : CodePoint} {awaited : List CodePoint} {cs : Text} :
      closerOf? c = none → openerOf? c = some opener → Closes awaited cs →
      Closes (c :: awaited) (c :: cs)

/-- The brackets that open, each with the one that closes it. Here `closerOf?` is spelled out. -/
theorem closerOf?_eq_some_iff {opener closer : CodePoint} :
    closerOf? opener = some closer ↔ opener = '(' ∧ closer = ')' ∨ opener = '[' ∧ closer = ']' := by
  constructor
  · intro opens
    unfold closerOf? at opens
    split at opens
    · cases opens
      exact .inl ⟨rfl, rfl⟩
    · cases opens
      exact .inr ⟨rfl, rfl⟩
    · cases opens
  · rintro (⟨rfl, rfl⟩ | ⟨rfl, rfl⟩) <;> rfl

/-- The brackets that close, each with the one that it is for. -/
theorem openerOf?_eq_some_iff {opener closer : CodePoint} :
    openerOf? closer = some opener ↔ opener = '(' ∧ closer = ')' ∨ opener = '[' ∧ closer = ']' := by
  constructor
  · intro closes
    unfold openerOf? at closes
    split at closes
    · cases closes
      exact .inl ⟨rfl, rfl⟩
    · cases closes
      exact .inr ⟨rfl, rfl⟩
    · cases closes
  · rintro (⟨rfl, rfl⟩ | ⟨rfl, rfl⟩) <;> rfl

/-- The closer of a bracket is a closing bracket, and for no other opener: `openerOf?` takes
`closerOf?` back. -/
theorem openerOf?_closer {opener closer : CodePoint} (opens : closerOf? opener = some closer) :
    openerOf? closer = some opener :=
  openerOf?_eq_some_iff.mpr (closerOf?_eq_some_iff.mp opens)

theorem closerOf?_closer {opener closer : CodePoint} (opens : closerOf? opener = some closer) :
    closerOf? closer = none := by
  obtain ⟨-, rfl⟩ | ⟨-, rfl⟩ := closerOf?_eq_some_iff.mp opens <;> rfl

/-- The brackets of a text come in pairs that stand within or beside each other: it `Closes` all
that it opens, and nothing else. -/
def WellNested (text : Text) : Prop := Closes [] text

namespace Closes

variable {c closer opener : CodePoint} {awaited : List CodePoint} {cs : Text}

/-- What a text closes is told by its first character: an opening bracket is awaited from there on,
a closing one has been awaited, and any other makes no difference. -/
theorem opens_iff (opens : closerOf? c = some closer) :
    Closes awaited (c :: cs) ↔ Closes (closer :: awaited) cs := by
  constructor
  · intro nested
    cases nested with
    | other none => simp [none] at opens
    | opens some nested =>
      rw [some, Option.some.injEq] at opens
      exact opens ▸ nested
    | closes none => simp [none] at opens
  · exact .opens opens

theorem closes_iff (opens : closerOf? c = none) (closes : openerOf? c = some opener) :
    Closes awaited (c :: cs) ↔ ∃ behind, awaited = c :: behind ∧ Closes behind cs := by
  constructor
  · intro nested
    cases nested with
    | other _ none => simp [none] at closes
    | opens some => simp [some] at opens
    | closes _ _ nested => exact ⟨_, rfl, nested⟩
  · rintro ⟨behind, rfl, nested⟩
    exact .closes opens closes nested

theorem other_iff (opens : closerOf? c = none) (closes : openerOf? c = none) :
    Closes awaited (c :: cs) ↔ Closes awaited cs := by
  constructor
  · intro nested
    cases nested with
    | other _ _ nested => exact nested
    | opens some => simp [some] at opens
    | closes _ some => simp [some] at closes
  · exact .other opens closes

end Closes

theorem closingIssue?_eq_none_iff {closer opener : CodePoint} {last : Option Open} :
    closingIssue? closer opener last = none ↔ last.map Open.closer = some closer := by
  cases last <;> simp [closingIssue?]

/-- The check goes through without a fault where the rest of the key closes what is open.

The induction is on the key, for every stack; the closers that the stack waits for are what `Closes`
awaits. -/
theorem closes_iff (position : Nat) (stack : List Open) {cs : Text} :
    Closes (stack.map Open.closer) cs ↔
      (∀ closing ∈ (pairing position stack cs).1,
        closingIssue? closing.closer closing.opener closing.last = none) ∧
      (pairing position stack cs).2 = [] := by
  induction cs generalizing position stack with
  | nil =>
    rw [pairing]
    cases stack with
    | nil => exact iff_of_true .nil ⟨nofun, rfl⟩
    | cons last stack => exact iff_of_false nofun fun none => nomatch none.2
  | cons c cs ih =>
    cases opens : closerOf? c with
    | some closer =>
      rw [pairing_open _ _ _ opens, ← ih _ (⟨c, closer, position⟩ :: stack)]
      exact Closes.opens_iff opens
    | none => cases closes : openerOf? c with
      | none =>
        rw [pairing_other _ _ _ opens closes, ← ih]
        exact Closes.other_iff opens closes
      | some opener =>
        -- A closing bracket must find its own opener on top of the stack.
        rw [pairing_close _ _ _ opens closes, List.forall_mem_cons, closingIssue?_eq_none_iff,
          and_assoc, ← ih _ stack.tail, Closes.closes_iff opens closes]
        cases stack with
        | nil => simp
        | cons last stack => simp [eq_comm]

/-- Nothing is found in a key just where its brackets are `WellNested`. -/
theorem findings_eq_nil_iff (base : Nat) (key : Text) :
    findings base key = .ok [] ↔ WellNested key := by
  have nested : Closes ([].map Open.closer) key ↔ _ := closes_iff 0 []
  rw [List.map_nil] at nested
  rw [WellNested, nested, findings_eq, Except.ok.injEq, List.append_eq_nil_iff,
    List.filterMap_eq_nil_iff, List.map_eq_nil_iff, List.reverse_eq_nil_iff]
  simp only [Closing.finding?, Option.map_eq_none_iff]

/-! ## §4 Partners -/

namespace Closes

variable {awaited : List CodePoint} {front back text : Text} {c closer : CodePoint}

/-- Texts without brackets are well nested. -/
theorem of_plain (plain : ∀ d ∈ text, closerOf? d = none ∧ openerOf? d = none) :
    WellNested text := by
  induction text with
  | nil => exact .nil
  | cons d text ih =>
    obtain ⟨here, behind⟩ := List.forall_mem_cons.mp plain
    exact .other here.1 here.2 (ih behind)

/-- A text that closes some brackets, and behind it one that closes those around them.

So `WellNested` texts can be put one behind the other. -/
theorem append {awaited' : List CodePoint} (h : Closes awaited front) (h' : Closes awaited' back) :
    Closes (awaited ++ awaited') (front ++ back) := by
  induction h with
  | nil => exact h'
  | other opens closes _ ih => exact .other opens closes ih
  | opens opens _ ih => exact .opens opens ih
  | closes opens closes _ ih => exact .closes opens closes ih

/-- A pair of brackets around a well nested text, in front of another one. -/
theorem group {opener : CodePoint} (opens : closerOf? opener = some closer)
    (inner : WellNested front) (outer : WellNested back) :
    WellNested (opener :: (front ++ closer :: back)) :=
  .opens opens (inner.append (.closes (closerOf?_closer opens) (openerOf?_closer opens) outer))

/-- An open bracket in front: if it is a parenthesis, one more is awaited behind it. -/
theorem count_opens (awaited : List CodePoint) (front : Text) (opens : closerOf? c = some closer) :
    closed (c :: front) = closed front ∧
      opened (c :: front) + awaited.count (CodePoint.char ')') =
        opened front + (closer :: awaited).count (CodePoint.char ')') := by
  unfold closerOf? at opens
  split at opens
  · cases opens
    rw [closed_open, opened_open, List.count_cons_self]
    omega
  · cases opens
    simp [opened, closed]
  · cases opens

/-- A closing bracket in front: if it is a parenthesis, it was awaited. -/
theorem count_closes (awaited : List CodePoint) (front : Text)
    (closes : openerOf? c = some opener) :
    opened (c :: front) = opened front ∧
      closed (c :: front) + awaited.count (CodePoint.char ')') =
        closed front + (c :: awaited).count (CodePoint.char ')') := by
  unfold openerOf? at closes
  split at closes
  · rw [closed_close, opened_close, List.count_cons_self]
    omega
  · simp [opened, closed]
  · cases closes

theorem count_other (front : Text) (opens : closerOf? c = none) (closes : openerOf? c = none) :
    opened (c :: front) = opened front ∧ closed (c :: front) = closed front := by
  refine ⟨opened_other _ ?_, closed_other _ ?_⟩
  · rintro rfl
    cases opens
  · rintro rfl
    cases closes

/-- Behind any beginning of the text, the rest closes what is open there: as many parentheses as the
beginning has opened and not closed, and those that were open before.

The induction is on the beginning, and `count_opens`, `count_closes` and `count_other` say how each
character moves the count. -/
theorem behind (h : Closes awaited (front ++ back)) :
    ∃ awaited', Closes awaited' back ∧
      closed front + awaited'.count (CodePoint.char ')') =
        opened front + awaited.count (CodePoint.char ')') := by
  induction front generalizing awaited with
  | nil => exact ⟨awaited, h, rfl⟩
  | cons d front ih =>
    rw [List.cons_append] at h
    -- An opening bracket adds one that is awaited, a closing one takes the last of them away, and
    -- any other character changes nothing.
    cases opens : closerOf? d with
    | some closer =>
      obtain ⟨awaited', rest, count⟩ := ih ((opens_iff opens).mp h)
      obtain ⟨same, more⟩ := count_opens awaited front opens
      exact ⟨awaited', rest, by omega⟩
    | none => cases closes : openerOf? d with
      | none =>
        obtain ⟨awaited', rest, count⟩ := ih ((other_iff opens closes).mp h)
        obtain ⟨same, same'⟩ := count_other front opens closes
        exact ⟨awaited', rest, by omega⟩
      | some opener =>
        obtain ⟨others, rfl, inner⟩ := (closes_iff opens closes).mp h
        obtain ⟨awaited', rest, count⟩ := ih inner
        obtain ⟨same, more⟩ := count_closes others front closes
        exact ⟨awaited', rest, by omega⟩

/-- The parentheses of a text with well nested brackets are balanced.

Brackets of the other sort are left out of account by `Balanced`. -/
theorem balanced (h : WellNested text) : Balanced text := by
  refine ⟨?_, ?_⟩
  · rintro front ⟨back, rfl⟩
    obtain ⟨awaited', -, count⟩ := behind h
    rw [List.count_nil] at count
    omega
  · rw [← List.append_nil text] at h
    obtain ⟨awaited', rest, count⟩ := behind h
    cases rest with
    | nil => exact count

/-- The bracket that is open last is closed behind a text in which all brackets are in pairs.

The induction is on the length, since behind a bracket that is opened and closed the text has to be
split once more. -/
theorem split (h : Closes (closer :: awaited) text) :
    ∃ inside behind, text = inside ++ closer :: behind ∧ WellNested inside ∧
      Closes awaited behind := by
  induction long : text.length using Nat.strongRecOn generalizing closer awaited text with
  | _ n ih =>
    cases h with
    | other opens closes h =>
      rw [List.length_cons] at long
      obtain ⟨inside, behind, rfl, nested, h⟩ := ih _ (by omega) h rfl
      exact ⟨_ :: inside, behind, rfl, .other opens closes nested, h⟩
    | closes opens closes h => exact ⟨[], _, rfl, .nil, h⟩
    | opens opens h =>
      rw [List.length_cons] at long
      -- The bracket that is opened here is closed first, and behind it the one before.
      obtain ⟨inner, rest, rfl, nested, h⟩ := ih _ (by omega) h rfl
      rw [List.length_append, List.length_cons] at long
      obtain ⟨inside, behind, rfl, nested', h⟩ := ih _ (by omega) h rfl
      refine ⟨_, behind, ?_, group opens nested nested', h⟩
      rw [List.cons_append, List.append_assoc, List.cons_append]

end Closes

/-- A closing bracket of a key takes the bracket at a position, and is of the same sort. -/
def Pairs (key : Text) (openAt closeAt : Nat) : Prop :=
  ∃ closing ∈ (pairing 0 [] key).1, closing.position = closeAt ∧
    closing.last.map Open.position = some openAt ∧
    closing.last.map Open.closer = some closing.closer

instance (key : Text) (openAt closeAt : Nat) : Decidable (Pairs key openAt closeAt) :=
  inferInstanceAs (Decidable (∃ closing ∈ (pairing 0 [] key).1, closing.position = closeAt ∧
    closing.last.map Open.position = some openAt ∧
    closing.last.map Open.closer = some closing.closer))

/-- The pairing of two texts is that of the first one, and that of the second one with the stack
that the first one leaves. The `position` goes on as well. -/
theorem pairing_append (position : Nat) (stack : List Open) (front back : Text) :
    pairing position stack (front ++ back) =
      ((pairing position stack front).1 ++
          (pairing (position + front.length) (pairing position stack front).2 back).1,
        (pairing (position + front.length) (pairing position stack front).2 back).2) := by
  induction front generalizing position stack with
  | nil => rfl
  | cons c front ih =>
    rw [List.cons_append, List.length_cons, ← Nat.add_assoc, Nat.add_right_comm]
    -- Both sides take the same step at the first character.
    cases opens : closerOf? c with
    | some closer =>
      rw [pairing_open _ _ _ opens, pairing_open _ _ _ opens]
      exact ih _ _
    | none => cases closes : openerOf? c with
      | none =>
        rw [pairing_other _ _ _ opens closes, pairing_other _ _ _ opens closes]
        exact ih _ _
      | some opener =>
        rw [pairing_close _ _ _ opens closes, pairing_close _ _ _ opens closes, ih]
        rfl

/-- A text that closes some brackets takes them off the stack, and leaves what is below.

The brackets on `top` are as many as those that are awaited. -/
theorem Closes.stack_eq {awaited : List CodePoint} {text : Text} (h : Closes awaited text)
    (position : Nat) (top stack : List Open) (same : top.length = awaited.length) :
    (pairing position (top ++ stack) text).2 = stack := by
  induction h generalizing position top with
  | nil =>
    rw [List.length_eq_zero_iff.mp same]
    rfl
  | other opens closes _ ih =>
    rw [pairing_other _ _ _ opens closes]
    exact ih _ _ same
  | opens opens _ ih =>
    rw [pairing_open _ _ _ opens]
    exact ih _ (_ :: top) (congrArg (· + 1) same)
  -- A closing bracket takes the topmost one, and there is one, for something is awaited.
  | closes opens closes _ ih =>
    rw [pairing_close _ _ _ opens closes]
    cases top with
    | nil => cases same
    | cons last top => exact ih _ top (Nat.succ.inj same)

/-- A bracket with a `WellNested` text behind it takes the closing bracket that follows. What stands
in front of it may leave anything on the stack. -/
theorem pairs_of_wellNested {opener closer : CodePoint} {front inside back : Text}
    (opens : closerOf? opener = some closer) (nested : WellNested inside) :
    Pairs (front ++ opener :: (inside ++ closer :: back)) front.length
      (front.length + (inside.length + 1)) := by
  rw [Pairs, pairing_append]
  generalize (pairing 0 [] front).2 = stack
  -- The bracket is pushed, and behind the well nested text it is on top again.
  have keeps (position : Nat) (stack : List Open) : (pairing position stack inside).2 = stack :=
    nested.stack_eq position [] stack rfl
  rw [pairing_open _ _ _ opens, pairing_append, keeps,
    pairing_close _ _ _ (closerOf?_closer opens) (openerOf?_closer opens)]
  refine ⟨⟨_, closer, opener, some ⟨opener, closer, _⟩⟩, List.mem_append_right _
    (List.mem_append_right _ List.mem_cons_self), ?_, ?_, rfl⟩
  · dsimp only
    omega
  · rw [Option.map_some, Nat.zero_add]

/-- A bracket of a well nested key has a partner, with a well nested text in between.

The partner is found by `Closes.split` behind the bracket, and `pairs_of_wellNested` says that the
check finds the same one. -/
theorem WellNested.exists_partner {opener closer : CodePoint} {key rest : Text} {openAt : Nat}
    (nested : WellNested key) (opens : closerOf? opener = some closer)
    (ahead : key.drop openAt = opener :: rest) :
    ∃ inside back, rest = inside ++ closer :: back ∧ WellNested inside ∧
      Pairs key openAt (openAt + (inside.length + 1)) := by
  have front : (key.take openAt).length = openAt := by
    have below := (drop_succ_of_drop_eq_cons ahead).1
    exact List.length_take_of_le (Nat.le_of_succ_le below)
  have split := List.take_append_drop openAt key
  rw [ahead] at split
  -- The key is cut in front of the bracket, which the rest of the key closes.
  rw [WellNested, ← split] at nested
  obtain ⟨awaited, stillOpen, -⟩ := Closes.behind nested
  obtain ⟨inside, back, rfl, inner, -⟩ := ((Closes.opens_iff opens).mp stillOpen).split
  have paired : Pairs (key.take openAt ++ opener :: (inside ++ closer :: back)) _ _ :=
    pairs_of_wellNested opens inner
  rw [split, front] at paired
  exact ⟨inside, back, rfl, inner, paired⟩

end StyleCheck.Bracket
