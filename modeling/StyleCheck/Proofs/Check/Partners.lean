import Mathlib.Data.Finset.Card
import Mathlib.Data.List.Nodup
import StyleCheck.Proofs.Check.Brackets

/-!
# Every bracket is accounted for

The check for brackets takes whatever bracket is open last for the partner of a closing one, and
judges the sort of the two only then. So partners can be told without a stack: a closing bracket
takes an opening one just where the brackets in between are nested, sorts apart. Every bracket of a
key is then in one of four places. It is in a pair, or in a pair of two sorts, or it is an opening
bracket that nobody takes, or a closing one that takes nobody; and all but the first are reported.

## Main definitions

- `Nested`: words of brackets that stand within or beside each other, with a notion of which
  brackets fit.
- `Partners`: a closing bracket takes an opening one.
- `Accounts`: how findings account for the brackets of a key.

## Main statements

- `wellNested_iff`: nothing is open and nothing is taken wrongly just where the brackets of a text
  are a nested word.
- `pairing_perm`: what is opened is either taken or left open.
- `partners_iff`: the partners are those that the check comes upon.
- `findings_account`: the findings account for every bracket, each once.
-/

namespace StyleCheck.Bracket

open Text

/-! ## §1 Words of brackets -/

/-- Whether a character opens a bracket, which by `isOpener_iff_eq` are `(` and `[`. -/
def isOpener (c : CodePoint) : Bool := (closerOf? c).isSome

/-- Whether a character closes a bracket, which by `isCloser_iff_eq` are `)` and `]`. -/
def isCloser (c : CodePoint) : Bool := (openerOf? c).isSome

/-- Whether a character is a bracket. -/
def isBracket (c : CodePoint) : Bool := isOpener c || isCloser c

/-- The brackets of a text, in order. All else of a key is left out, since the check passes over it,
and `closes_bracketWord_iff` says that nothing is lost. -/
def bracketWord (text : Text) : Text := text.filter isBracket

/-- The words of brackets in which every bracket has one that it `fits`, and of any two such pairs
one stands within or beside the other. -/
inductive Nested (fits : CodePoint → CodePoint → Prop) : Text → Prop
  | nil : Nested fits []
  | pair {opener closer : CodePoint} {inside behind : Text} : fits opener closer →
      Nested fits inside → Nested fits behind →
      Nested fits (opener :: (inside ++ closer :: behind))

/-- An opening bracket and the closing one of its sort: `(` with `)`, and `[` with `]`. -/
def SameSort (opener closer : CodePoint) : Prop := closerOf? opener = some closer

/-- An opening bracket and a closing one, of whatever sorts. This is what the check pairs by: it
looks at the sorts only once the two are paired, and then asks for `SameSort`. -/
def AnySort (opener closer : CodePoint) : Prop :=
  isOpener opener = true ∧ isCloser closer = true

theorem closerOf?_of_openerOf? {c opener : CodePoint} (closes : openerOf? c = some opener) :
    closerOf? c = none := by
  obtain ⟨-, rfl⟩ | ⟨-, rfl⟩ := openerOf?_eq_some_iff.mp closes <;> rfl

/-- The characters that open a bracket, by name. -/
theorem isOpener_iff_eq {c : CodePoint} : isOpener c = true ↔ c = '(' ∨ c = '[' := by
  simp [isOpener, Option.isSome_iff_exists, closerOf?_eq_some_iff, exists_or]

/-- The characters that close a bracket, by name. -/
theorem isCloser_iff_eq {c : CodePoint} : isCloser c = true ↔ c = ')' ∨ c = ']' := by
  simp [isCloser, Option.isSome_iff_exists, openerOf?_eq_some_iff, exists_or]

/-- The characters that `bracketWord` keeps of a text. -/
theorem isBracket_iff_eq {c : CodePoint} :
    isBracket c = true ↔ (c = '(' ∨ c = '[') ∨ c = ')' ∨ c = ']' := by
  rw [isBracket, Bool.or_eq_true, isOpener_iff_eq, isCloser_iff_eq]

theorem isOpener_iff {c : CodePoint} : isOpener c = true ↔ ∃ closer, closerOf? c = some closer :=
  Option.isSome_iff_exists

theorem isCloser_iff {c : CodePoint} : isCloser c = true ↔ ∃ opener, openerOf? c = some opener :=
  Option.isSome_iff_exists

theorem isBracket_eq_false_iff {c : CodePoint} :
    isBracket c = false ↔ closerOf? c = none ∧ openerOf? c = none := by
  simp [isBracket, isOpener, isCloser]

section Brackets

variable {c closer opener : CodePoint} (text : Text)

@[simp] theorem bracketWord_nil : bracketWord [] = [] := rfl

@[simp] theorem bracketWord_append (front back : Text) :
    bracketWord (front ++ back) = bracketWord front ++ bracketWord back := List.filter_append ..

theorem bracketWord_open (opens : closerOf? c = some closer) :
    bracketWord (c :: text) = c :: bracketWord text :=
  List.filter_cons_of_pos (by simp [isBracket, isOpener, opens])

theorem bracketWord_close (closes : openerOf? c = some opener) :
    bracketWord (c :: text) = c :: bracketWord text :=
  List.filter_cons_of_pos (by simp [isBracket, isCloser, closes])

theorem bracketWord_other (opens : closerOf? c = none) (closes : openerOf? c = none) :
    bracketWord (c :: text) = bracketWord text :=
  List.filter_cons_of_neg (by simp [isBracket_eq_false_iff.mpr ⟨opens, closes⟩])

end Brackets

theorem Nested.append {fits : CodePoint → CodePoint → Prop} {front back : Text}
    (h : Nested fits front) (h' : Nested fits back) : Nested fits (front ++ back) := by
  induction h with
  | nil => exact h'
  | pair fit inner _ _ ih =>
    rw [List.cons_append, List.append_assoc, List.cons_append]
    exact .pair fit inner ih

/-- What a text closes is told by its brackets: `Closes` passes over all else, so it cannot tell a
key from its `bracketWord`. -/
theorem closes_bracketWord_iff {awaited : List CodePoint} {text : Text} :
    Closes awaited (bracketWord text) ↔ Closes awaited text := by
  induction text generalizing awaited with
  | nil => rfl
  | cons c text ih =>
    cases opens : closerOf? c with
    | some closer =>
      rw [bracketWord_open text opens, Closes.opens_iff opens, Closes.opens_iff opens, ih]
    | none => cases closes : openerOf? c with
      | none => rw [bracketWord_other text opens closes, Closes.other_iff opens closes, ih]
      | some opener =>
        rw [bracketWord_close text closes, Closes.closes_iff opens closes,
          Closes.closes_iff opens closes]
        simp only [ih]

/-- The brackets of a well nested text are a nested word.

`WellNested` reads from the front, with what is still awaited on the side, and `Nested` says where
the partner of the first bracket is. The induction is on the length, since both parts that a bracket
splits the text into are used. -/
theorem WellNested.nested {text : Text} (h : WellNested text) :
    Nested SameSort (bracketWord text) := by
  induction long : text.length using Nat.strongRecOn generalizing text with
  | _ n ih =>
    cases h with
    | nil => exact .nil
    | other opens closes h =>
      rw [bracketWord_other _ opens closes]
      exact ih _ (by rw [← long, List.length_cons]; omega) h rfl
    | opens opens h =>
      -- The first bracket is closed somewhere, and what stands before and behind is shorter.
      obtain ⟨inside, behind, rfl, inner, outer⟩ := h.split
      simp only [List.length_cons, List.length_append] at long
      rw [bracketWord_open _ opens, bracketWord_append,
        bracketWord_close _ (openerOf?_closer opens)]
      exact .pair opens (ih _ (by omega) inner rfl) (ih _ (by omega) outer rfl)

theorem Nested.wellNested {word : Text} (h : Nested SameSort word) : WellNested word := by
  induction h with
  | nil => exact .nil
  | pair opens _ _ inner outer => exact .group opens inner outer

/-- The brackets of a text come in pairs just where they make a `Nested` word. -/
theorem wellNested_iff {text : Text} : WellNested text ↔ Nested SameSort (bracketWord text) :=
  ⟨WellNested.nested, fun h => closes_bracketWord_iff.mp h.wellNested⟩

/-! ## §2 What is opened, and what is closed -/

/-- The brackets that are opened in a text at a `position`, with the closing ones that they wait
for. -/
def openings (position : Nat) (text : Text) : List Open :=
  (text.zipIdx position).filterMap fun (c, i) =>
    (closerOf? c).map fun closer => ⟨c, closer, i⟩

section Openings

variable {c closer : CodePoint} (position : Nat) (text : Text)

theorem openings_open (opens : closerOf? c = some closer) :
    openings position (c :: text) = ⟨c, closer, position⟩ :: openings (position + 1) text := by
  simp [openings, opens]

theorem openings_other (opens : closerOf? c = none) :
    openings position (c :: text) = openings (position + 1) text := by
  simp [openings, opens]

theorem length_openings : (openings position text).length = text.countP isOpener := by
  induction text generalizing position with
  | nil => rfl
  | cons c text ih =>
    cases opens : closerOf? c with
    | some closer =>
      rw [openings_open _ _ opens, List.length_cons, ih,
        List.countP_cons_of_pos (by simp [isOpener, opens])]
    | none => rw [openings_other _ _ opens, ih, List.countP_cons_of_neg (by simp [isOpener, opens])]

end Openings

/-- A bracket is among those that are opened just where `Open.InText` finds it in the text. -/
theorem mem_openings_iff {text : Text} {bracket : Open} :
    bracket ∈ openings 0 text ↔ bracket.InText text := by
  obtain ⟨opener, closer, place⟩ := bracket
  simp only [openings, List.mem_filterMap, Prod.exists, List.mem_zipIdx_iff_getElem?,
    Option.map_eq_some_iff, Open.mk.injEq, Open.InText]
  constructor
  · rintro ⟨c, i, there, _, opens, rfl, rfl, rfl⟩
    exact ⟨there, opens⟩
  · rintro ⟨there, opens⟩
    exact ⟨opener, place, there, closer, opens, rfl, rfl, rfl⟩

/-- The characters of a text at a position are numbered in order. -/
theorem pairwise_zipIdx (position : Nat) (text : Text) :
    (text.zipIdx position).Pairwise fun x y => x.2 < y.2 := by
  have numbers : (List.range' position text.length).Pairwise (· < ·) := List.pairwise_lt_range' 1
  rwa [← List.zipIdx_map_snd, List.pairwise_map] at numbers

theorem pairwise_openings (position : Nat) (text : Text) :
    (openings position text).Pairwise fun a b => a.position < b.position := by
  refine (pairwise_zipIdx position text).filterMap _ ?_
  simp only [Option.map_eq_some_iff]
  rintro ⟨c, i⟩ ⟨d, j⟩ before _ ⟨_, _, rfl⟩ _ ⟨_, _, rfl⟩
  exact before

section Pairing

variable (position : Nat) (stack : List Open) (text : Text)

/-- The closing brackets are where they stand in the text. It does not matter what `stack` is open
where they are come upon. -/
theorem map_position_pairing : (pairing position stack text).1.map Closing.position =
    ((text.zipIdx position).filter fun x => isCloser x.1).map Prod.snd := by
  induction text generalizing position stack with
  | nil => rfl
  | cons c text ih =>
    rw [List.zipIdx_cons]
    -- Opening brackets and other characters are passed over; only what stands open changes.
    cases opens : closerOf? c with
    | some closer =>
      have other : isCloser c = false := by
        by_contra closes
        obtain ⟨opener, closes⟩ := isCloser_iff.mp (Bool.not_eq_false _ ▸ closes)
        rw [closerOf?_of_openerOf? closes] at opens
        cases opens
      rw [pairing_open _ _ _ opens, List.filter_cons_of_neg (by simp [other]), ih]
    | none => cases closes : openerOf? c with
      | none =>
        rw [pairing_other _ _ _ opens closes,
          List.filter_cons_of_neg (by simp [isCloser, closes]), ih]
      | some opener =>
        rw [pairing_close _ _ _ opens closes,
          List.filter_cons_of_pos (by simp [isCloser, closes]), List.map_cons, List.map_cons, ih]

theorem pairwise_pairing :
    (pairing position stack text).1.Pairwise fun a b => a.position < b.position := by
  rw [← List.pairwise_map, map_position_pairing, List.pairwise_map]
  exact (pairwise_zipIdx position text).filter _

theorem length_pairing : (pairing position stack text).1.length = text.countP isCloser := by
  have positions := congrArg List.length (map_position_pairing position stack text)
  rw [List.length_map, List.length_map, ← List.countP_eq_length_filter] at positions
  rw [positions]
  conv_rhs => rw [← List.zipIdx_map_fst position text, List.countP_map]
  rfl

/-- Every bracket that is opened is taken by a closing one or left open, and only once.

It is a permutation, not an equation: what is taken is listed by the closing brackets, in an order
that depends on how they nest. -/
theorem pairing_perm : ((pairing position stack text).1.filterMap Closing.last ++
    (pairing position stack text).2).Perm (openings position text ++ stack) := by
  induction text generalizing position stack with
  | nil => exact .refl _
  | cons c text ih =>
    cases opens : closerOf? c with
    | some closer =>
      rw [pairing_open _ _ _ opens, openings_open _ _ opens]
      exact (ih _ _).trans List.perm_middle
    | none =>
      rw [openings_other _ _ opens]
      cases closes : openerOf? c with
      | none =>
        rw [pairing_other _ _ _ opens closes]
        exact ih _ _
      | some opener =>
        rw [pairing_close _ _ _ opens closes]
        cases stack with
        | nil => exact ih _ _
        | cons last stack =>
          -- The bracket that is taken here stood on the stack.
          exact ((ih (position + 1) stack).cons last).trans List.perm_middle.symm

/-- What is left open stands in the order in which it was opened. -/
theorem reverse_unclosed_sublist : (pairing position stack text).2.reverse.Sublist
    (stack.reverse ++ openings position text) := by
  induction text generalizing position stack with
  | nil => simp [pairing, openings]
  | cons c text ih =>
    cases opens : closerOf? c with
    | some closer =>
      rw [pairing_open _ _ _ opens, openings_open _ _ opens]
      have behind := ih (position + 1) (⟨c, closer, position⟩ :: stack)
      rwa [List.reverse_cons, List.append_assoc, List.singleton_append] at behind
    | none =>
      rw [openings_other _ _ opens]
      cases closes : openerOf? c with
      | none =>
        rw [pairing_other _ _ _ opens closes]
        exact ih _ _
      | some opener =>
        -- The bracket on top is taken off, which only leaves less.
        rw [pairing_close _ _ _ opens closes]
        exact (ih _ _).trans ((List.tail_sublist stack).reverse.append_right _)

end Pairing

/-! ## §3 Partners -/

/-- A closing bracket takes an opening one: in between stands nothing that could take the one or be
taken by the other, whatever the sorts. So what stands there is `Nested` by `AnySort`. -/
def Partners (key : Text) (openAt closeAt : Nat) : Prop :=
  ∃ front opener inside closer back, key = front ++ opener :: (inside ++ closer :: back) ∧
    front.length = openAt ∧ openAt + (inside.length + 1) = closeAt ∧
    AnySort opener closer ∧ Nested AnySort (bracketWord inside)

/-- The brackets at two places of a key are of one sort. That they are `Partners` is not asked. -/
def FitAt (key : Text) (openAt closeAt : Nat) : Prop :=
  ∃ opener closer, key[openAt]? = some opener ∧ key[closeAt]? = some closer ∧
    SameSort opener closer

theorem pairing_of_plain {text : Text} (plain : ∀ c ∈ text, ¬isBracket c = true) (position : Nat)
    (stack : List Open) : pairing position stack text = ([], stack) := by
  induction text generalizing position with
  | nil => rfl
  | cons c text ih =>
    obtain ⟨here, behind⟩ := List.forall_mem_cons.mp plain
    obtain ⟨opens, closes⟩ := isBracket_eq_false_iff.mp (Bool.not_eq_true _ ▸ here)
    rw [pairing_other _ _ _ opens closes, ih behind]

/-- A text whose brackets are nested, sorts apart, leaves the `stack` as it was. So brackets around
it are partners as if it were not there. -/
theorem stack_of_nested {text : Text} (h : Nested AnySort (bracketWord text)) (position : Nat)
    (stack : List Open) : (pairing position stack text).2 = stack := by
  generalize word : bracketWord text = w at h
  induction h generalizing text position stack with
  | nil =>
    have plain : ∀ c ∈ text, ¬isBracket c = true := List.filter_eq_nil_iff.mp word
    rw [pairing_of_plain plain]
  | pair fit inner outer ihInner ihOuter =>
    -- The text comes apart where its word does, with other characters in front of each bracket.
    obtain ⟨before, rest, rfl, plain, -, word⟩ := List.filter_eq_cons_iff.mp word
    obtain ⟨inside, rest, rfl, insideWord, word⟩ := List.filter_eq_append_iff.mp word
    obtain ⟨before', behind, rfl, plain', -, behindWord⟩ := List.filter_eq_cons_iff.mp word
    obtain ⟨closer, opens⟩ := isOpener_iff.mp fit.1
    obtain ⟨opener, closes⟩ := isCloser_iff.mp fit.2
    rw [pairing_append, pairing_of_plain plain, pairing_open _ _ _ opens, pairing_append,
      ihInner _ _ insideWord, pairing_append, pairing_of_plain plain',
      pairing_close _ _ _ (closerOf?_of_openerOf? closes) closes]
    exact ihOuter _ _ behindWord

/-- The bracket that is open last behind a text is followed by nested brackets only, and below it
stands what was open in front of it.

It is the converse of `stack_of_nested`, and it goes backwards from the end of the text: a closing
bracket there has taken something that is found first, and the bracket we look for stood in front of
that. -/
theorem exists_of_stack_eq_cons {front : Text} {last : Open} {stack : List Open}
    (ends : (pairing 0 [] front).2 = last :: stack) :
    ∃ before opener inside, front = before ++ opener :: inside ∧ before.length = last.position ∧
      isOpener opener = true ∧ Nested AnySort (bracketWord inside) ∧
        (pairing 0 [] before).2 = stack := by
  induction long : front.length using Nat.strongRecOn generalizing front last stack with
  | _ n ih =>
    obtain rfl | ⟨before, c, rfl⟩ := List.eq_nil_or_concat front
    · cases ends
    rw [List.concat_eq_append] at ends long ⊢
    rw [List.length_append, List.length_singleton] at long
    rw [pairing_append] at ends
    -- The last character decides what happened to the stack last.
    cases opens : closerOf? c with
    | some closer =>
      rw [pairing_open _ _ _ opens, pairing, List.cons.injEq] at ends
      obtain ⟨rfl, below⟩ := ends
      refine ⟨before, c, [], rfl, ?_, isOpener_iff.mpr ⟨closer, opens⟩, .nil, below⟩
      rw [Nat.zero_add]
    | none => cases closes : openerOf? c with
      | none =>
        rw [pairing_other _ _ _ opens closes, pairing] at ends
        obtain ⟨front, opener, inside, rfl, place, isOpen, nested, below⟩ :=
          ih _ (by omega) ends rfl
        refine ⟨front, opener, inside ++ [c], by simp, place, isOpen, ?_, below⟩
        rwa [bracketWord_append, bracketWord_other _ opens closes, bracketWord_nil, List.append_nil]
      | some _ =>
        rw [pairing_close _ _ _ opens closes, pairing] at ends
        -- The closing bracket takes the one on top, in front of which stands the one we look for.
        cases onTop : (pairing 0 [] before).2 with
        | nil =>
          rw [onTop] at ends
          cases ends
        | cons taken rest =>
          rw [onTop, List.tail_cons] at ends
          obtain ⟨front', opener', inside', rfl, -, isOpen', nested', below'⟩ :=
            ih _ (by omega) onTop rfl
          rw [List.length_append, List.length_cons] at long
          obtain ⟨front, opener, inside, rfl, place, isOpen, nested, below⟩ :=
            ih _ (by omega) (below'.trans ends) rfl
          refine ⟨front, opener, inside ++ opener' :: (inside' ++ [c]), by simp, place, isOpen, ?_,
            below⟩
          obtain ⟨closer', opens'⟩ := isOpener_iff.mp isOpen'
          rw [bracketWord_append, bracketWord_open _ opens', bracketWord_append,
            bracketWord_close _ closes, bracketWord_nil]
          exact nested.append (.pair ⟨isOpen', isCloser_iff.mpr ⟨_, closes⟩⟩ nested' .nil)

section Members

variable {key : Text}

/-- There is one closing bracket at a place, by `map_position_pairing`. -/
theorem eq_of_position {a b : Closing} (ha : a ∈ (pairing 0 [] key).1)
    (hb : b ∈ (pairing 0 [] key).1) (same : a.position = b.position) : a = b := by
  have places : ((pairing 0 [] key).1.map Closing.position).Nodup :=
    List.pairwise_map.mpr ((pairwise_pairing 0 [] key).imp Nat.ne_of_lt)
  exact List.inj_on_of_nodup_map places ha hb same

/-- There is one opening bracket at a place. -/
theorem nodup_openings (key : Text) : ((openings 0 key).map Open.position).Nodup :=
  List.pairwise_map.mpr ((pairwise_openings 0 key).imp Nat.ne_of_lt)

/-- A key comes apart at any of its characters. -/
theorem split_at {i : Nat} {c : CodePoint} (there : key[i]? = some c) :
    (key.take i).length = i ∧ key = key.take i ++ c :: key.drop (i + 1) := by
  obtain ⟨inside, there⟩ := List.getElem?_eq_some_iff.mp there
  refine ⟨List.length_take_of_le (Nat.le_of_lt inside), ?_⟩
  rw [← there, List.cons_getElem_drop_succ, List.take_append_drop]

/-- The check comes upon every closing bracket, and looks at what is open in front of it: the stack
behind `key.take i`. -/
theorem mem_pairing_of_getElem? {i : Nat} {closer opener : CodePoint}
    (there : key[i]? = some closer) (closes : openerOf? closer = some opener) :
    ⟨i, closer, opener, (pairing 0 [] (key.take i)).2.head?⟩ ∈ (pairing 0 [] key).1 := by
  obtain ⟨long, split⟩ := split_at there
  have whole : pairing 0 [] key =
      pairing 0 [] (key.take i ++ closer :: key.drop (i + 1)) := congrArg _ split
  rw [whole, pairing_append, pairing_close _ _ _ (closerOf?_of_openerOf? closes) closes, long,
    Nat.zero_add]
  exact List.mem_append_right _ List.mem_cons_self

/-- The check comes upon nothing else, and what it sees `last` is what is open in front. -/
theorem inText_of_mem {closing : Closing} (mem : closing ∈ (pairing 0 [] key).1) :
    closing.InText key ∧ closing.last = (pairing 0 [] (key.take closing.position)).2.head? := by
  have noneOpen : ∀ bracket ∈ ([] : List Open), bracket.InText key := nofun
  have inText := (inText_pairing List.drop_zero noneOpen).1 closing mem
  refine ⟨inText, ?_⟩
  -- There is no other closing bracket at this place.
  have same := eq_of_position mem (mem_pairing_of_getElem? inText.1 inText.2) rfl
  exact congrArg Closing.last same

/-- The partners in a key are those that the check comes upon.

`Partners` is told without a stack, so this is where the walk of the check is related to the key as
a text: forwards by `stack_of_nested`, backwards by `exists_of_stack_eq_cons`. -/
theorem partners_iff {openAt closeAt : Nat} : Partners key openAt closeAt ↔
    ∃ closing ∈ (pairing 0 [] key).1, closing.position = closeAt ∧
      closing.last.map Open.position = some openAt := by
  constructor
  · rintro ⟨front, opener, inside, closer, back, rfl, rfl, rfl, fit, nested⟩
    obtain ⟨_, opens⟩ := isOpener_iff.mp fit.1
    obtain ⟨_, closes⟩ := isCloser_iff.mp fit.2
    have split : front ++ opener :: (inside ++ closer :: back) =
        (front ++ opener :: inside) ++ closer :: back := by simp
    have long : front.length + (inside.length + 1) = (front ++ opener :: inside).length := by
      rw [List.length_append, List.length_cons]
    have there : (front ++ opener :: (inside ++ closer :: back))[front.length +
        (inside.length + 1)]? = some closer := by
      rw [split, long]
      simp
    refine ⟨_, mem_pairing_of_getElem? there closes, rfl, ?_⟩
    -- Behind the nested brackets, the opening one is on top of the stack.
    rw [split, long, List.take_left, pairing_append, pairing_open _ _ _ opens,
      stack_of_nested nested, List.head?_cons, Option.map_some, Nat.zero_add]
  · rintro ⟨closing, mem, rfl, taken⟩
    obtain ⟨⟨there, closes⟩, onTop⟩ := inText_of_mem mem
    obtain ⟨long, split⟩ := split_at there
    obtain ⟨last, isLast, rfl⟩ := Option.map_eq_some_iff.mp taken
    obtain ⟨stack, ends⟩ := List.head?_eq_some_iff.mp (onTop.symm.trans isLast)
    obtain ⟨before, opener, inside, front, place, isOpen, nested, -⟩ := exists_of_stack_eq_cons ends
    rw [front] at split long
    rw [List.length_append, List.length_cons, place] at long
    rw [List.append_assoc, List.cons_append] at split
    exact ⟨before, opener, inside, closing.closer, _, split, place, long,
      ⟨isOpen, isCloser_iff.mpr ⟨_, closes⟩⟩, nested⟩

/-- Every bracket that is opened in a key is taken or left open, `pairing_perm` with nothing open in
front. -/
theorem taken_perm (key : Text) : ((pairing 0 [] key).1.filterMap Closing.last ++
    (pairing 0 [] key).2).Perm (openings 0 key) := by
  have all := pairing_perm 0 [] key
  rwa [List.append_nil] at all

/-- A bracket that is taken is one that was opened, at its own `position`. -/
theorem inText_of_last {closing : Closing} (mem : closing ∈ (pairing 0 [] key).1) {last : Open}
    (taken : closing.last = some last) : last.InText key := by
  rw [← mem_openings_iff, ← (taken_perm key).mem_iff]
  exact List.mem_append_left _ (List.mem_filterMap.mpr ⟨closing, mem, taken⟩)

/-- What is left open is what no closing bracket takes. That it cannot be both is a matter of
counting: `taken_perm` lists every opening bracket once. -/
theorem mem_unclosed_iff {bracket : Open} : bracket ∈ (pairing 0 [] key).2 ↔
    bracket.InText key ∧ ∀ closeAt, ¬Partners key bracket.position closeAt := by
  have nodup : ((pairing 0 [] key).1.filterMap Closing.last ++ (pairing 0 [] key).2).Nodup :=
    (taken_perm key).nodup_iff.mpr (nodup_openings key).of_map
  constructor
  · intro mem
    have opened : bracket ∈ openings 0 key :=
      (taken_perm key).mem_iff.mp (List.mem_append_right _ mem)
    refine ⟨mem_openings_iff.mp opened, fun closeAt partners => ?_⟩
    obtain ⟨closing, there, -, taken⟩ := partners_iff.mp partners
    obtain ⟨last, isLast, place⟩ := Option.map_eq_some_iff.mp taken
    -- The bracket that is taken is this one, but it cannot be in both lists.
    have opened' : last ∈ openings 0 key := mem_openings_iff.mpr (inText_of_last there isLast)
    obtain rfl : last = bracket :=
      List.inj_on_of_nodup_map (nodup_openings key) opened' opened place
    have amongTaken := List.mem_filterMap.mpr ⟨closing, there, isLast⟩
    exact (List.nodup_append.mp nodup).2.2 last amongTaken last mem rfl
  · rintro ⟨inText, alone⟩
    have opened := (taken_perm key).mem_iff.mpr (mem_openings_iff.mpr inText)
    refine (List.mem_append.mp opened).resolve_left fun taken => ?_
    obtain ⟨closing, there, taken⟩ := List.mem_filterMap.mp taken
    refine alone closing.position (partners_iff.mpr ⟨closing, there, rfl, ?_⟩)
    rw [taken, Option.map_some]

end Members

/-! ## §4 The account -/

/-- The closing bracket at some place takes nobody, and this is reported. -/
def Unmatched (base : Nat) (key : Text) (f : Finding) : Prop :=
  ∃ closeAt closer opener, key[closeAt]? = some closer ∧ openerOf? closer = some opener ∧
    (∀ openAt, ¬Partners key openAt closeAt) ∧
    f = { issue := .unmatchedBracket closer opener, span := charPlace base closeAt }

/-- The closing bracket at some place takes one of another sort, and this is reported. -/
def Mismatched (base : Nat) (key : Text) (f : Finding) : Prop :=
  ∃ openAt closeAt opener expected closer, Partners key openAt closeAt ∧
    key[openAt]? = some opener ∧ closerOf? opener = some expected ∧
    key[closeAt]? = some closer ∧ closer ≠ expected ∧
    f = { issue := .mismatchedBracket closer expected opener openAt
          span := charPlace base closeAt }

/-- Nobody takes the opening bracket at some place, and this is reported. -/
def Unclosed (base : Nat) (key : Text) (f : Finding) : Prop :=
  ∃ openAt opener closer, key[openAt]? = some opener ∧ closerOf? opener = some closer ∧
    (∀ closeAt, ¬Partners key openAt closeAt) ∧
    f = { issue := .unclosedBracket opener closer, span := charPlace base openAt }

/-- How many of the diagnostics that word some findings have the code of a `spec`. -/
def numberOf (spec : Diagnostic.Spec) (found : List Finding) : Nat :=
  found.countP fun f => f.diagnostic.code == spec.code

/-- How what is found at closing brackets, and what is found about those left open, accounts for the
brackets of a key that stands at an offset.

The two lists are apart since they follow one another in the findings, each in the order of its
places. -/
structure Accounts (base : Nat) (key : Text) (closings unclosed : List Finding) : Prop where
  /-- Nothing is found just where the brackets make a nested word. -/
  silent_iff : closings ++ unclosed = [] ↔ Nested SameSort (bracketWord key)
  /-- At closing brackets, those are found that take nobody or one of another sort. -/
  closing_iff : ∀ f, f ∈ closings ↔ Unmatched base key f ∨ Mismatched base key f
  /-- Besides, those are found that nobody takes. -/
  unclosed_iff : ∀ f, f ∈ unclosed ↔ Unclosed base key f
  /-- Every diagnostic is about one bracket. -/
  covers : ∀ f ∈ closings ++ unclosed, ∃ i c, key[i]? = some c ∧ isBracket c = true ∧
    f.diagnostic.span.start = base + i ∧ f.diagnostic.span.stop = base + i + 1
  /-- No two diagnostics are about the same bracket. -/
  apart : (closings ++ unclosed).Pairwise fun f g =>
    f.diagnostic.span.start ≠ g.diagnostic.span.start
  closings_inOrder : closings.Pairwise fun f g =>
    f.diagnostic.span.start < g.diagnostic.span.start
  unclosed_inOrder : unclosed.Pairwise fun f g =>
    f.diagnostic.span.start < g.diagnostic.span.start
  /-- Every bracket is in a pair, or it is reported, be it alone or with its partner. -/
  total : ∃ pairs : Finset (ℕ × ℕ),
    (∀ openAt closeAt, (openAt, closeAt) ∈ pairs ↔
      Partners key openAt closeAt ∧ FitAt key openAt closeAt) ∧
    key.countP isOpener = pairs.card +
      numberOf Catalogue.mismatchedBracket (closings ++ unclosed) +
      numberOf Catalogue.unclosedBracket (closings ++ unclosed) ∧
    key.countP isCloser = pairs.card +
      numberOf Catalogue.mismatchedBracket (closings ++ unclosed) +
      numberOf Catalogue.unmatchedBracket (closings ++ unclosed)

section Findings

variable (base : Nat) (key : Text)

/-- What is found at closing brackets, in the order in which the `pairing` comes upon them. -/
def closingFindings : List Finding := (pairing 0 [] key).1.filterMap (Closing.finding? base)

/-- What is found about brackets that are left open, in the order in which they were opened. -/
def unclosedFindings : List Finding := (pairing 0 [] key).2.reverse.map (Open.finding base)

variable {base key} {f : Finding}

/-- What is found at a closing bracket is that it takes nobody, or one of another sort; and of a
bracket that `fits`, nothing. -/
theorem finding?_eq_some_iff {closing : Closing} : closing.finding? base = some f ↔
    closing.last = none ∧
      f = { issue := .unmatchedBracket closing.closer closing.opener
            span := charPlace base closing.position } ∨
    ∃ last, closing.last = some last ∧ closing.closer ≠ last.closer ∧
      f = { issue := .mismatchedBracket closing.closer last.closer last.opener last.position
            span := charPlace base closing.position } := by
  cases taken : closing.last with
  | none => simp [Closing.finding?, closingIssue?, taken, eq_comm]
  | some last =>
    -- A bracket that takes another one has no finding just if it closes that one.
    by_cases same : last.closer = closing.closer
    · simp [Closing.finding?, closingIssue?, taken, same]
    · have issue : closingIssue? closing.closer closing.opener (some last) = some
          (.mismatchedBracket closing.closer last.closer last.opener last.position) := by
        simp [closingIssue?, same]
      rw [Closing.finding?, taken, issue, Option.map_some, Option.some.injEq]
      constructor
      · rintro rfl
        exact .inr ⟨last, rfl, Ne.symm same, rfl⟩
      · rintro (⟨⟨⟩, -⟩ | ⟨_, ⟨⟩, -, rfl⟩)
        rfl

/-- What is found at closing brackets, told by `Partners`. -/
theorem mem_closingFindings_iff :
    f ∈ closingFindings base key ↔ Unmatched base key f ∨ Mismatched base key f := by
  rw [closingFindings, List.mem_filterMap]
  simp only [finding?_eq_some_iff]
  constructor
  · rintro ⟨closing, mem, ⟨alone, rfl⟩ | ⟨last, taken, other, rfl⟩⟩
    · -- Nothing was open in front of this bracket, so there is no partner.
      obtain ⟨⟨there, closes⟩, -⟩ := inText_of_mem mem
      refine .inl ⟨_, _, _, there, closes, fun openAt partners => ?_, rfl⟩
      obtain ⟨closing', mem', place, taken⟩ := partners_iff.mp partners
      rw [eq_of_position mem' mem place, alone] at taken
      cases taken
    · obtain ⟨⟨there, closes⟩, -⟩ := inText_of_mem mem
      obtain ⟨opened, opens⟩ := inText_of_last mem taken
      refine .inr ⟨_, _, _, _, _, partners_iff.mpr ⟨closing, mem, rfl, ?_⟩, opened, opens, there,
        other, rfl⟩
      rw [taken, Option.map_some]
  · rintro (⟨closeAt, closer, opener, there, closes, alone, rfl⟩ |
      ⟨openAt, closeAt, opener, expected, closer, partners, opened, opens, there, other, rfl⟩)
    · have mem := mem_pairing_of_getElem? there closes
      refine ⟨_, mem, .inl ⟨?_, rfl⟩⟩
      -- If it had taken one, the two would be partners.
      by_contra taken
      obtain ⟨last, taken⟩ := Option.ne_none_iff_exists'.mp taken
      exact alone last.position (partners_iff.mpr ⟨_, mem, rfl, congrArg _ taken⟩)
    · obtain ⟨closing, mem, rfl, taken⟩ := partners_iff.mp partners
      obtain ⟨last, isLast, rfl⟩ := Option.map_eq_some_iff.mp taken
      obtain ⟨⟨there', -⟩, -⟩ := inText_of_mem mem
      obtain ⟨opened', opens'⟩ := inText_of_last mem isLast
      -- At both places stands what the check has seen there.
      obtain rfl := Option.some.inj (opened'.symm.trans opened)
      obtain rfl := Option.some.inj (opens'.symm.trans opens)
      obtain rfl := Option.some.inj (there'.symm.trans there)
      exact ⟨closing, mem, .inr ⟨last, isLast, other, rfl⟩⟩

/-- What is found about brackets that are left open, told by `Partners`. -/
theorem mem_unclosedFindings_iff : f ∈ unclosedFindings base key ↔ Unclosed base key f := by
  rw [unclosedFindings, List.mem_map]
  simp only [List.mem_reverse, mem_unclosed_iff]
  constructor
  · rintro ⟨bracket, ⟨⟨there, opens⟩, alone⟩, rfl⟩
    exact ⟨_, _, _, there, opens, alone, rfl⟩
  · rintro ⟨openAt, opener, closer, there, opens, alone, rfl⟩
    exact ⟨⟨opener, closer, openAt⟩, ⟨⟨there, opens⟩, alone⟩, rfl⟩

/-- A finding that accounts for a bracket is about that bracket. -/
theorem covers_of_account (account : Unmatched base key f ∨ Mismatched base key f ∨
    Unclosed base key f) :
    ∃ i c, key[i]? = some c ∧ isBracket c = true ∧
      f.diagnostic.span.start = base + i ∧ f.diagnostic.span.stop = base + i + 1 := by
  have closer {c opener : CodePoint} (closes : openerOf? c = some opener) : isBracket c = true := by
    simp [isBracket, isCloser, closes]
  have opener {c closer : CodePoint} (opens : closerOf? c = some closer) : isBracket c = true := by
    simp [isBracket, isOpener, opens]
  obtain ⟨_, _, _, there, closes, -, rfl⟩ | ⟨_, _, _, _, _, partners, -, -, there, -, rfl⟩ |
    ⟨_, _, _, there, opens, -, rfl⟩ := account
  · exact ⟨_, _, there, closer closes, rfl, rfl⟩
  · obtain ⟨closing, mem, rfl, -⟩ := partners_iff.mp partners
    obtain ⟨⟨there', closes⟩, -⟩ := inText_of_mem mem
    obtain rfl := Option.some.inj (there'.symm.trans there)
    exact ⟨_, _, there, closer closes, rfl, rfl⟩
  · exact ⟨_, _, there, opener opens, rfl, rfl⟩

/-- What is found at a closing bracket is about this bracket. -/
theorem start_of_finding? {closing : Closing} (found : closing.finding? base = some f) :
    f.diagnostic.span.start = base + closing.position := by
  obtain ⟨-, rfl⟩ | ⟨_, -, -, rfl⟩ := finding?_eq_some_iff.mp found <;> rfl

/-- No finding about a closing bracket has the place of one about a bracket that is left open. -/
theorem apart_of_mem {g : Finding} (hf : f ∈ closingFindings base key)
    (hg : g ∈ unclosedFindings base key) :
    f.diagnostic.span.start ≠ g.diagnostic.span.start := by
  obtain ⟨closing, mem, found⟩ := List.mem_filterMap.mp hf
  obtain ⟨openAt, opener, closer, there, opens, -, rfl⟩ := mem_unclosedFindings_iff.mp hg
  obtain ⟨⟨there', closes⟩, -⟩ := inText_of_mem mem
  rw [start_of_finding? found]
  intro same
  have samePlace : closing.position = openAt := Nat.add_left_cancel same
  -- No character opens and closes.
  rw [samePlace, there, Option.some.injEq] at there'
  rw [there', closerOf?_of_openerOf? closes] at opens
  cases opens

variable (base key)

theorem pairwise_closingFindings : (closingFindings base key).Pairwise fun f g =>
    f.diagnostic.span.start < g.diagnostic.span.start := by
  refine (pairwise_pairing 0 [] key).filterMap _ ?_
  intro a b before f found g found'
  rw [start_of_finding? found, start_of_finding? found']
  omega

theorem pairwise_unclosedFindings : (unclosedFindings base key).Pairwise fun f g =>
    f.diagnostic.span.start < g.diagnostic.span.start := by
  have inOrder := reverse_unclosed_sublist 0 [] key
  rw [List.reverse_nil, List.nil_append] at inOrder
  rw [unclosedFindings, List.pairwise_map]
  refine ((pairwise_openings 0 key).sublist inOrder).imp fun {a b} before => ?_
  show base + a.position < base + b.position
  omega

end Findings

/-! ## §5 Counting -/

/-- A closing bracket takes one of its own sort. It takes the `last` one in any case. -/
def Closing.fits (closing : Closing) : Bool := closing.last.map Open.closer == some closing.closer

/-- Where a pair stands, if it is one. -/
def Closing.places (closing : Closing) : ℕ × ℕ :=
  ((closing.last.map Open.position).getD 0, closing.position)

section Counting

variable (base : Nat)

theorem numberOf_append (spec : Diagnostic.Spec) (front back : List Finding) :
    numberOf spec (front ++ back) = numberOf spec front + numberOf spec back :=
  List.countP_append

theorem numberOf_cons (spec : Diagnostic.Spec) (f : Finding) (found : List Finding) :
    numberOf spec (f :: found) =
      numberOf spec found + if f.issue.spec.code == spec.code then 1 else 0 :=
  List.countP_cons

/-- A closing bracket takes none, or one of another sort, or it fits the one it takes.

Each case says what is counted: whether the bracket `fits`, and the spec of what is found. -/
theorem Closing.cases (closing : Closing) :
    closing.last = none ∧ closing.fits = false ∧
        (∃ f, closing.finding? base = some f ∧ f.issue.spec = Catalogue.unmatchedBracket) ∨
      closing.last ≠ none ∧ closing.fits = false ∧
        (∃ f, closing.finding? base = some f ∧ f.issue.spec = Catalogue.mismatchedBracket) ∨
      closing.last ≠ none ∧ closing.fits = true ∧ closing.finding? base = none := by
  cases isLast : closing.last with
  | none =>
    refine .inl ⟨rfl, by simp [fits, isLast], _, finding?_eq_some_iff.mpr (.inl ⟨isLast, rfl⟩), rfl⟩
  | some last =>
    refine .inr ?_
    by_cases same : closing.closer = last.closer
    · exact .inr ⟨by simp, by simp [fits, isLast, same],
        by simp [finding?, closingIssue?, isLast, same]⟩
    · refine .inl ⟨by simp, by simp [fits, isLast, Ne.symm same], _,
        finding?_eq_some_iff.mpr (.inr ⟨last, isLast, same, rfl⟩), rfl⟩

/-- The codes for brackets differ, so no finding is counted twice. -/
theorem bracketCodes_nodup : [Catalogue.unmatchedBracket.code, Catalogue.mismatchedBracket.code,
    Catalogue.unclosedBracket.code].Nodup := by decide +kernel

/-- So closing brackets are counted: all of them, and those that take one.

Those that take one are counted as well because they are as many as the opening brackets that are
taken, by `taken_perm`. -/
theorem numberOf_closings (closings : List Closing) :
    closings.length = closings.countP Closing.fits +
        numberOf Catalogue.mismatchedBracket (closings.filterMap (Closing.finding? base)) +
        numberOf Catalogue.unmatchedBracket (closings.filterMap (Closing.finding? base)) ∧
      (closings.filterMap Closing.last).length = closings.countP Closing.fits +
        numberOf Catalogue.mismatchedBracket (closings.filterMap (Closing.finding? base)) ∧
      numberOf Catalogue.unclosedBracket (closings.filterMap (Closing.finding? base)) = 0 := by
  have codes := bracketCodes_nodup
  simp only [List.nodup_cons, List.mem_cons, List.not_mem_nil, or_false, not_or] at codes
  obtain ⟨⟨unmatched, unmatched'⟩, mismatched, -⟩ := codes
  induction closings with
  | nil => exact ⟨rfl, rfl, rfl⟩
  | cons closing closings ih =>
    obtain ⟨all, taken, others⟩ := ih
    rw [List.length_cons, List.countP_cons]
    -- Each of the three cases adds to one of the counts on the right.
    obtain ⟨isLast, alone, f, found, spec⟩ | ⟨isLast, alone, f, found, spec⟩ |
      ⟨isLast, fits, found⟩ := closing.cases base
    · rw [List.filterMap_cons_some found, List.filterMap_cons_none isLast]
      simp only [numberOf_cons, spec, alone, beq_iff_eq, unmatched, unmatched', Bool.false_eq_true,
        if_true, if_false]
      omega
    · obtain ⟨last, isLast⟩ := Option.ne_none_iff_exists'.mp isLast
      rw [List.filterMap_cons_some found, List.filterMap_cons_some isLast, List.length_cons]
      simp only [numberOf_cons, spec, alone, beq_iff_eq, Ne.symm unmatched, mismatched,
        Bool.false_eq_true, if_true, if_false]
      omega
    · obtain ⟨last, isLast⟩ := Option.ne_none_iff_exists'.mp isLast
      rw [List.filterMap_cons_none found, List.filterMap_cons_some isLast, List.length_cons]
      simp only [fits, if_true]
      omega

/-- What is found about brackets that are left open is counted as such, and not under the other
codes, for by `bracketCodes_nodup` these differ. -/
theorem numberOf_unclosed (stack : List Open) :
    numberOf Catalogue.unclosedBracket (stack.map (Open.finding base)) = stack.length ∧
      numberOf Catalogue.mismatchedBracket (stack.map (Open.finding base)) = 0 ∧
      numberOf Catalogue.unmatchedBracket (stack.map (Open.finding base)) = 0 := by
  have codes := bracketCodes_nodup
  simp only [List.nodup_cons, List.mem_cons, List.not_mem_nil, or_false, not_or] at codes
  obtain ⟨⟨-, unmatched⟩, mismatched, -⟩ := codes
  have spec (bracket : Open) : (bracket.finding base).issue.spec = Catalogue.unclosedBracket := rfl
  induction stack with
  | nil => exact ⟨rfl, rfl, rfl⟩
  | cons bracket stack ih =>
    simp only [List.map_cons, numberOf_cons, List.length_cons, spec, beq_iff_eq,
      Ne.symm unmatched, Ne.symm mismatched, if_true, if_false]
    omega

/-- Brackets at two places of a key are of one sort if the closing one `fits` what it takes. -/
theorem fitAt_iff {key : Text} {closing : Closing} (mem : closing ∈ (pairing 0 [] key).1)
    {last : Open} (taken : closing.last = some last) :
    FitAt key last.position closing.position ↔ closing.fits = true := by
  obtain ⟨⟨there, -⟩, -⟩ := inText_of_mem mem
  obtain ⟨opened, opens⟩ := inText_of_last mem taken
  rw [FitAt, Closing.fits, taken]
  simp [there, opened, opens, SameSort]

/-- The pairs of a key, counted: as many as closing brackets that fit. They are listed without
repetition because closing brackets stand at different places. -/
theorem exists_pairs (key : Text) : ∃ pairs : Finset (ℕ × ℕ),
    (∀ openAt closeAt, (openAt, closeAt) ∈ pairs ↔
      Partners key openAt closeAt ∧ FitAt key openAt closeAt) ∧
    pairs.card = (pairing 0 [] key).1.countP Closing.fits := by
  have nodup : (((pairing 0 [] key).1.filter Closing.fits).map Closing.places).Nodup := by
    refine List.Nodup.of_map Prod.snd ?_
    rw [List.map_map]
    exact List.pairwise_map.mpr (((pairwise_pairing 0 [] key).filter _).imp Nat.ne_of_lt)
  refine ⟨(((pairing 0 [] key).1.filter Closing.fits).map Closing.places).toFinset, ?_, ?_⟩
  · intro openAt closeAt
    -- A pair is listed through the closing bracket that takes the opening one.
    simp only [List.mem_toFinset, List.mem_map, List.mem_filter, Closing.places, Prod.mk.injEq]
    constructor
    · rintro ⟨closing, ⟨mem, fits⟩, rfl, rfl⟩
      obtain ⟨last, taken, -⟩ := Option.map_eq_some_iff.mp (beq_iff_eq.mp fits)
      rw [taken, Option.map_some, Option.getD_some]
      refine ⟨partners_iff.mpr ⟨closing, mem, rfl, ?_⟩, (fitAt_iff mem taken).mpr fits⟩
      rw [taken, Option.map_some]
    · rintro ⟨partners, fit⟩
      obtain ⟨closing, mem, rfl, taken⟩ := partners_iff.mp partners
      obtain ⟨last, isLast, rfl⟩ := Option.map_eq_some_iff.mp taken
      refine ⟨closing, ⟨mem, (fitAt_iff mem isLast).mp fit⟩, ?_, rfl⟩
      rw [taken, Option.getD_some]
  · rw [List.toFinset_card_of_nodup nodup, List.length_map, List.countP_eq_length_filter]

end Counting

/-- What is found in a key accounts for its brackets: what is found at closing brackets comes first,
in order, then what is found about brackets that are left open, in order.

The brackets are `( ) [ ]`. That they are nested is said with `bracketWord`, which by
`isBracket_iff_eq` leaves just these characters of the key, and with `SameSort`, which by
`closerOf?_eq_some_iff` holds of `(` and `)` and of `[` and `]`. The counts are those of `isOpener`
and `isCloser`, told by `isOpener_iff_eq` and `isCloser_iff_eq`. -/
theorem findings_account (base : Nat) (key : Text) : ∃ closings unclosed,
    findings base key = .ok (closings ++ unclosed) ∧ Accounts base key closings unclosed := by
  have made := findings_eq base key
  refine ⟨closingFindings base key, unclosedFindings base key, made, ?_⟩
  constructor
  case silent_iff =>
    rw [← wellNested_iff, ← findings_eq_nil_iff base, made, Except.ok.injEq]
    rfl
  case closing_iff => exact fun f => mem_closingFindings_iff
  case unclosed_iff => exact fun f => mem_unclosedFindings_iff
  case covers =>
    intro f mem
    rw [List.mem_append, mem_closingFindings_iff, mem_unclosedFindings_iff, or_assoc] at mem
    exact covers_of_account mem
  case apart =>
    refine List.pairwise_append.mpr ⟨?_, ?_, fun f hf g hg => apart_of_mem hf hg⟩
    · exact (pairwise_closingFindings base key).imp Nat.ne_of_lt
    · exact (pairwise_unclosedFindings base key).imp Nat.ne_of_lt
  case closings_inOrder => exact pairwise_closingFindings base key
  case unclosed_inOrder => exact pairwise_unclosedFindings base key
  case total =>
    obtain ⟨pairs, isPair, card⟩ := exists_pairs key
    refine ⟨pairs, isPair, ?_⟩
    -- Closing brackets are listed with what they take, and openers are taken or left open.
    obtain ⟨all, taken, noneLeft⟩ := numberOf_closings base (pairing 0 [] key).1
    obtain ⟨left, noneMismatched, noneUnmatched⟩ :=
      numberOf_unclosed base (pairing 0 [] key).2.reverse
    have opened := (taken_perm key).length_eq
    rw [length_openings, List.length_append] at opened
    rw [length_pairing] at all
    rw [List.length_reverse] at left
    simp only [numberOf_append, closingFindings, unclosedFindings, card]
    omega

end StyleCheck.Bracket
