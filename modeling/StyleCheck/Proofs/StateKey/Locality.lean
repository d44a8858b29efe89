import StyleCheck.Proofs.StateKey.Tokens

/-!
# Lexing state keys in parts

A token of a state key is the same whatever stands in front of it and behind it, and so is the body
that hangs below it. So the tokens of a part of a key that starts and ends between tokens are those
of the key. Only a blank part is different: it is no white space but a key of its own.

## Main definitions

- `Lexeme.pseudoArgument`, `Lexeme.advancedBehind`: what makes the rest of a lexeme behind its name.
- `Lexeme.move`: a lexeme whose body stands further back.

## Main statements

- `Lexeme.reads_read`: the first lexeme is read off the front of a key.
- `lexFrom_local`: the lexer of state keys is local.
- `lex_slice_iff`: some tokens in a row are those of the part of the key that they take, unless all
  of them are white space.
-/

namespace StyleCheck.StateKey

open Text
open Token (shift shiftAll)

variable {aliases : List Text}

namespace Lexeme

/-! ## §1 What lexemes take -/

/-- The lexeme with more characters in `front`. -/
def prepend (front : Text) (l : Lexeme) : Lexeme := { l with tail := front ++ l.tail }

/-- Nothing in a body depends on what lies behind the parenthesis that closes it.

By `reads_sparse`, the scan of a body is a reader up to and with that parenthesis. -/
theorem reads_withBody (body : Body) (position : Nat) (kind : TokenKind) :
    Reads (fun l : Lexeme => l.tail.tail) (withBody body position kind []) :=
  (reads_sparse body.reads_token (position + 2)).map
    (fun inside =>
      ({ kind, tail := CodePoint.char '(' :: inside.2, children := inside.1.map leaf } : Lexeme))
    fun _ => rfl

/-- What a parenthesis opens, or what there is without one. -/
def onOpen (behind : Text → Lexeme) (bare : Lexeme) : Text → Lexeme
  | '(' :: inside => behind inside
  | _ => bare

/-- Without a parenthesis, `onOpen` is what there is without one. -/
theorem onOpen_of_other {behind : Text → Lexeme} {bare : Lexeme} {cs : Text}
    (other : ∀ inside, cs ≠ CodePoint.char '(' :: inside) : onOpen behind bare cs = bare := by
  unfold onOpen
  split
  · next inside => exact absurd rfl (other inside)
  · rfl

theorem reads_onOpen {behind : Text → Lexeme} {bare : Lexeme}
    (takes : ∀ inside, (behind inside).tail.head? = some (CodePoint.char '('))
    (reads : Reads (fun l : Lexeme => l.tail.tail) behind) (nothing : bare.tail = []) :
    Reads Lexeme.tail (onOpen behind bare) := by
  refine .onHead (CodePoint.char '(') (fun _ => rfl) ?_ takes reads (.const nothing)
  intro cs other
  refine onOpen_of_other fun inside same => other ?_
  rw [same, List.head?_cons]

/-- The argument of a pseudo-class, with its parentheses: a selector, or plain text. -/
def pseudoArgument (position : Nat) (name inside : Text) : Lexeme :=
  if Vocabulary.selectorPseudoClasses.contains (name.drop (secondColon name).length) then
    withBody .selector (position + name.length) .pseudoClass [] inside
  else { kind := .pseudoClass, tail := CodePoint.char '(' :: groupTail '(' ')' 1 inside }

theorem secondColon_pseudoName (cs : Text) : secondColon (pseudoName cs) = secondColon cs := by
  have long : (secondColon cs).length ≤ (pseudoName cs).length := by
    rw [pseudoName, List.length_append]
    exact Nat.le_add_right _ _
  have front : cs.take (pseudoName cs).length = pseudoName cs :=
    (List.prefix_iff_eq_take.mp (reads_pseudoName.isPrefix cs)).symm
  rw [← front]
  exact reads_secondColon.stable cs _ long

/-- A pseudo-class is its name and what its argument makes of it. The equation puts `pseudo` into
the form that `Reads.andThen` speaks of. -/
theorem pseudo_eq (position : Nat) (cs : Text) :
    pseudo position cs = prepend (pseudoName cs)
      (onOpen (pseudoArgument position (pseudoName cs)) { kind := .pseudoClass, tail := [] }
        (cs.drop (pseudoName cs).length)) := by
  simp only [pseudo, pseudoTail]
  split
  · next inside behind =>
    -- A second colon is looked for in the key, and is found in the name as well.
    rw [behind, onOpen, pseudoArgument, secondColon_pseudoName]
    split <;> rfl
  · next other =>
    rw [onOpen_of_other other, prepend, List.append_nil]

/-- A pseudo-class is read, with its argument if a parenthesis follows the name. A selector is read
up to its end, by `reads_withBody`. -/
theorem reads_pseudo (position : Nat) : Reads Lexeme.tail (pseudo position) := by
  have plain : Reads (fun l : Lexeme => l.tail.tail) fun inside =>
      { kind := .pseudoClass, tail := CodePoint.char '(' :: groupTail '(' ')' 1 inside } :=
    (reads_groupTail '(' ')' 1).map (fun argument =>
      ({ kind := .pseudoClass, tail := CodePoint.char '(' :: argument } : Lexeme)) fun _ => rfl
  -- The name is read first, and what is read behind it depends on the name alone.
  rw [funext (pseudo_eq position)]
  refine reads_pseudoName.andThen (fun name => reads_onOpen ?_ ?_ rfl) prepend fun _ _ => rfl
  · intro inside
    unfold pseudoArgument
    split <;> rfl
  · exact .iteConst _ (reads_withBody .selector (position + name.length) .pseudoClass) plain

/-- The kind of a name behind `@` that is no configured alias and cannot carry a body. -/
def bodilessKind (keyword : Text) : TokenKind :=
  if keyword == "starting".toText then .startingState
  else if keyword == "keyframes".toText || keyword == "properties".toText then .atRule
  else .stateAlias

/-- What makes the rest of a state behind `@` and its name. -/
def advancedBehind (aliases : List Text) (position : Nat) (keyword : Text) : Text → Lexeme :=
  if aliases.contains ('@' :: keyword) then fun _ => { kind := .stateAlias, tail := [] }
  else match atState? keyword with
    | some (kind, body) =>
      onOpen (withBody body (position + keyword.length) kind []) { kind, tail := [] }
    | none => fun _ => { kind := bodilessKind keyword, tail := [] }

theorem reads_advancedBehind (aliases : List Text) (position : Nat) (keyword : Text) :
    Reads Lexeme.tail (advancedBehind aliases position keyword) := by
  unfold advancedBehind
  split
  · exact .const rfl
  · split
    · next kind body _ =>
      exact reads_onOpen (fun _ => rfl) (reads_withBody body (position + keyword.length) kind) rfl
    · exact .const rfl

/-- A state behind `@` that is no container query goes by its name.

The name decides by `advancedBehind` whether it can have a body; a parenthesis behind it decides
whether it has one. -/
theorem advanced_eq (position : Nat) {cs : Text} (other : cs.head? ≠ some (CodePoint.char '(')) :
    advanced aliases position cs = prepend (dashedName cs)
      (advancedBehind aliases position (dashedName cs) (cs.drop (dashedName cs).length)) := by
  unfold advanced
  split
  · exact absurd rfl other
  simp only [advancedBehind]
  split
  · rw [prepend, List.append_nil]
  split
  · next kind body inside state behind =>
    rw [state, behind]
    rfl
  · -- The state could have a body, but there is no parenthesis.
    next kind body state noBody =>
    rw [state]
    simp only [onOpen_of_other noBody, prepend, List.append_nil]
  · next none =>
    simp only [none, prepend, bodilessKind, List.append_nil]
    split_ifs <;> rfl

/-- What stands behind `@` is read: a container query, or a name and what it makes of the rest. -/
theorem reads_advanced (aliases : List Text) (position : Nat) :
    Reads Lexeme.tail (advanced aliases position) := by
  have named : Reads Lexeme.tail fun cs => prepend (dashedName cs)
      (advancedBehind aliases position (dashedName cs) (cs.drop (dashedName cs).length)) :=
    reads_dashedName.andThen (reads_advancedBehind aliases position) prepend fun _ _ => rfl
  exact .onHead (CodePoint.char '(') (fun _ => rfl) (fun _ => advanced_eq position) (fun _ => rfl)
    (reads_withBody .condition position .containerState) named

/-- The first lexeme is read off the front of a key.

The readers are put together in the order in which `read` tries them, by conditions on the first
character alone. -/
theorem reads_read (aliases : List Text) (position : Nat) (c : CodePoint) :
    Reads Lexeme.tail (read aliases position c) := by
  have single (kind : TokenKind) : Reads Lexeme.tail fun _ => { kind, tail := [] } := .const rfl
  have tailed {scan : Text → Text} (kind : TokenKind) (h : Reads id scan) :
      Reads Lexeme.tail fun cs => { kind, tail := scan cs } :=
    h.map (fun tail => ({ kind, tail } : Lexeme)) fun _ => rfl
  have modified : Reads Lexeme.tail fun cs =>
      { kind := (modifier true cs).1, tail := (modifier true cs).2 } :=
    (reads_modifier true).map (fun m => ({ kind := m.1, tail := m.2 } : Lexeme)) fun _ => rfl
  unfold read
  exact .iteConst _ (tailed _ (reads_takeWhile isBlank)) <|
    .iteConst _ (single _) <|
    .iteConst _ (single _) <|
    .iteConst _ (reads_pseudo position) <|
    .iteConst _ (tailed _ reads_dashedName) <|
    .iteConst _ (tailed _ reads_attributeTail) <|
    .iteConst _ (reads_advanced aliases position) <|
    .iteConst _ modified (single _)

/-! ## §2 Lexemes at other positions -/

/-- The lexeme at a position further back: what hangs below it moves along.

The characters that it takes stay the same. -/
def move (delta : Nat) (l : Lexeme) : Lexeme := { l with children := shiftAll delta l.children }

theorem leaf_move (delta : Nat) (f : Fragment TokenKind) :
    leaf (f.move delta) = shift delta (leaf f) := by
  simp only [leaf, Fragment.move, Fragment.stop, shift, Token.mk.injEq, true_and]
  refine ⟨by push_cast; rfl, by push_cast; omega, rfl⟩

/-- A body further back is the same one, moved, by `sparse_add`. -/
theorem withBody_add (body : Body) (position delta : Nat) (kind : TokenKind)
    (head inside : Text) :
    withBody body (position + delta) kind head inside =
      move delta (withBody body position kind head inside) := by
  have low : position + delta + head.length + 2 = position + head.length + 2 + delta := by omega
  have children (fragments : List (Fragment TokenKind)) :
      (fragments.map (Fragment.move delta)).map leaf = shiftAll delta (fragments.map leaf) := by
    induction fragments with
    | nil => rfl
    | cons f fragments ih =>
      simp only [List.map_cons, Token.shiftAll_cons, leaf_move, ih]
  simp only [withBody, low, sparse_add, children, move]

/-- So is a pseudo-class, and so is a state behind `@`. -/
theorem pseudo_add (position delta : Nat) (cs : Text) :
    pseudo (position + delta) cs = move delta (pseudo position cs) := by
  simp only [pseudo]
  split
  · split
    · exact withBody_add _ _ _ _ _ _
    · rfl
  · rfl

theorem advanced_add (aliases : List Text) (position delta : Nat) (cs : Text) :
    advanced aliases (position + delta) cs = move delta (advanced aliases position cs) := by
  unfold advanced
  split
  · exact withBody_add _ _ _ _ _ _
  · simp only
    split
    · rfl
    · split
      · exact withBody_add _ _ _ _ _ _
      · rfl
      · -- Without a body, nothing depends on the position.
        split_ifs <;> rfl

/-- Only offsets depend on the `position`, and those only below a lexeme. -/
theorem read_add (aliases : List Text) (position delta : Nat) (c : CodePoint) (cs : Text) :
    read aliases (position + delta) c cs = move delta (read aliases position c cs) := by
  unfold read
  split_ifs
  all_goals first
    | rfl
    | exact pseudo_add position delta cs
    | exact advanced_add aliases position delta cs

/-! ## §3 White space -/

/-- What stands behind `@` is no white space. -/
theorem advanced_kind_ne_whitespace (aliases : List Text) (position : Nat) (cs : Text) :
    (advanced aliases position cs).kind ≠ .whitespace := by
  unfold advanced
  split
  · exact TokenKind.noConfusion
  · dsimp only
    split
    · exact TokenKind.noConfusion
    split
    · -- A state that can have a body has a kind of its own, with the body or without it.
      next known _ => exact kind_ne_of_atState? known rfl
    · next known _ => exact kind_ne_of_atState? known rfl
    · split_ifs <;> exact TokenKind.noConfusion

/-- White space starts with a blank, and what starts with a blank is white space. -/
theorem read_kind_eq_whitespace_iff (aliases : List Text) (position : Nat) (c : CodePoint)
    (cs : Text) : (read aliases position c cs).kind = .whitespace ↔ isBlank c = true := by
  refine ⟨fun white => ?_, fun blank => by rw [read, if_pos blank]⟩
  -- No other form of lexeme is called white space.
  by_contra notBlank
  unfold read at white
  rw [if_neg notBlank] at white
  split_ifs at white with operator parenthesis colon point bracket sign start
  · rw [pseudo_kind] at white
    cases white
  · exact absurd white (advanced_kind_ne_whitespace aliases position cs)
  · have white : (modifier true cs).1 = .whitespace := white
    rcases modifier_kind true cs with kind | kind <;> simp [kind] at white

end Lexeme

/-! ## §4 The lexer is local -/

/-- A token depends only on the characters it takes.

This is `Reads.read_front` for the first lexeme, its children included. -/
theorem firstToken_append {position : Nat} {c : CodePoint} {front back : Text}
    (enough : (firstToken aliases position c (front ++ back)).text.length ≤ front.length + 1) :
    firstToken aliases position c front = firstToken aliases position c (front ++ back) := by
  have same : Lexeme.read aliases position c front =
      Lexeme.read aliases position c (front ++ back) := by
    refine (Lexeme.reads_read aliases position c).read_front ?_
    rw [firstToken, List.length_cons] at enough
    omega
  rw [firstToken, firstToken, same]

theorem firstToken_add (aliases : List Text) (position delta : Nat) (c : CodePoint) (cs : Text) :
    firstToken aliases (position + delta) c cs =
      shift delta (firstToken aliases position c cs) := by
  simp only [firstToken, Lexeme.read_add, Lexeme.move, shift, Token.mk.injEq, true_and]
  exact ⟨by push_cast; rfl, by push_cast; omega, trivial⟩

/-- All tokens at another position are the same ones, moved by `shiftAll`. -/
theorem lexFrom_add (aliases : List Text) (position delta : Nat) (key : Text) :
    lexFrom aliases (position + delta) key = shiftAll delta (lexFrom aliases position key) := by
  induction position, key using (lexes aliases).induction with
  | nil position => rw [(lexes aliases).nil, (lexes aliases).nil, Token.shiftAll_nil]
  | cons position c tail rest step ih =>
    -- At the other position the step takes the same characters.
    have moved : LexStep (lexFrom aliases) (firstToken aliases) (position + delta) c tail rest := by
      rw [(takesTail aliases).lexStep_iff] at step ⊢
      rw [Lexeme.read_add]
      exact step
    rw [step.lexFrom_eq, moved.lexFrom_eq, Token.shiftAll_cons, ← ih, Nat.add_right_comm,
      firstToken_add]

theorem lexFrom_local (aliases : List Text) :
    Lexes.Local (lexFrom aliases) (firstToken aliases) where
  toLexes := lexes aliases
  stable _ _ _ _ enough := firstToken_append enough
  moved := lexFrom_add aliases

/-! ## §5 Parts of keys -/

/-- A text is blank exactly if all its tokens are white space.

This is about `lexFrom`; a whole key that is blank is one token of another kind. -/
theorem all_isBlank_iff (aliases : List Text) (position : Nat) (text : Text) :
    text.all isBlank = true ↔ ∀ t ∈ lexFrom aliases position text, t.kind = .whitespace := by
  induction position, text using (lexes aliases).induction with
  | nil position => simp [(lexes aliases).nil]
  | cons position c tail rest step ih =>
    have taken := (takesTail aliases).lexStep_iff.mp step
    have kind := Lexeme.read_kind_eq_whitespace_iff aliases position c (tail ++ rest)
    rw [step.lexFrom_eq, List.forall_mem_cons, ← ih, firstToken, kind, List.all_cons,
      List.all_append, Bool.and_eq_true, Bool.and_eq_true]
    refine and_congr_right fun blank => and_iff_right ?_
    -- White space takes the blanks behind its first one, and nothing else.
    rw [← taken, Lexeme.read, if_pos blank]
    exact List.all_takeWhile

/-- What some tokens in a row take of a key is lexed alone to the same tokens, moved to the start,
unless all of them are white space.

A text of white space alone is the default state, so there the tokens cannot be the same. -/
theorem lex_slice_iff (aliases : List Text) {key : Text} (some : key.all isBlank = false)
    {i j : Nat} (ordered : i ≤ j) (inside : j < (lex aliases key).length) :
    lex aliases (slice key (lex aliases key)[i].start.toNat (lex aliases key)[j].stop.toNat) =
        shiftAll (-(lex aliases key)[i].start) (((lex aliases key).take (j + 1)).drop i) ↔
      ∃ t ∈ ((lex aliases key).take (j + 1)).drop i, t.kind ≠ .whitespace := by
  -- Without regard to blanks, the part is lexed to the tokens: the lexer is local.
  have isLocal := lexFrom_local aliases
  have plain : lex aliases key = lexFrom aliases 0 key := by
    rw [lex, some, if_neg Bool.false_ne_true]
  simp only [plain] at inside ⊢
  have lexed := isLocal.lex_between (.self key) ordered inside
  generalize slice key _ _ = part at lexed ⊢
  generalize (lexFrom aliases 0 key)[i].start = start at lexed ⊢
  generalize ((lexFrom aliases 0 key).take (j + 1)).drop i = middle at lexed ⊢
  have white : part.all isBlank = true ↔ ∀ t ∈ middle, t.kind = .whitespace := by
    rw [all_isBlank_iff aliases 0, lexed, Token.shiftAll_eq_map, List.forall_mem_map]
    simp only [Token.shift_kind]
  have notWhite : (∃ t ∈ middle, t.kind ≠ .whitespace) ↔ ¬part.all isBlank = true := by
    simp only [white, not_forall, exists_prop, ne_eq]
  rw [notWhite, lex]
  by_cases blank : part.all isBlank = true
  · -- A blank part is the default state, which is no white space.
    rw [if_pos blank]
    refine iff_of_false (fun same => ?_) (not_not_intro blank)
    rw [← lexed] at same
    have kind := (all_isBlank_iff aliases 0 part).mp blank
    rw [← same, List.forall_mem_singleton] at kind
    cases kind
  · rw [if_neg blank]
    exact iff_of_true lexed blank

theorem lex_slice_iff_body :
    ∃ (_ : 2 < (lex [] "x & :has(Body > Row)".toText).length)
      (_ : 4 < (lex [] "x & :has(Body > Row)".toText).length),
      lex [] (slice "x & :has(Body > Row)".toText
          (lex [] "x & :has(Body > Row)".toText)[2].start.toNat
          (lex [] "x & :has(Body > Row)".toText)[4].stop.toNat) =
        shiftAll (-(lex [] "x & :has(Body > Row)".toText)[2].start)
          (((lex [] "x & :has(Body > Row)".toText).take 5).drop 2) := by
  have five : 4 < (lex [] "x & :has(Body > Row)".toText).length := by decide +kernel
  have notWhite : ∃ t ∈ ((lex [] "x & :has(Body > Row)".toText).take 5).drop 2,
      t.kind ≠ .whitespace := by
    decide +kernel
  exact ⟨by omega, five, (lex_slice_iff [] (by decide) (by omega) five).mpr notWhite⟩

end StyleCheck.StateKey
