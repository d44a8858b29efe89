import StyleCheck.Proofs.StateKey.Body
import StyleCheck.Proofs.Text.Sparse
import StyleCheck.Proofs.Token.Stream

/-!
# The tokens of a state key

A state key is cut into tokens without a gap. The body of a state is not: only the tokens that its
grammar knows are kept, but nothing is lost beside them in which a token could start, and the body
ends at the first parenthesis that no token of it takes.

## Main definitions

- `OpensBody`: the states that carry a body.
- `CarriesBody`: what the body of a state looks like.
- `bodyKinds`: the kinds of the tokens in bodies.

## Main statements

- `lex_covers_bodies`: tokens cover the key, and each state with a body carries one.
- `leaf_of_mem_children`: what hangs below a token.
-/

namespace StyleCheck.StateKey

open Text
open Token (flatten)

variable {aliases : List Text}

/-! ## §1 States with a body -/

/-- What stands in front of the parenthesis that opens a body, and which grammar the body has. A
name behind `@` that is a configured alias has no body. -/
inductive OpensBody (aliases : List Text) : Text → Body → Prop
  | pseudoClass {second name : Text} : second = [] ∨ second = ":".toText →
      name ∈ ["has".toText, "is".toText, "where".toText, "not".toText] →
      OpensBody aliases (CodePoint.char ':' :: (second ++ name)) .selector
  | container : OpensBody aliases "@".toText .condition
  | query {name : Text} : name ∈ ["media".toText, "supports".toText] →
      CodePoint.char '@' :: name ∉ aliases → OpensBody aliases (CodePoint.char '@' :: name) .query
  | condition {name : Text} : name ∈ ["root".toText, "own".toText] →
      CodePoint.char '@' :: name ∉ aliases →
      OpensBody aliases (CodePoint.char '@' :: name) .condition

/-- An `offset` lies in a child of the token. -/
def InChild (t : Token) (offset : Nat) : Prop :=
  ∃ u ∈ t.children, u.start ≤ offset ∧ offset < u.stop

/-- A token carries a body between two offsets of a key.

Its children are not empty, stand in order beside each other within the body and are slices of the
key. The body goes to the first closing parenthesis that is in no child, behind which the token
ends, or to the end of the key if there is none. Beside the children there are only blanks and
characters at which no token of the body starts, as `Body.Starts` says. -/
structure CarriesBody (key : Text) (body : Body) (t : Token) (low high : Nat) : Prop where
  low_le_high : low ≤ high
  inside : ∀ u ∈ t.children, (low : Int) ≤ u.start ∧ u.start < u.stop ∧ u.stop ≤ high
  ordered : t.children.Pairwise fun u v => u.stop ≤ v.start
  slices : ∀ u ∈ t.children, u.IsSliceOf key
  leaves : ∀ u ∈ t.children, u.children = []
  ends : key[high]? = some (CodePoint.char ')') ∧ t.stop = high + 1 ∨
    high = key.length ∧ t.stop = high
  noneBefore : ∀ offset, low ≤ offset → offset < high →
    key[offset]? = some (CodePoint.char ')') → InChild t offset
  beside : ∀ offset c cs, low ≤ offset → offset < high → key.drop offset = c :: cs →
    ¬InChild t offset → isBlank c = true ∨ ¬body.Starts c cs

/-- The fragments that a scan of a body finds are the children of a token with that body.

So `CarriesBody` is `SparseRun` for the grammar of the body, where only a closing parenthesis stops
the scan. -/
theorem CarriesBody.of_run {key : Text} {body : Body} {fragments : List (Fragment TokenKind)}
    {low high : Nat} {t : Token}
    (run : SparseRun body.token? (· == CodePoint.char ')') key low fragments high)
    (children : t.children = fragments.map Lexeme.leaf)
    (ends : key[high]? = some (CodePoint.char ')') ∧ t.stop = high + 1 ∨
      high = key.length ∧ t.stop = high) : CarriesBody key body t low high := by
  -- To lie in a child is to be taken by a fragment.
  have taken {offset : Nat} : Taken fragments offset ↔ InChild t offset := by
    simp [Taken, InChild, children, Lexeme.leaf]
  refine ⟨run.low_le_high, ?_, ?_, ?_, ?_, ends, ?_, ?_⟩
  · rw [children, List.forall_mem_map]
    intro f hf
    obtain ⟨above, some, below⟩ := run.inside f hf
    exact ⟨by simpa [Lexeme.leaf], by simpa [Lexeme.leaf], by simpa [Lexeme.leaf]⟩
  · rw [children, List.pairwise_map]
    refine run.apart.imp fun apart => ?_
    simpa [Lexeme.leaf]
  · rw [children, List.forall_mem_map]
    exact fun f hf => .of_standsAt (run.stands f hf) rfl rfl
  · rw [children, List.forall_mem_map]
    exact fun _ _ => rfl
  · intro offset above below close
    obtain inChild | ⟨c, cs, ahead, goesOn, -⟩ := run.passed offset above below
    · exact taken.mp inChild
    · rw [getElem?_of_drop_eq_cons ahead, Option.some.injEq] at close
      simp [close] at goesOn
  · intro offset c cs above below ahead outside
    obtain inChild | ⟨d, ds, ahead', -, none⟩ := run.passed offset above below
    · exact absurd (taken.mp inChild) outside
    · -- The scan has passed over the character, so the grammar has no token for it.
      rw [ahead, List.cons.injEq] at ahead'
      obtain ⟨rfl, rfl⟩ := ahead'
      exact .inr (Body.token?_eq_none_iff.mp none)

/-! ## §2 The token of a state with a body -/

/-- The token that the first lexeme of the text `c :: cs` makes at a position. Its children are made
with the lexeme, already in the coordinates of the key. -/
def firstToken (aliases : List Text) (position : Nat) (c : CodePoint) (cs : Text) : Token where
  kind := (Lexeme.read aliases position c cs).kind
  text := c :: (Lexeme.read aliases position c cs).tail
  start := position
  stop := (position + 1 + (Lexeme.read aliases position c cs).tail.length : Nat)
  children := (Lexeme.read aliases position c cs).children

/-- Behind the parenthesis that opens a body lies what is inside. -/
theorem drop_behind_open {key head inside : Text} {position : Nat} {c : CodePoint}
    (ahead : key.drop position = c :: (head ++ CodePoint.char '(' :: inside)) :
    key.drop (position + head.length + 2) = inside := by
  rw [Nat.add_assoc, ← List.drop_drop, ahead, List.drop_succ_cons,
    List.drop_length_add_append, List.drop_succ_cons, List.drop_zero]

/-- A state that is lexed with a body carries it.

The body starts behind the parenthesis, which is `head.length + 2` characters from the start of the
state, and goes as far as the scan finds it. -/
theorem carriesBody_firstToken {key : Text} {body : Body} {position : Nat} {kind : TokenKind}
    {c : CodePoint} {head inside : Text}
    (ahead : key.drop position = c :: (head ++ CodePoint.char '(' :: inside))
    (read : Lexeme.read aliases position c (head ++ CodePoint.char '(' :: inside) =
      Lexeme.withBody body position kind head inside) :
    ∃ high, CarriesBody key body
      (firstToken aliases position c (head ++ CodePoint.char '(' :: inside))
      (position + (head.length + 2)) high := by
  obtain ⟨low, hlow⟩ : ∃ low, position + head.length + 2 = low := ⟨_, rfl⟩
  rw [← Nat.add_assoc, hlow]
  -- The scan starts right behind the parenthesis.
  have long := congrArg List.length ahead
  rw [List.length_drop, List.length_cons, List.length_append, List.length_cons] at long
  have there : key.drop low = inside := by rw [← hlow, drop_behind_open ahead]
  have run := sparseRun_sparse body.token? (· == CodePoint.char ')')
    (fun _ _ _ _ token => Body.isPrefix_of_token token) (by omega) there
  refine ⟨_, .of_run run ?_ ?_⟩
  · simp only [firstToken, read, Lexeme.withBody, hlow]
  · simp only [firstToken, read, Lexeme.withBody, hlow]
    generalize (sparse body.token? (· == CodePoint.char ')') low inside).2 = length at run ⊢
    simp only [List.length_append, List.length_cons, List.length_take]
    -- A character is left where the scan stops exactly if the body is closed.
    obtain all | ⟨d, ds, stops, close⟩ := run.ends
    · refine .inr ⟨all, ?_⟩
      omega
    · refine .inl ⟨?_, ?_⟩
      · rw [beq_iff_eq] at close
        rw [getElem?_of_drop_eq_cons stops, close]
      · have some := congrArg List.length stops
        rw [List.length_drop, List.length_cons] at some
        omega

/-! ## §3 Which states have a body -/

namespace Lexeme

theorem withBody_tail_isPrefix (body : Body) (position : Nat) (kind : TokenKind)
    (head inside : Text) :
    (withBody body position kind head inside).tail <+: head ++ CodePoint.char '(' :: inside :=
  (List.prefix_append_right_inj head).mpr ((List.prefix_cons_inj _).mpr (List.take_prefix _ _))

/-- A pseudo-class with a selector for an argument is lexed with a body.

The names of such classes are a short list, and none of them starts with a colon; so the second
colon is found where it stands. -/
theorem pseudo_open {colon name : Text} (hcolon : colon = [] ∨ colon = ":".toText)
    (hname : name ∈ Vocabulary.selectorPseudoClasses) (position : Nat) (inside : Text) :
    pseudo position (colon ++ name ++ CodePoint.char '(' :: inside) =
      withBody .selector position .pseudoClass (colon ++ name) inside := by
  have plain : ∀ n ∈ Vocabulary.selectorPseudoClasses,
      n.all isDashedNameChar = true ∧ n.head? ≠ some (CodePoint.char ':') := by decide
  obtain ⟨dashed, noColon⟩ := plain name hname
  have second : secondColon (colon ++ name ++ CodePoint.char '(' :: inside) = colon := by
    rcases hcolon with rfl | rfl
    · cases name with
      | nil => rfl
      | cons c name =>
        have differs : c ≠ CodePoint.char ':' := by simpa using noColon
        simp [secondColon, differs]
    · rfl
  -- The name ends at the parenthesis.
  have head : pseudoName (colon ++ name ++ CodePoint.char '(' :: inside) = colon ++ name := by
    rw [pseudoName, second, List.append_assoc, List.drop_left, dashedName_open dashed]
  have selector : Vocabulary.selectorPseudoClasses.contains name = true :=
    List.contains_iff_mem.mpr hname
  simp only [pseudo, head, second, List.drop_left, selector, if_true]

/-- A state behind `@` that can have a body is lexed with it, unless its name is a configured alias.
-/
theorem advanced_open {name : Text} {kind : TokenKind} {body : Body}
    (dashed : name.all isDashedNameChar = true) (noAlias : CodePoint.char '@' :: name ∉ aliases)
    (state : atState? name = some (kind, body)) (position : Nat) (inside : Text) :
    advanced aliases position (name ++ CodePoint.char '(' :: inside) =
      withBody body position kind name inside := by
  unfold advanced
  split
  · next inside' container =>
    -- Only the empty name leaves the parenthesis right behind the sign, and it is no state.
    exfalso
    cases name with
    | nil => cases state
    | cons c name =>
      rw [List.cons_append, List.cons.injEq] at container
      rw [container.1] at dashed
      cases dashed
  · simp [dashedName_open dashed, noAlias, state]

/-- A state that may carry a body does so where a parenthesis follows.

The cases are those of `OpensBody`; for each name, `atState?` tells kind and body. -/
theorem read_of_opensBody {head : Text} {body : Body} (h : OpensBody aliases head body) :
    ∃ c name kind, head = c :: name ∧ ∀ position inside,
      read aliases position c (name ++ CodePoint.char '(' :: inside) =
        withBody body position kind name inside := by
  cases h with
  | pseudoClass hsecond hname =>
    exact ⟨_, _, .pseudoClass, rfl, pseudo_open hsecond hname⟩
  | container => exact ⟨_, [], .containerState, rfl, fun _ _ => rfl⟩
  | @query name hname noAlias =>
    -- There are two keywords with this body, and so in the next case.
    have states : ∀ n ∈ ["media".toText, "supports".toText],
        n.all isDashedNameChar = true ∧ (atState? n).map Prod.snd = some .query := by decide
    obtain ⟨dashed, state⟩ := states name hname
    obtain ⟨⟨kind, _⟩, state, rfl⟩ := Option.map_eq_some_iff.mp state
    exact ⟨_, name, kind, rfl, advanced_open dashed noAlias state⟩
  | @condition name hname noAlias =>
    have states : ∀ n ∈ ["root".toText, "own".toText],
        n.all isDashedNameChar = true ∧ (atState? n).map Prod.snd = some .condition := by decide
    obtain ⟨dashed, state⟩ := states name hname
    obtain ⟨⟨kind, _⟩, state, rfl⟩ := Option.map_eq_some_iff.mp state
    exact ⟨_, name, kind, rfl, advanced_open dashed noAlias state⟩

/-- A lexeme that has no body and takes characters off the front of a text. Its `children` are none.
-/
def Plain (l : Lexeme) (cs : Text) : Prop := l.children = [] ∧ l.tail <+: cs

/-- A lexeme with a body that is opened somewhere in the text `c :: cs`. -/
def HasBody (aliases : List Text) (position : Nat) (c : CodePoint) (cs : Text) (l : Lexeme) :
    Prop :=
  ∃ name inside body kind, cs = name ++ CodePoint.char '(' :: inside ∧
    OpensBody aliases (c :: name) body ∧ l = withBody body position kind name inside

theorem secondColon_eq (cs : Text) : secondColon cs = [] ∨ secondColon cs = ":".toText := by
  unfold secondColon
  split
  · exact .inr rfl
  · exact .inl rfl

/-- A pseudo-class without a body takes its argument as plain text, if it has one. It has a body if
a parenthesis follows one of the `selectorPseudoClasses`. -/
theorem pseudo_hasBody_or_tail (position : Nat) (cs : Text) :
    HasBody aliases position (CodePoint.char ':') cs (pseudo position cs) ∨
      (pseudo position cs).children = [] ∧ (pseudo position cs).tail = pseudoTail cs := by
  simp only [pseudo]
  split
  · next inside behind =>
    split
    · next selector =>
      refine .inl ⟨pseudoName cs, inside, .selector, .pseudoClass, ?_, ?_, rfl⟩
      · rw [← behind]
        exact (reads_pseudoName.append_drop cs).symm
      · have name := List.contains_iff_mem.mp selector
        rw [pseudoName, List.drop_left] at name
        exact .pseudoClass (secondColon_eq cs) name
    · exact .inr ⟨rfl, rfl⟩
  · next noGroup =>
    refine .inr ⟨rfl, ?_⟩
    -- No group follows the name, so nothing is taken behind it.
    rw [pseudoTail]
    cases behind : cs.drop (pseudoName cs).length with
    | nil => exact (List.append_nil _).symm
    | cons d rest =>
      have notOpen : d ≠ CodePoint.char '(' := by
        rintro rfl
        exact noGroup rest behind
      simp [group, notOpen]

/-- What `atState?` gives a body is a state that opens one. -/
theorem opensBody_of_atState {name : Text} {kind : TokenKind} {body : Body}
    (state : atState? name = some (kind, body)) (noAlias : CodePoint.char '@' :: name ∉ aliases) :
    OpensBody aliases (CodePoint.char '@' :: name) body := by
  unfold atState? at state
  -- One keyword after the other, with the body that it opens.
  split at state
  · next media =>
    cases state
    exact .query (by simp [beq_iff_eq.mp media]) noAlias
  split at state
  · next supports =>
    cases state
    exact .query (by simp [beq_iff_eq.mp supports]) noAlias
  split at state
  · next root =>
    cases state
    exact .condition (by simp [beq_iff_eq.mp root]) noAlias
  split at state
  · next own =>
    cases state
    exact .condition (by simp [beq_iff_eq.mp own]) noAlias
  · cases state

/-- Behind the sign, a lexeme without a body is a name, and takes as much as `dashedName`. -/
theorem advanced_hasBody_or_tail (position : Nat) (cs : Text) :
    HasBody aliases position (CodePoint.char '@') cs (advanced aliases position cs) ∨
      (advanced aliases position cs).children = [] ∧
        (advanced aliases position cs).tail = dashedName cs := by
  unfold advanced
  split
  · next inside => exact .inl ⟨[], inside, .condition, .containerState, rfl, .container, rfl⟩
  · simp only
    -- A configured alias is decided before all keywords.
    split
    · exact .inr ⟨rfl, rfl⟩
    · next noAlias =>
      split
      · next kind body inside state behind =>
        refine .inl ⟨dashedName cs, inside, body, kind, ?_, ?_, rfl⟩
        · rw [← behind]
          exact (reads_dashedName.append_drop cs).symm
        · -- The name is no configured alias, for those have been decided before.
          exact opensBody_of_atState state (by simpa using noAlias)
      · exact .inr ⟨rfl, rfl⟩
      · split
        · exact .inr ⟨rfl, rfl⟩
        split
        · exact .inr ⟨rfl, rfl⟩
        · exact .inr ⟨rfl, rfl⟩

/-- A state that may carry a body is of a kind of its own, one of which `isAtState` holds. -/
theorem kind_ne_of_atState? {keyword : Text} {kind other : TokenKind} {body : Body}
    (known : atState? keyword = some (kind, body)) (noState : other.isAtState = false) :
    kind ≠ other := by
  unfold atState? at known
  split_ifs at known
  all_goals
    cases known
    rintro rfl
    cases noState

theorem pseudo_kind (position : Nat) (cs : Text) : (pseudo position cs).kind = .pseudoClass := by
  unfold pseudo
  dsimp only
  split
  · split <;> rfl
  · rfl

theorem modifier_kind (escapes : Bool) (cs : Text) :
    (modifier escapes cs).1 = .valueMod ∨ (modifier escapes cs).1 = .booleanMod := by
  unfold modifier
  dsimp only
  split
  · exact .inl rfl
  · exact .inr rfl

/-- Every first lexeme has a body that some state opens, or none.

Only a colon and the sign `@` can open a body. -/
theorem read_hasBody_or_plain (aliases : List Text) (position : Nat) (c : CodePoint) (cs : Text) :
    HasBody aliases position c cs (read aliases position c cs) ∨
      Plain (read aliases position c cs) cs := by
  by_cases colon : c = CodePoint.char ':'
  · subst colon
    refine (pseudo_hasBody_or_tail position cs).imp_right fun plain => ⟨plain.1, ?_⟩
    show (pseudo position cs).tail <+: cs
    rw [plain.2]
    exact reads_pseudoTail.isPrefix cs
  by_cases sign : c = CodePoint.char '@'
  · subst sign
    refine (advanced_hasBody_or_tail position cs).imp_right fun plain => ⟨plain.1, ?_⟩
    show (advanced aliases position cs).tail <+: cs
    rw [plain.2]
    exact reads_dashedName.isPrefix cs
  -- All other first characters make lexemes without a body.
  right
  unfold read
  split
  · exact ⟨rfl, List.takeWhile_prefix _⟩
  split
  · exact ⟨rfl, List.nil_prefix⟩
  split
  · exact ⟨rfl, List.nil_prefix⟩
  split
  · next isColon => exact absurd (beq_iff_eq.mp isColon) colon
  split
  · exact ⟨rfl, reads_dashedName.isPrefix cs⟩
  split
  · exact ⟨rfl, reads_attributeTail.isPrefix cs⟩
  split
  · next isSign => exact absurd (beq_iff_eq.mp isSign) sign
  split
  · exact ⟨rfl, (reads_modifier true).isPrefix cs⟩
  · exact ⟨rfl, List.nil_prefix⟩

theorem read_tail_isPrefix (aliases : List Text) (position : Nat) (c : CodePoint) (cs : Text) :
    (read aliases position c cs).tail <+: cs := by
  obtain ⟨name, inside, body, kind, rfl, -, read⟩ | plain :=
    read_hasBody_or_plain aliases position c cs
  · rw [read]
    exact withBody_tail_isPrefix body position kind name inside
  · exact plain.2

end Lexeme

/-! ## §4 The token stream -/

/-- The lexer of state keys is a lexing loop, told by what `Lexeme.read` takes. -/
theorem takesTail (aliases : List Text) : TakesTail (lexFrom aliases) (firstToken aliases)
    fun position c cs => (Lexeme.read aliases position c cs).tail where
  isPrefix := Lexeme.read_tail_isPrefix aliases
  text _ _ _ := rfl
  start _ _ _ := rfl
  stop _ _ _ := rfl
  nil position := by rw [lexFrom]
  cons position c cs := by
    rw [lexFrom]
    rfl

/-- So its tokens cover a text, by `Lexes.tiles`. -/
theorem lexes (aliases : List Text) : Lexes (lexFrom aliases) (firstToken aliases) :=
  (takesTail aliases).lexes

/-! ## §5 Covering -/

section Key

variable {key : Text} {position : Nat} {c : CodePoint} {cs : Text}

theorem exists_firstToken_of_mem {t : Token} (ht : t ∈ lexFrom aliases 0 key) :
    ∃ position c cs, key.drop position = c :: cs ∧ t = firstToken aliases position c cs := by
  obtain ⟨front, c, cs, rfl, rfl⟩ := (lexes aliases).exists_first_of_mem ht
  exact ⟨0 + front.length, c, cs, by rw [Nat.zero_add, List.drop_left], rfl⟩

theorem firstToken_isSliceOf (ahead : key.drop position = c :: cs) :
    (firstToken aliases position c cs).IsSliceOf key ∧
      (firstToken aliases position c cs).start < (firstToken aliases position c cs).stop := by
  have inside := (drop_succ_of_drop_eq_cons ahead).1
  have stands : StandsAt key position (c :: cs) :=
    .of_drop_eq (Nat.le_of_succ_le inside) (by rw [ahead, List.append_nil])
  exact (lexes aliases).first_isSliceOf stands

theorem start_lt_stop_of_mem {t : Token} (ht : t ∈ lexFrom aliases 0 key) : t.start < t.stop := by
  obtain ⟨position, c, cs, ahead, rfl⟩ := exists_firstToken_of_mem ht
  exact (firstToken_isSliceOf ahead).2

/-- The first token takes the front of what lies ahead, and ends behind it. -/
theorem firstToken_front (aliases : List Text) (ahead : key.drop position = c :: cs) :
    (firstToken aliases position c cs).text <+: key.drop position ∧
      (firstToken aliases position c cs).stop =
        (position + (firstToken aliases position c cs).text.length : Nat) := by
  refine ⟨?_, ?_⟩
  · rw [ahead]
    exact (List.prefix_cons_inj c).mpr (Lexeme.read_tail_isPrefix aliases position c cs)
  · simp only [firstToken, List.length_cons]
    omega

/-- A state in front of a parenthesis carries its body.

This is `carriesBody_firstToken` for the states that `OpensBody` lists. -/
theorem carriesBody_of_opensBody {head : Text} {body : Body} (h : OpensBody aliases head body)
    (ahead : key.drop position = c :: cs)
    (opened : head ++ [CodePoint.char '('] <+: key.drop position) :
    ∃ high, CarriesBody key body (firstToken aliases position c cs)
      (position + (head.length + 1)) high := by
  obtain ⟨d, name, kind, rfl, read⟩ := Lexeme.read_of_opensBody h
  obtain ⟨inside, split⟩ := opened
  rw [ahead, List.append_assoc, List.cons_append, List.cons.injEq] at split
  obtain ⟨rfl, rfl⟩ := split
  exact carriesBody_firstToken ahead (read position inside)

/-- The children of a state in front of a parenthesis are tokens of its body. Each of them is what
`Body.token?` finds where it stands. -/
theorem exists_token_of_mem_children {head : Text} {body : Body} (h : OpensBody aliases head body)
    (ahead : key.drop position = c :: cs)
    (opened : head ++ [CodePoint.char '('] <+: key.drop position) {u : Token}
    (hu : u ∈ (firstToken aliases position c cs).children) :
    ∃ d ds tail, key.drop u.start.toNat = d :: ds ∧ body.token? d ds = some (u.kind, tail) ∧
      u.text = d :: tail := by
  obtain ⟨d, name, kind, rfl, read⟩ := Lexeme.read_of_opensBody h
  obtain ⟨inside, split⟩ := opened
  rw [ahead, List.append_assoc, List.cons_append, List.cons.injEq] at split
  obtain ⟨rfl, rfl⟩ := split
  -- The state is lexed with the body, whose fragments are the children.
  have children : (firstToken aliases position d (name ++ CodePoint.char '(' :: inside)).children =
      (Lexeme.withBody body position kind name inside).children := by
    rw [← read position inside]
    rfl
  obtain ⟨f, hf, rfl⟩ := List.mem_map.mp (children ▸ hu)
  exact exists_token_of_mem_sparse (drop_behind_open ahead) hf

/-- A token with children is a state in front of a parenthesis. -/
theorem opensBody_of_children (ahead : key.drop position = c :: cs)
    (some : (firstToken aliases position c cs).children ≠ []) :
    ∃ head body, OpensBody aliases head body ∧
      head ++ [CodePoint.char '('] <+: key.drop position := by
  obtain ⟨name, inside, body, kind, rfl, opens, -⟩ | plain :=
    Lexeme.read_hasBody_or_plain aliases position c cs
  · refine ⟨c :: name, body, opens, inside, ?_⟩
    rw [ahead, List.append_assoc]
    rfl
  · exact absurd plain.1 some

theorem children_isSliceOf (ahead : key.drop position = c :: cs) {u : Token}
    (hu : u ∈ flatten (firstToken aliases position c cs).children) : u.IsSliceOf key := by
  by_cases none : (firstToken aliases position c cs).children = []
  · rw [none] at hu
    cases hu
  · obtain ⟨head, body, opens, opened⟩ := opensBody_of_children ahead none
    obtain ⟨high, carries⟩ := carriesBody_of_opensBody opens ahead opened
    rw [Token.flatten_eq_self carries.leaves] at hu
    exact carries.slices u hu

/-- A token that is not the default state is one of those that `lexFrom` cuts the key into. -/
theorem lex_eq_lexFrom {t : Token} (ht : t ∈ lex aliases key) (kind : t.kind ≠ .defaultState) :
    lex aliases key = lexFrom aliases 0 key := by
  unfold lex at ht ⊢
  split at ht
  · rw [List.mem_singleton.mp ht] at kind
    exact absurd rfl kind
  · next notBlank => exact if_neg notBlank

theorem exists_firstToken_of_mem_lex {t : Token} (ht : t ∈ lex aliases key)
    (kind : t.kind ≠ .defaultState) :
    ∃ position c cs, key.drop position = c :: cs ∧ t = firstToken aliases position c cs :=
  exists_firstToken_of_mem (lex_eq_lexFrom ht kind ▸ ht)

/-- The tokens of a key are slices of it, and none is empty unless the key is. -/
theorem isSliceOf_of_mem_lex {t : Token} (ht : t ∈ lex aliases key) :
    t.IsSliceOf key ∧ (key ≠ [] → t.start < t.stop) := by
  unfold lex at ht
  split at ht
  · -- The only token of a blank key is all of it.
    rw [List.mem_singleton.mp ht]
    refine ⟨.of_standsAt (.self key) rfl (by simp), fun some => ?_⟩
    have long := List.length_pos_iff.mpr some
    simpa using long
  · obtain ⟨position, c, cs, ahead, rfl⟩ := exists_firstToken_of_mem ht
    exact ⟨(firstToken_isSliceOf ahead).1, fun _ => (firstToken_isSliceOf ahead).2⟩

end Key

/-- A state that opens a body does not start with a blank. -/
theorem not_blank_of_opensBody {head : Text} {body : Body} (h : OpensBody aliases head body) :
    ∃ c ∈ head, isBlank c = false := by
  have colon : isBlank (CodePoint.char ':') = false := by decide
  have sign : isBlank (CodePoint.char '@') = false := by decide
  cases h with
  | pseudoClass => exact ⟨_, List.mem_cons_self, colon⟩
  | container => exact ⟨_, List.mem_cons_self, sign⟩
  | query => exact ⟨_, List.mem_cons_self, sign⟩
  | condition => exact ⟨_, List.mem_cons_self, sign⟩

/-- The tokens of a state key cover it: top-level tokens stand one right behind the other and take
all of the key, and none is empty unless the key is.

At any depth the text of a token is the slice of the key between its offsets. Wherever a state that
may carry a body is followed by a parenthesis, its token carries that body, and no other token has
children. -/
theorem lex_covers_bodies (aliases : List Text) (key : Text) :
    Tiles (lex aliases key) 0 key.length ∧
    (key ≠ [] → ∀ t ∈ lex aliases key, t.start < t.stop) ∧
    (∀ t ∈ flatten (lex aliases key), t.IsSliceOf key) ∧
    ∀ t ∈ lex aliases key,
      (∀ head body, OpensBody aliases head body →
        head ++ [CodePoint.char '('] <+: key.drop t.start.toNat →
        ∃ high, CarriesBody key body t (t.start.toNat + (head.length + 1)) high) ∧
      (t.children ≠ [] → ∃ head body, OpensBody aliases head body ∧
        head ++ [CodePoint.char '('] <+: key.drop t.start.toNat) := by
  unfold lex
  split
  · -- The only token of a blank key is all of it.
    next blank =>
    refine ⟨⟨rfl, rfl⟩, ?_, ?_, ?_⟩
    · intro some t ht
      rw [List.mem_singleton.mp ht]
      have long := List.length_pos_iff.mpr some
      simpa using long
    · intro t ht
      rw [Token.flatten_eq_self (by simp), List.mem_singleton] at ht
      rw [ht]
      exact .of_standsAt (.self key) rfl (by simp)
    · intro t ht
      rw [List.mem_singleton.mp ht]
      refine ⟨fun head body opens opened => ?_, fun some => absurd rfl some⟩
      -- In a blank key no state is followed by a parenthesis.
      obtain ⟨c, hc, noBlank⟩ := not_blank_of_opensBody opens
      have inKey : c ∈ key := List.mem_of_mem_drop (opened.subset (List.mem_append_left _ hc))
      rw [List.all_eq_true.mp blank c inKey] at noBlank
      cases noBlank
  · refine ⟨?_, ?_, ?_, ?_⟩
    · have covers := (lexes aliases).tiles 0 key
      rwa [Nat.zero_add] at covers
    · intro _ t ht
      obtain ⟨position, c, cs, ahead, rfl⟩ := exists_firstToken_of_mem ht
      exact (firstToken_isSliceOf ahead).2
    · intro t ht
      obtain ⟨u, hu, here⟩ := Token.mem_flatten.mp ht
      obtain ⟨position, c, cs, ahead, rfl⟩ := exists_firstToken_of_mem hu
      rcases here with rfl | below
      · exact (firstToken_isSliceOf ahead).1
      · exact children_isSliceOf ahead below
    · intro t ht
      obtain ⟨position, c, cs, ahead, rfl⟩ := exists_firstToken_of_mem ht
      exact ⟨fun head body opens opened => carriesBody_of_opensBody opens ahead opened,
        opensBody_of_children ahead⟩

theorem lex_covers_selector_body :
    ∃ t ∈ lex [] ":has(Body > [a=)], %x) & y".toText,
      ∃ high, CarriesBody ":has(Body > [a=)], %x) & y".toText .selector t 5 high := by
  have first : ∃ t ∈ lex [] ":has(Body > [a=)], %x) & y".toText, t.start = 0 := by decide +kernel
  obtain ⟨t, ht, start⟩ := first
  have opens : OpensBody [] (CodePoint.char ':' :: ([] ++ "has".toText)) .selector :=
    .pseudoClass (.inl rfl) (by decide)
  obtain ⟨-, -, -, bodies⟩ := lex_covers_bodies [] ":has(Body > [a=)], %x) & y".toText
  have carries := (bodies t ht).1 _ _ opens
  rw [start] at carries
  exact ⟨t, ht, carries (by decide)⟩

/-! ## §6 Below states -/

/-- The kinds of the tokens in bodies. -/
def bodyKinds : List TokenKind :=
  [.stateOperator, .punctuation, .pseudoClass, .classSelector, .attrSelector, .subElement,
   .booleanMod, .valueMod, .identifier, .number, .cssUnit]

/-- Numbers of a body have one of two kinds, and every token of a body has one of `bodyKinds`. This
is said for each of the grammars. -/
theorem queryNumber_kind (c : CodePoint) (cs : Text) :
    (queryNumber c cs).1 = .number ∨ (queryNumber c cs).1 = .cssUnit := by
  unfold queryNumber
  dsimp only
  split
  · exact .inl rfl
  · exact .inr rfl

variable {c : CodePoint} {cs : Text} {made : TokenKind × Text}

theorem selectorToken_kind (token : selectorToken c cs = some made) : made.1 ∈ bodyKinds := by
  unfold selectorToken at token
  split_ifs at token
  all_goals
    cases token
    simp [bodyKinds]

theorem conditionToken_kind {word : Text → TokenKind × Text}
    (words : ∀ cs, (word cs).1 ∈ bodyKinds) (token : conditionToken word c cs = some made) :
    made.1 ∈ bodyKinds := by
  unfold conditionToken at token
  split_ifs at token with comparison operator comma number start <;> cases token
  · simp [bodyKinds]
  · simp [bodyKinds]
  · simp [bodyKinds]
  · rcases queryNumber_kind c cs with kind | kind <;> simp [kind, bodyKinds]
  · exact words cs

/-- So every token of a body has one of these kinds. -/
theorem Body.kind_mem_bodyKinds {body : Body} (token : body.token? c cs = some made) :
    made.1 ∈ bodyKinds := by
  cases body with
  | selector => exact selectorToken_kind token
  | query =>
    rw [Body.token?] at token
    exact conditionToken_kind (fun _ => by simp [bodyKinds]) token
  | condition =>
    rw [Body.token?] at token
    refine conditionToken_kind (fun cs => ?_) token
    rcases Lexeme.modifier_kind false cs with kind | kind <;> simp [kind, bodyKinds]

/-- What hangs below a token of a key are leaves of a few kinds.

These are `bodyKinds`, and no token of a body has a body of its own. -/
theorem leaf_of_mem_children {key : Text} {t : Token} (ht : t ∈ lex aliases key) {u : Token}
    (hu : u ∈ t.children) : u.children = [] ∧ u.kind ∈ bodyKinds := by
  unfold lex at ht
  split at ht
  · rw [List.mem_singleton.mp ht] at hu
    cases hu
  · obtain ⟨position, c, cs, ahead, rfl⟩ := exists_firstToken_of_mem ht
    obtain ⟨head, body, opens, opened⟩ := opensBody_of_children ahead (List.ne_nil_of_mem hu)
    obtain ⟨high, carries⟩ := carriesBody_of_opensBody opens ahead opened
    obtain ⟨d, ds, tail, -, token, -⟩ := exists_token_of_mem_children opens ahead opened hu
    exact ⟨carries.leaves u hu, Body.kind_mem_bodyKinds token⟩

end StyleCheck.StateKey
