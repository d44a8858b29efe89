import StyleCheck.Proofs.Check.Brackets
import StyleCheck.Proofs.Token.Names

/-!
# Groups in state keys

The lexer finds the end of a group in parentheses by reading what is in the group; the check for
brackets finds it with a stack over the raw key. In a key without faults of brackets both come to
the same parenthesis, where the group is plain text, and where it is a body in which only tokens
hold groups. The values of modifiers are quoted for the lexer but not for the check, so that the
parentheses in them have to be in pairs.

## Main definitions

- `groupKinds`, `groupStart`: the states that may have a group, and where it starts.
- `FlatBody`: a body in which only tokens hold groups, with values whose parentheses are in pairs.

## Main statements

- `Bracket.groupTail_append`: how the scan for the end of a group goes through nested brackets.
- `wellNested_of_token`: the tokens of bodies have well nested brackets.
- `balanced_between`: what is between some tokens and in them is balanced.
- `lex_ends_at_partner`: a state with a group ends at the partner of its parenthesis.
-/

namespace StyleCheck

open Text
open StyleCheck.Bracket

/-! ## §1 Scanners and brackets -/

namespace Bracket

/-- All brackets. -/
def brackets : Text := "()[]".toText

theorem foreign_of_mem_brackets {b : CodePoint} (h : b ∈ brackets) : Foreign b := by
  have all : ∀ b ∈ brackets, isDashedNameChar b = false ∧ isNameChar b = false ∧
      isDigit b = false ∧ b ∉ "#$.%".toText := by decide
  obtain ⟨dashed, name, digit, sigil⟩ := all b h
  exact ⟨dashed, name, digit, sigil⟩

/-- What is no bracket neither opens nor closes one. -/
theorem none_of_notMem_brackets {c : CodePoint} (h : c ∉ brackets) :
    closerOf? c = none ∧ openerOf? c = none := by
  have other {b : CodePoint} (isBracket : b ∈ brackets) : c ≠ b := fun same => h (same ▸ isBracket)
  unfold closerOf? openerOf?
  refine ⟨?_, ?_⟩
  · split
    · exact absurd rfl (other (by decide))
    · exact absurd rfl (other (by decide))
    · rfl
  · split
    · exact absurd rfl (other (by decide))
    · exact absurd rfl (other (by decide))
    · rfl

theorem wellNested_of_notMem {text : Text} (h : ∀ b ∈ brackets, b ∉ text) : WellNested text :=
  .of_plain fun _ there => none_of_notMem_brackets fun isBracket => h _ isBracket there

/-- A class of characters without brackets. Whether one has any is evaluated on the four `brackets`.
-/
theorem notMem_brackets_of_class {p : CodePoint → Bool} (none : ∀ b ∈ brackets, p b = false)
    {c : CodePoint} (h : p c = true) : c ∉ brackets := by
  intro isBracket
  rw [none c isBracket] at h
  cases h

theorem wellNested_cons {c : CodePoint} {text : Text} (h : c ∉ brackets)
    (inner : WellNested text) : WellNested (c :: text) :=
  .other (none_of_notMem_brackets h).1 (none_of_notMem_brackets h).2 inner

theorem wellNested_dashedName (cs : Text) : WellNested (dashedName cs) :=
  wellNested_of_notMem fun _ h => (foreign_of_mem_brackets h).notMem_dashedName cs

section Group

variable {opener closer : CodePoint} {awaited : List CodePoint} {inside cs : Text}

theorem closer_ne (opens : closerOf? opener = some closer) : closer ≠ opener := by
  rintro rfl
  rw [closerOf?_closer opens] at opens
  cases opens

/-- The scan for the end of a group counts brackets of one sort only. In a text that closes some
brackets, it comes out of as many groups as there are of this sort among them.

The induction is on how the text closes what is `awaited`. Brackets of the other sort are passed
like any character. -/
theorem groupTail_append (opens : closerOf? opener = some closer) (h : Closes awaited inside)
    {depth : Nat} (outer : 1 ≤ depth) (rest : Text) :
    groupTail opener closer (depth + awaited.count closer) (inside ++ rest) =
      inside ++ groupTail opener closer depth rest := by
  have differ := closer_ne opens
  induction h with
  | nil => rfl
  | @other d _ _ noOpener noCloser _ ih =>
    have notOpener : d ≠ opener := fun same => by simp [← same, noOpener] at opens
    have notCloser : d ≠ closer := fun same => by
      simp [same, openerOf?_closer opens] at noCloser
    simpa [groupTail, notOpener, notCloser] using ih
  | @opens d other awaited _ isOpener _ ih =>
    by_cases same : d = opener
    · subst same
      obtain rfl : other = closer := by simpa [isOpener] using opens
      rw [List.count_cons_self, ← Nat.add_assoc] at ih
      simpa [groupTail] using ih
    · -- A bracket of the other sort, which waits for a closer of its own.
      have notCloser : d ≠ closer := fun same => by
        simp [same, closerOf?_closer opens] at isOpener
      have notCloser' : other ≠ closer := fun same' => by
        have opener' := openerOf?_closer isOpener
        rw [same', openerOf?_closer opens] at opener'
        exact same (Option.some.inj opener').symm
      rw [List.count_cons_of_ne notCloser'] at ih
      simpa [groupTail, same, notCloser] using ih
  -- A closing bracket is one that is waited for, of this sort or of the other one.
  | @closes d _ awaited _ noOpener _ _ ih =>
    have notOpener : d ≠ opener := fun same => by simp [← same, noOpener] at opens
    by_cases same : d = closer
    · subst same
      have deeper : ¬depth + awaited.count d + 1 ≤ 1 := by omega
      rw [List.count_cons_self, ← Nat.add_assoc]
      simpa [groupTail, notOpener, deeper] using ih
    · rw [List.count_cons_of_ne same]
      simpa [groupTail, notOpener, same] using ih

/-- Behind its opener, a group goes up to the partner, which stands behind the well nested text
`inside`. -/
theorem groupTail_of_wellNested (opens : closerOf? opener = some closer)
    (inner : WellNested inside) (back : Text) :
    groupTail opener closer 1 (inside ++ closer :: back) = inside ++ [closer] := by
  have scan := groupTail_append opens inner (Nat.le_refl 1) (closer :: back)
  rw [List.count_nil, Nat.add_zero] at scan
  rw [scan, groupTail]
  simp [closer_ne opens]

/-- A group in a text that closes all brackets it opens is well nested.

The scan takes the text up to the partner of the opener, by `Closes.split`. -/
theorem wellNested_group (opens : closerOf? opener = some closer) (h : Closes awaited cs) :
    WellNested (group opener closer cs) := by
  cases cs with
  | nil => exact .nil
  | cons c cs =>
    rw [group]
    split
    · next isOpener =>
      rw [beq_iff_eq] at isOpener
      subst isOpener
      obtain ⟨inside, back, rfl, inner, -⟩ := ((Closes.opens_iff opens).mp h).split
      rw [groupTail_of_wellNested opens inner]
      exact .group opens inner .nil
    · exact .nil

end Group

end Bracket

namespace StateKey

/-! ## §2 Tokens of bodies -/

section Bodies

variable {awaited : List CodePoint} {c : CodePoint} {cs tail : Text} {kind : TokenKind}

theorem notMem_brackets_of_isNameStart (h : isNameStart c = true) : c ∉ brackets :=
  notMem_brackets_of_class (by decide) h

/-- A name behind a character that is no bracket. -/
theorem wellNested_cons_dashedName (h : c ∉ brackets) (cs : Text) :
    WellNested (c :: dashedName cs) :=
  wellNested_cons h (wellNested_dashedName cs)

theorem notMem_pseudoName {b : CodePoint} (h : b ∈ brackets) (cs : Text) : b ∉ pseudoName cs := by
  have noColon : ∀ b ∈ brackets, b ∉ ":".toText := by decide
  rw [pseudoName, List.mem_append, not_or]
  refine ⟨?_, (foreign_of_mem_brackets h).notMem_dashedName _⟩
  rcases Lexeme.secondColon_eq cs with none | colon
  · rw [none]
    exact List.not_mem_nil
  · rw [colon]
    exact noColon b h

theorem wellNested_pseudoTail (h : Closes awaited cs) : WellNested (pseudoTail cs) := by
  rw [← reads_pseudoName.append_drop cs] at h
  obtain ⟨awaited', behind, -⟩ := Closes.behind h
  have name : WellNested (pseudoName cs) := wellNested_of_notMem fun _ h => notMem_pseudoName h cs
  exact name.append (wellNested_group rfl behind)

/-- A token of a selector is well nested where its brackets are closed behind it. Only
pseudo-classes and attributes have brackets; each of them takes a whole `group`. -/
theorem wellNested_of_selectorToken (h : Closes awaited (c :: cs))
    (token : selectorToken c cs = some (kind, tail)) : WellNested (c :: tail) := by
  have single (other : c ∉ brackets) : WellNested [c] := wellNested_cons other .nil
  unfold selectorToken at token
  split_ifs at token with combinator comma colon point bracket start
  · cases token
    exact single (notMem_brackets_of_class (by decide) combinator)
  · cases token
    rw [beq_iff_eq] at comma
    exact single (comma ▸ by decide)
  · cases token
    rw [beq_iff_eq] at colon
    subst colon
    exact wellNested_cons (by decide) (wellNested_pseudoTail ((Closes.other_iff rfl rfl).mp h))
  · cases token
    rw [beq_iff_eq] at point
    exact wellNested_cons_dashedName (point ▸ by decide) cs
  · cases token
    rw [beq_iff_eq] at bracket
    subst bracket
    -- The bracket is the opener of the group that is taken.
    have group : WellNested (group '[' ']' (CodePoint.char '[' :: cs)) := wellNested_group rfl h
    exact group
  · cases token
    exact wellNested_cons_dashedName (notMem_brackets_of_isNameStart start) cs
  · cases token
    exact wellNested_cons_dashedName (notMem_brackets_of_isNameStart start) cs

/-- Numbers and comparisons hold no brackets. -/
theorem wellNested_queryNumber (h : startsUnsigned (c :: cs) = true) :
    WellNested (c :: (queryNumber c cs).2) := by
  have first : c ∉ brackets := by
    rcases startsUnsigned_cons_iff.mp h with digit | ⟨point, -⟩
    · exact notMem_brackets_of_class (by decide) digit
    · exact point ▸ by decide
  refine wellNested_cons first (wellNested_of_notMem fun b isBracket => ?_)
  rw [queryNumber, List.mem_append, not_or]
  refine ⟨fun inNumeral => ?_, notMem_takeWhile (by revert b; decide) _⟩
  exact (foreign_of_mem_brackets isBracket).notMem_unsignedNumeral _
    (List.mem_of_mem_drop inNumeral)

theorem wellNested_comparisonTail (cs : Text) : WellNested (comparisonTail cs) := by
  unfold comparisonTail
  split
  · exact wellNested_cons (by decide) .nil
  · exact .nil

/-- The tokens of queries and conditions have no brackets but those of quoted values.

What a `word` is taken for is left open: a modifier with a value, or a name. -/
theorem wellNested_of_conditionToken {word : Text → TokenKind × Text}
    (words : ∀ cs, (word cs).1 = .valueMod ∨ (word cs).2 = dashedName cs)
    (token : conditionToken word c cs = some (kind, tail)) :
    kind = .valueMod ∨ WellNested (c :: tail) := by
  have single (other : c ∉ brackets) : WellNested [c] := wellNested_cons other .nil
  unfold conditionToken at token
  split_ifs at token with comparison operator comma number start
  · cases token
    have first := notMem_brackets_of_class (by decide) comparison
    exact .inr (wellNested_cons first (wellNested_comparisonTail cs))
  · cases token
    exact .inr (single (notMem_brackets_of_class (by decide) operator))
  · cases token
    rw [beq_iff_eq] at comma
    exact .inr (single (comma ▸ by decide))
  · cases token
    exact .inr (wellNested_queryNumber number)
  · -- The last case is the word, which has a value or is a name.
    rw [Option.some.injEq] at token
    rcases words cs with value | name
    · exact .inl (by rw [← value, token])
    · rw [token] at name
      have name : tail = dashedName cs := name
      rw [name]
      exact .inr (wellNested_cons_dashedName (notMem_brackets_of_isNameStart start) cs)

/-- Where the brackets of a key are closed behind it, a token of a body has well nested ones, if it
is no modifier with a value. -/
theorem wellNested_of_token {body : Body} (h : Closes awaited (c :: cs))
    (token : body.token? c cs = some (kind, tail)) : kind = .valueMod ∨ WellNested (c :: tail) := by
  cases body with
  | selector => exact .inr (wellNested_of_selectorToken h token)
  | query =>
    rw [Body.token?] at token
    exact wellNested_of_conditionToken (fun _ => .inr rfl) token
  | condition =>
    rw [Body.token?] at token
    -- A word of a condition is a modifier, with a value or without one.
    refine wellNested_of_conditionToken (fun cs => ?_) token
    unfold modifier
    dsimp only
    split
    · exact .inl rfl
    · exact .inr rfl

end Bodies

/-! ## §3 Bodies -/

/-- The states that may have a group in parentheses. -/
def groupKinds : List TokenKind :=
  [.pseudoClass, .containerState, .mediaState, .supportsState, .rootState, .ownState]

/-- Where the first parenthesis of a token stands, as an offset in the key. -/
def groupStart (t : Token) : Nat := t.start.toNat + (upTo '(' t.text).length

/-- The modifiers with a value in some tokens, one behind the other. -/
def valueText (ts : List Token) : Text := (ts.filter (·.kind == .valueMod)).flatMap Token.text

/-- No group starts in a body beside its tokens, and the parentheses in its values are in pairs.

The values are taken together, one behind the other, as the check for brackets does not stop at the
end of a value (`valueText`). -/
structure FlatBody (key : Text) (t : Token) : Prop where
  noGroup : ∀ offset : Nat, groupStart t < offset → offset < t.stop →
    key[offset]? = some (CodePoint.char '(') → InChild t offset
  values : Balanced (valueText t.children)

section Bodies

variable {key : Text} {low high : Nat}

theorem balanced_of_gap
    (gap : ∀ (offset : Nat) c, low ≤ offset → offset < high → key[offset]? = some c →
      ¬(c = '(' ∨ c = ')')) : Balanced (slice key low high) := by
  have notMem {c : CodePoint} (h : c = '(' ∨ c = ')') : c ∉ slice key low high := by
    intro there
    obtain ⟨offset, above, below, here⟩ := exists_getElem?_of_mem_slice there
    exact gap offset c above below here h
  exact balanced_of_notMem (notMem (.inl rfl)) (notMem (.inr rfl))

/-- Where no parenthesis stands beside some tokens, only the values among them decide whether a part
of a key is balanced: all other tokens are.

The induction is on the tokens. What stands in `front` are the values that were passed already, so
that a parenthesis of one may close one of another. -/
theorem balanced_between {ts : List Token} (ordered : low ≤ high)
    (inside : ∀ u ∈ ts, (low : Int) ≤ u.start ∧ u.start < u.stop ∧ u.stop ≤ high)
    (apart : ts.Pairwise fun u v => u.stop ≤ v.start) (slices : ∀ u ∈ ts, u.IsSliceOf key)
    (others : ∀ u ∈ ts, u.kind = .valueMod ∨ Balanced u.text)
    (taken : ∀ (offset : Nat) c, low ≤ offset → offset < high → key[offset]? = some c →
      c = '(' ∨ c = ')' → ∃ u ∈ ts, u.start ≤ offset ∧ offset < u.stop)
    {front : Text} (values : Balanced (front ++ valueText ts)) :
    Balanced (front ++ slice key low high) := by
  induction ts generalizing low front with
  | nil =>
    have gap : Balanced (slice key low high) := by
      refine balanced_of_gap fun offset c above below here h => ?_
      obtain ⟨u, none, -⟩ := taken offset c above below here h
      cases none
    rw [← List.append_nil (slice key low high)]
    exact values.insert gap
  | cons u ts ih =>
    obtain ⟨⟨above, some, below⟩, insideLater⟩ := List.forall_mem_cons.mp inside
    obtain ⟨behind, apartLater⟩ := List.pairwise_cons.mp apart
    obtain ⟨other, othersLater⟩ := List.forall_mem_cons.mp others
    obtain ⟨start, hstart⟩ := Int.eq_ofNat_of_zero_le (a := u.start) (by omega)
    obtain ⟨stop, hstop⟩ := Int.eq_ofNat_of_zero_le (a := u.stop) (by omega)
    have text : u.text = slice key start stop := by
      have text := (slices u List.mem_cons_self).2.2.2
      rwa [hstart, hstop, Int.toNat_natCast, Int.toNat_natCast] at text
    -- In front of the first token there is nothing, and behind it are the others.
    have gap : Balanced (slice key low start) := by
      refine balanced_of_gap fun offset c above' below' here h => ?_
      obtain ⟨v, hv, starts, -⟩ := taken offset c above' (by omega) here h
      rcases List.mem_cons.mp hv with rfl | later
      · omega
      · have apart := behind v later
        omega
    -- The tokens behind the first one lie behind its end, so the hypothesis is for the rest of the
    -- key.
    have rest {front : Text} (values : Balanced (front ++ valueText ts)) :
        Balanced (front ++ slice key stop high) := by
      refine ih (by omega) ?_ apartLater (fun v hv => slices v (List.mem_cons_of_mem u hv))
        othersLater ?_ values
      · intro v hv
        have within := insideLater v hv
        have apart := behind v hv
        omega
      · intro offset c above' below' here h
        obtain ⟨v, hv, within⟩ := taken offset c (by omega) below' here h
        rcases List.mem_cons.mp hv with rfl | later
        · omega
        · exact ⟨v, later, within⟩
    rw [← slice_append key (show low ≤ start by omega) (show start ≤ high by omega),
      ← slice_append key (show start ≤ stop by omega) (show stop ≤ high by omega), ← text]
    -- The gap is balanced, and so is the token itself if it is no value.
    refine Balanced.insert ?_ gap
    by_cases value : u.kind = .valueMod
    · have first : valueText (u :: ts) = u.text ++ valueText ts := by simp [valueText, value]
      rw [first, ← List.append_assoc] at values
      rw [← List.append_assoc]
      exact rest values
    · have first : valueText (u :: ts) = valueText ts := by simp [valueText, value]
      rw [first] at values
      exact (rest values).insert (other.resolve_left value)

/-- A body that is balanced up to its end ends where a balanced text is closed.

By `eq_of_balanced`, there is only one such place. -/
theorem CarriesBody.stop_eq {body : Body} {t : Token} {inside back : Text}
    (carries : CarriesBody key body t low high) (balanced : Balanced (slice key low high))
    (inner : Balanced inside) (ahead : key.drop low = inside ++ CodePoint.char ')' :: back) :
    t.stop = (low + inside.length + 1 : Nat) := by
  obtain ⟨close, stop⟩ | ⟨all, -⟩ := carries.ends
  · obtain ⟨below, here⟩ := List.getElem?_eq_some_iff.mp close
    rw [← slice_append_drop key carries.low_le_high, List.drop_eq_getElem_cons below, here] at ahead
    have same : slice key low high = inside := eq_of_balanced balanced inner ahead
    have long := congrArg List.length same
    simp only [slice, List.length_drop, List.length_take] at long
    have ordered := carries.low_le_high
    omega
  · -- A body that is not closed would hold a parenthesis that closes nothing in it.
    have whole : slice key low high = inside ++ CodePoint.char ')' :: back := by
      rw [slice, all, List.take_length, ahead]
    exact absurd (whole ▸ balanced.1) (not_neverOvercloses_of_balanced inner)

end Bodies

/-! ## §4 Groups -/

section Groups

variable {aliases : List Text} {key : Text} {position : Nat} {c : CodePoint} {cs : Text} {t : Token}

/-- A state with a parenthesis in it has a body, or is a pseudo-class with a plain argument.

The kinds in `groupKinds` are made behind a colon or the sign `@` only. -/
theorem Lexeme.hasBody_or_tail_of_group
    (state : (Lexeme.read aliases position c cs).kind ∈ groupKinds)
    (opened : CodePoint.char '(' ∈ c :: (Lexeme.read aliases position c cs).tail) :
    HasBody aliases position c cs (Lexeme.read aliases position c cs) ∨
      c = CodePoint.char ':' ∧ (Lexeme.read aliases position c cs).tail = pseudoTail cs := by
  unfold Lexeme.read at state opened ⊢
  split_ifs at state opened ⊢ with blank operator punctuation colon point bracket sign start
  · simp [groupKinds] at state
  · simp [groupKinds] at state
  · simp [groupKinds] at state
  · rw [beq_iff_eq] at colon
    subst colon
    exact (pseudo_hasBody_or_tail position cs).imp_right fun plain => ⟨rfl, plain.2⟩
  · simp [groupKinds] at state
  · simp [groupKinds] at state
  · rw [beq_iff_eq] at sign
    subst sign
    refine (advanced_hasBody_or_tail position cs).imp_right fun plain => ?_
    -- A name has no parenthesis.
    rw [plain.2] at opened
    rcases List.mem_cons.mp opened with isSign | inName
    · cases isSign
    · exact absurd inName ((foreign_of_mem_brackets (by decide)).notMem_dashedName cs)
  · have state : (modifier true cs).1 ∈ groupKinds := state
    rcases modifier_kind true cs with kind | kind <;> simp [kind, groupKinds] at state
  · simp [groupKinds] at state

/-- What stands in front of a body holds no bracket: colons, signs and names, by the cases of
`OpensBody`. -/
theorem notMem_of_opensBody {head : Text} {body : Body} (h : OpensBody aliases head body) :
    ∀ b ∈ brackets, b ∉ head := by
  have colons : ∀ b ∈ brackets, b ≠ CodePoint.char ':' ∧ b ∉ ":".toText := by decide
  have signs : ∀ b ∈ brackets, b ≠ CodePoint.char '@' := by decide
  have selectors : ∀ name ∈ ["has".toText, "is".toText, "where".toText, "not".toText],
      ∀ b ∈ brackets, b ∉ name := by decide
  have queries : ∀ name ∈ ["media".toText, "supports".toText], ∀ b ∈ brackets, b ∉ name := by decide
  have conditions : ∀ name ∈ ["root".toText, "own".toText], ∀ b ∈ brackets, b ∉ name := by decide
  -- The names are those of a list, so each is looked at once.
  intro b isBracket
  cases h with
  | pseudoClass hsecond hname =>
    rw [List.mem_cons, List.mem_append, not_or, not_or]
    refine ⟨(colons b isBracket).1, ?_, selectors _ hname b isBracket⟩
    rcases hsecond with rfl | rfl
    · exact List.not_mem_nil
    · exact (colons b isBracket).2
  | container => exact fun there => signs b isBracket (List.mem_singleton.mp there)
  | query hname =>
    rw [List.mem_cons, not_or]
    exact ⟨signs b isBracket, queries _ hname b isBracket⟩
  | condition hname =>
    rw [List.mem_cons, not_or]
    exact ⟨signs b isBracket, conditions _ hname b isBracket⟩

/-- The group of a token is a body, or plain text up to the end of the group.

Its parenthesis is the first one of the token, which `upTo` finds, as names hold none. -/
theorem exists_group (ahead : key.drop position = c :: cs)
    (made : t = firstToken aliases position c cs) (state : t.kind ∈ groupKinds)
    (opened : CodePoint.char '(' ∈ t.text) :
    ∃ rest, key.drop position = upTo '(' t.text ++ CodePoint.char '(' :: rest ∧
      (∀ b ∈ brackets, b ∉ upTo '(' t.text) ∧
      ((∃ body, OpensBody aliases (upTo '(' t.text) body) ∨
        t.text = upTo '(' t.text ++ CodePoint.char '(' :: groupTail '(' ')' 1 rest) := by
  subst made
  have isOpen : CodePoint.char '(' ∈ brackets := by decide
  obtain ⟨name, rest, body, kind, rfl, opens, read⟩ | ⟨rfl, tail⟩ :=
    Lexeme.hasBody_or_tail_of_group state opened
  · have plain := notMem_of_opensBody opens
    have head : upTo '(' (firstToken aliases position c (name ++ CodePoint.char '(' :: rest)).text =
        c :: name := by
      rw [firstToken, read]
      exact upTo_append (plain _ isOpen) _
    rw [head]
    exact ⟨rest, ahead, plain, .inl ⟨body, opens⟩⟩
  · -- A pseudo-class with a plain argument is its name and a group behind it.
    have plain : ∀ b ∈ brackets, b ∉ CodePoint.char ':' :: pseudoName cs := by
      have noColon : ∀ b ∈ brackets, b ≠ CodePoint.char ':' := by decide
      intro b h
      rw [List.mem_cons, not_or]
      exact ⟨noColon b h, notMem_pseudoName h cs⟩
    have text : (firstToken aliases position (CodePoint.char ':') cs).text =
        (CodePoint.char ':' :: pseudoName cs) ++ group '(' ')' (cs.drop (pseudoName cs).length) :=
      congrArg (CodePoint.char ':' :: ·) tail
    have split : cs = pseudoName cs ++ cs.drop (pseudoName cs).length :=
      (reads_pseudoName.append_drop cs).symm
    rw [text] at opened ⊢
    cases behind : cs.drop (pseudoName cs).length with
    -- Without a group, there would be no parenthesis.
    | nil =>
      rw [behind, group, List.append_nil] at opened
      exact absurd opened (plain _ isOpen)
    | cons d rest =>
      by_cases opens : d = CodePoint.char '('
      · subst opens
        have group' : group '(' ')' (CodePoint.char '(' :: rest) =
            CodePoint.char '(' :: groupTail '(' ')' 1 rest := by simp [group]
        rw [group', upTo_append (plain _ isOpen)]
        refine ⟨rest, ?_, plain, .inr rfl⟩
        rw [ahead, List.cons_append, ← behind, ← split]
      · have none : group '(' ')' (d :: rest) = [] := by simp [group, opens]
        rw [behind, none, List.append_nil] at opened
        exact absurd opened (plain _ isOpen)

/-- Up to its end, a body without groups beside its tokens is balanced.

Its tokens are well nested in the key, by `wellNested_of_token`, and the values are balanced by
assumption. -/
theorem FlatBody.balanced {body : Body} {high : Nat} (flat : FlatBody key t)
    (nested : WellNested key) (carries : CarriesBody key body t (groupStart t + 1) high)
    (tokens : ∀ u ∈ t.children, ∃ d ds tail, key.drop u.start.toNat = d :: ds ∧
      body.token? d ds = some (u.kind, tail) ∧ u.text = d :: tail) :
    Balanced (slice key (groupStart t + 1) high) := by
  rw [← List.nil_append (slice _ _ _)]
  refine balanced_between carries.low_le_high carries.inside carries.ordered carries.slices ?_ ?_
    flat.values
  · intro u hu
    obtain ⟨d, ds, tail, there, token, text⟩ := tokens u hu
    -- What lies ahead of the token is the rest of a well nested key.
    have split : key.take u.start.toNat ++ d :: ds = key := by
      rw [← there, List.take_append_drop]
    rw [← split] at nested
    obtain ⟨awaited, behind, -⟩ := Closes.behind nested
    rcases wellNested_of_token behind token with value | wellNested
    · exact .inl value
    · rw [text]
      exact .inr (Closes.balanced wellNested)
  · rintro offset c above below here (rfl | rfl)
    · refine flat.noGroup offset above ?_ here
      rcases carries.ends with ⟨-, stop⟩ | ⟨-, stop⟩ <;> omega
    · exact carries.noneBefore offset above below here

/-- A state with a body is the front of what lies ahead up to where a well nested text is closed.

The body is balanced up to its end, so it ends there too. -/
theorem FlatBody.text_eq {body : Body} {inside back : Text} (flat : FlatBody key t)
    (nested : WellNested key) (opens : OpensBody aliases (upTo '(' t.text) body)
    (ahead : key.drop position = c :: cs) (made : t = firstToken aliases position c cs)
    (start : key.drop position =
      upTo '(' t.text ++ CodePoint.char '(' :: (inside ++ CodePoint.char ')' :: back))
    (inner : WellNested inside) :
    t.text = upTo '(' t.text ++ CodePoint.char '(' :: (inside ++ [CodePoint.char ')']) := by
  have opened : upTo '(' t.text ++ [CodePoint.char '('] <+: key.drop position :=
    ⟨inside ++ CodePoint.char ')' :: back, by rw [start, List.append_assoc]; rfl⟩
  have place : groupStart t = position + (upTo '(' t.text).length := by
    rw [groupStart, made]
    rfl
  have below : key.drop (groupStart t + 1) = inside ++ CodePoint.char ')' :: back := by
    refine (drop_succ_of_drop_eq_cons (c := '(') ?_).2
    rw [place, ← List.drop_drop, start, List.drop_left]
  obtain ⟨high, carries⟩ := carriesBody_of_opensBody opens ahead opened
  rw [← made, ← Nat.add_assoc, ← place] at carries
  have balanced := flat.balanced nested carries fun u hu =>
    exists_token_of_mem_children opens ahead opened (made ▸ hu)
  have stop := carries.stop_eq balanced (Closes.balanced inner) below
  obtain ⟨front, long⟩ := firstToken_front aliases ahead
  rw [← made] at front long
  -- The token and the group are fronts of the same text, and of the same length.
  have group : upTo '(' t.text ++ CodePoint.char '(' :: (inside ++ [CodePoint.char ')']) <+:
      key.drop position := ⟨back, by rw [start]; simp⟩
  have same : t.text.length =
      (upTo '(' t.text ++ CodePoint.char '(' :: (inside ++ [CodePoint.char ')'])).length := by
    simp only [List.length_append, List.length_cons, List.length_nil]
    omega
  exact (List.prefix_of_prefix_length_le front group (Nat.le_of_eq same)).eq_of_length same

/-- In a key without faults of brackets, a state with a group ends right behind the partner of its
parenthesis, and is itself without faults; no later token starts within it. This holds of all plain
arguments, and of bodies with no groups beside their tokens and with values whose parentheses are in
pairs.

The partner is the one that the check for brackets pairs it with, by `Pairs`. For a plain argument
the lexer counts one sort of brackets and the check keeps a stack; for a body the lexer stops at the
first parenthesis that no token takes. -/
theorem lex_ends_at_partner {base : Nat} (clean : Bracket.findings base key = .ok [])
    (ht : t ∈ lex aliases key) (state : t.kind ∈ groupKinds)
    (opened : CodePoint.char '(' ∈ t.text)
    (flat : ∀ body, OpensBody aliases (upTo '(' t.text) body → FlatBody key t) :
    ∃ closeAt : Nat, Pairs key (groupStart t) closeAt ∧
      key[closeAt]? = some (CodePoint.char ')') ∧ t.stop = closeAt + 1 ∧
      Bracket.findings base t.text = .ok [] ∧
      ∀ u ∈ lex aliases key, t.start < u.start → closeAt < u.start := by
  have nested := (findings_eq_nil_iff base key).mp clean
  have some : t.kind ≠ .defaultState := by
    intro blank
    simp [blank, groupKinds] at state
  have tokens := lex_eq_lexFrom ht some
  rw [tokens] at ht ⊢
  obtain ⟨position, c, cs, ahead, made⟩ := exists_firstToken_of_mem ht
  obtain ⟨rest, start, plain, group⟩ := exists_group ahead made state opened
  have behind : key.drop (groupStart t) = CodePoint.char '(' :: rest := by
    have place : groupStart t = position + (upTo '(' t.text).length := by
      rw [groupStart, made]
      rfl
    rw [place, ← List.drop_drop, start, List.drop_left]
  obtain ⟨inside, back, rfl, inner, paired⟩ := nested.exists_partner rfl behind
  -- Body or plain argument, the token is its name and the group up to the partner.
  have text : t.text =
      upTo '(' t.text ++ CodePoint.char '(' :: (inside ++ [CodePoint.char ')']) := by
    rcases group with ⟨body, opens⟩ | text
    · exact (flat body opens).text_eq nested opens ahead made start inner
    · rwa [groupTail_of_wellNested rfl inner] at text
  -- So its end is told by the length of what stands in the group.
  have stop : t.stop = (groupStart t + (inside.length + 1) : Nat) + 1 := by
    have size := congrArg List.length text
    simp only [List.length_append, List.length_cons, List.length_nil] at size
    have long := (firstToken_front aliases ahead).2
    rw [← made] at long
    have place : t.start = position := made ▸ rfl
    rw [groupStart]
    omega
  refine ⟨_, paired, ?_, stop, ?_, ?_⟩
  · apply getElem?_of_drop_eq_cons
    rw [Nat.add_comm inside.length, ← Nat.add_assoc, ← List.drop_drop,
      (drop_succ_of_drop_eq_cons behind).2, List.drop_left]
  · rw [findings_eq_nil_iff, text]
    exact (wellNested_of_notMem plain).append (.group rfl inner .nil)
  · -- Tokens do not overlap, so a later one starts behind this one.
    intro u hu before
    have later := ((lexes aliases).tiles 0 key).stop_le (fun _ => start_lt_stop_of_mem) ht hu before
    omega

end Groups

theorem lex_ends_at_partner_pairedValues :
    ∃ t ∈ lex [] "@root(a=\"(\" & b=\")\") & c".toText, groupStart t = 5 ∧
      ∃ closeAt : Nat, Pairs "@root(a=\"(\" & b=\")\") & c".toText (groupStart t) closeAt ∧
        "@root(a=\"(\" & b=\")\") & c".toText[closeAt]? = some (CodePoint.char ')') ∧
        t.stop = closeAt + 1 ∧ Bracket.findings 0 t.text = .ok [] ∧
        ∀ u ∈ lex [] "@root(a=\"(\" & b=\")\") & c".toText,
          t.start < u.start → closeAt < u.start := by
  -- Where the tokens stand is evaluated; the partner comes from the general theorem.
  have first : ∃ t ∈ lex [] "@root(a=\"(\" & b=\")\") & c".toText,
      groupStart t = 5 ∧ t.stop = 20 ∧ t.kind ∈ groupKinds ∧ CodePoint.char '(' ∈ t.text ∧
      (∀ offset : Nat, offset < 20 → 5 < offset →
        "@root(a=\"(\" & b=\")\") & c".toText[offset]? = some (CodePoint.char '(') →
        ∃ u ∈ t.children, u.start ≤ offset ∧ offset < u.stop) ∧
      valueText t.children = "a=\"(\"b=\")\"".toText := by decide +kernel
  obtain ⟨t, ht, start, stop, state, opened, noGroup, values⟩ := first
  refine ⟨t, ht, start, lex_ends_at_partner rfl ht state opened fun _ _ => ⟨?_, ?_⟩⟩
  · intro offset above below here
    exact noGroup offset (by omega) (by omega) here
  · rw [values]
    exact Closes.balanced ((findings_eq_nil_iff 0 _).mp rfl)

/-- The check for brackets does not know quotes, but the lexer does. -/
theorem lex_quotedBrackets :
    Bracket.findings 0 "@root(a=\")\" & b=\"(\")".toText = .ok [] ∧
      ∃ t ∈ lex [] "@root(a=\")\" & b=\"(\")".toText,
        t.kind ∈ groupKinds ∧ CodePoint.char '(' ∈ t.text ∧ t.stop = 20 ∧
        Pairs "@root(a=\")\" & b=\"(\")".toText (groupStart t) 9 ∧
        ¬∃ closeAt : Nat, Pairs "@root(a=\")\" & b=\"(\")".toText (groupStart t) closeAt ∧
          t.stop = closeAt + 1 := by
  have first : ∃ t ∈ lex [] "@root(a=\")\" & b=\"(\")".toText,
      t.kind ∈ groupKinds ∧ CodePoint.char '(' ∈ t.text ∧ t.stop = 20 ∧
      Pairs "@root(a=\")\" & b=\"(\")".toText (groupStart t) 9 ∧
      ¬Pairs "@root(a=\")\" & b=\"(\")".toText (groupStart t) 19 := by decide +kernel
  obtain ⟨t, ht, state, opened, stop, paired, other⟩ := first
  refine ⟨rfl, t, ht, state, opened, stop, paired, ?_⟩
  rintro ⟨closeAt, paired', stop'⟩
  have last : closeAt = 19 := by omega
  exact other (last ▸ paired')

end StateKey

end StyleCheck
