import Mathlib.Algebra.Group.Nat.Even
import Mathlib.Data.List.DropRight
import StyleCheck.Proofs.Text.Parentheses
import StyleCheck.Proofs.Text.Reads

/-!
# How far groups and quotes go

The scanners for bracketed groups and for quoted texts go on until something is complete: as many
closing brackets as opening ones, or a quote that no backslash takes along. So what they read is the
shortest beginning of the text that is complete, and all of the text if nothing ever is. A scanner
goes through the text with a state, and so does the property: behind a character, it is another
property of what follows.

## Main definitions

- `IsShortest`: the shortest beginning of a text with a property.
- `Matches`, `ClosesQuote`: what makes a group and a quoted text complete.
- `escape`, `enclose`: a text with a backslash in front of what would end it, and between quotes.

## Main statements

- `isShortest_group`: a group is the shortest beginning with as many closers as openers.
- `group_parentheses`: between parentheses, the scan for arguments ends where the group ends.
- `isShortest_quotedTail`: a quoted text ends with the first quote behind an even number of
  backslashes.
- `quotedTail_escape`: an escaped text is read up to the quote behind it.
-/

namespace StyleCheck.Text

/-! ## §1 Shortest beginnings -/

/-- The shortest beginning of a text that is `complete`, or all of the text if no beginning is. -/
def IsShortest (complete : Text → Prop) (cs front : Text) : Prop :=
  front <+: cs ∧ complete front ∧
      (∀ other, other <+: cs → complete other → front.length ≤ other.length) ∨
    front = cs ∧ ∀ other, other <+: cs → ¬complete other

namespace IsShortest

variable {complete complete' : Text → Prop} {c : CodePoint} {cs front : Text}

/-- Nothing is left of a text without a complete beginning. -/
theorem nil (empty : ¬complete []) : IsShortest complete [] [] := by
  refine .inr ⟨rfl, fun other inText => ?_⟩
  rwa [List.prefix_nil.mp inText]

/-- A text whose first character is complete. -/
theorem first (empty : ¬complete []) (here : complete [c]) :
    IsShortest complete (c :: cs) [c] := by
  refine .inl ⟨⟨cs, rfl⟩, here, fun other _ holds => ?_⟩
  cases other with
  | nil => exact absurd holds empty
  | cons d other => exact Nat.le_add_left 1 other.length

/-- A text with a character in front, when the rest is known by what it makes `complete`.

So the induction for a scanner goes from one property to another: what closes a group behind its
opener closes one more than what closes it from there on. -/
theorem cons (empty : ¬complete []) (rest : IsShortest (fun f => complete (c :: f)) cs front) :
    IsShortest complete (c :: cs) (c :: front) := by
  obtain ⟨inText, holds, least⟩ | ⟨rfl, never⟩ := rest
  · refine .inl ⟨(List.prefix_cons_inj c).mpr inText, holds, fun other inText' holds' => ?_⟩
    -- A beginning that is complete has a character, since nothing is not.
    cases other with
    | nil => exact absurd holds' empty
    | cons d other =>
      obtain ⟨rfl, behind⟩ := List.cons_prefix_cons.mp inText'
      exact Nat.succ_le_succ (least other behind holds')
  · refine .inr ⟨rfl, fun other inText' => ?_⟩
    cases other with
    | nil => exact empty
    | cons d other =>
      obtain ⟨rfl, behind⟩ := List.cons_prefix_cons.mp inText'
      exact never other behind

/-- The same property in other words, by `same`. -/
theorem of_iff (h : IsShortest complete cs front) (same : ∀ f, complete' f ↔ complete f) :
    IsShortest complete' cs front := by
  rwa [show complete' = complete from funext fun f => propext (same f)]

end IsShortest

/-! ## §2 Groups -/

/-- A text that closes some open brackets: it holds as many closers more than openers as the `depth`
says. -/
def Matches (opener closer : CodePoint) (depth : Nat) (cs : Text) : Prop :=
  cs.count closer = cs.count opener + depth

section Groups

variable {opener closer : CodePoint} (apart : opener ≠ closer)
include apart

theorem matches_opener (depth : Nat) (cs : Text) :
    Matches opener closer depth (opener :: cs) ↔ Matches opener closer (depth + 1) cs := by
  rw [Matches, Matches, List.count_cons_self, List.count_cons_of_ne apart]
  omega

theorem matches_closer (depth : Nat) (cs : Text) :
    Matches opener closer (depth + 1) (closer :: cs) ↔ Matches opener closer depth cs := by
  rw [Matches, Matches, List.count_cons_self, List.count_cons_of_ne apart.symm]
  omega

omit apart in
theorem matches_other (depth : Nat) {c : CodePoint} (notOpener : c ≠ opener)
    (notCloser : c ≠ closer) (cs : Text) :
    Matches opener closer depth (c :: cs) ↔ Matches opener closer depth cs := by
  rw [Matches, Matches, List.count_cons_of_ne notOpener, List.count_cons_of_ne notCloser]

/-- Behind some openers, the scan takes the shortest beginning that closes them all.

The induction is on the text, for every `depth`, and each character moves the property as
`matches_opener`, `matches_closer` and `matches_other` say. -/
theorem isShortest_groupTail (depth : Nat) (cs : Text) :
    IsShortest (Matches opener closer (depth + 1)) cs
      (groupTail opener closer (depth + 1) cs) := by
  have empty (depth : Nat) : ¬Matches opener closer (depth + 1) [] := by simp [Matches]
  induction cs generalizing depth with
  | nil => exact .nil (empty depth)
  | cons c cs ih =>
    by_cases opens : c = opener
    · subst opens
      rw [groupTail, if_pos (beq_self_eq_true c)]
      exact .cons (empty depth) ((ih (depth + 1)).of_iff (matches_opener apart (depth + 1)))
    rw [groupTail, if_neg (by simpa using opens)]
    by_cases closes : c = closer
    · subst closes
      rw [if_pos (beq_self_eq_true c)]
      cases depth with
      | zero =>
        -- The last closer makes the group complete by itself.
        rw [if_pos (Nat.le_refl 1)]
        exact .first (empty 0) ((matches_closer apart 0 []).mpr rfl)
      | succ depth =>
        rw [if_neg (by omega), Nat.add_sub_cancel]
        exact .cons (empty _) ((ih depth).of_iff (matches_closer apart (depth + 1)))
    · rw [if_neg (by simpa using closes)]
      exact .cons (empty depth) ((ih depth).of_iff (matches_other (depth + 1) opens closes))

/-- A group is the shortest beginning with as many closers as openers. The empty beginning has as
many of both, so it has to be excluded; `Matches` carries the induction. -/
theorem isShortest_group (cs : Text) :
    IsShortest (fun front => front ≠ [] ∧ front.count opener = front.count closer)
      (opener :: cs) (group opener closer (opener :: cs)) := by
  rw [group, if_pos (beq_self_eq_true opener)]
  refine .cons (by simp) ((isShortest_groupTail apart 0 cs).of_iff fun front => ?_)
  rw [Matches, List.count_cons_self, List.count_cons_of_ne apart]
  exact ⟨fun even => even.2.symm, fun closes => ⟨List.cons_ne_nil _ _, closes.symm⟩⟩

end Groups

/-- The scan for the end of a group and the one for what stands in it stop at the same place; only
the first one takes the closing parenthesis along.

What `untilClosed` leaves starts with that parenthesis, or it is empty. -/
theorem groupTail_parentheses (depth : Nat) (cs : Text) :
    groupTail '(' ')' (depth + 1) cs = untilClosed (depth + 1) cs ++
      (cs.drop (untilClosed (depth + 1) cs).length).take 1 := by
  induction cs generalizing depth with
  | nil => rfl
  | cons c cs ih =>
    by_cases opens : c = CodePoint.char '('
    · subst opens
      rw [untilClosed_open, List.length_cons, List.drop_succ_cons, List.cons_append, ← ih]
      simp [groupTail]
    by_cases closes : c = CodePoint.char ')'
    · subst closes
      cases depth with
      | zero =>
        -- Here both stop, the one behind the parenthesis and the other in front of it.
        rw [untilClosed_close_one]
        simp [groupTail]
      | succ depth =>
        rw [untilClosed_close, List.length_cons, List.drop_succ_cons, List.cons_append, ← ih]
        simp [groupTail]
    · rw [untilClosed_other _ _ opens closes, List.length_cons, List.drop_succ_cons,
        List.cons_append, ← ih]
      simp [groupTail, opens, closes]

/-- A group in parentheses is its opening one, what `untilClosed` takes, and the closing one if
there is any. -/
theorem group_parentheses (cs : Text) :
    group '(' ')' (CodePoint.char '(' :: cs) = CodePoint.char '(' ::
      (untilClosed 1 cs ++ (cs.drop (untilClosed 1 cs).length).take 1) := by
  rw [← groupTail_parentheses 0 cs]
  simp [group]

/-! ## §3 Quotes -/

/-- How many backslashes a text ends in. -/
def backslashes (cs : Text) : Nat := (cs.rtakeWhile (· == CodePoint.char '\\')).length

/-- What follows an opening `quote` ends with a closing one: the backslashes in front of it make
pairs among themselves, so that none is left to take the quote along. -/
def ClosesQuote (quote : CodePoint) (cs : Text) : Prop :=
  ∃ content, cs = content ++ [quote] ∧ Even (backslashes content)

theorem backslashes_le (cs : Text) : backslashes cs ≤ cs.length :=
  (List.rtakeWhile_suffix _ cs).length_le

/-- A character in front counts only if it is a backslash and nothing else stands behind it.
Otherwise the `backslashes` at the end stay as they are. -/
theorem backslashes_cons (c : CodePoint) (cs : Text) :
    backslashes (c :: cs) =
      if backslashes cs = cs.length ∧ c = CodePoint.char '\\' then cs.length + 1
      else backslashes cs := by
  simp only [backslashes, List.rtakeWhile, List.length_reverse, List.reverse_cons,
    List.takeWhile_append]
  by_cases all : (cs.reverse.takeWhile (· == CodePoint.char '\\')).length = cs.length
  · by_cases backslash : c = CodePoint.char '\\' <;> simp [all, backslash]
  · simp [all]

/-- A pair in front does not change whether backslashes are left. -/
theorem even_backslashes_pair (c : CodePoint) (cs : Text) :
    Even (backslashes (CodePoint.char '\\' :: c :: cs)) ↔ Even (backslashes cs) := by
  rw [backslashes_cons, backslashes_cons, List.length_cons]
  by_cases all : backslashes cs = cs.length ∧ c = CodePoint.char '\\'
  · rw [if_pos all, if_pos ⟨rfl, rfl⟩, all.1, Nat.even_iff, Nat.even_iff]
    omega
  · -- The first one of the pair counts only if all that follows it does.
    have fewer : backslashes cs ≠ cs.length + 1 := by
      have most := backslashes_le cs
      omega
    rw [if_neg all, if_neg fun more => fewer more.1]

section Quotes

variable {quote : CodePoint}

theorem not_closesQuote_nil : ¬ClosesQuote quote [] := by
  rintro ⟨content, whole, -⟩
  simp at whole

theorem closesQuote_singleton : ClosesQuote quote [quote] := ⟨[], rfl, by decide⟩

theorem closesQuote_cons {c : CodePoint} (plain : c ≠ CodePoint.char '\\') (other : c ≠ quote)
    (cs : Text) : ClosesQuote quote (c :: cs) ↔ ClosesQuote quote cs := by
  -- The character is no backslash, so it does not count among those at the end.
  have same (content : Text) : backslashes (c :: content) = backslashes content := by
    rw [backslashes_cons, if_neg (by simp [plain])]
  constructor
  · rintro ⟨content, whole, even⟩
    cases content with
    | nil => exact absurd (List.head_eq_of_cons_eq whole) other
    | cons d content =>
      obtain ⟨rfl, rfl⟩ := List.cons.inj whole
      exact ⟨content, rfl, same content ▸ even⟩
  · rintro ⟨content, rfl, even⟩
    exact ⟨c :: content, rfl, (same content).symm ▸ even⟩

variable (notBackslash : quote ≠ CodePoint.char '\\')
include notBackslash

theorem not_closesQuote_backslash : ¬ClosesQuote quote [CodePoint.char '\\'] := by
  rintro ⟨content, whole, -⟩
  cases content with
  | nil => exact notBackslash (List.head_eq_of_cons_eq whole).symm
  | cons d content => simp at whole

/-- A backslash and the character behind it are passed as a pair, even if that character is the
quote.

The pair stands in front of the content, and `even_backslashes_pair` says that it does not matter
there. -/
theorem closesQuote_pair (c : CodePoint) (cs : Text) :
    ClosesQuote quote (CodePoint.char '\\' :: c :: cs) ↔ ClosesQuote quote cs := by
  constructor
  · rintro ⟨content, whole, even⟩
    match content with
    -- Without a pair in front, the backslash would be the quote.
    | [] => exact absurd (List.head_eq_of_cons_eq whole).symm notBackslash
    | [d] =>
      -- The quote would be the second of the pair.
      obtain rfl := List.head_eq_of_cons_eq whole
      exact absurd even (by decide)
    | d :: e :: content =>
      simp only [List.cons_append, List.cons.injEq] at whole
      obtain ⟨rfl, rfl, rfl⟩ := whole
      exact ⟨content, rfl, (even_backslashes_pair _ content).mp even⟩
  · rintro ⟨content, rfl, even⟩
    exact ⟨CodePoint.char '\\' :: c :: content, rfl, (even_backslashes_pair c content).mpr even⟩

/-- What is read behind an opening quote ends with the first quote that no backslash takes along.

The cases are those of `quotedTail`: the end of the text, a backslash at its end, a backslash with a
character behind it, the quote, and any other character. -/
theorem isShortest_quotedTail (cs : Text) :
    IsShortest (ClosesQuote quote) cs (quotedTail quote cs) := by
  fun_induction quotedTail quote cs with
  | case1 => exact .nil not_closesQuote_nil
  | case2 => exact .cons not_closesQuote_nil (.nil (not_closesQuote_backslash notBackslash))
  | case3 c cs ih =>
    exact .cons not_closesQuote_nil (.cons (not_closesQuote_backslash notBackslash)
      (ih.of_iff (closesQuote_pair notBackslash c)))
  | case4 c cs lone pair closes =>
    rw [beq_iff_eq] at closes
    exact closes ▸ .first not_closesQuote_nil closesQuote_singleton
  | case5 c cs lone pair goesOn ih =>
    rw [beq_iff_eq] at goesOn
    -- A backslash would have come under the second case or the third.
    have plain : c ≠ CodePoint.char '\\' := by
      rintro rfl
      cases cs with
      | nil => exact lone rfl rfl
      | cons d cs => exact pair d cs rfl rfl
    exact .cons not_closesQuote_nil (ih.of_iff (closesQuote_cons plain goesOn))

end Quotes

/-! ## §4 Escaping -/

/-- A text with a backslash in front of each backslash and of each `quote`. -/
def escape (quote : CodePoint) (content : Text) : Text :=
  content.flatMap fun c =>
    if c = CodePoint.char '\\' ∨ c = quote then [CodePoint.char '\\', c] else [c]

/-- A text between quotes, escaped by `escape`. -/
def enclose (quote : CodePoint) (content : Text) : Text :=
  quote :: (escape quote content ++ [quote])

/-- An escaped text is read up to the quote behind it, whatever follows.

Every backslash and every quote of the `content` has a backslash in front that takes it along. -/
theorem quotedTail_escape {quote : CodePoint} (notBackslash : quote ≠ CodePoint.char '\\')
    (content rest : Text) :
    quotedTail quote (escape quote content ++ quote :: rest) =
      escape quote content ++ [quote] := by
  induction content with
  | nil => exact (quotedTail_cons quote notBackslash rest).trans (if_pos (beq_self_eq_true quote))
  | cons c content ih =>
    rw [escape, List.flatMap_cons, ← escape, List.append_assoc]
    split
    · -- The character is escaped, so the scan passes it with its backslash.
      rw [List.cons_append, quotedTail_backslash, List.cons_append, escapedTail, List.nil_append,
        ih]
      rfl
    · next plain =>
      obtain ⟨notBackslash', notQuote⟩ := not_or.mp plain
      rw [List.singleton_append, quotedTail_cons quote notBackslash',
        if_neg (by simpa using notQuote), ih]
      rfl

end StyleCheck.Text
