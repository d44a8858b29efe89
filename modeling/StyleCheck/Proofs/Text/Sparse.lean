import StyleCheck.Proofs.Text.Places
import StyleCheck.Proofs.Text.Reads
import StyleCheck.Text.Sparse

/-!
# What a sparse scan finds

A sparse scan of the rest of a source finds fragments that stand in the source one after the other.
It passes over a character only if no token of the grammar starts there, and it comes to the end of
the source or to a stop character outside all fragments.

## Main definitions

- `SparseRun`: what is found between two offsets of a source.

## Main statements

- `sparseRun_sparse`: the scan finds such a run.
- `exists_token_of_mem_sparse`: the fragments are tokens of the grammar.
- `reads_sparse`: what lies behind the stop character has no say in what is found.
- `sparse_alone`: the text of a token is one fragment.
- `sparse_add`: from another position the same fragments are found, moved.

Grammars are written as a chain of conditions; `reads_kind`, `reads_kindOnly`, `reads_some` and
`reads_none` say of what such a chain ends in that it is read off the front.
-/

namespace StyleCheck.Text

variable {κ : Type} {grammar : CodePoint → Text → Option (κ × Text)} {isStop : CodePoint → Bool}
variable {source : Text} {low high : Nat} {fragments : List (Fragment κ)}

/-! ## Tokens of a grammar -/

/-- Characters of one `kind`, whichever way they are read. -/
theorem reads_kind {scan : Text → Text} (kind : κ) (h : Reads id scan) :
    Reads (fun token : Option (κ × Text) => token.elim [] Prod.snd) fun cs =>
      some (kind, scan cs) :=
  h.map (fun tail => some (kind, tail)) fun _ => rfl

theorem reads_kindOnly (kind : κ) :
    Reads (fun token : Option (κ × Text) => token.elim [] Prod.snd) fun _ => some (kind, []) :=
  .const rfl

theorem reads_none :
    Reads (fun token : Option (κ × Text) => token.elim [] Prod.snd) fun _ => none :=
  .const rfl

theorem reads_some {scan : Text → κ × Text} (h : Reads Prod.snd scan) :
    Reads (fun token : Option (κ × Text) => token.elim [] Prod.snd) fun cs => some (scan cs) :=
  h.map some fun _ => rfl

theorem ite_some_eq_none_iff {α : Type} {p : Prop} [Decidable p] {a : α} {other : Option α} :
    (if p then some a else other) = none ↔ ¬p ∧ other = none := by
  split <;> simp_all

/-! ## What is found -/

/-- An offset that some fragment takes. -/
def Taken (fragments : List (Fragment κ)) (offset : Nat) : Prop :=
  ∃ f ∈ fragments, f.start ≤ offset ∧ offset < f.stop

/-- The fragments that a scan finds in a source from one offset up to another.

They stand where they say, one behind the other, and `passed` accounts for every character: a
fragment takes it, or the `grammar` has no token there and it is no stop character. At the end is
the end of the source or a stop character. -/
structure SparseRun (grammar : CodePoint → Text → Option (κ × Text)) (isStop : CodePoint → Bool)
    (source : Text) (low : Nat) (fragments : List (Fragment κ)) (high : Nat) : Prop where
  low_le_high : low ≤ high
  inside : ∀ f ∈ fragments, low ≤ f.start ∧ f.start < f.stop ∧ f.stop ≤ high
  apart : fragments.Pairwise fun f g => f.stop ≤ g.start
  stands : ∀ f ∈ fragments, StandsAt source f.start f.text
  passed : ∀ offset, low ≤ offset → offset < high → Taken fragments offset ∨
    ∃ c cs, source.drop offset = c :: cs ∧ isStop c = false ∧ grammar c cs = none
  ends : high = source.length ∨ ∃ c cs, source.drop high = c :: cs ∧ isStop c = true

namespace SparseRun

/-- A scan that is over: at the end of the source, or where `isStop` holds. -/
theorem done (ends : low = source.length ∨ ∃ c cs, source.drop low = c :: cs ∧ isStop c = true) :
    SparseRun grammar isStop source low [] low where
  low_le_high := Nat.le_refl low
  inside := by simp
  apart := List.Pairwise.nil
  stands := by simp
  passed offset above below := by omega
  ends := ends

/-- A character is passed over, because no token of the `grammar` starts there, and what follows is
a run already. -/
theorem skip {c : CodePoint} {cs : Text} (ahead : source.drop low = c :: cs)
    (goesOn : isStop c = false) (none : grammar c cs = none)
    (h : SparseRun grammar isStop source (low + 1) fragments high) :
    SparseRun grammar isStop source low fragments high where
  low_le_high := Nat.le_of_succ_le h.low_le_high
  inside f hf := by
    have inner := h.inside f hf
    omega
  apart := h.apart
  stands := h.stands
  passed offset above below := by
    by_cases here : offset = low
    · subst here
      exact .inr ⟨c, cs, ahead, goesOn, none⟩
    · exact h.passed offset (by omega) below
  ends := h.ends

/-- A fragment is found, and what follows it is a run already. The fields are those of the later
run, with `f` put in front. -/
theorem found {f : Fragment κ} (start : f.start = low) (some : f.start < f.stop)
    (there : StandsAt source f.start f.text)
    (h : SparseRun grammar isStop source f.stop fragments high) :
    SparseRun grammar isStop source low (f :: fragments) high where
  low_le_high := by
    have inner := h.low_le_high
    omega
  inside := by
    rw [List.forall_mem_cons]
    refine ⟨⟨by omega, some, h.low_le_high⟩, fun g hg => ?_⟩
    have inner := h.inside g hg
    omega
  apart := List.pairwise_cons.mpr ⟨fun g hg => (h.inside g hg).1, h.apart⟩
  stands := List.forall_mem_cons.mpr ⟨there, h.stands⟩
  passed offset above below := by
    -- The fragment takes the offsets up to its end, and the later run accounts for the others.
    by_cases within : offset < f.stop
    · exact .inl ⟨f, List.mem_cons_self, by omega, within⟩
    · obtain ⟨g, hg, taken⟩ | gap := h.passed offset (by omega) below
      · exact .inl ⟨g, List.mem_cons_of_mem f hg, taken⟩
      · exact .inr gap
  ends := h.ends

end SparseRun

/-- The scan of what lies ahead of an offset finds a run from there on.

Of the grammar it is only needed that tokens are read off the front, as `reads` says. -/
theorem sparseRun_sparse (grammar : CodePoint → Text → Option (κ × Text))
    (isStop : CodePoint → Bool)
    (reads : ∀ c cs kind tail, grammar c cs = some (kind, tail) → tail <+: cs)
    {position : Nat} {text : Text} (inside : position ≤ source.length)
    (ahead : source.drop position = text) :
    SparseRun grammar isStop source position (sparse grammar isStop position text).1
      (position + (sparse grammar isStop position text).2) := by
  fun_induction sparse grammar isStop position text with
  | case1 position =>
    refine .done (.inl ?_)
    rw [List.drop_eq_nil_iff] at ahead
    exact Nat.le_antisymm inside ahead
  | case2 position c cs stops => exact .done (.inr ⟨c, cs, ahead, stops⟩)
  | case3 position c cs goesOn none fragments length found ih =>
    obtain ⟨below, next⟩ := drop_succ_of_drop_eq_cons ahead
    have rest := ih below next
    rw [found, Nat.add_assoc, Nat.add_comm 1] at rest
    exact rest.skip ahead (by simpa using goesOn) none
  | case4 position c cs goesOn kind tail some taken fragments length found ih =>
    -- The tail is a front of what follows, so the fragment stands in the source.
    obtain ⟨back, rfl⟩ := reads c cs kind tail some
    have there : StandsAt source position (c :: tail) := by
      rw [← List.cons_append] at ahead
      exact .of_drop_eq inside ahead
    have next : source.drop (position + taken) = (tail ++ back).drop tail.length := by
      rw [← List.drop_drop, ahead, List.drop_succ_cons]
    have rest := ih there.end_le next
    rw [found, Nat.add_assoc, Nat.add_comm taken] at rest
    exact .found rfl (by simp [Fragment.stop]) there rest

/-- Every fragment is a token of the `grammar` where it stands. The grammar is asked there with all
that follows, which may be more than what the token takes. -/
theorem exists_token_of_mem_sparse {position : Nat} {text : Text}
    (ahead : source.drop position = text) {f : Fragment κ}
    (hf : f ∈ (sparse grammar isStop position text).1) :
    ∃ c cs tail, source.drop f.start = c :: cs ∧ grammar c cs = some (f.kind, tail) ∧
      f.text = c :: tail := by
  fun_induction sparse grammar isStop position text with
  | case1 => cases hf
  | case2 => cases hf
  | case3 position c cs goesOn none fragments length found ih =>
    rw [found] at ih
    exact ih (drop_succ_of_drop_eq_cons ahead).2 hf
  | case4 position c cs goesOn kind tail some taken fragments length found ih =>
    rw [found] at ih
    rcases List.mem_cons.mp hf with rfl | later
    · exact ⟨c, cs, tail, ahead, some, rfl⟩
    · -- A later fragment stands in what lies ahead of the end of this one.
      refine ih ?_ later
      rw [← List.drop_drop, ahead, List.drop_succ_cons]

/-! ## Cutting and moving -/

/-- A scan that stops in the front of a text finds the same there as in all of the text.

The scan is followed in all of the text. At each step the front has at least the character that is
looked at, and as much as its token takes, which by `reads` is all that matters. -/
theorem sparse_front
    (reads : ∀ c, Reads (fun token : Option (κ × Text) => token.elim [] Prod.snd) (grammar c))
    {position : Nat} {front back : Text}
    (enough : (sparse grammar isStop position (front ++ back)).2 < front.length) :
    sparse grammar isStop position front = sparse grammar isStop position (front ++ back) := by
  generalize whole : front ++ back = text at enough
  fun_induction sparse grammar isStop position text generalizing front with
  | case1 position =>
    -- Nothing is left to stop at, so the front would have to be longer than the text.
    rw [(List.append_eq_nil_iff.mp whole).1] at enough
    cases enough
  | case2 position c cs stops =>
    cases front with
    | nil => cases enough
    | cons d front =>
      rw [List.cons_append, List.cons.injEq] at whole
      obtain ⟨rfl, -⟩ := whole
      rw [sparse, if_pos stops]
  -- The grammar finds no token in all of the text, hence none in the front.
  | case3 position c cs goesOn none fragments length found ih =>
    cases front with
    | nil => cases enough
    | cons d front =>
      rw [List.cons_append, List.cons.injEq] at whole
      obtain ⟨rfl, rfl⟩ := whole
      have same : grammar d front = grammar d (front ++ back) :=
        (reads d).read_front (by rw [none]; exact Nat.zero_le _)
      have rest := ih rfl (by rw [found]; simpa using enough)
      rw [sparse, if_neg goesOn, same, none, rest, found]
  | case4 position c cs goesOn kind tail token taken fragments length found =>
    rename_i ih
    cases front with
    | nil => cases enough
    | cons d front =>
      rw [List.cons_append, List.cons.injEq] at whole
      obtain ⟨rfl, rfl⟩ := whole
      have inFront : tail.length ≤ front.length := by
        simp only [List.length_cons, taken] at enough
        omega
      have same : grammar d front = grammar d (front ++ back) :=
        (reads d).read_front (by rw [token]; exact inFront)
      -- The token lies in the front, and the scan goes on behind it.
      have cut : front.drop tail.length ++ back = (front ++ back).drop tail.length :=
        (List.drop_append_of_le_length inFront).symm
      have rest := ih cut (by
        simp only [found, List.length_drop, List.length_cons, taken] at enough ⊢
        omega)
      rw [sparse, if_neg goesOn, same, token]
      simp only [taken] at rest found
      simp only [rest, found, taken]

/-- The characters up to and with the stop character are read off the front of a text.

A cut may fall behind the stop character, by `sparse_front`, or behind all of the text. -/
theorem reads_sparse
    (reads : ∀ c, Reads (fun token : Option (κ × Text) => token.elim [] Prod.snd) (grammar c))
    (position : Nat) :
    Reads Prod.snd fun cs => ((sparse grammar isStop position cs).1,
      cs.take ((sparse grammar isStop position cs).2 + 1)) where
  isPrefix cs := List.take_prefix _ cs
  stable cs n enough := by
    rw [List.length_take] at enough
    -- If the cut is behind all of the text, there is nothing to show.
    by_cases all : cs.length ≤ n
    · rw [List.take_of_length_le all]
    · have stops : (sparse grammar isStop position cs).2 + 1 ≤ n := by omega
      have same : sparse grammar isStop position (cs.take n) =
          sparse grammar isStop position cs := by
        have front : sparse grammar isStop position (cs.take n) =
            sparse grammar isStop position (cs.take n ++ cs.drop n) := by
          refine sparse_front reads ?_
          rw [List.take_append_drop, List.length_take]
          omega
        rwa [List.take_append_drop] at front
      rw [same, List.take_take, Nat.min_eq_left stops]

/-- The text of a token is scanned to that token and nothing else.

This needs that the token is read off the front, for otherwise it might depend on what follows it in
`cs`. -/
theorem sparse_alone
    (reads : ∀ c, Reads (fun token : Option (κ × Text) => token.elim [] Prod.snd) (grammar c))
    {c : CodePoint} {cs tail : Text} {kind : κ} (token : grammar c cs = some (kind, tail))
    (goesOn : isStop c = false) (position : Nat) :
    sparse grammar isStop position (c :: tail) = ([⟨kind, c :: tail, position⟩],
      tail.length + 1) := by
  -- Without what follows the token, the grammar finds the same one.
  obtain ⟨back, rfl⟩ : tail <+: cs := by
    have front := (reads c).isPrefix cs
    rwa [token] at front
  have alone : grammar c tail = some (kind, tail) := by
    rw [← token]
    exact (reads c).read_front (by rw [token]; exact Nat.le_refl _)
  rw [sparse, if_neg (by simp [goesOn]), alone]
  simp only [List.drop_length, sparse, Nat.zero_add]

/-- The fragment at a place further back. -/
def Fragment.move (delta : Nat) (f : Fragment κ) : Fragment κ := { f with start := f.start + delta }

/-- A scan from another position finds the same fragments, moved by `Fragment.move`. -/
theorem sparse_add (grammar : CodePoint → Text → Option (κ × Text)) (isStop : CodePoint → Bool)
    (position delta : Nat) (text : Text) :
    sparse grammar isStop (position + delta) text =
      ((sparse grammar isStop position text).1.map (Fragment.move delta),
        (sparse grammar isStop position text).2) := by
  fun_induction sparse grammar isStop position text with
  | case1 position => rw [sparse, List.map_nil]
  | case2 position c cs stops => rw [sparse, if_pos stops, List.map_nil]
  | case3 position c cs goesOn none fragments length found ih =>
    rw [found, Nat.add_right_comm] at ih
    rw [sparse, if_neg goesOn, none]
    simp only [ih]
  | case4 position c cs goesOn kind tail token taken fragments length found ih =>
    rw [found, Nat.add_right_comm] at ih
    rw [sparse, if_neg goesOn, token]
    simp only [taken] at ih ⊢
    simp only [ih]
    rfl

end StyleCheck.Text
