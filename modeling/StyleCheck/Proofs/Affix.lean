import StyleCheck.Affix
import StyleCheck.Proofs.StateKey.Body

/-!
# The parts of an affix

What has no meaning in an affix is passed over, and an argument or an attribute takes whatever
stands in it, be it the start of another part. So it has to be said that nothing gets lost on the
way. A character is passed over only if no part starts with it, and every other character lies in
one part; and as each part is read off the front of what lies ahead, its text alone is that part
again.

## Main definitions

- `Starts`: the characters that a part starts with.

## Main statements

- `token?_eq_none_iff`: these are the characters at which the grammar finds a part.
- `reads_token`: a part is read off the front.
- `lex_finds_parts`: what the parts of an affix take of it, and what they leave.
-/

namespace StyleCheck.Affix

open Text
open StateKey (isCombinator secondColon pseudoName pseudoTail)

/-! ## §1 The grammar -/

/-- A part of an affix starts with the character: a combinator, a comma, the placeholder, what a
pseudo-class, a class or an attribute starts with, or what a name starts with. -/
def Starts (c : CodePoint) : Prop := c ∈ ">+~,@:.[".toText ∨ isNameStart c = true

/-- The grammar passes over a character just where no part starts with it, so `Starts` tells what is
left out. -/
theorem token?_eq_none_iff {c : CodePoint} {cs : Text} : token? c cs = none ↔ ¬Starts c := by
  have characters : ">+~,@:.[".toText = ">+~".toText ++ ",@:.[".toText := by decide
  have others : c ∈ ",@:.[".toText ↔ c = ',' ∨ c = '@' ∨ c = ':' ∨ c = '.' ∨ c = '[' := by
    simp [String.toText]
  simp only [token?, Starts, ite_some_eq_none_iff, characters, others, List.mem_append,
    isCombinator, List.contains_iff_mem, beq_iff_eq, not_or]
  tauto

/-- A pseudo-class or a pseudo-element; which of them it is, is told by the second colon.

It is a second colon if there is one, then a name, then a group of arguments. The scanners for these
are put together by `Reads.andThen`. -/
theorem reads_pseudo : Reads (fun token : Option (AffixKind × Text) => token.elim [] Prod.snd)
    fun cs => some (if (secondColon cs).isEmpty then .pseudoClass else .pseudoElement,
      pseudoTail cs) := by
  have behindColon : Reads id fun cs =>
      dashedName cs ++ group '(' ')' (cs.drop (dashedName cs).length) :=
    reads_dashedName.andThen (fun _ => reads_group _ _) (· ++ ·) fun _ _ => rfl
  -- The grammar takes the colon and the name together, so the parts have to be regrouped.
  have regrouped (cs : Text) : pseudoTail cs = secondColon cs ++
      (dashedName (cs.drop (secondColon cs).length) ++ group '(' ')'
        ((cs.drop (secondColon cs).length).drop
          (dashedName (cs.drop (secondColon cs).length)).length)) := by
    simp only [pseudoTail, pseudoName, List.length_append, List.drop_drop, List.append_assoc]
  simp only [regrouped]
  exact StateKey.reads_secondColon.andThen (fun _ => behindColon)
    (fun colon rest =>
      some (if colon.isEmpty then AffixKind.pseudoClass else .pseudoElement, colon ++ rest))
    fun _ _ => rfl

/-- The parts of an affix are read off the front. By `reads_sparse` this goes on for the whole
affix. -/
theorem reads_token (c : CodePoint) :
    Reads (fun token : Option (AffixKind × Text) => token.elim [] Prod.snd) (token? c) :=
  .iteConst _ (reads_kindOnly _) <|
  .iteConst _ (reads_kindOnly _) <|
  .iteConst _ (reads_kindOnly _) <|
  .iteConst _ reads_pseudo <|
  .iteConst _ (reads_kind _ reads_dashedName) <|
  .iteConst _ (reads_kind _ StateKey.reads_attributeTail) <|
  .iteConst _ (reads_kind _ reads_dashedName) reads_none

/-! ## §2 The parts of a text -/

/-- The parts of a text are a run from its start to its end: no character stops the scan.

This is `sparseRun_sparse` for the grammar of affixes, `token?`. -/
theorem sparseRun_lex (text : Text) :
    SparseRun token? (fun _ => false) text 0 (lex text) text.length := by
  have run := sparseRun_sparse token? (fun _ => false)
    (fun c cs kind tail token => by
      have front := (reads_token c).isPrefix cs
      rwa [token] at front)
    (Nat.zero_le text.length) List.drop_zero
  obtain atEnd | ⟨c, cs, -, stops⟩ := run.ends
  · rwa [atEnd] at run
  · cases stops

/-- The text of a part is lexed to that part alone, by `sparse_alone`. -/
theorem lex_text {text : Text} {t : AffixToken} (ht : t ∈ lex text) :
    lex t.text = [{ t with start := 0 }] := by
  have ahead : text.drop 0 = text := List.drop_zero
  obtain ⟨c, cs, tail, -, token, whole⟩ := exists_token_of_mem_sparse ahead ht
  rw [lex, whole, sparse_alone reads_token token rfl]

/-- The parts of an affix stand in it one behind the other, none of them empty and each with its own
characters as its text.

No part starts with a character that they leave, which is white space or has no meaning. And what a
part is does not depend on where it stands: lexing its text gives the part alone, moved to the
start. -/
theorem lex_finds_parts (text : Text) :
    (∀ t ∈ lex text, t.start < t.stop ∧ t.stop ≤ text.length ∧
      t.text = slice text t.start t.stop) ∧
    (lex text).Pairwise (fun t u => t.start < u.start ∧ t.stop ≤ u.start) ∧
    (∀ offset c, text[offset]? = some c → ¬Taken (lex text) offset → ¬Starts c) ∧
    (∀ t ∈ lex text, lex t.text = [{ t with start := 0 }]) := by
  have run := sparseRun_lex text
  refine ⟨fun t ht => ?_, ?_, fun offset c there free => ?_, fun t ht => lex_text ht⟩
  · obtain ⟨-, some, inside⟩ := run.inside t ht
    exact ⟨some, inside, (run.stands t ht).slice_eq.symm⟩
  · -- Parts are not empty, so one that starts behind another also starts later.
    refine run.apart.imp_of_mem fun {t u} ht _ apart => ⟨?_, apart⟩
    have some := (run.inside t ht).2.1
    omega
  · -- A character that no part takes was passed over.
    obtain ⟨inside, -⟩ := List.getElem?_eq_some_iff.mp there
    obtain taken | ⟨d, ds, ahead, -, none⟩ := run.passed offset (Nat.zero_le offset) inside
    · exact absurd taken free
    · rw [getElem?_of_drop_eq_cons ahead, Option.some.injEq] at there
      exact token?_eq_none_iff.mp (there ▸ none)

/-- An open argument takes the attribute in it along, and the character in front has no meaning. -/
theorem lex_finds_parts_openArgument :
    ∃ t ∈ lex ">é ::is([a] .b".toText, t.kind = .pseudoElement ∧ t.start = 3 ∧
      t.text = slice ">é ::is([a] .b".toText 3 t.stop ∧ lex t.text = [{ t with start := 0 }] ∧
      ¬Starts 'é' := by
  have there : ∃ t ∈ lex ">é ::is([a] .b".toText, t.kind = .pseudoElement ∧ t.start = 3 := by
    decide +kernel
  have free : ¬Taken (lex ">é ::is([a] .b".toText) 1 := by
    unfold Taken
    decide +kernel
  obtain ⟨t, ht, kind, start⟩ := there
  obtain ⟨stands, -, left, alone⟩ := lex_finds_parts ">é ::is([a] .b".toText
  refine ⟨t, ht, kind, start, ?_, alone t ht, left 1 'é' (by decide) free⟩
  have text := (stands t ht).2.2
  rwa [start] at text

end StyleCheck.Affix
