import Mathlib.Data.List.Basic
import StyleCheck.StateKey.Lexer

/-!
# The aliases that the lexer asks for

A name behind `@` is an alias if it is configured, even where it has a meaning of its own; a keyword
that is configured loses its body. But a name without such a meaning is an alias in any case and
takes the same characters. So of all aliases only those that are called like a keyword matter to the
lexer.

## Main definitions

- `SameKeywords`: lists of aliases with the same keywords among them.

## Main statements

- `Lexeme.advanced_of_notMem_atKeywords`: names without a meaning of their own.
- `lex_congr`: what the lexer makes of a key, told the same keywords.
-/

namespace StyleCheck.StateKey

open Text

/-- The keywords among the aliases are the same: each of the `atKeywords` stands in both lists or in
neither. -/
def SameKeywords (aliases aliases' : List Text) : Prop :=
  ∀ name ∈ atKeywords, name ∈ aliases ↔ name ∈ aliases'

theorem sameKeywords_filter (aliases : List Text) :
    SameKeywords aliases (aliases.filter (atKeywords.contains ·)) := by
  intro name keyword
  rw [List.mem_filter, List.contains_iff_mem, and_iff_left keyword]

variable {aliases aliases' : List Text}

namespace Lexeme

/-- A name that is no keyword is an alias, whether it is configured or not.

The lexer compares a name with each keyword in turn, so these are spelled out. -/
theorem advanced_of_notMem_atKeywords {cs : Text}
    (noBody : ∀ inside, cs ≠ CodePoint.char '(' :: inside)
    (other : CodePoint.char '@' :: dashedName cs ∉ atKeywords) (position : Nat) :
    advanced aliases position cs = { kind := .stateAlias, tail := dashedName cs } := by
  have names : atKeywords = (["media", "supports", "root", "own", "starting", "keyframes",
      "properties"].map String.toText).map (CodePoint.char '@' :: ·) := by
    rfl
  rw [names, List.mem_map_of_injective List.cons_injective] at other
  simp only [List.map_cons, List.map_nil, List.mem_cons, List.not_mem_nil, or_false,
    not_or] at other
  obtain ⟨media, supports, root, own, starting, keyframes, properties⟩ := other
  unfold advanced
  split
  · next inside => exact absurd rfl (noBody inside)
  · simp [atState?, media, supports, root, own, starting, keyframes, properties]

/-- What stands behind the sign is the same lexeme under aliases with the same keywords. Of other
names `advanced_of_notMem_atKeywords` says so whatever the aliases are. -/
theorem advanced_congr (same : SameKeywords aliases aliases') (position : Nat) (cs : Text) :
    advanced aliases position cs = advanced aliases' position cs := by
  by_cases body : ∃ inside, cs = CodePoint.char '(' :: inside
  · obtain ⟨inside, rfl⟩ := body
    rfl
  · rw [not_exists] at body
    by_cases keyword : CodePoint.char '@' :: dashedName cs ∈ atKeywords
    · -- A keyword is configured in both lists or in neither.
      have configured : aliases.contains (CodePoint.char '@' :: dashedName cs) =
          aliases'.contains (CodePoint.char '@' :: dashedName cs) := by
        simp only [List.contains_eq_mem, same _ keyword]
      simp only [advanced, configured]
    · rw [advanced_of_notMem_atKeywords body keyword, advanced_of_notMem_atKeywords body keyword]

theorem read_congr (same : SameKeywords aliases aliases') (position : Nat) (c : CodePoint)
    (cs : Text) : read aliases position c cs = read aliases' position c cs := by
  simp only [read, advanced_congr same]

end Lexeme

theorem lexFrom_congr (same : SameKeywords aliases aliases') (position : Nat) (cs : Text) :
    lexFrom aliases position cs = lexFrom aliases' position cs := by
  fun_induction lexFrom aliases position cs with
  | case1 => rw [lexFrom]
  | case2 position c cs lexeme stop ih =>
    rw [lexFrom, ← Lexeme.read_congr same, ← ih]

/-- The lexer only asks which keywords are aliases.

Blank keys are read as a whole in any case. -/
theorem lex_congr (same : SameKeywords aliases aliases') (key : Text) :
    lex aliases key = lex aliases' key := by
  rw [lex, lex, lexFrom_congr same]

end StyleCheck.StateKey
