import StyleCheck.Proofs.Style.Paths
import StyleCheck.Proofs.Text.Places
import StyleCheck.Style.Source

/-!
# Offsets in rendered sources

A rendered source comes with the style object that describes it. The offsets in it are those of the
source: every key stands between its own, and so does every text value.

## Main definitions

- `Text.StandsBetween`: a text stands in a source between two offsets.
- `EntryPath.StandsIn`: a key, and its value if it is a text, stand where their offsets say.

## Main statements

- `StyleSource.standsIn_of_mem_paths`: all keys and texts of a rendered source.
-/

namespace StyleCheck

/-- A text stands in a source between two offsets, which are as far apart as it is long. -/
def Text.StandsBetween (source text : Text) (start stop : Int) : Prop :=
  ∃ position : Nat, Text.StandsAt source position text ∧ start = position ∧
    stop = (position + text.length : Nat)

/-- The key at the end of a path stands in a `source` where its offsets say, and so does its value
if it is a text. -/
structure EntryPath.StandsIn (source : Text) (p : EntryPath) : Prop where
  key : Text.StandsBetween source p.key.name p.key.start p.key.stop
  value : ∀ content start stop, p.value = .text content start stop →
    Text.StandsBetween source content start stop

namespace StyleSource

variable {source : Text}

/-- Between quotes, a text stands behind the first one. Which quote `quoteFor` has taken does not
matter. -/
theorem standsAt_of_quote {position : Nat} {content : Text}
    (h : Text.StandsAt source position (quote content)) :
    Text.StandsAt source (position + 1) content := by
  have behind : Text.StandsAt source position ([quoteFor content] ++ content) := h.left
  exact behind.right

mutual

/-- Below a key that stands in the source, the written form of its value does as well. The recursion
is that of literals, together with `standsIn_of_mem_renderEntries`. -/
theorem standsIn_of_mem_renderValue (position : Nat) (above : List Text) {key : StyleKey}
    (placed : Text.StandsBetween source key.name key.start key.stop) :
    ∀ literal : Literal, Text.StandsAt source position (renderValue position literal).1 →
      ∀ p ∈ entryPaths above key (renderValue position literal).2, p.StandsIn source
  | .null, _, p, mem => by
    rw [renderValue, entryPaths, List.mem_singleton] at mem
    subst mem
    refine ⟨placed, ?_⟩
    intro content start stop value
    cases value
  | .text content, stands, p, mem => by
    rw [renderValue] at stands
    rw [renderValue, entryPaths, List.mem_singleton] at mem
    subst mem
    refine ⟨placed, ?_⟩
    intro content' start stop value
    cases value
    exact ⟨position + 1, standsAt_of_quote stands, rfl, rfl⟩
  | .mapping entries, stands, p, mem => by
    rw [renderValue] at stands
    rw [renderValue, entryPaths] at mem
    rcases List.mem_cons.mp mem with rfl | below
    · refine ⟨placed, ?_⟩
      intro content start stop value
      cases value
    · -- The entries stand behind the first brace.
      have inside := stands.left.right
      exact standsIn_of_mem_renderEntries (position + 1) [] _ entries inside p below

/-- So do entries and all that is below them. -/
theorem standsIn_of_mem_renderEntries (position : Nat) (separator : Text) (above : List Text) :
    ∀ entries : List (Text × Literal),
      Text.StandsAt source position (renderEntries position separator entries).1 →
      ∀ p ∈ objectPaths above (renderEntries position separator entries).2, p.StandsIn source
  | [], _, p, mem => by
    rw [renderEntries, objectPaths] at mem
    cases mem
  | (name, value) :: entries, stands, p, mem => by
    rw [renderEntries] at stands
    rw [renderEntries, objectPaths] at mem
    have key := standsAt_of_quote stands.left.left.left.right
    rcases List.mem_append.mp mem with first | later
    · exact standsIn_of_mem_renderValue _ above ⟨_, key, rfl, rfl⟩ value stands.left.right p first
    · have rest := stands.right
      rw [List.length_append, ← Nat.add_assoc] at rest
      exact standsIn_of_mem_renderEntries _ _ above entries rest p later

end

/-- All keys and texts of a rendered source stand in it where their offsets say, at any depth. -/
theorem standsIn_of_mem_paths (mapping : List (Text × Literal)) {p : EntryPath}
    (hp : p ∈ (render mapping).forest.paths) : p.StandsIn (render mapping).text := by
  have whole : (render mapping).forest.paths = objectPaths [] (renderEntries 1 [] mapping).2 := by
    rw [Forest.paths, forest, List.flatMap_singleton]
    rfl
  rw [whole] at hp
  have inside : Text.StandsAt (render mapping).text 1 (renderEntries 1 [] mapping).1 :=
    (Text.StandsAt.self (render mapping).text).left.right
  exact standsIn_of_mem_renderEntries 1 [] [] mapping inside p hp

end StyleSource

end StyleCheck
