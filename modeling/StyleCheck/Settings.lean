import StyleCheck.Distinct
import StyleCheck.OrderedMap
import StyleCheck.Vocabulary

/-!
# Settings

What a project allows in its styles. One configuration file gives a `Settings.Layer`, in which
every field may be missing; the layers that apply to a document, folded together, give its
`Settings`.

## Main definitions

- `Permitted`: the names of a category, or no limit on them.
- `Settings`, `Settings.Layer`: the settings of a document and of one file.
- `Settings.merge`: a layer folded into settings.
-/

namespace StyleCheck

/-! ## §1 Names that are permitted -/

/-- Which names of a category are permitted. A configuration file sets it with a list, or with
`false` for `.anything`. -/
inductive Permitted
  /-- Every name; the category is not checked. -/
  | anything
  /-- The listed names. -/
  | only (names : List Text)
deriving DecidableEq, Repr

namespace Permitted

/-- The listed names; none, if the category is not checked, so `listed` alone does not tell whether
a name is permitted. -/
def listed : Permitted → List Text
  | .anything => []
  | .only names => names

end Permitted

/-- Descriptions of names. -/
abbrev Descriptions := OrderedMap Text Text

/-! ## §2 Settings and layers -/

/-- The settings that apply to a document. Before any file is read, only the built-in units are
permitted, and tokens and functions are not checked.

`presets` and `recipes` start empty, and nothing is checked against an empty list of words. -/
structure Settings where
  tokens : Permitted := .anything
  units : Permitted := .only Vocabulary.builtInUnits
  funcs : Permitted := .anything
  states : List Text := []
  presets : List Text := []
  recipes : List Text := []
  tokenDescriptions : Descriptions := .empty
  presetDescriptions : Descriptions := .empty
  recipeDescriptions : Descriptions := .empty
  stateDescriptions : Descriptions := .empty

/-- What one configuration file sets. A field that is `none` is left to the other files. -/
structure Settings.Layer where
  /-- Another file whose settings this one builds on. -/
  base : Option Text := none
  tokens : Option Permitted := none
  units : Option Permitted := none
  funcs : Option Permitted := none
  states : Option (List Text) := none
  presets : Option (List Text) := none
  recipes : Option (List Text) := none
  tokenDescriptions : Option Descriptions := none
  presetDescriptions : Option Descriptions := none
  recipeDescriptions : Option Descriptions := none
  stateDescriptions : Option Descriptions := none

namespace Settings

/-! ## §3 Merging -/

/-- A category after a layer. `anything` replaces what was there; a list is added to the list that
was there, or starts a new one after `anything`. -/
def mergePermitted (current : Permitted) : Option Permitted → Permitted
  | none => current
  | some .anything => .anything
  | some (.only names) => .only (firstOccurrences (current.listed ++ names))

/-- A list after a layer: what is new goes to the end, by `firstOccurrences`. -/
def mergeNames (current : List Text) : Option (List Text) → List Text
  | none => current
  | some names => firstOccurrences (current ++ names)

/-- Descriptions after a layer: those of the layer count where both describe a name. They keep their
places, by `OrderedMap.union`. -/
def mergeDescriptions (current : Descriptions) : Option Descriptions → Descriptions
  | none => current
  | some added => current.union added

/-- Settings after a layer, field by field. The `base` of the layer plays no part: it is merged
before. -/
def merge (s : Settings) (layer : Layer) : Settings where
  tokens := mergePermitted s.tokens layer.tokens
  units := mergePermitted s.units layer.units
  funcs := mergePermitted s.funcs layer.funcs
  states := mergeNames s.states layer.states
  presets := mergeNames s.presets layer.presets
  recipes := mergeNames s.recipes layer.recipes
  tokenDescriptions := mergeDescriptions s.tokenDescriptions layer.tokenDescriptions
  presetDescriptions := mergeDescriptions s.presetDescriptions layer.presetDescriptions
  recipeDescriptions := mergeDescriptions s.recipeDescriptions layer.recipeDescriptions
  stateDescriptions := mergeDescriptions s.stateDescriptions layer.stateDescriptions

/-- Whether descriptions would add anything. -/
def Layer.describes : Option Descriptions → Bool
  | none => false
  | some added => added.size != 0

/-- Whether a layer sets nothing that merging looks at: no category, no list, no description. A
layer that sets a `base` alone is empty in this sense. -/
def Layer.isEmpty (layer : Layer) : Bool :=
  layer.tokens.isNone && layer.units.isNone && layer.funcs.isNone
    && layer.states.isNone && layer.presets.isNone && layer.recipes.isNone
    && !Layer.describes layer.tokenDescriptions && !Layer.describes layer.presetDescriptions
    && !Layer.describes layer.recipeDescriptions && !Layer.describes layer.stateDescriptions

end Settings

end StyleCheck
