import StyleCheck.Fault
import StyleCheck.Settings

/-!
# Configuration documents

The content of a configuration file, whatever its format: a tree of scalars, lists and mappings.
A layer of settings is read off such a document leniently: keys that nobody knows and values of
the wrong sort are passed over.

## Main definitions

- `ConfigValue`: documents.
- `Settings.Layer.ofConfig?`, `Settings.Layer.ofConfig`: the layer that a document sets.
-/

namespace StyleCheck

/-! ## §1 Documents -/

/-- A value in a configuration document. Numbers and times keep their written form, since no
setting looks at them. -/
inductive ConfigValue
  | null
  | boolean (value : Bool)
  | number (numeral : Text)
  | time (written : Text)
  | text (content : Text)
  | list (items : List ConfigValue)
  | mapping (entries : List (Text × ConfigValue))
deriving Repr, Inhabited

/-- The entries of a mapping in a document. -/
abbrev ConfigEntries := List (Text × ConfigValue)

namespace ConfigEntries

/-- The value under a key. -/
def get? (entries : ConfigEntries) (key : Text) : Option ConfigValue := entries.lookup key

/-- The `entries` with one written: in place under a present `key`, at the end under a new one. -/
def put (entries : ConfigEntries) (key : Text) (value : ConfigValue) : ConfigEntries :=
  if entries.any (·.1 == key) then
    entries.map fun e => if e.1 == key then (key, value) else e
  else entries ++ [(key, value)]

end ConfigEntries

namespace ConfigValue

/-- The text that a value is. -/
def text? : ConfigValue → Option Text
  | .text content => some content
  | _ => none

/-- The texts among the items of a list. -/
def texts (items : List ConfigValue) : List Text := items.filterMap text?

end ConfigValue

/-! ## §2 Layers -/

namespace Settings.Layer

/-- The base that a value names: a `.text`, or a `.list` of exactly one. -/
def baseOf? : ConfigValue → Option Text
  | .text target => some target
  | .list [.text target] => some target
  | _ => none

/-- The names that a value permits: those of a list, or all, for `false`. -/
def permittedOf? : ConfigValue → Option Permitted
  | .boolean false => some .anything
  | .list items => some (.only (ConfigValue.texts items))
  | _ => none

/-- The names that a `.list` holds; items that are no `.text` are passed over. -/
def namesOf? : ConfigValue → Option (List Text)
  | .list items => some (ConfigValue.texts items)
  | _ => none

/-- The `Descriptions` that a `.mapping` holds: its texts, in their order. -/
def descriptionsOf? : ConfigValue → Option Descriptions
  | .mapping entries =>
    some (.ofList (entries.filterMap fun (key, value) => value.text?.map fun text => (key, text)))
  | _ => none

/-- The layer that a document sets, if the document is a `.mapping`. -/
def ofConfig? : ConfigValue → Option Layer
  | .mapping entries =>
    let get (key : String) := ConfigEntries.get? entries key.toText
    some
      { base := (get "extends").bind baseOf?
        tokens := (get "tokens").bind permittedOf?
        units := (get "units").bind permittedOf?
        funcs := (get "funcs").bind permittedOf?
        states := (get "states").bind namesOf?
        presets := (get "presets").bind namesOf?
        recipes := (get "recipes").bind namesOf?
        tokenDescriptions := (get "tokenDescriptions").bind descriptionsOf?
        presetDescriptions := (get "presetDescriptions").bind descriptionsOf?
        recipeDescriptions := (get "recipeDescriptions").bind descriptionsOf?
        stateDescriptions := (get "stateDescriptions").bind descriptionsOf? }
  | _ => none

/-- The layer that `ofConfig?` reads; a document that is no mapping is refused. -/
def ofConfig (document : ConfigValue) : Except Fault Layer :=
  match ofConfig? document with
  | some layer => .ok layer
  | none => .error .notMapping

end Settings.Layer

end StyleCheck
