import Mathlib.Data.List.Nodup
import Mathlib.Logic.Relation
import StyleCheck.Proofs.Settings.Merging
import StyleCheck.Settings.ConfigValue

/-!
# What documents set

A configuration document sets eleven fields, each under a key of its own and each with values of a
certain sort. What a layer sets can be written as a document, and is read off it again. All else in
a document counts for nothing: other keys, values that a field does not accept, and what is no text
where texts are listed or described.

## Main definitions

- `Field`, `Field.key`, `Field.Accepts`: the fields, their keys, and the values that they accept.
- `Layer.toConfig`: a layer as a document.
- `Field.Overlooks`, `Padded`: what may be added to a document.

## Main statements

- `Layer.ofConfig?_toConfig`: a layer is read off the document that it is written as.
- `Padded.ofConfig?_eq`: one thing that is added counts for nothing.
- `layers_of_documents`: both, for any number of things.
-/

namespace StyleCheck.Settings

/-! ## §1 Fields of documents -/

/-- The fields of a document, by the values that they accept. `Category`, `Listing` and `Described`
are those of settings; only a document names a base. -/
inductive Field
  | base
  | category (c : Category)
  | listing (l : Listing)
  | described (d : Described)

namespace Field

/-- The key of a field, as it is documented. -/
def key : Field → Text
  | base => "extends".toText
  | category .tokens => "tokens".toText
  | category .units => "units".toText
  | category .funcs => "funcs".toText
  | listing .states => "states".toText
  | listing .presets => "presets".toText
  | listing .recipes => "recipes".toText
  | described .tokens => "tokenDescriptions".toText
  | described .presets => "presetDescriptions".toText
  | described .recipes => "recipeDescriptions".toText
  | described .states => "stateDescriptions".toText

/-- All fields. -/
def all : List Field :=
  [.base, .category .tokens, .category .units, .category .funcs, .listing .states,
    .listing .presets, .listing .recipes, .described .tokens, .described .presets,
    .described .recipes, .described .states]

/-- The values that a field accepts. A base is a text, or a list of just one text. A category is
`false` or a list, a listing is a list, and descriptions are a mapping. -/
inductive Accepts : Field → ConfigValue → Prop
  | text (target : Text) : Accepts .base (.text target)
  | onlyText (target : Text) : Accepts .base (.list [.text target])
  | lifted (c : Category) : Accepts (.category c) (.boolean false)
  | limited (c : Category) (items : List ConfigValue) : Accepts (.category c) (.list items)
  | names (l : Listing) (items : List ConfigValue) : Accepts (.listing l) (.list items)
  | descriptions (d : Described) (entries : ConfigEntries) :
      Accepts (.described d) (.mapping entries)

theorem mem_all (f : Field) : f ∈ all := by
  unfold all
  rcases f with _ | c | l | d
  · simp
  · cases c <;> simp
  · cases l <;> simp
  · cases d <;> simp

theorem nodup_keys : (all.map key).Nodup := by decide

theorem eq_of_key_eq {f g : Field} (same : f.key = g.key) : f = g :=
  List.inj_on_of_nodup_map nodup_keys f.mem_all g.mem_all same

end Field

/-! ## §2 Reading layers -/

open Layer (baseOf? permittedOf? namesOf? descriptionsOf?)

/-- A layer sets each field to what is read under its `key`. Nothing else of the entries is
mentioned. -/
structure Reads (entries : ConfigEntries) (layer : Layer) : Prop where
  base : layer.base = (entries.get? Field.base.key).bind baseOf?
  category : ∀ c : Category,
    c.inLayer layer = (entries.get? (Field.category c).key).bind permittedOf?
  listing : ∀ l : Listing, l.inLayer layer = (entries.get? (Field.listing l).key).bind namesOf?
  described : ∀ d : Described,
    d.inLayer layer = (entries.get? (Field.described d).key).bind descriptionsOf?

/-- Entries determine the layer, as it has no fields but those that `Reads` speaks of. -/
theorem Reads.unique {entries : ConfigEntries} {layer layer' : Layer} (h : Reads entries layer)
    (h' : Reads entries layer') : layer = layer' := by
  have base := h.base.trans h'.base.symm
  have category (c : Category) := (h.category c).trans (h'.category c).symm
  have listing (l : Listing) := (h.listing l).trans (h'.listing l).symm
  have described (d : Described) := (h.described d).trans (h'.described d).symm
  cases layer
  cases layer'
  rw [Layer.mk.injEq]
  exact ⟨base, category .tokens, category .units, category .funcs, listing .states,
    listing .presets, listing .recipes, described .tokens, described .presets,
    described .recipes, described .states⟩

theorem exists_reads (entries : ConfigEntries) :
    ∃ layer, Layer.ofConfig? (.mapping entries) = some layer ∧ Reads entries layer := by
  refine ⟨_, rfl, rfl, fun c => ?_, fun l => ?_, fun d => ?_⟩
  · cases c <;> rfl
  · cases l <;> rfl
  · cases d <;> rfl

/-- A mapping sets the layer that `Reads` ties to its entries, field by field. -/
theorem ofConfig?_eq_some_iff {entries : ConfigEntries} {layer : Layer} :
    Layer.ofConfig? (.mapping entries) = some layer ↔ Reads entries layer := by
  obtain ⟨layer', sets, reads⟩ := exists_reads entries
  rw [sets, Option.some.injEq]
  exact ⟨fun same => same ▸ reads, reads.unique⟩

/-! ## §3 Writing layers -/

/-- What a layer sets a field to, as a value of a document. A lifted limit is written as `false`. -/
def Field.written (layer : Layer) : Field → Option ConfigValue
  | base => layer.base.map .text
  | category c => (c.inLayer layer).map fun
    | .anything => .boolean false
    | .only names => .list (names.map .text)
  | listing l => (l.inLayer layer).map fun names => .list (names.map .text)
  | described d => (d.inLayer layer).map fun descriptions =>
    .mapping (descriptions.entries.map fun e => (e.1, .text e.2))

/-- Fields as entries of a document. One that is not set is left out, for `written` gives nothing
then. -/
def Field.entriesOf (layer : Layer) (fields : List Field) : ConfigEntries :=
  fields.filterMap fun f => (f.written layer).map fun value => (f.key, value)

/-- A layer as a document, in which `Field.all` are written. -/
def Layer.toConfig (layer : Layer) : ConfigValue := .mapping (Field.entriesOf layer Field.all)

theorem Field.get?_entriesOf_of_notMem (layer : Layer) {fields : List Field} {f : Field}
    (other : f ∉ fields) : (Field.entriesOf layer fields).get? f.key = none := by
  rw [ConfigEntries.get?, List.lookup_eq_none_iff]
  intro e mem
  obtain ⟨g, among, written⟩ := List.mem_filterMap.mp mem
  obtain ⟨value, -, rfl⟩ := Option.map_eq_some_iff.mp written
  rw [bne_iff_ne]
  exact fun same => other (Field.eq_of_key_eq same ▸ among)

/-- Under the key of a field that is written stands what the layer sets it to. -/
theorem Field.get?_entriesOf (layer : Layer) {fields : List Field} (distinct : fields.Nodup)
    {f : Field} (mem : f ∈ fields) :
    (Field.entriesOf layer fields).get? f.key = f.written layer := by
  induction fields with
  | nil => cases mem
  | cons g fields ih =>
    rw [List.nodup_cons] at distinct
    have step : Field.entriesOf layer (g :: fields) =
        ((g.written layer).map fun value => (g.key, value)).toList ++
          Field.entriesOf layer fields := by
      cases written : g.written layer <;> simp [Field.entriesOf, written]
    rw [step]
    -- A field that is not written leaves no entry, so the key may still be missing further on.
    rcases List.mem_cons.mp mem with rfl | later
    · cases f.written layer with
      | none => exact Field.get?_entriesOf_of_notMem layer distinct.1
      | some value => exact List.lookup_cons_self
    · -- The key is not that of the first field.
      have other : (f.key == g.key) = false := by
        rw [beq_eq_false_iff_ne]
        exact fun same => distinct.1 (Field.eq_of_key_eq same ▸ later)
      rw [← ih distinct.2 later]
      cases g.written layer with
      | none => rfl
      | some value => simp [ConfigEntries.get?, List.lookup_cons, other]

theorem texts_map_text (names : List Text) : ConfigValue.texts (names.map .text) = names := by
  rw [ConfigValue.texts, List.filterMap_map]
  exact List.filterMap_some

theorem descriptionsOf?_written (descriptions : Descriptions) :
    descriptionsOf? (.mapping (descriptions.entries.map fun e => (e.1, .text e.2))) =
      some descriptions := by
  rw [descriptionsOf?, List.filterMap_map]
  -- Each description is read as it was written.
  show some (OrderedMap.ofList (descriptions.entries.filterMap some)) = some descriptions
  rw [List.filterMap_some, OrderedMap.ofList_entries]

/-- A layer is read off the document that it is written as: `Field.get?_entriesOf` finds each field
under its key, and the readers of the fields undo the writing. -/
theorem Layer.ofConfig?_toConfig (layer : Layer) : ofConfig? layer.toConfig = some layer := by
  have written (f : Field) :
      (Field.entriesOf layer Field.all).get? f.key = f.written layer :=
    Field.get?_entriesOf layer Field.nodup_keys.of_map f.mem_all
  rw [toConfig, ofConfig?_eq_some_iff]
  -- The base, and the three families of fields.
  refine ⟨?_, fun c => ?_, fun l => ?_, fun d => ?_⟩
  · rw [written, Field.written]
    cases layer.base <;> rfl
  · rw [written, Field.written]
    rcases c.inLayer layer with _ | _ | names
    · rfl
    · rfl
    · rw [Option.map_some, Option.bind_some, permittedOf?, texts_map_text]
  · rw [written, Field.written]
    cases l.inLayer layer with
    | none => rfl
    | some names => rw [Option.map_some, Option.bind_some, namesOf?, texts_map_text]
  · rw [written, Field.written]
    cases d.inLayer layer with
    | none => rfl
    | some descriptions => rw [Option.map_some, Option.bind_some, descriptionsOf?_written]

/-! ## §4 What counts for nothing -/

/-- The fields whose lists hold names: the categories and the listings. -/
def Field.ListsNames : Field → Prop
  | category _ | listing _ => True
  | base | described _ => False

/-- What a field overlooks, where the value under its key changes: an item that is no text in a list
of names, a new key in descriptions whose value is no text, and a value that the field does not
accept, unless it takes the place of one that it does.

Values are compared under one key here, so `none` stands for a field that is not in the document. -/
inductive Field.Overlooks : Field → Option ConfigValue → Option ConfigValue → Prop
  | item {f : Field} {front back : List ConfigValue} {item : ConfigValue} :
      f.ListsNames → (∀ content, item ≠ .text content) →
      Overlooks f (some (.list (front ++ back))) (some (.list (front ++ item :: back)))
  | description {d : Described} {front back : ConfigEntries} {key : Text} {value : ConfigValue} :
      key ∉ (front ++ back).map Prod.fst → (∀ content, value ≠ .text content) →
      Overlooks (.described d) (some (.mapping (front ++ back)))
        (some (.mapping (front ++ (key, value) :: back)))
  | rejected {f : Field} {before : Option ConfigValue} {value : ConfigValue} :
      (∀ old ∈ before, ¬f.Accepts old) → ¬f.Accepts value → Overlooks f before (some value)

/-- The second document is the first one but for one thing that counts for nothing: what stands
under a key that is not documented, or what the field of a documented key `Overlooks`.

Elsewhere the two say the same under every key. -/
inductive Padded : ConfigValue → ConfigValue → Prop
  | undocumented {entries padded : ConfigEntries} {key : Text} : (∀ f : Field, f.key ≠ key) →
      (∀ other, other ≠ key → padded.get? other = entries.get? other) →
      Padded (.mapping entries) (.mapping padded)
  | overlooked {entries padded : ConfigEntries} {f : Field} :
      (∀ other, other ≠ f.key → padded.get? other = entries.get? other) →
      f.Overlooks (entries.get? f.key) (padded.get? f.key) →
      Padded (.mapping entries) (.mapping padded)

theorem get?_cons_of_ne {key other : Text} (differs : other ≠ key) (value : ConfigValue)
    (entries : ConfigEntries) :
    ConfigEntries.get? ((key, value) :: entries) other = entries.get? other := by
  rw [ConfigEntries.get?, List.lookup_cons, beq_false_of_ne differs, ConfigEntries.get?]

theorem text?_eq_none {value : ConfigValue} (other : ∀ content, value ≠ .text content) :
    value.text? = none := by
  cases value with
  | text content => exact absurd rfl (other content)
  | _ => rfl

theorem texts_insert {item : ConfigValue} (other : ∀ content, item ≠ .text content)
    (front back : List ConfigValue) :
    ConfigValue.texts (front ++ item :: back) = ConfigValue.texts (front ++ back) := by
  rw [ConfigValue.texts, ConfigValue.texts, List.filterMap_append, List.filterMap_append,
    List.filterMap_cons_none (text?_eq_none other)]

namespace Field

variable {before after : Option ConfigValue} {value : ConfigValue}

theorem baseOf?_eq_none (h : ¬base.Accepts value) : baseOf? value = none := by
  unfold baseOf?
  split
  · exact absurd (.text _) h
  · exact absurd (.onlyText _) h
  · rfl

theorem permittedOf?_eq_none {c : Category} (h : ¬(category c).Accepts value) :
    permittedOf? value = none := by
  unfold permittedOf?
  split
  · exact absurd (.lifted c) h
  · exact absurd (.limited c _) h
  · rfl

theorem namesOf?_eq_none {l : Listing} (h : ¬(listing l).Accepts value) :
    namesOf? value = none := by
  unfold namesOf?
  split
  · exact absurd (.names l _) h
  · rfl

theorem descriptionsOf?_eq_none {d : Described} (h : ¬(described d).Accepts value) :
    descriptionsOf? value = none := by
  unfold descriptionsOf?
  split
  · exact absurd (.descriptions d _) h
  · rfl

/-- Values of which nothing is read come to the same, for the readers give nothing where `Accepts`
fails. -/
theorem bind_of_rejected {α : Type} {f : Field} {read : ConfigValue → Option α}
    (rejects : ∀ {value}, ¬f.Accepts value → read value = none)
    (old : ∀ value ∈ before, ¬f.Accepts value) (new : ¬f.Accepts value) :
    (some value).bind read = before.bind read := by
  rw [Option.bind_some, rejects new]
  cases before with
  | none => rfl
  | some value => exact (rejects (old value rfl)).symm

theorem Overlooks.base (h : Field.base.Overlooks before after) :
    after.bind baseOf? = before.bind baseOf? := by
  cases h with
  | item lists => cases lists
  | rejected old new => exact bind_of_rejected baseOf?_eq_none old new

theorem Overlooks.category {c : Category} (h : (Field.category c).Overlooks before after) :
    after.bind permittedOf? = before.bind permittedOf? := by
  cases h with
  | item lists other =>
    rw [Option.bind_some, Option.bind_some, permittedOf?, permittedOf?, texts_insert other]
  | rejected old new => exact bind_of_rejected permittedOf?_eq_none old new

theorem Overlooks.listing {l : Listing} (h : (Field.listing l).Overlooks before after) :
    after.bind namesOf? = before.bind namesOf? := by
  cases h with
  | item lists other =>
    rw [Option.bind_some, Option.bind_some, namesOf?, namesOf?, texts_insert other]
  | rejected old new => exact bind_of_rejected namesOf?_eq_none old new

/-- What descriptions overlook is not read. -/
theorem Overlooks.described {d : Described} (h : (Field.described d).Overlooks before after) :
    after.bind descriptionsOf? = before.bind descriptionsOf? := by
  cases h with
  | item lists => cases lists
  | description fresh other =>
    rw [Option.bind_some, Option.bind_some, descriptionsOf?, descriptionsOf?,
      List.filterMap_append, List.filterMap_append, List.filterMap_cons_none]
    dsimp only
    rw [text?_eq_none other, Option.map_none]
  | rejected old new => exact bind_of_rejected descriptionsOf?_eq_none old new

/-- Where nothing changes, or only what the field overlooks, the same is read. -/
theorem bind_eq {α : Type} {f : Field} {read : ConfigValue → Option α}
    (overlooks : f.Overlooks before after → after.bind read = before.bind read)
    (h : after = before ∨ f.Overlooks before after) : before.bind read = after.bind read := by
  rcases h with rfl | change
  · rfl
  · exact (overlooks change).symm

end Field

namespace Padded

variable {document padded : ConfigValue}

/-- Under the key of each field stands what stood there, or what the field overlooks. So all cases
of `Padded` are treated alike, field by field. -/
theorem cases_field (h : Padded document padded) :
    ∃ entries entries' : ConfigEntries, document = .mapping entries ∧ padded = .mapping entries' ∧
      ∀ f : Field, entries'.get? f.key = entries.get? f.key ∨
        f.Overlooks (entries.get? f.key) (entries'.get? f.key) := by
  cases h with
  | undocumented other beside =>
    -- No field has that key, so each finds what it found.
    exact ⟨_, _, rfl, rfl, fun f => .inl (beside f.key (other f))⟩
  | @overlooked _ _ f beside overlooks =>
    refine ⟨_, _, rfl, rfl, fun g => ?_⟩
    by_cases same : g.key = f.key
    · obtain rfl := Field.eq_of_key_eq same
      exact .inr overlooks
    · exact .inl (beside g.key same)

/-- One thing that counts for nothing changes no layer: each field is read under its own key, where
it `Overlooks` what is new. -/
theorem ofConfig?_eq (h : Padded document padded) :
    Layer.ofConfig? padded = Layer.ofConfig? document := by
  obtain ⟨entries, entries', rfl, rfl, each⟩ := h.cases_field
  obtain ⟨layer, sets, reads⟩ := exists_reads entries
  rw [sets, ofConfig?_eq_some_iff]
  refine ⟨?_, fun c => ?_, fun l => ?_, fun d => ?_⟩
  · exact reads.base.trans (Field.bind_eq Field.Overlooks.base (each .base))
  · exact (reads.category c).trans (Field.bind_eq Field.Overlooks.category (each (.category c)))
  · exact (reads.listing l).trans (Field.bind_eq Field.Overlooks.listing (each (.listing l)))
  · exact (reads.described d).trans (Field.bind_eq Field.Overlooks.described (each (.described d)))

end Padded

/-- A layer is read off the document that it is written as; and in any document, no number of keys
that are not documented, items that are no texts, new keys whose value is no text, and values that
their field does not accept change the layer that it sets.

The first document and the second are joined by steps of `Padded`, each of which adds one of these
things; `paddedDocument` holds one of each. -/
theorem layers_of_documents :
    (∀ layer : Layer, Layer.ofConfig? layer.toConfig = some layer) ∧
    ∀ document padded, Relation.ReflTransGen Padded document padded →
      Layer.ofConfig? padded = Layer.ofConfig? document := by
  refine ⟨Layer.ofConfig?_toConfig, fun document padded steps => ?_⟩
  induction steps with
  | refl => rfl
  | tail _ step ih => exact step.ofConfig?_eq.trans ih

/-- A layer that lists a state and describes a token. -/
def plainLayer : Layer where
  states := some ["@a".toText]
  tokenDescriptions := some (.ofList [("#x".toText, "paper".toText)])

/-- The entries that list states and describe tokens. -/
def entriesOf (states : List ConfigValue) (described : ConfigEntries) : ConfigEntries :=
  [("states".toText, .list states), ("tokenDescriptions".toText, .mapping described)]

/-- A document of `plainLayer` with other things in between: a key that is not documented, presets
that are no list, a state that is no text, and a description that is none. -/
def paddedDocument : ConfigValue :=
  .mapping <| ("$schema".toText, .text "v1".toText) :: ("presets".toText, .text "card".toText) ::
    entriesOf [.text "@a".toText, .number "1".toText]
      [("#x".toText, .text "paper".toText), ("#y".toText, .null)]

/-- The things are added one after the other, each in one of the ways that `Padded` allows. -/
theorem padded_plainLayer : Relation.ReflTransGen Padded plainLayer.toConfig paddedDocument := by
  have plain : plainLayer.toConfig =
      .mapping (entriesOf [.text "@a".toText] [("#x".toText, .text "paper".toText)]) := rfl
  have item (described : ConfigEntries) :
      Padded (.mapping (entriesOf [.text "@a".toText] described))
        (.mapping (entriesOf [.text "@a".toText, .number "1".toText] described)) := by
    have added : (Field.listing .states).Overlooks
        (some (.list ([.text "@a".toText] ++ [])))
        (some (.list ([.text "@a".toText] ++ .number "1".toText :: []))) := .item trivial (by simp)
    refine .overlooked (fun other differs => ?_) added
    have differs : other ≠ "states".toText := differs
    rw [entriesOf, entriesOf, get?_cons_of_ne differs, get?_cons_of_ne differs]
  have description (states : List ConfigValue) :
      Padded (.mapping (entriesOf states [("#x".toText, .text "paper".toText)]))
        (.mapping (entriesOf states
          [("#x".toText, .text "paper".toText), ("#y".toText, .null)])) := by
    have added : (Field.described .tokens).Overlooks
        (some (.mapping ([("#x".toText, .text "paper".toText)] ++ [])))
        (some (.mapping ([("#x".toText, .text "paper".toText)] ++ ("#y".toText, .null) :: []))) :=
      .description (by decide) (by simp)
    refine .overlooked (fun other differs => ?_) added
    have differs : other ≠ "tokenDescriptions".toText := differs
    simp [entriesOf, ConfigEntries.get?, List.lookup_cons, beq_false_of_ne differs]
  have rejected (entries : ConfigEntries) (unset : entries.get? "presets".toText = none) :
      Padded (.mapping entries)
        (.mapping (("presets".toText, .text "card".toText) :: entries)) := by
    have added : (Field.listing .presets).Overlooks (entries.get? "presets".toText)
        (some (.text "card".toText)) :=
      .rejected (fun old there => by simp [unset] at there) fun accepts => nomatch accepts
    refine .overlooked (fun other differs => ?_) added
    have differs : other ≠ "presets".toText := differs
    rw [get?_cons_of_ne differs]
  have undocumented (entries : ConfigEntries) :
      Padded (.mapping entries) (.mapping (("$schema".toText, .text "v1".toText) :: entries)) := by
    have unknown : ∀ f ∈ Field.all, f.key ≠ "$schema".toText := by decide
    exact .undocumented (fun f => unknown f f.mem_all) fun other differs =>
      get?_cons_of_ne differs _ _
  -- One step for each of the four, from the inside to the front.
  rw [plain]
  exact .head (item _) (.head (description _) (.head (rejected _ rfl) (.single (undocumented _))))

theorem ofConfig?_paddedDocument : Layer.ofConfig? paddedDocument = some plainLayer := by
  rw [layers_of_documents.2 _ _ padded_plainLayer]
  exact layers_of_documents.1 plainLayer

end StyleCheck.Settings
