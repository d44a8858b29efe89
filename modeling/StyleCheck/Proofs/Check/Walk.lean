import StyleCheck.Check.Document
import StyleCheck.Proofs.Style.Paths

/-!
# What has to be checked

The checks walk over styles and over state mappings. A walk over styles knows whether it is inside a
sub-element, and one over a mapping knows the property whose mapping it is. What has to be checked
at an entry is told by its path alone.

The walk is not that for definitions: it does not look below `@starting`, `@properties` and the lone
`$`.

## Main definitions

- `CheckRegion`: what a walk for checks is looking at.
- `EntryPath.HoldsValue`: the grammar of the values that are checked.

## Main statements

- `obligations_eq`: the walks as one pass over the paths.
- `value_mem_obligations_iff`: the values that are checked are those of the grammar.
- `wellPlaced_of_mem_obligations`: what is checked in a well placed file is well placed.
-/

namespace StyleCheck

/-! ## §1 The walks -/

/-- What a walk for checks is looking at. -/
inductive CheckRegion
  /-- Styles, perhaps inside a sub-element. -/
  | styles (inside : Bool)
  /-- A state mapping of a property. -/
  | mapping (inside : Bool) (property : Text)
  /-- Everything that is not looked into. -/
  | closed

namespace CheckRegion

/-- What the walk looks at below a key. From a `.mapping` there is no way back: everything below it
belongs to the property that has entered it. -/
def enter : CheckRegion → Text → CheckRegion
  | .styles inside, name =>
    match KeyRole.ofName name with
    | .subElement => .styles true
    | .nested | .state => .styles inside
    | .token | .property => .mapping inside (propertyContext name)
    | .starting | .keyframes | .properties | .affix => .closed
  | .mapping inside property, _ => .mapping inside property
  | .closed, _ => .closed

/-- What has to be checked at an entry, told by what the walk looks at there. In a `.mapping`, the
definition of an alias is checked for its meaning alone. -/
def emit : CheckRegion → StyleKey → StyleValue → List Obligation
  | .styles inside, key, value =>
    match KeyRole.ofName key.name, value with
    | .starting, _ => [.startingProperty key]
    | .state, .text content start _ => [.stateKey inside content start]
    | .token, .text content start _ | .property, .text content start _ =>
      [.value (propertyContext key.name) content start]
    | _, _ => []
  | .mapping inside property, key, .text content start _ =>
    if StateKey.isAliasDefinition key.name content then [.stateKey inside content start]
    else [.stateKey inside key.name key.start, .value property content start]
  | .mapping inside _, key, .unread | .mapping inside _, key, .object .. =>
    [.stateKey inside key.name key.start]
  | .closed, _, _ => []

/-- What has to be checked in an object, by the walk of the program for such objects. -/
def ofObject : CheckRegion → StyleEntries → List Obligation
  | .styles inside => objectObligations inside
  | .mapping inside property => mappingObligations inside property
  | .closed => fun _ => []

/-- What has to be checked in one entry, by the walk of the program for such entries. -/
def ofEntry : CheckRegion → StyleKey → StyleValue → List Obligation
  | .styles inside => entryObligations inside
  | .mapping inside property => mappingEntryObligations inside property
  | .closed => fun _ _ => []

/-- The walks for checks are one that is told by the names on the way.

The program has a walk for styles and one for mappings, and the first hands over to the second. As a
single walk with a `CheckRegion` they are covered by what `Walks` gives, the pass over all paths. -/
theorem walks : Walks enter emit ofObject ofEntry where
  nil region := by cases region <;> simp [ofObject, objectObligations, mappingObligations]
  cons region key value entries := by
    -- In a style object the role of the key decides, and all roles say the same of a value not
    -- read.
    cases region with
    | styles inside => exact objectObligations.eq_2 inside key value entries
    | mapping inside property => exact mappingObligations.eq_2 inside property key value entries
    | closed => rfl
  unread region key := by
    cases region with
    | styles inside =>
      simp only [ofEntry, entryObligations, emit]
      cases KeyRole.ofName key.name <;> rfl
    | mapping inside property => exact mappingEntryObligations.eq_1 inside property key
    | closed => rfl
  text region key content start stop := by
    cases region with
    | styles inside =>
      simp only [ofEntry, entryObligations, emit]
      cases KeyRole.ofName key.name <;> rfl
    | mapping inside property =>
      exact mappingEntryObligations.eq_2 inside property key content start stop
    | closed => rfl
  object region key entries start stop := by
    cases region with
    | styles inside =>
      simp only [ofEntry, entryObligations, emit, enter]
      cases KeyRole.ofName key.name <;> simp [ofObject]
    | mapping inside property =>
      exact mappingEntryObligations.eq_3 inside property key entries start stop
    | closed => rfl

/-- What the walk looks at behind names, by `enter` for each of them, starting from the styles of a
file. -/
def behind (above : List Text) : CheckRegion := above.foldl enter (.styles false)

end CheckRegion

/-- What has to be checked, entry by entry: at the end of each path, `emit` in the region that lies
`behind` the names above. -/
theorem obligations_eq (forest : Forest) : obligations forest =
    forest.paths.flatMap fun p => (CheckRegion.behind p.above).emit p.key p.value :=
  walk_eq_flatMap CheckRegion.walks (.styles false) forest

/-! ## §2 The values that are checked -/

/-- The names that the walk for checks goes through: all that enter styles but `@starting`, which
the walk for definitions does look below. -/
def ChecksBelow (name : Text) : Prop := EntersStyles name ∧ name ≠ "@starting".toText

/-- The names of which the values are checked, at once or in a mapping: all that enter mappings, but
for the lone `$`. -/
def ChecksValue (name : Text) : Prop := EntersMapping name ∧ name ≠ "$".toText

theorem checksBelow_iff {name : Text} :
    ChecksBelow name ↔ KeyRole.ofName name = .subElement ∨ KeyRole.ofName name = .nested ∨
      KeyRole.ofName name = .state := by
  rw [ChecksBelow, KeyRole.entersStyles_iff, ne_eq,
    ← KeyRole.ofName_eq_iff (rfl : KeyRole.ownName? .starting = _)]
  cases KeyRole.ofName name <;> simp

theorem checksValue_iff {name : Text} :
    ChecksValue name ↔ KeyRole.ofName name = .token ∨ KeyRole.ofName name = .property := by
  rw [ChecksValue, KeyRole.entersMapping_iff, ne_eq,
    ← KeyRole.ofName_eq_iff (rfl : KeyRole.ownName? .affix = _)]
  cases KeyRole.ofName name <;> simp

/-- The values that are checked, by the path that leads there: the text, its offset and the property
whose value it is.

It is a grammar of paths and knows nothing of the walk; `value_mem_obligations_iff` says that the
two agree. -/
inductive EntryPath.HoldsValue : Text → Text → Int → EntryPath → Prop
  /-- The value of a property or of a token. -/
  | direct {p : EntryPath} {content : Text} {start stop : Int} :
      (∀ name ∈ p.above, ChecksBelow name) → ChecksValue p.key.name →
      p.value = .text content start stop →
      HoldsValue (propertyContext p.key.name) content start p
  /-- A value somewhere in the state mapping of a property or of a token. -/
  | mapped {p : EntryPath} {outer inner : List Text} {opener content : Text} {start stop : Int} :
      p.above = outer ++ opener :: inner → (∀ name ∈ outer, ChecksBelow name) →
      ChecksValue opener → p.value = .text content start stop →
      StateKey.isAliasDefinition p.key.name content = false →
      HoldsValue (propertyContext opener) content start p

theorem EntryPath.HoldsValue.exists_text {property content : Text} {start : Int} {p : EntryPath}
    (h : p.HoldsValue property content start) : ∃ stop, p.value = .text content start stop := by
  cases h with
  | direct _ _ value => exact ⟨_, value⟩
  | mapped _ _ _ value _ => exact ⟨_, value⟩

namespace CheckRegion

/-- Styles are looked at behind names that the walk goes through. -/
theorem behind_eq_styles_iff {above : List Text} :
    (∃ inside, behind above = .styles inside) ↔ ∀ name ∈ above, ChecksBelow name := by
  refine foldl_iff_forall (fun region => ∃ inside, region = CheckRegion.styles inside) ⟨false, rfl⟩
    (fun region name => ?_) above
  cases region with
  | styles inside =>
    rw [checksBelow_iff, enter]
    cases KeyRole.ofName name <;> simp
  | mapping inside property => simp [enter]
  | closed => simp [enter]

/-- A mapping is looked at behind names that the walk goes through, then one that enters the
mapping, then any others. Only the first part has to satisfy `ChecksBelow`. -/
theorem behind_eq_mapping_iff {above : List Text} {property : Text} :
    (∃ inside, behind above = .mapping inside property) ↔
      ∃ outer opener inner, above = outer ++ opener :: inner ∧
        (∀ name ∈ outer, ChecksBelow name) ∧ ChecksValue opener ∧
        propertyContext opener = property := by
  simp only [← behind_eq_styles_iff]
  -- The name that enters a mapping fixes the property for everything in it.
  refine foldl_iff_exists (fun region => ∃ inside, region = CheckRegion.mapping inside property)
    (fun region name => (∃ inside, region = .styles inside) ∧ ChecksValue name ∧
      propertyContext name = property) ?_ (fun region name => ?_) above
  · rintro ⟨_, ⟨⟩⟩
  · cases region with
    | styles inside =>
      rw [checksValue_iff, enter]
      cases KeyRole.ofName name <;> simp
    | mapping inside property => simp [enter]
    | closed => simp [enter]

variable {key : StyleKey} {value : StyleValue} {property content : Text} {start : Int}

theorem value_mem_emit_styles_iff {inside : Bool} :
    .value property content start ∈ emit (.styles inside) key value ↔
      ChecksValue key.name ∧ propertyContext key.name = property ∧
        ∃ stop, value = .text content start stop := by
  rw [checksValue_iff]
  cases role : KeyRole.ofName key.name <;> cases value <;> simp [emit, role, eq_comm]

/-- In a mapping, every text is checked as a value of its property, but for the definition of an
alias. -/
theorem value_mem_emit_mapping_iff {inside : Bool} {property' : Text} :
    .value property content start ∈ emit (.mapping inside property') key value ↔
      property' = property ∧ (∃ stop, value = .text content start stop) ∧
        StateKey.isAliasDefinition key.name content = false := by
  cases value with
  | unread | object => simp [emit]
  | text content' start' stop =>
    rw [emit]
    cases defines : StateKey.isAliasDefinition key.name content' with
    | true =>
      -- Of a definition, the meaning is checked and not a value.
      simp only [if_true, List.mem_singleton, reduceCtorEq, false_iff]
      rintro ⟨-, ⟨_, same⟩, uses⟩
      cases same
      exact Bool.false_ne_true (uses ▸ defines)
    | false =>
      simp only [Bool.false_eq_true, if_false, List.mem_cons, reduceCtorEq, List.not_mem_nil,
        or_false, false_or]
      constructor
      · rintro ⟨⟩
        exact ⟨rfl, ⟨stop, rfl⟩, defines⟩
      · rintro ⟨rfl, ⟨_, same⟩, -⟩
        cases same
        rfl

end CheckRegion

/-- A value is checked at the end of a path if the grammar says so. The grammar is
`EntryPath.HoldsValue`. -/
theorem EntryPath.value_mem_emit_iff {p : EntryPath} {property content : Text} {start : Int} :
    .value property content start ∈ (CheckRegion.behind p.above).emit p.key p.value ↔
      p.HoldsValue property content start := by
  constructor
  · intro mem
    -- What the walk looks at here tells which rule of the grammar applies.
    cases region : CheckRegion.behind p.above with
    | styles inside =>
      have below := CheckRegion.behind_eq_styles_iff.mp ⟨inside, region⟩
      rw [region, CheckRegion.value_mem_emit_styles_iff] at mem
      obtain ⟨checks, rfl, stop, value⟩ := mem
      exact .direct below checks value
    | mapping inside property' =>
      obtain ⟨outer, opener, inner, above, below, checks, context⟩ :=
        CheckRegion.behind_eq_mapping_iff.mp ⟨inside, region⟩
      rw [region, CheckRegion.value_mem_emit_mapping_iff] at mem
      obtain ⟨rfl, ⟨stop, value⟩, uses⟩ := mem
      exact context ▸ .mapped above below checks value uses
    | closed =>
      rw [region] at mem
      cases mem
  · intro holds
    cases holds with
    | direct below checks value =>
      obtain ⟨inside, region⟩ := CheckRegion.behind_eq_styles_iff.mpr below
      rw [region, CheckRegion.value_mem_emit_styles_iff]
      exact ⟨checks, rfl, _, value⟩
    | mapped above below checks value uses =>
      obtain ⟨inside, region⟩ :=
        CheckRegion.behind_eq_mapping_iff.mpr ⟨_, _, _, above, below, checks, rfl⟩
      rw [region, CheckRegion.value_mem_emit_mapping_iff]
      exact ⟨rfl, ⟨_, value⟩, uses⟩

/-- The values that are checked in a file are those of the grammar: none is missed, and none is
checked as the value of another `property`. -/
theorem value_mem_obligations_iff {forest : Forest} {property content : Text} {start : Int} :
    .value property content start ∈ obligations forest ↔
      ∃ p ∈ forest.paths, p.HoldsValue property content start := by
  rw [obligations_eq, List.mem_flatMap]
  simp only [EntryPath.value_mem_emit_iff]

/-! ## §3 Offsets -/

/-- The offsets of what has to be checked are those of a range, as far as they are read. Of texts
only the start is. -/
def Obligation.WellPlaced : Obligation → Prop
  | .value _ _ start | .stateKey _ _ start => 0 ≤ start
  | .startingProperty key => InOrder key.start key.stop

/-- What has to be checked at an entry is its key, or its value if that is a text. Every case says
where the offset comes from. -/
theorem CheckRegion.emit_cases {region : CheckRegion} {key : StyleKey} {value : StyleValue}
    {o : Obligation} (mem : o ∈ region.emit key value) :
    (∃ inside, o = .stateKey inside key.name key.start) ∨
      (o = .startingProperty key ∧ key.name = "@starting".toText) ∨
      ∃ content start stop, value = .text content start stop ∧
        ((∃ property, o = .value property content start) ∨
          ∃ inside, o = .stateKey inside content start) := by
  cases region with
  | styles inside =>
    simp only [emit] at mem
    split at mem
    · next starting =>
      -- Here the key itself is reported, elsewhere a value is checked.
      rw [List.mem_singleton] at mem
      exact .inr (.inl ⟨mem, (KeyRole.ofName_eq_iff rfl).mp starting⟩)
    · exact .inr (.inr ⟨_, _, _, rfl, .inr ⟨_, List.mem_singleton.mp mem⟩⟩)
    · exact .inr (.inr ⟨_, _, _, rfl, .inl ⟨_, List.mem_singleton.mp mem⟩⟩)
    · exact .inr (.inr ⟨_, _, _, rfl, .inl ⟨_, List.mem_singleton.mp mem⟩⟩)
    · cases mem
  | mapping inside property =>
    cases value with
    | unread | object => exact .inl ⟨_, List.mem_singleton.mp mem⟩
    | text content start stop =>
      rw [emit] at mem
      split at mem
      · exact .inr (.inr ⟨_, _, _, rfl, .inr ⟨_, List.mem_singleton.mp mem⟩⟩)
      · rw [List.mem_cons, List.mem_singleton] at mem
        rcases mem with rfl | rfl
        · exact .inl ⟨_, rfl⟩
        · exact .inr (.inr ⟨_, _, _, rfl, .inl ⟨_, rfl⟩⟩)
  | closed => cases mem

theorem CheckRegion.wellPlaced_of_mem_emit {region : CheckRegion} {key : StyleKey}
    {value : StyleValue} (inKey : InOrder key.start key.stop) (inValue : value.WellPlaced)
    {o : Obligation} (mem : o ∈ region.emit key value) : o.WellPlaced := by
  obtain ⟨_, rfl⟩ | ⟨rfl, -⟩ | ⟨content, start, stop, rfl, ⟨_, rfl⟩ | ⟨_, rfl⟩⟩ := emit_cases mem
  · exact inKey.1
  · exact inKey
  · exact inValue.1
  · exact inValue.1

/-- In a file whose offsets are those of ranges, so are those of what has to be checked. -/
theorem wellPlaced_of_mem_obligations {forest : Forest} (placed : forest.WellPlaced)
    {o : Obligation} (mem : o ∈ obligations forest) : o.WellPlaced := by
  rw [obligations_eq, List.mem_flatMap] at mem
  obtain ⟨p, hp, mem⟩ := mem
  exact CheckRegion.wellPlaced_of_mem_emit (placed.keys p hp) (placed.values p hp) mem

end StyleCheck
