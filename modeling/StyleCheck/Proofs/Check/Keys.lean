import StyleCheck.Proofs.Check.Walk

/-!
# State keys that are checked

State keys stand as keys in state mappings and as the meanings of aliases, among styles and in
mappings. Each is checked with a flag that tells whether it is inside a sub-element. The walk hands
the flag down; told by the path, it is set where some key on the way is a sub-element, as long as
the way is among styles. What is behind in a mapping does not count.

Four sorts of keys close what is below them. It can be cut off, and what has to be checked stays the
same.

## Main definitions

- `EntryPath.HoldsStateKey`: the grammar of the state keys that are checked.
- `Forest.pruned`: a file without what is below the keys that close it.

## Main statements

- `stateKey_mem_obligations_iff`: the state keys that are checked are those of the grammar.
- `obligations_pruned`: what is cut off is not checked.
-/

namespace StyleCheck

/-! ## §1 The grammar -/

/-- The state keys that are checked, by the path that leads there: the names that lead to it among
styles, the text and its offset. -/
inductive EntryPath.HoldsStateKey : List Text → Text → Int → EntryPath → Prop
  /-- The meaning of an alias among styles. -/
  | meaning {p : EntryPath} {content : Text} {start stop : Int} :
      (∀ name ∈ p.above, ChecksBelow name) → NamesState p.key.name →
      p.key.name ≠ "@starting".toText → p.value = .text content start stop →
      HoldsStateKey p.above content start p
  /-- A key somewhere in the state mapping of a property or of a token. -/
  | mapped {p : EntryPath} {outer inner : List Text} {opener : Text} :
      p.above = outer ++ opener :: inner → (∀ name ∈ outer, ChecksBelow name) →
      ChecksValue opener →
      (∀ content start stop, p.value = .text content start stop →
        StateKey.isAliasDefinition p.key.name content = false) →
      HoldsStateKey outer p.key.name p.key.start p
  /-- The meaning of an alias that is defined in such a mapping. -/
  | mappedMeaning {p : EntryPath} {outer inner : List Text} {opener content : Text}
      {start stop : Int} :
      p.above = outer ++ opener :: inner → (∀ name ∈ outer, ChecksBelow name) →
      ChecksValue opener → p.value = .text content start stop →
      StateKey.isAliasDefinition p.key.name content = true →
      HoldsStateKey outer content start p

/-- Whether some of the names that lead to a place is that of a sub-element; `behind` keeps no more
of them. -/
def insideSubElement (styles : List Text) : Bool := styles.any StateKey.isSubElement

theorem insideSubElement_eq_false_iff {styles : List Text} :
    insideSubElement styles = false ↔ ∀ name ∈ styles, StateKey.isSubElement name = false := by
  simp only [insideSubElement, List.any_eq_false, Bool.not_eq_true]

/-! ## §2 The flag -/

namespace KeyRole

variable {name : Text}

/-- The role of a key is that of a sub-element just where `isSubElement` says so. -/
theorem ofName_eq_subElement_iff :
    ofName name = .subElement ↔ StateKey.isSubElement name = true := by
  unfold ofName
  split_ifs <;> simp_all

end KeyRole

/-- The keys among styles whose texts are checked as state keys are those of the role `state`. -/
theorem meaning_iff {name : Text} :
    NamesState name ∧ name ≠ "@starting".toText ↔ KeyRole.ofName name = .state := by
  rw [KeyRole.namesState_iff, ne_eq, ← KeyRole.ofName_eq_iff (rfl : KeyRole.ownName? .starting = _)]
  cases KeyRole.ofName name <;> simp

namespace CheckRegion

/-- Below styles, the flag is set by a sub-element and kept by all others.

This is one step of the way down, and `behind_of_checksBelow` is the whole way. -/
theorem enter_styles {name : Text} (below : ChecksBelow name) (inside : Bool) :
    enter (.styles inside) name = .styles (inside || StateKey.isSubElement name) := by
  rw [checksBelow_iff] at below
  rcases below with subElement | nested | state
  · rw [enter, subElement, KeyRole.ofName_eq_subElement_iff.mp subElement, Bool.or_true]
  all_goals
    have other : StateKey.isSubElement name = false := by
      rw [← Bool.not_eq_true, ← KeyRole.ofName_eq_subElement_iff]
      simp [*]
    simp [enter, *]

/-- Behind names that go on among styles, the flag tells whether one of them is a sub-element. -/
theorem behind_of_checksBelow {above : List Text} (below : ∀ name ∈ above, ChecksBelow name) :
    behind above = .styles (insideSubElement above) := by
  induction above using List.reverseRecOn with
  | nil => rfl
  | append_singleton above name ih =>
    rw [List.forall_mem_append, List.forall_mem_singleton] at below
    have outer := ih below.1
    rw [behind] at outer ⊢
    rw [List.foldl_append, outer, List.foldl_cons, List.foldl_nil, enter_styles below.2,
      insideSubElement, insideSubElement, List.any_append, List.any_cons, List.any_nil,
      Bool.or_false]

/-- In a mapping nothing changes any more, so `enter` keeps the region for all names that follow. -/
theorem foldl_enter_mapping (inside : Bool) (property : Text) (inner : List Text) :
    inner.foldl enter (.mapping inside property) = .mapping inside property := by
  induction inner with
  | nil => rfl
  | cons name inner ih => exact ih

/-- In the mapping of a property, the flag is the one that was set among styles, in front of
`opener`. -/
theorem behind_of_checksValue {outer inner : List Text} {opener : Text}
    (below : ∀ name ∈ outer, ChecksBelow name) (checks : ChecksValue opener) :
    behind (outer ++ opener :: inner) =
      .mapping (insideSubElement outer) (propertyContext opener) := by
  have among := behind_of_checksBelow below
  rw [behind] at among ⊢
  have opened : enter (.styles (insideSubElement outer)) opener =
      .mapping (insideSubElement outer) (propertyContext opener) := by
    rw [checksValue_iff] at checks
    rcases checks with token | property
    · rw [enter, token]
    · rw [enter, property]
  rw [List.foldl_append, among, List.foldl_cons, opened, foldl_enter_mapping]

/-! ## §3 The state keys that are checked -/

variable {key : StyleKey} {value : StyleValue} {inside inside' : Bool} {content property : Text}
  {start : Int}

theorem stateKey_mem_emit_styles_iff :
    .stateKey inside' content start ∈ emit (.styles inside) key value ↔
      (inside' = inside ∧ NamesState key.name ∧ key.name ≠ "@starting".toText) ∧
        ∃ stop, value = .text content start stop := by
  rw [meaning_iff]
  cases role : KeyRole.ofName key.name <;> cases value <;> simp [emit, role, eq_comm]

/-- Of a definition the meaning is checked, of all other entries the key.

Which of them an entry is, is told by `isAliasDefinition` for texts; entries with other values
define nothing. -/
theorem stateKey_mem_emit_mapping_iff :
    .stateKey inside' content start ∈ emit (.mapping inside property) key value ↔
      inside' = inside ∧
        ((∃ stop, value = .text content start stop ∧
            StateKey.isAliasDefinition key.name content = true) ∨
          (content = key.name ∧ start = key.start ∧
            ∀ content' start' stop, value = .text content' start' stop →
              StateKey.isAliasDefinition key.name content' = false)) := by
  cases value with
  | unread | object => simp [emit]
  | text content' start' stop =>
    rw [emit]
    cases defines : StateKey.isAliasDefinition key.name content' with
    | true =>
      rw [if_pos rfl, List.mem_singleton]
      constructor
      · rintro ⟨⟩
        exact ⟨rfl, .inl ⟨stop, rfl, defines⟩⟩
      · rintro ⟨rfl, ⟨_, ⟨⟩, -⟩ | ⟨-, -, uses⟩⟩
        · rfl
        · exact absurd (uses _ _ _ rfl) (by simp [defines])
    | false =>
      -- Besides the key, a text is checked as a value, which is no state key.
      rw [if_neg Bool.false_ne_true]
      constructor
      · intro mem
        rcases List.mem_cons.mp mem with ⟨⟨⟩⟩ | mem
        · refine ⟨rfl, .inr ⟨rfl, rfl, ?_⟩⟩
          rintro _ _ _ ⟨⟩
          exact defines
        · cases List.mem_singleton.mp mem
      · rintro ⟨rfl, ⟨_, ⟨⟩, definition⟩ | ⟨rfl, rfl, -⟩⟩
        · exact absurd definition (by simp [defines])
        · exact List.mem_cons_self

end CheckRegion

variable {content : Text} {start : Int} {inside : Bool}

/-- A state key is checked at the end of a path if the grammar says so, with the flag set by the
names among styles.

The path leads to styles, into a mapping or to what is closed; in each case `CheckRegion.behind`
tells what is emitted. -/
theorem EntryPath.stateKey_mem_emit_iff {p : EntryPath} :
    .stateKey inside content start ∈ (CheckRegion.behind p.above).emit p.key p.value ↔
      ∃ styles, p.HoldsStateKey styles content start ∧ inside = insideSubElement styles := by
  constructor
  · intro mem
    cases region : CheckRegion.behind p.above with
    | styles flag =>
      have below := CheckRegion.behind_eq_styles_iff.mp ⟨flag, region⟩
      rw [CheckRegion.behind_of_checksBelow below] at mem
      obtain ⟨⟨rfl, state, other⟩, stop, value⟩ :=
        CheckRegion.stateKey_mem_emit_styles_iff.mp mem
      exact ⟨p.above, .meaning below state other value, rfl⟩
    | mapping flag property =>
      obtain ⟨outer, opener, inner, above, below, checks, -⟩ :=
        CheckRegion.behind_eq_mapping_iff.mp ⟨flag, region⟩
      rw [above, CheckRegion.behind_of_checksValue below checks] at mem
      obtain ⟨rfl, ⟨stop, value, defines⟩ | ⟨rfl, rfl, uses⟩⟩ :=
        CheckRegion.stateKey_mem_emit_mapping_iff.mp mem
      · exact ⟨outer, .mappedMeaning above below checks value defines, rfl⟩
      · exact ⟨outer, .mapped above below checks uses, rfl⟩
    -- Below what is closed, nothing is checked.
    | closed =>
      rw [region] at mem
      cases mem
  · rintro ⟨styles, holds, rfl⟩
    cases holds with
    | meaning below state other value =>
      rw [CheckRegion.behind_of_checksBelow below, CheckRegion.stateKey_mem_emit_styles_iff]
      exact ⟨⟨rfl, state, other⟩, _, value⟩
    | mapped above below checks uses =>
      rw [above, CheckRegion.behind_of_checksValue below checks,
        CheckRegion.stateKey_mem_emit_mapping_iff]
      exact ⟨rfl, .inr ⟨rfl, rfl, uses⟩⟩
    | mappedMeaning above below checks value defines =>
      rw [above, CheckRegion.behind_of_checksValue below checks,
        CheckRegion.stateKey_mem_emit_mapping_iff]
      exact ⟨rfl, .inl ⟨_, value, defines⟩⟩

/-- The state keys that are checked in a file are those of the grammar.

A file is all of its paths, by `Forest.paths`. -/
theorem stateKey_mem_obligations_iff {forest : Forest} :
    .stateKey inside content start ∈ obligations forest ↔
      ∃ p ∈ forest.paths, ∃ styles, p.HoldsStateKey styles content start ∧
        inside = insideSubElement styles := by
  rw [obligations_eq, List.mem_flatMap]
  simp only [EntryPath.stateKey_mem_emit_iff]

/-! ## §4 Cutting off -/

/-- Whether the checks do not look below a key among styles. -/
def KeyRole.closes : KeyRole → Bool
  | .keyframes | .properties | .starting | .affix => true
  | .subElement | .nested | .state | .token | .property => false

mutual

/-- The entries of a style object, without what is below the keys that close it. -/
def prunedEntries : StyleEntries → StyleEntries
  | [] => []
  | (key, value) :: entries => (key, prunedValue key value) :: prunedEntries entries

/-- The value of a key of a style object, without what is below the keys that close it. A state
mapping is kept as it is, because `KeyRole.closes` speaks of keys among styles. -/
def prunedValue (key : StyleKey) : StyleValue → StyleValue
  | .unread => .unread
  | .text content start stop =>
    if (KeyRole.ofName key.name).closes then .unread else .text content start stop
  | .object entries start stop =>
    match KeyRole.ofName key.name with
    | .keyframes | .properties | .starting | .affix => .unread
    | .subElement | .nested | .state => .object (prunedEntries entries) start stop
    | .token | .property => .object entries start stop

end

/-- A file without what is below the keys that close it, each of its objects by `prunedEntries`. -/
def Forest.pruned (forest : Forest) : Forest :=
  forest.map fun object => { object with entries := prunedEntries object.entries }

mutual

theorem objectObligations_pruned (inside : Bool) : ∀ entries : StyleEntries,
    objectObligations inside (prunedEntries entries) = objectObligations inside entries
  | [] => by rw [prunedEntries]
  | (key, value) :: entries => by
    rw [prunedEntries, objectObligations, objectObligations,
      entryObligations_pruned inside key value, objectObligations_pruned inside entries]

theorem entryObligations_pruned (inside : Bool) (key : StyleKey) : ∀ value : StyleValue,
    entryObligations inside key (prunedValue key value) = entryObligations inside key value
  | .unread => by rw [prunedValue]
  | .text content start stop => by
    rw [prunedValue]
    -- A text is closed off just where it is not checked.
    cases role : KeyRole.ofName key.name <;> simp [KeyRole.closes, entryObligations, role]
  | .object entries start stop => by
    rw [prunedValue]
    cases role : KeyRole.ofName key.name with
    | subElement => simp only [entryObligations, role, objectObligations_pruned true entries]
    | nested | state => simp only [entryObligations, role, objectObligations_pruned inside entries]
    | keyframes | properties | starting | affix => simp only [entryObligations, role]
    | token | property => rfl

end

/-- What is cut off is not checked: `Forest.pruned` has the same obligations. -/
theorem obligations_pruned (forest : Forest) : obligations forest.pruned = obligations forest := by
  simp only [obligations, Forest.pruned, List.flatMap_map, objectObligations_pruned]

end StyleCheck
