import Mathlib.Data.List.Induction
import StyleCheck.Proofs.Text.Span
import StyleCheck.Style.Tree

/-!
# Paths in style objects

Every entry of a file stands on a path: the names of the keys that lead to it from a style object at
the root. The walks over a file (one collects what it defines, the other what has to be checked) are
recursions of their own, each with its own idea of which objects to look into. What such a walk
does at an entry is told by the path alone: each name on the way changes what the walk is looking
at, and so the walk is the same as one pass over all paths.

## Main definitions

- `EntryPath`: an entry with the names that lead to it.
- `Forest.paths`: all entries of a file, depth first.
- `EntersStyles`, `EntersMapping`: the keys by what their objects hold.
- `Forest.WellPlaced`: all offsets in a file are those of ranges.

## Main statements

- `walk_eq_flatMap`: a walk collects entry by entry, by the paths.
- `foldl_iff_forall`, `foldl_iff_exists`: the names that keep a walk as it is, and those that change
  it for good.
-/

namespace StyleCheck

/-! ## §1 Paths -/

/-- An entry of a file with the names of the keys that lead to it, outermost first. Those names
stand `above`. -/
structure EntryPath where
  above : List Text
  key : StyleKey
  value : StyleValue

mutual

/-- The paths to the entries of an object and of all objects in it, given the names that lead to the
object. An entry comes before those below it. -/
def objectPaths (above : List Text) : StyleEntries → List EntryPath
  | [] => []
  | (key, value) :: entries => entryPaths above key value ++ objectPaths above entries

/-- The paths to an entry and to all below it. -/
def entryPaths (above : List Text) (key : StyleKey) : StyleValue → List EntryPath
  | .unread => [⟨above, key, .unread⟩]
  | .text content start stop => [⟨above, key, .text content start stop⟩]
  | .object entries start stop =>
    ⟨above, key, .object entries start stop⟩ :: objectPaths (above ++ [key.name]) entries

end

/-- The paths to all entries of a file, depth first. -/
def Forest.paths (forest : Forest) : List EntryPath :=
  forest.flatMap fun object => objectPaths [] object.entries

/-! ## §2 Walks -/

section Walk

variable {σ α : Type} {enter : σ → Text → σ} {emit : σ → StyleKey → StyleValue → List α}

/-- A walk that is told by the names on the way.

It has a state, which a key with an object changes for what is in that object, and it collects
something at each entry before it goes on below. The equations are those of the walks in the
program, with the state made explicit. -/
structure Walks (enter : σ → Text → σ) (emit : σ → StyleKey → StyleValue → List α)
    (whole : σ → StyleEntries → List α) (part : σ → StyleKey → StyleValue → List α) : Prop where
  nil : ∀ state, whole state [] = []
  cons : ∀ state key value entries,
    whole state ((key, value) :: entries) = part state key value ++ whole state entries
  unread : ∀ state key, part state key .unread = emit state key .unread
  text : ∀ state key content start stop,
    part state key (.text content start stop) = emit state key (.text content start stop)
  object : ∀ state key entries start stop,
    part state key (.object entries start stop) =
      emit state key (.object entries start stop) ++ whole (enter state key.name) entries

variable {whole : σ → StyleEntries → List α} {part : σ → StyleKey → StyleValue → List α}

/-- What is collected at the entry that a path leads to, given the state at the root: `enter` goes
along the names, and `emit` looks at the end. -/
def EntryPath.collected (enter : σ → Text → σ) (emit : σ → StyleKey → StyleValue → List α)
    (root : σ) (p : EntryPath) : List α :=
  emit (p.above.foldl enter root) p.key p.value

mutual

/-- A walk over an object collects what its paths tell, whatever the names `above` that lead to the
object are. -/
theorem Walks.whole_eq (h : Walks enter emit whole part) (root : σ) (above : List Text) :
    ∀ entries : StyleEntries, whole (above.foldl enter root) entries =
      (objectPaths above entries).flatMap (EntryPath.collected enter emit root)
  | [] => by rw [h.nil, objectPaths, List.flatMap_nil]
  | (key, value) :: entries => by
    rw [h.cons, objectPaths, List.flatMap_append, h.part_eq root above key value,
      h.whole_eq root above entries]

/-- So does a walk over an entry. The two go along with the recursion of objects and values. -/
theorem Walks.part_eq (h : Walks enter emit whole part) (root : σ) (above : List Text)
    (key : StyleKey) : ∀ value : StyleValue, part (above.foldl enter root) key value =
      (entryPaths above key value).flatMap (EntryPath.collected enter emit root)
  | .unread => by
    rw [h.unread, entryPaths, List.flatMap_singleton]
    rfl
  | .text content start stop => by
    rw [h.text, entryPaths, List.flatMap_singleton]
    rfl
  | .object entries start stop => by
    -- The key of an object is the last of the names that lead into it.
    have below := h.whole_eq root (above ++ [key.name]) entries
    rw [List.foldl_append] at below
    rw [h.object, entryPaths, List.flatMap_cons, ← below]
    rfl

end

/-- A walk over a file collects, path by path, what the entries give. So two walks are compared by
what they `emit` at the end of a path, and neither recursion is opened again. -/
theorem walk_eq_flatMap (h : Walks enter emit whole part) (root : σ) (forest : Forest) :
    (forest.flatMap fun object => whole root object.entries) =
      forest.paths.flatMap (EntryPath.collected enter emit root) := by
  rw [Forest.paths, List.flatMap_assoc]
  have each (object : StyleObject) := h.whole_eq root [] object.entries
  simp only [List.foldl_nil] at each
  simp only [each]

/-! ## §3 What a walk is looking at -/

/-- What holds of a walk as long as every name `allows` it, and never again afterwards. -/
theorem foldl_iff_forall (P : σ → Prop) {root : σ} {allows : Text → Prop} (start : P root)
    (step : ∀ s name, P (enter s name) ↔ P s ∧ allows name) (above : List Text) :
    P (above.foldl enter root) ↔ ∀ name ∈ above, allows name := by
  induction above using List.reverseRecOn with
  | nil => simpa using start
  | append_singleton above name ih =>
    rw [List.foldl_append, List.foldl_cons, List.foldl_nil, step, ih]
    simp only [List.mem_append, List.mem_singleton, or_imp, forall_and, forall_eq]

/-- What holds of a walk for good, once some name on the way `opens` it. -/
theorem foldl_iff_exists (P : σ → Prop) (opens : σ → Text → Prop) {root : σ} (start : ¬P root)
    (step : ∀ s name, P (enter s name) ↔ P s ∨ opens s name) (above : List Text) :
    P (above.foldl enter root) ↔ ∃ outer opener inner, above = outer ++ opener :: inner ∧
      opens (outer.foldl enter root) opener := by
  induction above using List.reverseRecOn with
  | nil => simpa using start
  | append_singleton above name ih =>
    rw [List.foldl_append, List.foldl_cons, List.foldl_nil, step, ih]
    constructor
    · rintro (⟨outer, opener, inner, rfl, opened⟩ | opened)
      · exact ⟨outer, opener, inner ++ [name], by simp, opened⟩
      · exact ⟨above, name, [], rfl, opened⟩
    · rintro ⟨outer, opener, inner, split, opened⟩
      -- The opener is the last name, or one of those in front of it.
      obtain rfl | ⟨inner, last, rfl⟩ := inner.eq_nil_or_concat
      · obtain ⟨rfl, same⟩ := List.append_inj' split rfl
        rw [List.cons.injEq] at same
        exact .inr (same.1 ▸ opened)
      · rw [List.concat_eq_append, ← List.cons_append, ← List.append_assoc] at split
        obtain ⟨rfl, -⟩ := List.append_inj' split rfl
        exact .inl ⟨outer, opener, inner, rfl, opened⟩

end Walk

/-! ## §4 Which keys a walk enters -/

/-- A name that starts with `@`, apart from the two that are no states. -/
def NamesState (name : Text) : Prop :=
  name.head? = some '@' ∧ name ≠ "@keyframes".toText ∧ name ≠ "@properties".toText

/-- A name that starts like a token. The lone `$` is none. -/
def NamesToken (name : Text) : Prop :=
  (name.head? = some '#' ∨ name.head? = some '$') ∧ name ≠ "$".toText

/-- A key whose object is a style object again: a sub-element, a nested selector or a state. -/
def EntersStyles (name : Text) : Prop :=
  StateKey.isSubElement name = true ∨ name.head? = some '&' ∨ NamesState name

/-- A key whose object is a state mapping: a token, the lone `$` or a style property. -/
def EntersMapping (name : Text) : Prop :=
  StateKey.isSubElement name = false ∧ name.head? ≠ some '&' ∧ name.head? ≠ some '@'

namespace KeyRole

variable {name : Text}

/-- A name that starts with anything but a capital letter is not that of a sub-element, for
`isSubElement` looks at no more. -/
theorem isSubElement_of_head {c : CodePoint} (head : name.head? = some c)
    (small : Text.isCapital c = false) : StateKey.isSubElement name = false := by
  rw [StateKey.isSubElement, head, Option.any_some, small]

theorem namesState_iff : NamesState name ↔ ofName name = .starting ∨ ofName name = .state := by
  unfold ofName NamesState
  split_ifs with subElement
  · -- A capital letter is no `@`.
    simp only [or_self, iff_false]
    rintro ⟨head, -, -⟩
    rw [isSubElement_of_head head (by decide)] at subElement
    exact Bool.false_ne_true subElement
  all_goals simp_all

theorem namesToken_iff : NamesToken name ↔ ofName name = .token := by
  unfold ofName NamesToken isTokenName
  split_ifs with subElement
  · simp only [iff_false]
    rintro ⟨head | head, -⟩ <;> rw [isSubElement_of_head head (by decide)] at subElement <;>
      exact Bool.false_ne_true subElement
  all_goals simp_all

theorem entersStyles_iff :
    EntersStyles name ↔ ofName name = .subElement ∨ ofName name = .nested ∨
      ofName name = .starting ∨ ofName name = .state := by
  unfold EntersStyles
  rw [namesState_iff]
  unfold ofName
  split_ifs <;> simp_all

theorem entersMapping_iff :
    EntersMapping name ↔ ofName name = .token ∨ ofName name = .affix ∨
      ofName name = .property := by
  unfold ofName EntersMapping
  split_ifs <;> simp_all

/-- The one name of a role that only one name has. -/
def ownName? : KeyRole → Option Text
  | .keyframes => some "@keyframes".toText
  | .properties => some "@properties".toText
  | .starting => some "@starting".toText
  | .affix => some "$".toText
  | .subElement | .nested | .state | .token | .property => none

theorem ofName_eq_iff {role : KeyRole} {own : Text} (named : role.ownName? = some own) :
    ofName name = role ↔ name = own := by
  constructor
  · rintro rfl
    unfold ofName at named
    split_ifs at named <;> simp_all [ownName?]
  · rintro rfl
    cases role <;> cases named
    all_goals decide

end KeyRole

/-! ## §5 Offsets -/

/-- The offsets of a value are those of a range, where it has any. -/
def StyleValue.WellPlaced : StyleValue → Prop
  | .unread => True
  | .text _ start stop | .object _ start stop => InOrder start stop

/-- The offsets in a file are those of ranges, at every style object, key and value: each pair is
`InOrder`. -/
structure Forest.WellPlaced (forest : Forest) : Prop where
  objects : ∀ object ∈ forest, InOrder object.start object.stop
  keys : ∀ p ∈ forest.paths, InOrder p.key.start p.key.stop
  values : ∀ p ∈ forest.paths, p.value.WellPlaced

end StyleCheck
