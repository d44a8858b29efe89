import Mathlib.Tactic.Common
import StyleCheck.OrderedMap

/-!
# Looking up in ordered maps

A look-up finds a value just where the map has an entry, since no key comes twice; so what is found
after a change is told by the entries that the change leaves.

## Main statements

- `get?_eq_some_iff`: look-ups and entries.
- `get?_insert`, `get?_erase`: look-ups after a write and after a removal.
- `get?_insertAll_of_forall`: look-ups after one value is written under several keys.
- `get?_union`, `union_union`: look-ups after a map is added, and that it adds nothing twice.
- `get?_mapValues`: look-ups after all values are replaced.
- `contains_eq_isSome`, `mem_keys_iff`: a key is present if looking it up finds something.
- `ofList_entries`: a map is made again of its entries.
-/

namespace StyleCheck.OrderedMap

variable {κ α : Type} [DecidableEq κ] {m : OrderedMap κ α} {key : κ} {value : α}

@[simp] theorem get?_empty (key : κ) : (empty : OrderedMap κ α).get? key = none := rfl

/-- Of entries with different keys, the one that is found under a key is the one that has it. -/
private theorem find?_eq_of_mem {entries : List (κ × α)} (distinct : (entries.map Prod.fst).Nodup)
    {e : κ × α} (he : e ∈ entries) : entries.find? (fun f => f.1 = e.1) = some e := by
  induction entries with
  | nil => cases he
  | cons f entries ih =>
    rw [List.map_cons, List.nodup_cons] at distinct
    rcases List.mem_cons.mp he with rfl | later
    · exact List.find?_cons_of_pos (by simp)
    · have other : f.1 ≠ e.1 := by
        intro same
        exact distinct.1 (same ▸ List.mem_map_of_mem later)
      rw [List.find?_cons_of_neg (by simpa using other)]
      exact ih distinct.2 later

/-- A look-up finds a value just where the map has an entry with it. -/
theorem get?_eq_some_iff : m.get? key = some value ↔ (key, value) ∈ m.entries := by
  constructor
  · intro found
    obtain ⟨e, he, rfl⟩ := Option.map_eq_some_iff.mp found
    have same : e.1 = key := by simpa using List.find?_some he
    rw [← same]
    exact List.mem_of_find?_eq_some he
  · intro entry
    rw [get?, find?_eq_of_mem m.nodup_keys entry]
    rfl

/-- The entries after a write: the new one, and all others but the one that had its key. -/
theorem mem_insert {e : κ × α} :
    e ∈ (m.insert key value).entries ↔ e = (key, value) ∨ e.1 ≠ key ∧ e ∈ m.entries := by
  unfold insert
  split
  · next present =>
    -- The entry under the key is replaced where it stands.
    obtain ⟨old, hold, same⟩ := List.any_eq_true.mp present
    rw [decide_eq_true_eq] at same
    rw [List.mem_map]
    constructor
    · rintro ⟨f, hf, rfl⟩
      split
      · exact .inl rfl
      · next other => exact .inr ⟨other, hf⟩
    · rintro (rfl | ⟨other, he⟩)
      · exact ⟨old, hold, if_pos same⟩
      · exact ⟨e, he, if_neg other⟩
  · next absent =>
    have new : ∀ f ∈ m.entries, f.1 ≠ key := fun f hf same =>
      absent (List.any_eq_true.mpr ⟨f, hf, decide_eq_true same⟩)
    rw [List.mem_append, List.mem_singleton, or_comm]
    exact or_congr_right ⟨fun he => ⟨new e he, he⟩, fun he => he.2⟩

theorem get?_insert (m : OrderedMap κ α) (key p : κ) (value : α) :
    (m.insert key value).get? p = if p = key then some value else m.get? p := by
  refine Option.ext fun found => ?_
  rw [get?_eq_some_iff, mem_insert, Prod.mk.injEq]
  split
  · next same => simp [same, eq_comm]
  · next other => simp [other, get?_eq_some_iff]

theorem get?_erase (m : OrderedMap κ α) (key p : κ) :
    (m.erase key).get? p = if p = key then none else m.get? p := by
  refine Option.ext fun found => ?_
  rw [get?_eq_some_iff, erase, List.mem_filter, decide_eq_true_eq]
  split
  · next same => simp [same]
  · next other => simp [other, get?_eq_some_iff]

/-- The map with every value replaced by what comes of it. -/
def mapValues {β : Type} (m : OrderedMap κ α) (f : α → β) : OrderedMap κ β where
  entries := m.entries.map fun e => (e.1, f e.2)
  nodup_keys := by
    rw [List.map_map]
    exact m.nodup_keys

/-- Replacing the values does not change where they are found. -/
theorem get?_mapValues {β : Type} (m : OrderedMap κ α) (f : α → β) (key : κ) :
    (m.mapValues f).get? key = (m.get? key).map f := by
  refine Option.ext fun found => ?_
  rw [get?_eq_some_iff, mapValues, List.mem_map, Option.map_eq_some_iff]
  constructor
  · rintro ⟨e, he, same⟩
    cases same
    exact ⟨e.2, get?_eq_some_iff.mpr he, rfl⟩
  · rintro ⟨value, there, rfl⟩
    exact ⟨(key, value), get?_eq_some_iff.mp there, rfl⟩

/-- Where one `value` is written under all keys, it is found under each of them. -/
theorem get?_insertAll_of_forall {entries : List (κ × α)} (each : ∀ e ∈ entries, e.2 = value)
    (m : OrderedMap κ α) (key : κ) : (m.insertAll entries).get? key =
      if key ∈ entries.map Prod.fst then some value else m.get? key := by
  induction entries generalizing m with
  | nil => simp [insertAll]
  | cons e entries ih =>
    obtain ⟨here, later⟩ := List.forall_mem_cons.mp each
    have step : m.insertAll (e :: entries) = (m.insert e.1 e.2).insertAll entries := rfl
    rw [step, ih later, get?_insert, here, List.map_cons]
    by_cases among : key ∈ entries.map Prod.fst
    · rw [if_pos among, if_pos (List.mem_cons_of_mem _ among)]
    · simp only [List.mem_cons, among, or_false, if_false]

theorem contains_eq_isSome (m : OrderedMap κ α) (key : κ) :
    m.contains key = (m.get? key).isSome := by
  rw [get?, Option.isSome_map, List.isSome_find?]
  rfl

theorem contains_eq_decide_mem_keys (m : OrderedMap κ α) (key : κ) :
    m.contains key = decide (key ∈ m.keys) := by
  rw [Bool.eq_iff_iff, decide_eq_true_iff, contains, keys, List.any_eq_true, List.mem_map]
  simp only [decide_eq_true_eq]

theorem mem_keys_iff : key ∈ m.keys ↔ (m.get? key).isSome = true := by
  rw [← contains_eq_isSome, contains_eq_decide_mem_keys, decide_eq_true_iff]

theorem keys_insert_of_notMem (new : key ∉ m.keys) :
    (m.insert key value).keys = m.keys ++ [key] := by
  have absent : m.contains key = false := by
    rw [contains_eq_decide_mem_keys, decide_eq_false new]
  rw [insert, dif_neg (by rw [absent]; exact Bool.false_ne_true), keys, List.map_append]
  rfl

/-- Where all keys are different, the value that is written under a key is the one found there.
Otherwise `get?` would find the last one. -/
theorem get?_insertAll {entries : List (κ × α)} (distinct : (entries.map Prod.fst).Nodup)
    (m : OrderedMap κ α) (key : κ) : (m.insertAll entries).get? key =
      ((entries.find? fun e => e.1 = key).map (·.2)).or (m.get? key) := by
  induction entries generalizing m with
  | nil => rfl
  | cons e entries ih =>
    rw [List.map_cons, List.nodup_cons] at distinct
    have step : m.insertAll (e :: entries) = (m.insert e.1 e.2).insertAll entries := rfl
    rw [step, ih distinct.2, get?_insert]
    by_cases same : e.1 = key
    · -- No later entry has the key.
      have absent : entries.find? (fun f => f.1 = key) = none := by
        rw [List.find?_eq_none]
        intro f hf there
        rw [decide_eq_true_eq] at there
        exact distinct.1 (same ▸ there ▸ List.mem_map_of_mem hf)
      rw [absent, if_pos same.symm, List.find?_cons_of_pos (by simpa using same)]
      rfl
    · rw [if_neg (Ne.symm same), List.find?_cons_of_neg (by simpa using same)]

theorem get?_union (m n : OrderedMap κ α) (key : κ) :
    (m.union n).get? key = (n.get? key).or (m.get? key) :=
  get?_insertAll n.nodup_keys m key

/-- To write what is there already changes nothing, not even the order, since `insert` keeps the
place of a present key. -/
theorem insert_eq_self (there : m.get? key = some value) : m.insert key value = m := by
  have present : m.contains key = true := by
    rw [contains_eq_isSome, there]
    rfl
  have kept : ∀ e ∈ m.entries, (if e.1 = key then (key, value) else e) = e := by
    rintro ⟨p, old⟩ he
    split
    · next same =>
      -- There is only one entry under the key.
      dsimp only at same
      rw [same] at he
      rw [get?_eq_some_iff.mpr he, Option.some.injEq] at there
      rw [same, there]
    · rfl
  rw [insert, dif_pos present]
  congr 1
  exact (List.map_congr_left kept).trans (List.map_id m.entries)

theorem insertAll_eq_self {entries : List (κ × α)}
    (there : ∀ e ∈ entries, m.get? e.1 = some e.2) : m.insertAll entries = m := by
  induction entries with
  | nil => rfl
  | cons e entries ih =>
    obtain ⟨here, later⟩ := List.forall_mem_cons.mp there
    have step : m.insertAll (e :: entries) = (m.insert e.1 e.2).insertAll entries := rfl
    rw [step, insert_eq_self here, ih later]

/-- A map that has been added is not added once more. -/
theorem union_union (m n : OrderedMap κ α) : (m.union n).union n = m.union n := by
  apply insertAll_eq_self
  intro e he
  rw [get?_union, get?_eq_some_iff.mpr he]
  rfl

theorem entries_insert_of_notMem (new : key ∉ m.keys) :
    (m.insert key value).entries = m.entries ++ [(key, value)] := by
  have absent : m.contains key = false := by
    rw [contains_eq_decide_mem_keys, decide_eq_false new]
  rw [insert, dif_neg (by rw [absent]; exact Bool.false_ne_true)]

/-- Entries under new keys, all different, come behind those that are there. -/
theorem entries_insertAll_of_notMem {entries : List (κ × α)}
    (distinct : (entries.map Prod.fst).Nodup) (new : ∀ e ∈ entries, e.1 ∉ m.keys) :
    (m.insertAll entries).entries = m.entries ++ entries := by
  induction entries generalizing m with
  | nil => exact (List.append_nil m.entries).symm
  | cons e entries ih =>
    rw [List.map_cons, List.nodup_cons] at distinct
    obtain ⟨here, later⟩ := List.forall_mem_cons.mp new
    have step : m.insertAll (e :: entries) = (m.insert e.1 e.2).insertAll entries := rfl
    rw [step, ih distinct.2, entries_insert_of_notMem here, List.append_assoc]
    · rfl
    · intro f mem
      rw [keys_insert_of_notMem here, List.mem_append, List.mem_singleton, not_or]
      exact ⟨later f mem, fun same => distinct.1 (same ▸ List.mem_map_of_mem mem)⟩

/-- A map is made again of its entries: they are in order, and no key comes twice. -/
theorem ofList_entries (m : OrderedMap κ α) : ofList m.entries = m := by
  have entries : (ofList m.entries).entries = [] ++ m.entries :=
    entries_insertAll_of_notMem m.nodup_keys fun _ _ => List.not_mem_nil
  generalize ofList m.entries = made at entries
  cases made
  cases m
  cases entries
  rfl

end StyleCheck.OrderedMap
