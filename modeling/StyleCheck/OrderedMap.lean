/-!
# Ordered maps

Finite maps that remember the order in which keys first arrived. Writing to a key that is present
replaces its value and moves nothing; a key that was erased and written again goes to the end.

## Main definitions

- `OrderedMap`: entries in order of arrival, with no key twice.
- `insert`, `erase`, `get?`, `getOrInsert`, `union`: the operations of a cache and of a table.
-/

namespace StyleCheck

/-- A finite map that remembers in which order its keys arrived. -/
structure OrderedMap (κ α : Type) where
  entries : List (κ × α)
  nodup_keys : (entries.map Prod.fst).Nodup

namespace OrderedMap

variable {κ α : Type}

/-! ## §1 Queries -/

/-- The map without entries. -/
def empty : OrderedMap κ α := ⟨[], List.nodup_nil⟩

instance : Inhabited (OrderedMap κ α) := ⟨empty⟩

/-- The keys, in order of arrival. -/
def keys (m : OrderedMap κ α) : List κ := m.entries.map Prod.fst

/-- The number of entries. -/
def size (m : OrderedMap κ α) : Nat := m.entries.length

variable [DecidableEq κ]

/-- The value under a key. -/
def get? (m : OrderedMap κ α) (key : κ) : Option α :=
  (m.entries.find? fun e => e.1 = key).map (·.2)

/-- Whether a key is present. -/
def contains (m : OrderedMap κ α) (key : κ) : Bool := m.entries.any fun e => e.1 = key

/-! ## §2 Updates -/

private theorem map_fst_replace (key : κ) (value : α) (entries : List (κ × α)) :
    (entries.map fun e => if e.1 = key then (key, value) else e).map Prod.fst
      = entries.map Prod.fst := by
  rw [List.map_map]
  apply List.map_congr_left
  intro e _
  by_cases h : e.1 = key <;> simp [h]

private theorem nodup_append_new {key : κ} {value : α} {entries : List (κ × α)}
    (distinct : (entries.map Prod.fst).Nodup) (new : (entries.any fun e => e.1 = key) = false) :
    ((entries ++ [(key, value)]).map Prod.fst).Nodup := by
  rw [List.map_append, List.nodup_append]
  refine ⟨distinct, by simp, ?_⟩
  intro a ha b hb
  simp only [List.map_cons, List.map_nil, List.mem_singleton] at hb
  obtain ⟨e, he, rfl⟩ := List.mem_map.mp ha
  intro same
  have present : (entries.any fun e => e.1 = key) = true :=
    List.any_eq_true.mpr ⟨e, he, by simp [same, hb]⟩
  rw [new] at present
  exact Bool.false_ne_true present

/-- Writes a value: in place under a present key, at the end under a new one. So the order is that
of `keys` at first arrival. -/
def insert (m : OrderedMap κ α) (key : κ) (value : α) : OrderedMap κ α :=
  if h : m.contains key then
    { entries := m.entries.map fun e => if e.1 = key then (key, value) else e
      nodup_keys := by rw [map_fst_replace]; exact m.nodup_keys }
  else
    { entries := m.entries ++ [(key, value)]
      nodup_keys := nodup_append_new m.nodup_keys (Bool.eq_false_iff.mpr h) }

/-- Removes a key with its value. -/
def erase (m : OrderedMap κ α) (key : κ) : OrderedMap κ α where
  entries := m.entries.filter fun e => e.1 ≠ key
  nodup_keys := m.nodup_keys.sublist (List.Sublist.map _ List.filter_sublist)

/-- The value under a key, which `make` gives and which is written if the key is new. -/
def getOrInsert (m : OrderedMap κ α) (key : κ) (make : Unit → α) : α × OrderedMap κ α :=
  match m.get? key with
  | some value => (value, m)
  | none => let value := make (); (value, m.insert key value)

/-- Writes entries one after the other. -/
def insertAll (m : OrderedMap κ α) (entries : List (κ × α)) : OrderedMap κ α :=
  entries.foldl (fun m e => m.insert e.1 e.2) m

/-- The map of the given entries; the last value under a key counts, at the place of the first. -/
def ofList (entries : List (κ × α)) : OrderedMap κ α := empty.insertAll entries

/-- The entries of both maps; where both have a key, the second map's value counts. It is
`insertAll` of the second map's entries. -/
def union (m n : OrderedMap κ α) : OrderedMap κ α := m.insertAll n.entries

end OrderedMap

end StyleCheck
