import StyleCheck.Settings.ConfigValue

/-!
# TOML documents under construction

A TOML document builds up nested tables out of order: headers open tables, and entries with dotted
keys make further ones on the way. The format forbids most ways to come back to a table. A table
that a header opened, or that dotted keys of an earlier section made, may not be opened again; and
nothing may be added to a value that was written out in full. A list of tables forgets what was
said about its last item as soon as it gets another one.

## Main definitions

- `Toml.Key`: dotted keys.
- `Toml.modifyAt`: a change to a table within tables.
- `Toml.Draft`: a document under construction, with what may no longer be touched.
- `Toml.Draft.openTable`, `openItem`, `assign`: what the statements of a document do.
-/

namespace StyleCheck.Toml

/-! ## §1 Keys -/

/-- A dotted key: the names that lead to the entry, and its own. -/
structure Key where
  parents : List Text
  last : Text
deriving DecidableEq, Repr

/-- All names of a key, `last` behind its `parents`. -/
def Key.path (key : Key) : List Text := key.parents ++ [key.last]

/-! ## §2 Nested tables -/

/-- Changes the table behind a path, and makes the tables that are missing on the way. Only with
`lists` may the path lead through a list of tables, and it does so through the last item. -/
def modifyAt (lists : Bool) (change : ConfigEntries → Option ConfigEntries) :
    List Text → ConfigEntries → Option ConfigEntries
  | [], entries => change entries
  | name :: path, entries =>
    match entries.get? name with
    -- A table that is missing is made on the way.
    | none => (modifyAt lists change path []).map fun inner => entries.put name (.mapping inner)
    | some (.mapping inner) =>
      (modifyAt lists change path inner).map fun inner => entries.put name (.mapping inner)
    | some (.list items) =>
      match items.getLast? with
      | some (.mapping inner) =>
        if lists then
          (modifyAt lists change path inner).map fun inner =>
            entries.put name (.list (items.dropLast ++ [.mapping inner]))
        else none
      | _ => none
    | some _ => none

/-- Adds an entry under a new name. One that is there already is never overwritten. -/
def addEntry (name : Text) (value : ConfigValue) (entries : ConfigEntries) :
    Option ConfigEntries :=
  match entries.get? name with
  | some _ => none
  | none => some (entries.put name value)

/-- Adds an empty table to the list under a name, where there is no list yet as its first item. -/
def addItem (name : Text) (entries : ConfigEntries) : Option ConfigEntries :=
  match entries.get? name with
  | none => some (entries.put name (.list [.mapping []]))
  | some (.list items) => some (entries.put name (.list (items ++ [.mapping []])))
  | some _ => none

/-! ## §3 Drafts -/

/-- A document under construction.

Beside what is written so far, it keeps the paths of the tables and values that may not be written
to any more. -/
structure Draft where
  entries : ConfigEntries := []
  /-- The table that the current section fills. -/
  header : List Text := []
  /-- The tables that may not be opened any more. -/
  closed : List (List Text) := []
  /-- The tables made in the current section, which are closed at its end. -/
  passed : List (List Text) := []
  /-- The values that were written out in full. -/
  complete : List (List Text) := []

namespace Draft

/-- Whether a path leads to a value in `complete`, or into one. -/
def isComplete (d : Draft) (path : List Text) : Bool := d.complete.any (·.isPrefixOf path)

/-- Ends the current section: the tables it has `passed` are closed. -/
def endSection (d : Draft) : Draft := { d with closed := d.passed ++ d.closed, passed := [] }

/-- Opens the table of a header. A table is opened once, and not at all where a section passed it
with a dotted key. -/
def openTable (d : Draft) (key : Key) : Option Draft :=
  let path := key.path
  if d.closed.contains path || d.isComplete path then none
  else (modifyAt true some path d.entries).map fun entries =>
    { d with entries, header := path, closed := path :: d.closed }

/-- Opens another item of a list of tables, the one that `addItem` adds. -/
def openItem (d : Draft) (key : Key) : Option Draft :=
  let path := key.path
  if d.isComplete path then none
  else (modifyAt true (addItem key.last) key.parents d.entries).map fun entries =>
    { d with
      entries
      header := path
      -- The new item starts afresh: nothing is known yet of the tables in it.
      closed := path :: d.closed.filter (!path.isPrefixOf ·)
      complete := d.complete.filter (!path.isPrefixOf ·) }

/-- Whether a value is written out in full once it is assigned, so that nothing can be added to it.
-/
def isWhole : ConfigValue → Bool
  | .mapping _ | .list _ => true
  | _ => false

/-- The tables that the `parents` of a key pass, in the current section. -/
def passedBy (d : Draft) (key : Key) : List (List Text) :=
  (List.range key.parents.length).map fun i => d.header ++ key.parents.take (i + 1)

/-- Adds an entry to the current section; `lists` tells whether a dotted key may lead through
lists. -/
def assign (lists : Bool) (d : Draft) (key : Key) (value : ConfigValue) : Option Draft :=
  let passed := d.passedBy key
  if passed.any d.closed.contains || d.isComplete (d.header ++ key.parents) then none
  else (modifyAt lists (addEntry key.last value) (d.header ++ key.parents) d.entries).map
    fun entries =>
      { d with
        entries
        passed := passed ++ d.passed
        complete := if isWhole value then (d.header ++ key.path) :: d.complete else d.complete }

end Draft

end StyleCheck.Toml
