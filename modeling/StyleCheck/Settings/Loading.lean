import StyleCheck.Files.Tree
import StyleCheck.Settings.Json
import StyleCheck.Settings.Toml

/-!
# Loading configuration files

A configuration file is read by its suffix: JSON and TOML files directly, all others by readers that
were plugged in. A plugged-in reader also counts in place of a built-in one. A file that cannot be
used is noted and skipped. What goes beyond the limits of reading is a fault: a numeral with too
many digits, or lists and mappings nested too deep, in a file that is read directly; a path that the
system does not take for one; and a plugged-in reader that does not merely fail but is broken off.

What the system refuses depends on the system, so it is part of the `Workspace`, as `ReadingLimits`.

## Main definitions

- `ReadingLimits`: where the system breaks the reading of files off.
- `Workspace`: files and plugged-in readers.
- `ConfigFormat`: the formats that are read directly.
- `Workspace.load`: the layer that a file sets.
-/

namespace StyleCheck

/-! ## §1 Formats -/

/-- The formats that are read without a plugged-in reader. -/
inductive ConfigFormat
  | json
  | toml
deriving DecidableEq, Repr

namespace ConfigFormat

/-- The format that a suffix stands for: `.json` or `.toml`. -/
def ofSuffix? (suffix : Text) : Option ConfigFormat :=
  if suffix = ".json".toText then some .json
  else if suffix = ".toml".toText then some .toml
  else none

/-- What `Event.loadFailed` notes about a file that is not of the format. -/
def failure : ConfigFormat → LoadFailure
  | json => .malformedJson
  | toml => .malformedToml

/-- The part of a document that holds the configuration: the table `tasty`, if there is one, or else
all of the document. -/
def ownTable (document : ConfigValue) : ConfigValue :=
  match document with
  | .mapping entries =>
    match ConfigEntries.get? entries "tasty".toText with
    | some (.mapping own) => .mapping own
    | _ => document
  | _ => document

/-- Reads a text, with `room` for so many nested calls. A TOML file may hold other things beside the
configuration, so only its `ownTable` counts. -/
def read (format : ConfigFormat) (text : Text) (room : Nat := callRoom) :
    Except ReadError ConfigValue :=
  match format with
  | json => Json.read text room
  | toml => (Toml.read text room).map ownTable

end ConfigFormat

/-! ## §2 Loading -/

/-- Where the system breaks the reading of files off.

If nothing else is said, calls have `callRoom`, every path is taken and every plugged-in reader
comes to its end. -/
structure ReadingLimits where
  /-- How deep the calls of the readers that are built in may be nested. -/
  room : Nat := callRoom
  /-- Why no file can be opened by a path, whatever there is at it: the path holds a character that
  has no place in the names of files, say. -/
  pathRefusal : Path → Option Text := fun _ => none
  /-- What breaks the plugged-in reader of a file off: not a failure of its own, but a request to
  end the program, say, or a document that cannot even be looked into. -/
  breakingOff : Path → Option Text := fun _ => none

/-- What configuration is loaded from: files, and readers that were plugged in for some suffixes.

A reader gives a document, or the reason why there is none; whether the system lets it come so far
is a matter of the `limits`. -/
structure Workspace where
  tree : FileTree := {}
  readers : OrderedMap Text (Path → Except Text ConfigValue) := .empty
  limits : ReadingLimits := {}

namespace Workspace

/-- The document in a file of a format, or the `Event` that is noted in its place.

Only a file that cannot be read and one that is `.malformed` are noted. All else that stops a reader
is a fault. -/
def readDirectly (w : Workspace) (format : ConfigFormat) (file : Path) :
    Except Fault (Except Event ConfigValue) :=
  match w.limits.pathRefusal file with
  | some reason => .error (.pathRefused reason)
  | none =>
    match w.tree.read file with
    | .error failure => .ok (.error (.loadFailed file.toText failure))
    | .ok text =>
      match format.read text w.limits.room with
      | .ok document => .ok (.ok document)
      | .error .malformed => .ok (.error (.loadFailed file.toText format.failure))
      -- These are not among the failures that a reader is expected to have.
      | .error (.numeralTooLong digits) => .error (.numeralTooLong digits)
      | .error (.nestedTooDeep activity) => .error (.callsTooDeep activity)

/-- The document in a file, or the `Event` that is noted in its place. A plugged-in reader of the
suffix takes precedence over `readDirectly`. -/
def readDocument (w : Workspace) (file : Path) : Except Fault (Except Event ConfigValue) :=
  match w.readers.get? file.suffix with
  | some reader =>
    match w.limits.breakingOff file with
    | some reason => .error (.readerBrokenOff reason)
    | none =>
      match reader file with
      | .ok document => .ok (.ok document)
      | .error reason => .ok (.error (.readerFailed file.toText reason))
  | none =>
    match ConfigFormat.ofSuffix? file.suffix with
    | some format => w.readDirectly format file
    | none => .ok (.error (.noReader file.toText))

/-- What a document exports: the mapping under `default`, if there is one, or else all of it. -/
def exported (document : ConfigValue) : ConfigValue :=
  match document with
  | .mapping entries =>
    match ConfigEntries.get? entries "default".toText with
    | some (.mapping inner) => .mapping inner
    | _ => document
  | _ => document

/-- The layer that a file sets, if it can be used, and what is noted about it. The fault of
`readDocument`, if there is one, goes through. -/
def load (w : Workspace) (file : Path) : Except Fault (Option Settings.Layer × List Event) :=
  match w.readDocument file with
  | .error fault => .error fault
  | .ok (.error event) => .ok (none, [event])
  | .ok (.ok document) =>
    match Settings.Layer.ofConfig? (exported document) with
    | some layer => .ok (some layer, [])
    | none => .ok (none, [.noConfigObject file.toText])

end Workspace

end StyleCheck
