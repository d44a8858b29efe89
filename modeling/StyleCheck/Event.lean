import StyleCheck.Text.Quoted

/-!
# Events

What a long-running session notes down while it works: stale edits, configuration files that
cannot be used, and where settings came from. Events are data; their wording is one function.

## Main definitions

- `Event`: what can happen.
- `Event.level`, `Event.message`: its weight and its wording.
-/

namespace StyleCheck

/-- How important an event is. -/
inductive Event.Level
  | debug
  | warning
deriving DecidableEq, Repr

/-- The label of a level. -/
def Event.Level.label : Event.Level → String
  | .debug => "DEBUG"
  | .warning => "WARNING"

/-- Why the content of a configuration file cannot be used. -/
inductive LoadFailure
  /-- The file cannot be read at all. -/
  | unreadable
  /-- Its bytes are not a text. -/
  | notText
  /-- Its text is not of the form that its suffix promises. -/
  | malformedJson
  | malformedToml
deriving DecidableEq, Repr

/-- What can happen in a session. Paths are given by their written form. -/
inductive Event
  /-- An edit came in that is older than the stored one. -/
  | staleEdit (uri : Text) (version stored : Int)
  /-- A result was held back because its document has changed. -/
  | staleResult (uri : Text) (version : Int)
  /-- No reader is known for the suffix of a configuration file. -/
  | noReader (path : Text)
  /-- A configuration file cannot be used. -/
  | loadFailed (path : Text) (failure : LoadFailure)
  /-- A reader that was plugged in failed. -/
  | readerFailed (path reason : Text)
  /-- A configuration file holds something other than an object. -/
  | noConfigObject (path : Text)
  /-- The settings of a directory were known. -/
  | settingsKnown (directory : Text)
  /-- The settings of a directory have to be worked out. -/
  | settingsUnknown (directory : Text)
  /-- The configuration files that count for a directory. -/
  | configFiles (directory : Text) (paths : List Text)
  /-- The base of a configuration file was not found. -/
  | baseNotFound (target : Text) (path : Text)
  /-- The base of a configuration file leads back to a file already in use. -/
  | baseCyclic (target : Text) (path : Text)
  /-- A package was not found. -/
  | packageNotFound (name directory : Text)
  /-- A package holds no configuration file. -/
  | packageWithoutConfig (target : Text) (directory : Text)
deriving DecidableEq, Repr

namespace Event

/-- How important an event is. What is noted for the sake of tracing is a `.debug` event, and what a
user may have to mend is a `.warning`. -/
def level : Event → Level
  | staleEdit .. | staleResult .. | settingsKnown .. | settingsUnknown .. | configFiles .. => .debug
  | _ => .warning

/-- The wording of an event. `describe` words a load failure, as the reasons that readers give are
their own. -/
def message (describe : LoadFailure → Text) : Event → Text
  | staleEdit uri version stored =>
    "Ignoring version ".toText ++ Text.decimal version ++ " of ".toText ++ uri
      ++ "; version ".toText ++ Text.decimal stored ++ " is stored".toText
  | staleResult uri version =>
    "Discarding stale diagnostics for ".toText ++ uri ++ " (version ".toText
      ++ Text.decimal version ++ ")".toText
  | noReader path =>
    "No reader registered for config file ".toText ++ path ++ "; ignoring it".toText
  | loadFailed path failure =>
    "Failed to load config file ".toText ++ path ++ ": ".toText ++ describe failure
  | readerFailed path reason =>
    "Config reader for ".toText ++ path ++ " failed: ".toText ++ reason
  | noConfigObject path =>
    "Config file ".toText ++ path ++ " does not contain a config object".toText
  | settingsKnown directory => "Merged config cache hit for ".toText ++ directory
  | settingsUnknown directory => "Merged config cache miss for ".toText ++ directory
  | configFiles directory paths =>
    "Config files for ".toText ++ directory ++ ": ".toText ++ Text.quotedList paths
  | baseNotFound target path =>
    "Could not resolve extends ".toText ++ target.quoted ++ " from ".toText ++ path
  | baseCyclic target path =>
    "Ignoring cyclic extends ".toText ++ target.quoted ++ " from ".toText ++ path
  | packageNotFound name directory =>
    "Could not find package ".toText ++ name.quoted ++ " from ".toText ++ directory
  | packageWithoutConfig target directory =>
    "No tasty config found in package ".toText ++ target.quoted ++ " at ".toText ++ directory

end Event

end StyleCheck
