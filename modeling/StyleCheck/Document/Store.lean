import StyleCheck.Check.Document
import StyleCheck.Event

/-!
# The document store

Keeps the current version of every open document, with its definitions. Edits may arrive out of
order: one that is older than the stored version is ignored, and one that is as new replaces it.
A validation carries the version that it rests on, so that a result overtaken by an edit can be
told and held back.

## Main definitions

- `StoredDocument`, `DocumentStore`: documents by their URI.
- `DocumentStore.update`, `close`: edits.
- `DocumentStore.validate`, `publishable`: results and whether they still count.
-/

namespace StyleCheck

/-- A version of a document with the definitions in it, which were collected when it was stored. -/
structure StoredDocument where
  uri : Text
  version : Int
  forest : Forest
  definitions : Definitions

/-- A validation of a stored document, stamped with the `version` that it rests on. -/
structure StampedValidation where
  uri : Text
  version : Int
  diagnostics : List Diagnostic
  hasErrors : Bool

/-- The open documents by their URI. -/
abbrev DocumentStore := OrderedMap Text StoredDocument

namespace DocumentStore

/-- What an edit leaves behind: the document that is now stored, the store and what was noted. -/
structure Update where
  document : StoredDocument
  store : DocumentStore
  events : List Event

/-- Puts a version of a document into the store, in the place of what is there. Where its
definitions cannot be collected, `Definitions.collect` fails and nothing changes. -/
def put (store : DocumentStore) (uri : Text) (version : Int) (forest : Forest) :
    Except Fault Update :=
  (Definitions.collect forest).map fun definitions =>
    let document := { uri, version, forest, definitions }
    { document, store := store.insert uri document, events := [] }

/-- An edit. Opening a document is an edit like any other. An edit that is older than what is stored
is noted as `Event.staleEdit` and changes nothing. -/
def update (store : DocumentStore) (uri : Text) (version : Int) (forest : Forest) :
    Except Fault Update :=
  match store.get? uri with
  | some current =>
    if version < current.version then
      .ok { document := current, store, events := [.staleEdit uri version current.version] }
    else put store uri version forest
  | none => put store uri version forest

/-- Forgets a document. -/
def close (store : DocumentStore) (uri : Text) : DocumentStore := store.erase uri

/-- Whether a version of a document is the stored one. Its forest is not compared. -/
def isCurrent (store : DocumentStore) (uri : Text) (version : Int) : Bool :=
  (store.get? uri).any (·.version == version)

/-- Validates the stored version of a document, with the definitions that are stored with it. A
document that is not open is a `Fault.documentNotOpen`. -/
def validate (store : DocumentStore) (uri : Text) (settings : Settings) :
    Except Fault StampedValidation :=
  match store.get? uri with
  | none => .error (.documentNotOpen uri)
  | some document =>
    (Document.validate settings (some document.definitions) (.forest document.forest)).map fun v =>
      { uri, version := document.version, diagnostics := v.diagnostics, hasErrors := v.hasErrors }

/-- Whether a result still describes the stored version of its document, which is asked of the
version alone by `isCurrent`. -/
def publishable (store : DocumentStore) (result : StampedValidation) : Bool :=
  store.isCurrent result.uri result.version

/-- What is noted when a result is asked about: an `Event.staleResult`, if it is held back. -/
def publishEvents (store : DocumentStore) (result : StampedValidation) : List Event :=
  if store.publishable result then [] else [.staleResult result.uri result.version]

end DocumentStore

end StyleCheck
