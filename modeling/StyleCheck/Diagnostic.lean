import StyleCheck.Text.Span

/-!
# Diagnostics

What the checks report: a code, a message for the reader, the range in the host file, and perhaps
a hint and a name that was probably meant.

## Main definitions

- `Diagnostic`: one report.
- `Template`: a message with holes for the particulars.
- `Diagnostic.Spec`: what all diagnostics of one code share.
- `Diagnostic.Spec.report`, `Diagnostic.Spec.instantiate`: a diagnostic from its spec.
-/

namespace StyleCheck

/-! ## §1 Reports -/

/-- How bad a diagnostic is. -/
inductive Severity
  | error
  | warning
deriving DecidableEq, Repr

/-- A report on a range of the host file. Its `code` and `severity` are those of a
`Diagnostic.Spec`, and its `message` is filled in. -/
structure Diagnostic where
  code : Text
  message : Text
  span : Span
  severity : Severity := .error
  hint : Option Text := none
  category : Option Text := none
  /-- Names that were probably meant, best first. -/
  suggestions : List Text := []
deriving DecidableEq, Repr

/-! ## §2 Templates -/

/-- A part of a message: fixed words, or a hole to be filled with a field. -/
inductive Template.Part
  | words (text : Text)
  | hole (field : Text)
deriving DecidableEq, Repr

/-- A message with holes for the particulars. -/
abbrev Template := List Template.Part

namespace Template

/-- The template as it is written: holes are field names in braces. -/
def source (template : Template) : Text :=
  template.flatMap fun
    | .words text => text
    | .hole field => "\x7b".toText ++ field ++ "\x7d".toText

/-- The message, with each hole filled by the `value` of its field. -/
def fill (template : Template) (value : Text → Text) : Text :=
  template.flatMap fun
    | .words text => text
    | .hole field => value field

/-- The first hole whose field is not among the given ones. `Spec.instantiate` refuses to fill a
template that has one. -/
def missing? (template : Template) (fields : List (Text × Text)) : Option Text :=
  template.findSome? fun
    | .words _ => none
    | .hole field => if (fields.lookup field).isSome then none else some field

end Template

/-! ## §3 Specs -/

/-- What all diagnostics of one code share. -/
structure Diagnostic.Spec where
  code : Text
  message : Template
  hint : Option Text := none
  severity : Severity := .error
  category : Option Text := none
deriving DecidableEq, Repr

namespace Diagnostic.Spec

/-- The diagnostic of a spec at a range. A suggestion is recorded, and named in the message. -/
def report (spec : Spec) (span : Span) (suggestion : Option Text) (value : Text → Text) :
    Diagnostic where
  code := spec.code
  message := spec.message.fill value ++ match suggestion with
    | none => []
    | some name => ". Did you mean '".toText ++ name ++ "'?".toText
  span := span
  severity := spec.severity
  hint := spec.hint
  category := spec.category
  suggestions := suggestion.toList

/-- The value of a field among given ones, empty if it is not there; behind `missing?` this does not
happen. -/
def fieldValue (fields : List (Text × Text)) (field : Text) : Text :=
  (fields.lookup field).getD []

/-- The diagnostic of a spec with the given fields, of which every hole needs one. A hole without
its field is a `Fault.missingField`. -/
def instantiate (spec : Spec) (span : Span) (suggestion : Option Text)
    (fields : List (Text × Text)) : Except Fault Diagnostic :=
  match spec.message.missing? fields with
  | some field => .error (.missingField field)
  | none => .ok (spec.report span suggestion (fieldValue fields))

end Diagnostic.Spec

end StyleCheck
