import StyleCheck.Diagnostic
import StyleCheck.Distinct

/-!
# Reports

A report on a document lists its diagnostics by their ranges, each once.
-/

namespace StyleCheck.Diagnostic

/-- Order by start, end, code and message. Texts are compared by `Text.compare`, code point by code
point. -/
def compare (a b : Diagnostic) : Ordering :=
  ((a.span.compare b.span).then (Text.compare a.code b.code)).then
    (Text.compare a.message b.message)

/-- The diagnostics in order; those that `compare` does not tell apart keep theirs. -/
def sort (diagnostics : List Diagnostic) : List Diagnostic :=
  diagnostics.mergeSort fun a b => (compare a b).isLE

/-- The diagnostics without exact repetitions: the `firstOccurrences` are kept. -/
def dedupe (diagnostics : List Diagnostic) : List Diagnostic := firstOccurrences diagnostics

/-- Whether one of the diagnostics is an error. -/
def hasErrors (diagnostics : List Diagnostic) : Bool := diagnostics.any (·.severity == .error)

/-- The report that diagnostics make: in order, and each once. -/
def report (diagnostics : List Diagnostic) : List Diagnostic := dedupe (sort diagnostics)

end StyleCheck.Diagnostic
