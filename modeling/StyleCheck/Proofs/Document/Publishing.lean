import StyleCheck.Proofs.Document.History

/-!
# Results that still count

A result is held back by its version alone. Between the validation and the question whether its
result still counts, the document may be edited under the same version, or closed and opened again,
and then the version does not tell the two forests apart. As long as every version of a document
comes with one forest, a result that is publishable is what validating the stored forest gives.

## Main statements

- `publishable_describes_stored`: the results that still count, where versions name forests.
- `publishable_overtaken`: a result that an edit under the same version overtook, and that still
  counts.
-/

namespace StyleCheck.DocumentStore

variable {steps : List Step} {uri : Text} {settings : Settings} {result : StampedValidation}

/-- A result is that of validating an edit which came in as a step, and carries its version. By
`remembers_run` that edit is the last accepted one. -/
theorem exists_edit_of_validate (obtained : (run steps).validate uri settings = .ok result) :
    ∃ edit : Edit, Step.edit uri edit.version edit.forest ∈ steps ∧ result.uri = uri ∧
      result.version = edit.version ∧ stampedValidation uri edit settings = .ok result := by
  rw [(remembers_run steps uri).validate_eq] at obtained
  cases last : (accepted uri steps).getLast? with
  | none =>
    rw [last] at obtained
    cases obtained
  | some edit =>
    rw [last, Option.elim_some] at obtained
    -- What is stored is the last accepted edit, and its validation is what was obtained.
    have cameIn := mem_of_mem_accepted (List.mem_of_getLast? last)
    unfold stampedValidation at obtained
    cases validates : Document.validate settings none (.forest edit.forest) with
    | error fault =>
      rw [validates] at obtained
      cases obtained
    | ok validation =>
      have stamped : stampedValidation uri edit settings = .ok result := by
        rw [stampedValidation, validates]
        rwa [validates] at obtained
      rw [validates] at obtained
      cases obtained
      exact ⟨edit, cameIn, rfl, rfl, stamped⟩

/-- Where a result is publishable, an edit with its `version` is stored. Nothing else is compared.
-/
theorem exists_edit_of_publishable (publishable : (run steps).publishable result = true) :
    ∃ edit document, (accepted result.uri steps).getLast? = some edit ∧
      (run steps).get? result.uri = some document ∧ IsStoredFor result.uri edit document ∧
      edit.version = result.version := by
  rw [DocumentStore.publishable, isCurrent, Option.any_eq_true] at publishable
  obtain ⟨document, found, same⟩ := publishable
  obtain ⟨edit, last, storedFor⟩ := ((remembers_run steps result.uri).stored document).mp found
  have version : edit.version = result.version := storedFor.2.1 ▸ eq_of_beq same
  exact ⟨edit, document, last, found, storedFor, version⟩

/-- A result that is publishable describes what is stored, as long as no two edits of the document
give its version to different forests: validating the document again, from scratch or not, gives the
result once more.

The hypothesis `distinct` is about the version of the result alone; other versions may be used as
often as one likes. `publishable_overtaken` shows that it cannot be left out. -/
theorem publishable_describes_stored {earlier later : List Step}
    (obtained : (run earlier).validate uri settings = .ok result)
    (publishable : (run (earlier ++ .validate uri settings :: later)).publishable result = true)
    (distinct : ∀ forest forest',
      Step.edit uri result.version forest ∈ earlier ++ .validate uri settings :: later →
      Step.edit uri result.version forest' ∈ earlier ++ .validate uri settings :: later →
      forest = forest') :
    ∃ document, (run (earlier ++ .validate uri settings :: later)).get? uri = some document ∧
      (Document.validate settings none (.forest document.forest)).map (·.diagnostics) =
        .ok result.diagnostics ∧
      (run (earlier ++ .validate uri settings :: later)).validate uri settings = .ok result := by
  obtain ⟨edit, cameIn, about, version, stamped⟩ := exists_edit_of_validate obtained
  obtain ⟨edit', document, last, found, storedFor, version'⟩ :=
    exists_edit_of_publishable publishable
  rw [about] at last found storedFor
  have cameIn' := mem_of_mem_accepted (List.mem_of_getLast? last)
  -- Both edits carry the version of the result, so they are one.
  have same : edit = edit' := by
    have forests : edit.forest = edit'.forest :=
      distinct _ _ (version ▸ List.mem_append_left _ cameIn) (version' ▸ cameIn')
    cases edit
    cases edit'
    simp_all
  subst same
  -- The stored forest is that of the edit, and the result is what this edit gets, before and after.
  refine ⟨document, found, ?_, ?_⟩
  · rw [storedFor.2.2.1]
    unfold stampedValidation at stamped
    cases validates : Document.validate settings none (.forest edit.forest) with
    | error fault =>
      rw [validates] at stamped
      cases stamped
    | ok validation =>
      rw [validates] at stamped
      cases stamped
      rfl
  · rw [(remembers_run _ uri).validate_eq, last]
    exact stamped

/-- The result that the last accepted edit gets, where its definitions do not matter to the report
on it. -/
theorem validate_of_diagnostics {edit : Edit} {reported : List Diagnostic}
    (last : (accepted uri steps).getLast? = some edit)
    (reports : ∀ definitions,
      Document.diagnostics settings definitions edit.forest = .ok reported) :
    (run steps).validate uri settings =
      .ok ⟨uri, edit.version, reported, Diagnostic.hasErrors reported⟩ := by
  have remembers := remembers_run steps uri
  obtain ⟨document, found, -, version, forest, -⟩ := remembers.exists_document last
  rw [← forest] at reports
  simp only [validate, found, Document.validate, Document.definitionsFor, bind, Except.bind,
    reports, version]
  rfl

/-- A style object in which `@starting` stands in the place of a property. -/
def startingObject : StyleObject :=
  ⟨[(⟨"@starting".toText, 2, 11⟩, .text "1".toText 14 15)], 0, 17⟩

/-- What is reported on it. -/
def startingReport : Diagnostic :=
  Finding.diagnostic { issue := .startingAsProperty, span := ⟨2, 11, by decide⟩ }

theorem diagnostics_startingObject (settings : Settings) (definitions : Definitions) :
    Document.diagnostics settings definitions [startingObject] = .ok [startingReport] := by
  have found : Document.findings settings definitions [startingObject] =
      .ok [{ issue := .startingAsProperty, span := ⟨2, 11, by decide⟩ }] := by rfl
  rw [Document.diagnostics, found]
  simp [Except.map, Diagnostic.report, Diagnostic.sort, Diagnostic.dedupe, firstOccurrences,
    startingReport]

theorem diagnostics_nil (settings : Settings) (definitions : Definitions) :
    Document.diagnostics settings definitions [] = .ok [] := by
  have found : Document.findings settings definitions [] = .ok [] := by rfl
  rw [Document.diagnostics, found]
  simp [Except.map, Diagnostic.report, Diagnostic.sort, Diagnostic.dedupe, firstOccurrences]

/-- An edit that comes late and is ignored does not hold a result back: version 0 is refused behind
version 1. -/
theorem publishable_describes_stored_late :
    ∃ document,
      (run [.edit "a".toText 1 [startingObject], .validate "a".toText {},
        .edit "a".toText 0 []]).get? "a".toText = some document ∧
      (Document.validate {} none (.forest document.forest)).map (·.diagnostics) =
        .ok [startingReport] := by
  have last : (accepted "a".toText [.edit "a".toText 1 [startingObject]]).getLast? =
      some ⟨1, [startingObject]⟩ := by rfl
  have obtained : (run [.edit "a".toText 1 [startingObject]]).validate "a".toText {} =
      .ok ⟨"a".toText, 1, [startingReport], false⟩ :=
    validate_of_diagnostics last (diagnostics_startingObject {})
  have publishable : (run ([.edit "a".toText 1 [startingObject]] ++ .validate "a".toText {} ::
      [.edit "a".toText 0 []])).publishable ⟨"a".toText, 1, [startingReport], false⟩ = true := by
    rfl
  obtain ⟨document, found, validates, -⟩ :=
    publishable_describes_stored obtained publishable (by simp)
  exact ⟨document, found, validates⟩

/-- The version does not tell what is stored from what was validated: an edit under the same version
overtakes the result, and the result is publishable all the same. -/
theorem publishable_overtaken :
    (run [.edit "a".toText 1 []]).validate "a".toText {} = .ok ⟨"a".toText, 1, [], false⟩ ∧
      (run [.edit "a".toText 1 [], .validate "a".toText {},
        .edit "a".toText 1 [startingObject]]).publishable ⟨"a".toText, 1, [], false⟩ = true ∧
      (run [.edit "a".toText 1 [], .validate "a".toText {},
        .edit "a".toText 1 [startingObject]]).validate "a".toText {} =
          .ok ⟨"a".toText, 1, [startingReport], false⟩ := by
  refine ⟨?_, ?_, ?_⟩
  · have last : (accepted "a".toText [.edit "a".toText 1 []]).getLast? = some ⟨1, []⟩ := by rfl
    exact validate_of_diagnostics last (diagnostics_nil {})
  · rfl
  · have last : (accepted "a".toText [.edit "a".toText 1 [], .validate "a".toText {},
        .edit "a".toText 1 [startingObject]]).getLast? = some ⟨1, [startingObject]⟩ := by rfl
    exact validate_of_diagnostics last (diagnostics_startingObject {})

end StyleCheck.DocumentStore
