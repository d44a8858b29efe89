import StyleCheck.Proofs.Check.Offending
import StyleCheck.Proofs.Check.Walk
import StyleCheck.Proofs.Document.Total
import StyleCheck.Proofs.Style.Source

/-!
# Diagnostics point at what they are about

Four offsets are added up on the way to a diagnostic: that of a value or key in the source, that of
a call in the value, that of its arguments, and so on at every depth. Where a source is rendered
from a mapping, all of them are right: a diagnostic has a range that is not empty and lies in the
source, and the text there is what its message is about.

## Main definitions

- `Obligation.StandsIn`: what has to be checked stands in a source where its offset says.

## Main statements

- `standsIn_of_mem_obligations`: what has to be checked in a rendered source.
- `Document.validate_points`: the diagnostics of a rendered source.
-/

namespace StyleCheck

/-- What has to be checked stands in a source where its offset says, be it a value, a key or the
name `@starting`. -/
def Obligation.StandsIn (source : Text) : Obligation → Prop
  | .value _ text start | .stateKey _ text start =>
    ∃ stop, Text.StandsBetween source text start stop
  | .startingProperty key =>
    key.name = "@starting".toText ∧ Text.StandsBetween source key.name key.start key.stop

variable {source : Text}

theorem EntryPath.StandsIn.obligation {p : EntryPath} (stands : p.StandsIn source)
    {region : CheckRegion} {o : Obligation} (mem : o ∈ region.emit p.key p.value) :
    o.StandsIn source := by
  obtain ⟨_, rfl⟩ | ⟨rfl, name⟩ | ⟨content, start, stop, value, ⟨_, rfl⟩ | ⟨_, rfl⟩⟩ :=
    CheckRegion.emit_cases mem
  · exact ⟨_, stands.key⟩
  · exact ⟨name, stands.key⟩
  · exact ⟨stop, stands.value content start stop value⟩
  · exact ⟨stop, stands.value content start stop value⟩

/-- What has to be checked in a rendered source stands there, since all entries of a rendered forest
do. The source and the forest come from one `StyleSource.render`. -/
theorem standsIn_of_mem_obligations (mapping : List (Text × Literal)) {o : Obligation}
    (mem : o ∈ obligations (StyleSource.render mapping).forest) :
    o.StandsIn (StyleSource.render mapping).text := by
  rw [obligations_eq, List.mem_flatMap] at mem
  obtain ⟨p, hp, mem⟩ := mem
  exact (StyleSource.standsIn_of_mem_paths mapping hp).obligation mem

/-- What is found where something stands in a source points there at what it is about. -/
theorem Obligation.StandsIn.finds_points {o : Obligation} (stands : o.StandsIn source)
    (settings : Settings) (definitions : Definitions) :
    Finds (Finding.Points source) (o.findings settings definitions) := by
  cases o with
  | value property text start =>
    obtain ⟨stop, position, inSource, start, -⟩ := stands
    exact Value.finds_points inSource start
  | stateKey inside key start =>
    obtain ⟨stop, position, inSource, start, -⟩ := stands
    exact StateKey.finds_points inSource start
  | startingProperty key =>
    obtain ⟨name, position, inSource, start, stop⟩ := stands
    -- The key itself is reported, with its own range.
    refine finds_at fun span made => ?_
    have bounds := Span.ofBounds_eq_ok_iff.mp made
    rw [name] at inSource stop
    have marks : span.Marks source "@starting".toText :=
      .of_standsAt inSource (List.cons_ne_nil _ _) (by omega) (by omega)
    exact marks.points rfl

namespace Document

/-- The diagnostics of a rendered source have ranges in the source that are not empty. The text
there is what the issue is about that the diagnostic puts into words.

Sorting and leaving out repetitions do not matter here, as `Diagnostic.mem_report` goes through the
report to what was found. -/
theorem validate_points (mapping : List (Text × Literal)) {settings : Settings}
    {given : Option Definitions} {v : Validation}
    (validated : validate settings given (.forest (StyleSource.render mapping).forest) = .ok v) :
    ∀ d ∈ v.diagnostics, d.span.start < d.span.stop ∧
      d.span.stop ≤ (StyleSource.render mapping).text.length ∧
      ∃ f : Finding, f.diagnostic = d ∧
        f.issue.Describes (d.span.slice (StyleSource.render mapping).text) := by
  intro d mem
  obtain ⟨-, found, checked, report⟩ := validate_eq_ok validated
  rw [report, Diagnostic.mem_report] at mem
  obtain ⟨f, inFound, rfl⟩ := List.mem_map.mp mem
  have points : Finds (Finding.Points (StyleSource.render mapping).text)
      (findings settings v.definitions (StyleSource.render mapping).forest) :=
    finds_collect fun o mem =>
      (standsIn_of_mem_obligations mapping mem).finds_points settings v.definitions
  obtain ⟨some, inside, describes⟩ := points found checked f inFound
  exact ⟨some, inside, f, rfl, describes⟩

end Document

/-- A unit that nobody knows in a call within a call, and an own-state at the root. -/
def nestedCall : List (Text × Literal) :=
  [("width".toText, .text "calc(1x + min(2zz, 3x))".toText),
   ("fill".toText, .mapping [("@own(hovered)".toText, .text "red".toText)])]

/-- All that is reported there is pointed at, and the unit is reported, although it stands in a call
within a call. -/
theorem Document.validate_points_nestedCall :
    ∃ v, validate {} none (.forest (StyleSource.render nestedCall).forest) = .ok v ∧
      (∃ d ∈ v.diagnostics,
        d.span.slice (StyleSource.render nestedCall).text = "2zz".toText) ∧
      ∀ d ∈ v.diagnostics, ∃ f : Finding, f.diagnostic = d ∧
        f.issue.Describes (d.span.slice (StyleSource.render nestedCall).text) := by
  have checks :
      (validate {} none (.forest (StyleSource.render nestedCall).forest)).isOk = true := by
    decide +kernel
  cases validated : validate {} none (.forest (StyleSource.render nestedCall).forest) with
  | error fault =>
    rw [validated] at checks
    cases checks
  | ok v =>
    refine ⟨v, rfl, ?_, ?_⟩
    · obtain ⟨collected, found, checked, report⟩ := validate_eq_ok validated
      have noSites : definitionSites (StyleSource.render nestedCall).forest = [] := by
        decide +kernel
      have nothing : Definitions.collect (StyleSource.render nestedCall).forest = .ok {} := by
        rw [Definitions.collect, noSites]
        rfl
      have defined : ({} : Definitions) = v.definitions :=
        Except.ok.inj (nothing.symm.trans collected)
      rw [← defined] at checked
      -- What was found is evaluated; the report, which is sorted, is not.
      have slices : (findings {} {} (StyleSource.render nestedCall).forest).toOption.map
          (fun found => found.any fun f =>
            f.span.slice (StyleSource.render nestedCall).text == "2zz".toText) = some true := by
        decide +kernel
      rw [checked] at slices
      obtain ⟨f, mem, same⟩ := List.any_eq_true.mp (Option.some.inj slices)
      rw [report]
      refine ⟨f.diagnostic, ?_, beq_iff_eq.mp same⟩
      rw [Diagnostic.mem_report]
      exact List.mem_map_of_mem mem
    · intro d mem
      obtain ⟨-, -, describes⟩ := validate_points nestedCall validated d mem
      exact describes

end StyleCheck
