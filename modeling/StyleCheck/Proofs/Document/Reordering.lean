import StyleCheck.Proofs.Check.Names
import StyleCheck.Proofs.Check.Plain

/-!
# The order of a file does not matter to its report

The style objects of a file, and the entries in each of them, may stand in any order: the file is
refused in every order, or its report is the same in all of them. What is found is found in another
order, with other collections of the same names, but the report sorts it, and its order tells the
diagnostics apart.

## Main statements

- `Document.alike_findings`: what is found in reordered forests.
- `Document.validate_reordered`: their reports are the same, and ascend.
-/

namespace StyleCheck.Document

variable {forest forest' : Forest} {settings : Settings}

/-- What is found in reordered forests, with definitions of the `SameNames`: the same findings in
another order, or both runs fail. -/
theorem alike_findings (h : Forest.Reordered forest forest') {d d' : Definitions}
    (names : Definitions.SameNames d d') (settings : Settings) :
    Alike List.Perm (findings settings d forest) (findings settings d' forest') := by
  have sameNames : (obligations forest').mapM (Obligation.findings settings d') =
      (obligations forest').mapM (Obligation.findings settings d) :=
    mapM_congr fun o _ => (o.findings_congr names settings).symm
  rw [findings, findings, sameNames]
  exact (alike_mapM_of_perm h.obligations_perm).map fun _ => List.Perm.flatten

/-- The order tells the diagnostics of plain findings apart, since range, code and message tell
them. For the suggestion this is `suggestion_eq`. -/
theorem eq_of_compare_of_plain {found : List Finding} (plain : ∀ f ∈ found, f.IsPlain) :
    ∀ a ∈ found.map (·.diagnostic), ∀ b ∈ found.map (·.diagnostic),
      Diagnostic.compare a b = .eq → a = b := by
  intro a ha b hb equal
  obtain ⟨f, hf, rfl⟩ := List.mem_map.mp ha
  obtain ⟨g, hg, rfl⟩ := List.mem_map.mp hb
  obtain ⟨⟨span, code⟩, message⟩ := Diagnostic.compare_eq_eq_iff.mp equal
  exact (plain f hf).diagnostic_eq (plain g hg) span code message

/-- A file is refused in every order of its style objects and of the entries in them, or its report
is the same in every order. The diagnostics in the report ascend.

Three things change with the order: what is defined is collected in another one, what has to be
checked comes in another one, and so does what is found. The first is `Definitions.alike_collect`,
the others are `alike_findings`. -/
theorem validate_reordered (h : Forest.Reordered forest forest') (settings : Settings) :
    Alike (fun v v' : Validation => v'.diagnostics = v.diagnostics ∧
        v.diagnostics.Pairwise fun a b => Diagnostic.compare a b = .lt)
      (validate settings none (.forest forest)) (validate settings none (.forest forest')) := by
  refine (Definitions.alike_collect h).bind fun {d d'} names => ?_
  -- The findings of both differ in their order alone, and the report does not show it.
  have reports : Alike (fun l l' : List Diagnostic => l' = l ∧
      l.Pairwise fun a b => Diagnostic.compare a b = .lt)
      (diagnostics settings d forest) (diagnostics settings d' forest') := by
    refine (alike_findings h names settings).map fun {found _} all same => ?_
    have apart := eq_of_compare_of_plain (findsPlain settings d forest found all)
    exact ⟨(Diagnostic.report_eq_of_perm (same.map _) apart).symm,
      Diagnostic.pairwise_report apart⟩
  exact reports.bind fun report => .ok report

/-- An entry in which `@starting` stands in the place of a property. -/
def startingEntry (start : Nat) : StyleKey × StyleValue :=
  (⟨"@starting".toText, start, start + 9⟩, .text "1".toText (start + 12) (start + 13))

/-- What is reported on it. -/
def startingReport (start : Nat) : Diagnostic :=
  Finding.diagnostic { issue := .startingAsProperty, span := ⟨start, start + 9, by simp⟩ }

/-- A style object that holds a sub-element with some entries. -/
def titledObject (entries : StyleEntries) : StyleObject :=
  ⟨[(⟨"Title".toText, 2, 7⟩, .object entries 9 39)], 0, 40⟩

/-- The objects of a forest change places, and so do the entries of a sub-element. The report is
that of the first order. -/
theorem validate_reordered_titledObject :
    (validate {} none (.forest [⟨[startingEntry 42], 40, 60⟩,
        titledObject [startingEntry 25, startingEntry 10]])).map (·.diagnostics) =
      .ok [startingReport 10, startingReport 25, startingReport 42] := by
  have entries : StyleEntries.Reordered [startingEntry 10, startingEntry 25]
      [startingEntry 25, startingEntry 10] := .of_perm (.swap _ _ [])
  have reordered : Forest.Reordered
      [titledObject [startingEntry 10, startingEntry 25], ⟨[startingEntry 42], 40, 60⟩]
      [⟨[startingEntry 42], 40, 60⟩, titledObject [startingEntry 25, startingEntry 10]] :=
    .trans (.cons 0 40 (.inside _ 9 39 entries .nil) (.of_perm (.refl _)))
      (.of_perm (.swap _ _ []))
  -- In this order the findings are sorted already, so the sort need not be evaluated.
  have sorted : (validate {} none (.forest
      [titledObject [startingEntry 10, startingEntry 25], ⟨[startingEntry 42], 40, 60⟩])).map
        (·.diagnostics) = .ok [startingReport 10, startingReport 25, startingReport 42] := by
    have report : Diagnostic.report [startingReport 10, startingReport 25, startingReport 42] =
        [startingReport 10, startingReport 25, startingReport 42] := by
      rw [Diagnostic.report, Diagnostic.sort, List.mergeSort_of_pairwise (by decide +kernel)]
      decide +kernel
    exact congrArg Except.ok report
  have same := validate_reordered reordered {}
  generalize validate {} none (.forest _) = v at same sorted
  generalize validate {} none (.forest _) = v' at same ⊢
  cases same with
  | error => cases sorted
  | ok same => rw [← sorted, Except.map, Except.map, same.1]

end StyleCheck.Document
