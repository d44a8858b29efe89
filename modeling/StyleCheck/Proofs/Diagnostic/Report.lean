import Mathlib.Data.List.Nodup
import Mathlib.Data.List.Sort
import StyleCheck.Diagnostic.Finding
import StyleCheck.Diagnostic.Report
import StyleCheck.Proofs.Distinct
import StyleCheck.Proofs.Text.Order

/-!
# What tells diagnostics apart

Diagnostics are sorted by their ranges, codes and messages, and a report lists each once. The other
parts of a diagnostic are told by these: the code stands for the spec, and the message names the
suggestion behind the name that nobody knows. That name stands between quotes, so it must not hold
a quote itself; otherwise its end could not be told. Then the order in which the diagnostics were
found does not matter.

## Main definitions

- `Finding.IsPlain`: the wording of a finding can be taken apart.

## Main statements

- `Finding.IsPlain.diagnostic_eq`: range, code and message tell a diagnostic.
- `Finding.eq_of_diagnostic_eq`: the diagnostic of an unknown name tells the finding.
- `mem_report`: what a report holds.
- `report_eq_of_perm`, `pairwise_report`: a report has one order, in which it ascends.
- `filter_report`: what it shows of one sort.
-/

namespace StyleCheck

/-! ## §1 Specs -/

namespace Catalogue

theorem nodup_codes : (all.map (·.code)).Nodup := by
  decide +kernel

/-- A spec is told by its code, among the `all` of the catalogue. -/
theorem code_injective {spec spec' : Diagnostic.Spec} (h : spec ∈ all) (h' : spec' ∈ all)
    (same : spec.code = spec'.code) : spec = spec' :=
  List.inj_on_of_nodup_map nodup_codes h h' same

end Catalogue

namespace Issue

theorem spec_mem_all (issue : Issue) : issue.spec ∈ Catalogue.all := by
  cases issue <;> simp [spec, Catalogue.all]

/-- The name that nobody knows, where that is the issue. -/
def unknownName? : Issue → Option Text
  | unknownColorToken name | unknownCustomProperty name | unknownUnit name | unknownPreset name
  | unknownRecipe name | unknownFunction name | unknownAlias name => some name
  | _ => none

/-- Whether the issue is an unknown name can be told by the first hole of its message: the name is
the first thing that `missing?`, without any fields, asks for. -/
theorem isSome_unknownName? (issue : Issue) :
    issue.unknownName?.isSome = (issue.spec.message.missing? [] == some "name".toText) := by
  cases issue <;> rfl

/-- The message about an unknown name starts with words of the spec, and then the name stands
between quotes. The name is its only field. -/
theorem exists_fill_eq {issue : Issue} {name : Text} (h : issue.unknownName? = some name) :
    ∃ words, issue.spec.message =
        [.words words, Catalogue.hole "name", Catalogue.words "'"] ∧
      issue.fields = [("name".toText, name)] := by
  cases issue <;> cases h <;> exact ⟨_, rfl, rfl⟩

/-- Where the spec of an issue stands in the catalogue. Issues of two sorts never share a spec,
which is easier seen with numbers than with texts. -/
def place : Issue → Nat
  | invalidSyntax _ => 0
  | mismatchedBracket .. => 1
  | ownOutsideSubElement => 2
  | startingAsProperty => 3
  | unclosedBracket .. => 4
  | unknownAlias _ => 5
  | unmatchedBracket .. => 6
  | invalidOpacity _ => 7
  | unknownColorToken _ => 8
  | unknownCustomProperty _ => 9
  | unknownFunction _ => 10
  | unknownPreset _ => 11
  | unknownRecipe _ => 12
  | unknownUnit _ => 13

theorem getElem?_place (issue : Issue) : Catalogue.all[issue.place]? = some issue.spec := by
  cases issue <;> rfl

theorem place_eq_of_spec_eq {issue issue' : Issue} (same : issue.spec = issue'.spec) :
    issue.place = issue'.place := by
  obtain ⟨inside, -⟩ := List.getElem?_eq_some_iff.mp (getElem?_place issue)
  apply (List.getElem?_inj inside (.of_map _ Catalogue.nodup_codes)).mp
  rw [getElem?_place, getElem?_place, same]

/-- An unknown name with its spec tells the issue: the `place` tells the sort, and the sort has no
other field. -/
theorem eq_of_unknownName? {issue issue' : Issue} {name : Text}
    (named : issue.unknownName? = some name) (named' : issue'.unknownName? = some name)
    (same : issue.spec = issue'.spec) : issue = issue' := by
  have place := place_eq_of_spec_eq same
  cases issue <;> cases named <;> cases issue' <;> cases named' <;>
    first
      | rfl
      | cases place

end Issue

/-! ## §2 Plain findings -/

/-- The wording of a finding can be taken apart: an unknown name holds no quote, and nothing is
suggested for other issues. All findings of the checks are so, as `Document.findsPlain` says. -/
structure Finding.IsPlain (f : Finding) : Prop where
  quoteless : ∀ name, f.issue.unknownName? = some name → CodePoint.char '\'' ∉ name
  unsuggested : f.issue.unknownName? = none → f.suggestion = none

namespace Finding

/-- The words about a suggestion at the end of a message, where there is one. -/
def suggestionText : Option Text → Text
  | none => []
  | some name => ". Did you mean '".toText ++ name ++ "'?".toText

/-- The words about a suggestion tell it; without one there are none. -/
theorem suggestionText_injective {suggestion suggestion' : Option Text}
    (same : suggestionText suggestion = suggestionText suggestion') :
    suggestion = suggestion' := by
  cases suggestion with
  | none => cases suggestion' with
    | none => rfl
    | some name' => simp [suggestionText, String.toText] at same
  | some name => cases suggestion' with
    | none => simp [suggestionText, String.toText] at same
    | some name' =>
      simp only [suggestionText, List.append_cancel_right_eq, List.append_cancel_left_eq] at same
      rw [same]

/-- What stands behind the first of some characters is told by the whole. It is used with the quote
that ends a name. -/
theorem behind_first {c : CodePoint} {name name' behind behind' : Text} (first : c ∉ name)
    (first' : c ∉ name') (same : name ++ c :: behind = name' ++ c :: behind') :
    behind = behind' := by
  have skip {name : Text} (first : c ∉ name) (behind : Text) :
      (name ++ c :: behind).dropWhile (· ≠ c) = c :: behind := by
    have other : ∀ d ∈ name, decide (d ≠ c) = true := by
      intro d hd
      rw [decide_eq_true_eq]
      rintro rfl
      exact first hd
    rw [List.dropWhile_append_of_pos other]
    simp
  have rest := congrArg (List.dropWhile (· ≠ c)) same
  rw [skip first, skip first', List.cons.injEq] at rest
  exact rest.2

/-- The message about an unknown name: the words of the spec, the name, the quote, and the words
about the suggestion.

That the fields are filled in follows from `exists_fill_eq`; the words are the same for all names
with one spec. -/
theorem message_of_unknownName? {f : Finding} {name : Text}
    (h : f.issue.unknownName? = some name) :
    ∃ words, f.issue.spec.message =
        [.words words, Catalogue.hole "name", Catalogue.words "'"] ∧
      f.diagnostic.message =
        words ++ (name ++ CodePoint.char '\'' :: suggestionText f.suggestion) := by
  obtain ⟨words, template, fields⟩ := Issue.exists_fill_eq h
  refine ⟨words, template, ?_⟩
  have value : Diagnostic.Spec.fieldValue f.issue.fields "name".toText = name := by
    rw [fields]
    rfl
  have quote : "'".toText = [CodePoint.char '\''] := rfl
  simp only [diagnostic, Diagnostic.Spec.report, template, Template.fill, Catalogue.hole,
    Catalogue.words, List.flatMap_cons, List.flatMap_nil, value, quote, List.append_nil,
    List.append_assoc]
  cases f.suggestion <;> rfl

/-- The wording of an unknown name tells the finding. Here the whole `diagnostic` is given, and it
records the suggestion, so the name may hold quotes. -/
theorem eq_of_diagnostic_eq {f g : Finding} {name : Text}
    (named : f.issue.unknownName? = some name) (same : f.diagnostic = g.diagnostic) : f = g := by
  have spec : f.issue.spec = g.issue.spec :=
    Catalogue.code_injective f.issue.spec_mem_all g.issue.spec_mem_all
      (congrArg Diagnostic.code same)
  have suggestion : f.suggestion = g.suggestion := by
    have recorded : f.suggestion.toList = g.suggestion.toList :=
      congrArg Diagnostic.suggestions same
    simpa using congrArg List.head? recorded
  have alike : g.issue.unknownName?.isSome = true := by
    rw [Issue.isSome_unknownName?, ← spec, ← Issue.isSome_unknownName?, named]
    rfl
  obtain ⟨name', named'⟩ := Option.isSome_iff_exists.mp alike
  obtain ⟨words, template, messagef⟩ := message_of_unknownName? named
  obtain ⟨words', template', messageg⟩ := message_of_unknownName? named'
  have sameWords : words = words' := by
    rw [spec, template'] at template
    simpa using template.symm
  have message := congrArg Diagnostic.message same
  -- What stands behind the names is the same, and so are the names.
  rw [messagef, messageg, sameWords, suggestion, List.append_cancel_left_eq,
    List.append_cancel_right_eq] at message
  have issue := Issue.eq_of_unknownName? named (message ▸ named') spec
  have span : f.span = g.span := congrArg Diagnostic.span same
  cases f
  cases g
  simp_all

namespace IsPlain

variable {f g : Finding}

/-- Of plain findings with one spec, the message tells the suggestion.

The message has the name and the suggestion one behind the other. As the name holds no quote, it
ends at the first one (`behind_first`), and what follows is about the suggestion. -/
theorem suggestion_eq (hf : f.IsPlain) (hg : g.IsPlain) (spec : f.issue.spec = g.issue.spec)
    (message : f.diagnostic.message = g.diagnostic.message) : f.suggestion = g.suggestion := by
  have alike : f.issue.unknownName?.isSome = g.issue.unknownName?.isSome := by
    rw [Issue.isSome_unknownName?, Issue.isSome_unknownName?, spec]
  cases namef : f.issue.unknownName? with
  | none =>
    -- Nothing is suggested for either.
    cases nameg : g.issue.unknownName? with
    | none => rw [hf.unsuggested namef, hg.unsuggested nameg]
    | some name' => simp [namef, nameg] at alike
  | some name =>
    cases nameg : g.issue.unknownName? with
    | none => simp [namef, nameg] at alike
    | some name' =>
      obtain ⟨words, template, messagef⟩ := message_of_unknownName? namef
      obtain ⟨words', template', messageg⟩ := message_of_unknownName? nameg
      have sameWords : words = words' := by
        rw [spec, template'] at template
        simpa using template.symm
      rw [messagef, messageg, sameWords] at message
      -- Both names end at the first quote behind the words.
      exact suggestionText_injective (behind_first (hf.quoteless name namef)
        (hg.quoteless name' nameg) (List.append_cancel_left message))

/-- Range, code and message tell a diagnostic, so what `Diagnostic.compare` holds equal is equal. -/
theorem diagnostic_eq (hf : f.IsPlain) (hg : g.IsPlain) (span : f.span = g.span)
    (code : f.diagnostic.code = g.diagnostic.code)
    (message : f.diagnostic.message = g.diagnostic.message) : f.diagnostic = g.diagnostic := by
  have spec : f.issue.spec = g.issue.spec :=
    Catalogue.code_injective f.issue.spec_mem_all g.issue.spec_mem_all code
  have suggestion := hf.suggestion_eq hg spec message
  simp only [diagnostic, Diagnostic.Spec.report] at message ⊢
  rw [message, spec, span, suggestion]

end IsPlain

end Finding

/-! ## §3 Reports -/

instance : Std.TransCmp Span.compare :=
  inferInstanceAs (Std.TransCmp (compareLex (compareOn Span.start) (compareOn Span.stop)))

instance : Std.LawfulEqCmp Span.compare where
  compare_self := Std.ReflCmp.compare_self
  eq_of_compare {s t} same := by
    obtain ⟨start, stop⟩ := Ordering.then_eq_eq.mp same
    cases s
    cases t
    simp_all

namespace Diagnostic

/-- Diagnostics are compared by range, code and message, one after the other. -/
theorem compare_eq_compareLex :
    Diagnostic.compare = compareLex (compareLex (fun a b => a.span.compare b.span)
      fun a b => Text.compare a.code b.code) fun a b => Text.compare a.message b.message :=
  rfl

instance : Std.TransCmp Diagnostic.compare := by
  have bySpan : Std.TransCmp fun a b : Diagnostic => a.span.compare b.span := {
    eq_swap := Std.OrientedCmp.eq_swap
    isLE_trans := Std.TransCmp.isLE_trans }
  have byCode : Std.TransCmp fun a b : Diagnostic => Text.compare a.code b.code := {
    eq_swap := Std.OrientedCmp.eq_swap
    isLE_trans := Std.TransCmp.isLE_trans }
  have byMessage : Std.TransCmp fun a b : Diagnostic => Text.compare a.message b.message := {
    eq_swap := Std.OrientedCmp.eq_swap
    isLE_trans := Std.TransCmp.isLE_trans }
  rw [compare_eq_compareLex]
  infer_instance

theorem compare_eq_eq_iff {a b : Diagnostic} :
    compare a b = .eq ↔ (a.span = b.span ∧ a.code = b.code) ∧ a.message = b.message := by
  simp only [compare, Ordering.then_eq_eq, Std.LawfulEqCmp.compare_eq_iff_eq]

section Told

variable {found found' : List Diagnostic}

/-- A report holds just what was found: `List.mergeSort` and leaving out repetitions change nothing
about the members. -/
theorem mem_report {d : Diagnostic} : d ∈ report found ↔ d ∈ found := by
  rw [report, dedupe, mem_firstOccurrences, sort]
  exact (List.mergeSort_perm found _).mem_iff

/-- Where the order tells diagnostics apart, a report forgets how they were found. Otherwise a
stable sort would keep some of it: two that compare as `.eq` would stand as they were found. -/
theorem report_eq_of_perm (same : found.Perm found')
    (apart : ∀ a ∈ found, ∀ b ∈ found, compare a b = .eq → a = b) :
    report found = report found' := by
  rw [report, report, sort, sort, mergeSort_eq_of_perm same apart]

/-- And in the report they ascend, strictly, since no diagnostic is listed twice. -/
theorem pairwise_report (apart : ∀ a ∈ found, ∀ b ∈ found, compare a b = .eq → a = b) :
    (report found).Pairwise fun a b => compare a b = .lt := by
  have kept : (report found).Sublist (sort found) := firstOccurrences_sublist _
  have sorted : (report found).Pairwise fun a b => (compare a b).isLE = true :=
    (pairwise_mergeSort_isLE found).sublist kept
  have distinct : (report found).Pairwise (· ≠ ·) := nodup_firstOccurrences _
  -- Neighbours that were equal in the order would be the same diagnostic twice.
  refine (sorted.and distinct).imp_of_mem fun {a b} ha hb order => ?_
  rcases Ordering.isLE_iff_eq_lt_or_eq_eq.mp order.1 with before | equal
  · exact before
  · exact absurd (apart a (mem_report.mp ha) b (mem_report.mp hb) equal) order.2

/-- Where the order tells diagnostics apart, what a report shows of one sort is a report of its
own. -/
theorem filter_report (apart : ∀ a ∈ found, ∀ b ∈ found, compare a b = .eq → a = b)
    (wanted : Diagnostic → Bool) : (report found).filter wanted = report (found.filter wanted) := by
  have irreflexive : Std.Irrefl fun a b : Diagnostic => compare a b = .lt :=
    ⟨fun _ before => Std.OrientedCmp.not_lt_of_lt before before⟩
  have antisymmetric : Std.Antisymm fun a b : Diagnostic => compare a b = .lt :=
    ⟨fun _ _ before behind => absurd behind (Std.OrientedCmp.not_lt_of_lt before)⟩
  have apart' : ∀ a ∈ found.filter wanted, ∀ b ∈ found.filter wanted, compare a b = .eq → a = b :=
    fun a ha b hb => apart a (List.mem_of_mem_filter ha) b (List.mem_of_mem_filter hb)
  -- Both ascend, and they have the same members.
  refine ((pairwise_report apart).filter wanted).eq_of_mem_iff (pairwise_report apart') fun d => ?_
  rw [List.mem_filter, mem_report, mem_report, List.mem_filter]

end Told

end Diagnostic

end StyleCheck
