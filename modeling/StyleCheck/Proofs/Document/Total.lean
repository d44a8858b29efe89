import StyleCheck.Proofs.Check.Opacity
import StyleCheck.Proofs.Check.Walk
import StyleCheck.Proofs.Style.Sites

/-!
# Where checks come to a result

Whatever the user writes, the checks answer with findings. The one exception is an opacity suffix
with more digits than a numeral may have: it is read as a number, and reading it fails. Where no
value that is checked holds such a suffix, a value at an offset that is not negative and a file
whose offsets are those of ranges are always checked.

## Main definitions

- `Value.ReadableOpacities`: no opacity in a text has too many digits.

## Main statements

- `Value.exists_findings_iff`: values.
- `Document.exists_findings_iff`: forests, with given definitions.
- `Document.exists_checks_iff`: both, from the text of a value up to the report on a file.
-/

namespace StyleCheck

/-! ## §1 Values -/

namespace Value

/-- No opacity in a text has too many digits, at any depth of calls. -/
def ReadableOpacities (settings : Settings) (text : Text) : Prop :=
  ∀ t ∈ Token.flatten (lex (Lexicon.ofSettings settings) text), ReadableOpacity t

theorem exists_findings_iff {context : Context} (positive : 0 ≤ context.base) (text : Text) :
    (∃ found, findings context text = .ok found) ↔ ReadableOpacities context.settings text := by
  rw [findings_eq, exists_runAll_iff]
  refine forall₂_congr fun t ht => ?_
  exact exists_rules_iff (Token.exists_hostSpan (inOrder_of_mem_flatten ht) positive)

theorem length_le_of_opacityDigits? {text digits : Text} (h : opacityDigits? text = some digits) :
    digits.length ≤ text.length := by
  have shorter : (Text.dropFinalNewline text).length ≤ text.length := by
    unfold Text.dropFinalNewline
    split <;> simp
  have ends := (opacityDigits?_eq_some_iff.mp h).2.length_le
  rw [List.length_cons] at ends
  omega

/-- A text that is no longer than `digitLimit` holds no opacity that cannot be read. -/
theorem readableOpacities_of_length_le (settings : Settings) {text : Text}
    (short : text.length ≤ digitLimit) : ReadableOpacities settings text := by
  intro t ht _ digits suffix
  obtain ⟨place, c, cs, stands, rfl⟩ :=
    exists_firstToken_of_mem_flatten (Text.StandsAt.self text) ht
  have inText := ((lexes (Lexicon.ofSettings settings)).first_isSliceOf stands).1.length_le
  exact ((length_le_of_opacityDigits? suffix).trans inText).trans short

end Value

/-! ## §2 Forests -/

/-- A thing to check is checked, unless it is a value with an opacity that cannot be read. State
keys and `@starting` can always be checked. -/
theorem Obligation.exists_findings_iff {o : Obligation} (placed : o.WellPlaced)
    (settings : Settings) (definitions : Definitions) :
    (∃ found, o.findings settings definitions = .ok found) ↔
      ∀ property content start, o = .value property content start →
        Value.ReadableOpacities settings content := by
  cases o with
  | value property content start =>
    rw [findings, Value.exists_findings_iff (by exact placed)]
    constructor
    · rintro readable _ _ _ ⟨⟩
      exact readable
    · exact fun readable => readable _ _ _ rfl
  | stateKey inside key start =>
    exact iff_of_true (StateKey.exists_findings (by exact placed) key) nofun
  | startingProperty key =>
    obtain ⟨span, made⟩ := Span.exists_ofBounds_iff.mpr placed
    have made' : key.span = .ok span := made
    refine iff_of_true ?_ nofun
    rw [findings, made']
    exact ⟨_, rfl⟩

namespace Document

variable {forest : Forest}

/-- The values that are checked in a forest hold no opacity that cannot be read. -/
def ReadableOpacities (settings : Settings) (forest : Forest) : Prop :=
  ∀ p ∈ forest.paths, ∀ property content start, p.HoldsValue property content start →
    Value.ReadableOpacities settings content

/-- A forest is checked with a result just where the opacities in its values can be read. Nothing
else can fail if the forest is `WellPlaced`. -/
theorem exists_findings_iff (placed : forest.WellPlaced) (settings : Settings)
    (definitions : Definitions) : (∃ found, findings settings definitions forest = .ok found) ↔
      ReadableOpacities settings forest := by
  unfold findings
  rw [exists_collect_iff]
  constructor
  · intro each p hp property content start holds
    have mem := value_mem_obligations_iff.mpr ⟨p, hp, holds⟩
    exact (Obligation.exists_findings_iff (wellPlaced_of_mem_obligations placed mem) settings
      definitions).mp (each _ mem) property content start rfl
  · intro readable o mem
    rw [Obligation.exists_findings_iff (wellPlaced_of_mem_obligations placed mem)]
    rintro property content start rfl
    obtain ⟨p, hp, holds⟩ := value_mem_obligations_iff.mp mem
    exact readable p hp property content start holds

/-- The definitions that a forest is checked with: where none are given, `Definitions.collect` finds
them, as its keys have ranges. -/
theorem exists_definitionsFor (placed : forest.WellPlaced) (given : Option Definitions) :
    ∃ definitions, definitionsFor forest given = .ok definitions := by
  cases given with
  | some definitions => exact ⟨definitions, rfl⟩
  | none => exact Definitions.exists_collect_iff.mpr fun p hp _ _ => placed.keys p hp

theorem exists_validate_iff (placed : forest.WellPlaced) (settings : Settings)
    (given : Option Definitions) : (∃ v, validate settings given (.forest forest) = .ok v) ↔
      ReadableOpacities settings forest := by
  obtain ⟨definitions, collected⟩ := exists_definitionsFor placed given
  rw [← exists_findings_iff placed settings definitions, validate, collected]
  -- Wording and sorting the findings cannot fail.
  cases checked : findings settings definitions forest with
  | error fault => simp [diagnostics, checked, bind, Except.bind, Except.map]
  | ok found => simp [diagnostics, checked, bind, Except.bind, Except.map]

/-- The parts of a validation: the definitions behind it, what is found with them, and the report.
-/
theorem validate_eq_ok {settings : Settings} {given : Option Definitions} {v : Validation}
    (validated : validate settings given (.forest forest) = .ok v) :
    definitionsFor forest given = .ok v.definitions ∧
      ∃ found, findings settings v.definitions forest = .ok found ∧
        v.diagnostics = Diagnostic.report (found.map (·.diagnostic)) := by
  rw [validate] at validated
  cases collected : definitionsFor forest given with
  | error fault =>
    rw [collected] at validated
    cases validated
  | ok definitions =>
    rw [collected] at validated
    cases checked : findings settings definitions forest with
    | error fault =>
      simp [diagnostics, checked, bind, Except.bind, Except.map] at validated
    | ok found =>
      simp only [diagnostics, checked, bind, Except.bind, Except.map, Except.ok.injEq] at validated
      exact validated ▸ ⟨rfl, found, checked, rfl⟩

/-- A value at an offset that is not negative and a file whose offsets are those of ranges are
checked with a result, whatever the property, the settings and the definitions are, if no opacity in
what is checked has too many digits; and only then.

That the offsets are those of ranges is asked in `Forest.WellPlaced`, since a parser hands them
over. The digits are what a user writes, and so the exception is a matter of the text. -/
theorem exists_checks_iff (base : Int) (positive : 0 ≤ base) (placed : forest.WellPlaced)
    (settings : Settings) (property text : Text) (definitions : Definitions)
    (given : Option Definitions) :
    ((∃ found, Value.findings { base, property, settings, definitions } text = .ok found) ↔
      Value.ReadableOpacities settings text) ∧
    ((∃ v, validate settings given (.forest forest) = .ok v) ↔
      ReadableOpacities settings forest) :=
  ⟨Value.exists_findings_iff (by exact positive) text, exists_validate_iff placed settings given⟩

/-- A value with an opacity, and a file with a token, are checked. -/
theorem exists_checks_titledGap :
    (∃ found, Value.findings
        { base := 7, property := "fill".toText, settings := {}, definitions := {} }
        "#dark.5".toText = .ok found) ∧
      ∃ v, validate {} none (.forest titledGap) = .ok v := by
  have placed : titledGap.WellPlaced := by
    constructor
    · decide
    · decide
    · rw [paths_titledGap]
      simp [StyleValue.WellPlaced, titlePath, gapPath, InOrder]
  have readable : ReadableOpacities {} titledGap := by
    intro p hp property content start holds
    obtain ⟨stop, value⟩ := holds.exists_text
    -- The only text is that of the token.
    rw [paths_titledGap, List.mem_cons, List.mem_singleton] at hp
    rcases hp with rfl | rfl
    · cases value
    · cases value
      exact Value.readableOpacities_of_length_le {} (by decide)
  obtain ⟨value, document⟩ := exists_checks_iff 7 (by decide) placed {} "fill".toText
    "#dark.5".toText {} none
  exact ⟨value.mpr (Value.readableOpacities_of_length_le {} (by decide)), document.mpr readable⟩

/-- An opacity of a digit more than is read: `#a.` and 4301 zeros. -/
def longOpacity : Text := "#a.".toText ++ List.replicate 4301 (CodePoint.char '0')

/-- Nothing is found in a value with such an opacity: reading it fails. -/
theorem findings_longOpacity :
    Value.findings { base := 0, property := [], settings := {}, definitions := {} } longOpacity =
      .error (.numeralTooLong 4301) := by
  decide +kernel

end Document

end StyleCheck
