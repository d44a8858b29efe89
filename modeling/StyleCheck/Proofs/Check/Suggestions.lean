import StyleCheck.Proofs.Check.Verdict
import StyleCheck.Proofs.Suggestion
import StyleCheck.Proofs.Value.Lexicon

/-!
# What the checks suggest

A check that reports an unknown name has a set of names that it accepts, and it draws up a list of
candidates for its suggestion. The two are written down apart from each other. All candidates are
names that the check accepts, so that a suggestion can be followed. But not all names that a check
accepts are candidates: the reserved colours are none, and where words are presets or recipes, the
values that every property accepts are none either.

## Main definitions

- `Issue.accepted`: the names that the check behind an issue accepts.
- `Issue.offered`, `Issue.tacit`: those that it suggests, and those that it does not.
- `Finding.Offers`: the suggestion of a finding is the closest of the names that are offered.

## Main statements

- `Value.Lookup.unknown_iff_accepted`: an unknown name is one that is not accepted.
- `Obligation.finds_offers`: every unknown name is reported with the closest name on offer.
- `Obligation.suggestions_sound`: what is suggested is accepted, and close to what was written.
- `Value.suggestions_complete`: if a name on offer is close enough, then one that is closest is
  suggested.
- `Value.findings_tacit`: names that are accepted and close enough, and are not suggested.
-/

namespace StyleCheck

/-! ## §1 Names that are accepted -/

namespace Issue

/-- The character that all names of the sort start with, where there is one. -/
def sigil? : Issue → Option CodePoint
  | unknownColorToken _ => some '#'
  | unknownCustomProperty _ => some '$'
  | _ => none

/-- The tokens of the project and of the file that start with a sigil. Both sorts, `#name` and
`$name`, are listed together in a project. -/
def tokensWith (sigil : CodePoint) (settings : Settings) (definitions : Definitions) : List Text :=
  (settings.tokens.listed ++ definitions.tokens).filter (·.head? == some sigil)

/-- The names that the check behind an issue accepts and has in mind for a suggestion. What it
accepts besides is `tacit`. -/
def offered (settings : Settings) (definitions : Definitions) : Issue → List Text
  | unknownColorToken _ => tokensWith '#' settings definitions
  | unknownCustomProperty _ => tokensWith '$' settings definitions
  | unknownUnit _ => settings.units.listed ++ Vocabulary.builtInUnits
  | unknownPreset _ => settings.presets ++ Vocabulary.presetModifiers
  | unknownRecipe _ => settings.recipes
  | unknownFunction _ => settings.funcs.listed ++ Vocabulary.cssFunctions
  | unknownAlias _ => settings.states ++ definitions.states
  | _ => []

/-- The names that it accepts without a thought of suggesting them. These are all of `Vocabulary`
and none of the project. -/
def tacit : Issue → List Text
  | unknownColorToken _ => Vocabulary.reservedColorTokens
  | unknownPreset _ | unknownRecipe _ => Vocabulary.cssGlobalValues
  | _ => []

/-- All names that the check behind an issue accepts: those that are `tacit`, and those that are
`offered`. -/
def accepted (settings : Settings) (definitions : Definitions) (issue : Issue) : List Text :=
  issue.tacit ++ issue.offered settings definitions

variable {settings : Settings} {definitions : Definitions} {issue : Issue} {name : Text}
  {sigil : CodePoint}

theorem mem_accepted_of_offered (h : name ∈ issue.offered settings definitions) :
    name ∈ issue.accepted settings definitions :=
  List.mem_append_right _ h

theorem mem_tokensWith : name ∈ tokensWith sigil settings definitions ↔
    (name ∈ settings.tokens.listed ∨ name ∈ definitions.tokens) ∧ name.head? = some sigil := by
  rw [tokensWith, List.mem_filter, List.mem_append, beq_iff_eq]

/-- All names of the sort start with its `sigil?`. -/
theorem head?_of_mem_offered (h : name ∈ issue.offered settings definitions)
    (sort : issue.sigil? = some sigil) : name.head? = some sigil := by
  cases issue <;> cases sort
  · exact (mem_tokensWith.mp h).2
  · exact (mem_tokensWith.mp h).2

end Issue

/-! ## §2 Sigils -/

namespace Value

open Text

variable {context : Context} {lookup : Lookup} {name : Text} {t : Token}

theorem Lookup.sigilOf?_kind (lookup : Lookup) (name : Text) :
    sigilOf? lookup.kind = (lookup.issue name).sigil? := by
  cases lookup <;> rfl

/-- The name of a colour starts as its token does. The name is cut at a bracket or at a point, and
the sigil is neither. -/
theorem head?_name {sigil : CodePoint} (starts : t.text.head? = some sigil)
    (call : sigil ≠ CodePoint.char '(') (suffix : sigil ≠ CodePoint.char '.') :
    t.name.head? = some sigil := by
  obtain ⟨rest, text⟩ : ∃ rest, t.text = sigil :: rest := by
    cases text : t.text with
    | nil => simp [text] at starts
    | cons c rest =>
      rw [text, List.head?_cons, Option.some.injEq] at starts
      exact ⟨rest, by rw [starts]⟩
  rw [Token.name, text]
  split <;> simp [upTo, call, suffix]

/-- The name that a rule looks up starts with the sigil of its sort, since the lexer tells the sort
by the sigil: `Lexeme.eq_sigil_of_read`. -/
theorem Lookup.head?_nameOf {lexicon : Lexicon} {text : Text}
    (ht : t ∈ Token.flatten (lex lexicon text)) (kind : t.kind = lookup.kind) {sigil : CodePoint}
    (sort : (lookup.issue name).sigil? = some sigil) :
    (lookup.nameOf t).head? = some sigil := by
  rw [← lookup.sigilOf?_kind, ← kind] at sort
  have starts : t.text.head? = some sigil := by
    obtain ⟨place, c, cs, -, rfl⟩ := exists_firstToken_of_mem_flatten (StandsAt.self text) ht
    exact congrArg some (Lexeme.eq_sigil_of_read sort)
  rw [kind] at sort
  -- Only two of the rules look up names with a sigil.
  cases lookup <;> cases sort
  · exact head?_name starts (by decide) (by decide)
  · exact starts

/-! ## §3 Candidates -/

namespace Lookup

/-- Whether the names of the category are limited at all. A number without a unit is always fine, so
`unit` asks for a name too. -/
def Checks (lookup : Lookup) (context : Context) (name : Text) : Prop :=
  lookup.permitted context ≠ .anything ∧ (lookup = .unit → name ≠ [])

/-- Where names are checked, an unknown name is one that is not accepted.

This relates the conditions of the rules to the lists of `Issue.accepted`. A name has to start with
the sigil of its sort, because the rules for colours and custom properties ask for it among all
tokens. -/
theorem unknown_iff_accepted
    (starts : ∀ sigil, (lookup.issue name).sigil? = some sigil → name.head? = some sigil) :
    lookup.Unknown context name ↔ lookup.Checks context name ∧
      name ∉ (lookup.issue name).accepted context.settings context.definitions := by
  rw [unknown_iff, Permitted.excludes_iff, Checks, and_assoc, and_assoc]
  refine and_congr_right fun checked => ?_
  cases lookup with
  | colorToken | customProperty =>
    -- The rule asks for the name among all tokens, but only those with its sigil can be meant.
    have sort := starts _ rfl
    simp [issue, permitted, builtIn, defined, Issue.accepted, Issue.tacit, Issue.offered,
      Issue.mem_tokensWith, sort, and_left_comm]
  | unit =>
    simp [issue, permitted, builtIn, defined, Issue.accepted, Issue.tacit, Issue.offered,
      and_left_comm]
  | function =>
    simp [issue, permitted, builtIn, defined, Issue.accepted, Issue.tacit, Issue.offered]
  | preset | recipe =>
    simp only [permitted] at checked ⊢
    rw [Context.listed_wordsUnder checked]
    simp [issue, builtIn, defined, Issue.accepted, Issue.tacit, Issue.offered, and_comm,
      and_assoc]

/-- The candidates are the names on offer, if not in the same order. `Lookup.candidates` has them as
the rule puts them together. -/
theorem mem_candidates_iff {other : Text} (checked : lookup.permitted context ≠ .anything) :
    other ∈ lookup.candidates context ↔
      other ∈ (lookup.issue name).offered context.settings context.definitions := by
  cases lookup with
  | colorToken | customProperty =>
    -- The names of the file are sorted, which does not change what they are.
    simp [candidates, issue, permitted, Issue.offered, Issue.mem_tokensWith, knownTokens,
      Text.sort, or_and_right]
  | unit | function => exact Iff.rfl
  | preset | recipe =>
    simp only [permitted, candidates] at checked ⊢
    rw [Context.listed_wordsUnder checked]
    exact Iff.rfl

end Lookup

end Value

/-! ## §4 Offers -/

/-- A finding about an unknown name offers the closest of the names that are `offered`. -/
structure Finding.Offers (settings : Settings) (definitions : Definitions) (f : Finding)
    (name : Text) : Prop where
  /-- The name is not accepted. -/
  unknown : name ∉ f.issue.accepted settings definitions
  /-- It is of the sort that is looked for. -/
  sort : ∀ sigil, f.issue.sigil? = some sigil → name.head? = some sigil
  /-- The suggestion is the closest of the names on offer. -/
  closest : ∃ candidates, f.suggestion = suggest? name candidates ∧
    ∀ other, other ∈ candidates ↔ other ∈ f.issue.offered settings definitions

/-- Where the `check` does not fail, all unknown names that it finds come with an offer. -/
abbrev FindsOffers (settings : Settings) (definitions : Definitions)
    (check : Except Fault (List Finding)) : Prop :=
  Finds (fun f => ∀ name, f.issue.unknownName? = some name → f.Offers settings definitions name)
    check

namespace Finding.Offers

variable {settings : Settings} {definitions : Definitions} {f : Finding} {name : Text}

/-- What is suggested is on offer and in reach, and nothing on offer is closer. That is what
`suggest?` promises of its candidates. -/
theorem reached (h : f.Offers settings definitions name) {s : Text} (hs : f.suggestion = some s) :
    s ∈ f.issue.offered settings definitions ∧ InReach name s ∧
      ∀ other ∈ f.issue.offered settings definitions, InReach name other →
        nameDistance name s ≤ nameDistance name other := by
  obtain ⟨candidates, suggestion, onOffer⟩ := h.closest
  obtain ⟨candidate, inReach, least⟩ := mem_of_suggest? (suggestion.symm.trans hs)
  refine ⟨(onOffer s).mp candidate, inReach, fun other known => ?_⟩
  exact least other ((onOffer other).mpr known)

/-- Something is suggested if a name on offer is `InReach`. -/
theorem exists_suggestion (h : f.Offers settings definitions name) {other : Text}
    (known : other ∈ f.issue.offered settings definitions) (inReach : InReach name other) :
    ∃ s, f.suggestion = some s := by
  obtain ⟨candidates, suggestion, onOffer⟩ := h.closest
  rw [suggestion]
  exact exists_suggest? ((onOffer other).mpr known) inReach

end Finding.Offers

namespace Value

variable {context : Context} {t : Token}

/-- What a rule finds comes with an offer for the name that it has looked up, `Lookup.nameOf`. -/
theorem Lookup.offers_finding {lexicon : Lexicon} {text : Text}
    (ht : t ∈ Token.flatten (lex lexicon text)) {lookup : Lookup} (kind : t.kind = lookup.kind)
    (unknown : lookup.Unknown context (lookup.nameOf t)) (span : Span) :
    (lookup.finding context (lookup.nameOf t) span).Offers context.settings context.definitions
      (lookup.nameOf t) := by
  have starts (sigil : CodePoint)
      (sort : (lookup.issue (lookup.nameOf t)).sigil? = some sigil) :
      (lookup.nameOf t).head? = some sigil := lookup.head?_nameOf ht kind sort
  obtain ⟨checked, notAccepted⟩ := (unknown_iff_accepted starts).mp unknown
  exact ⟨notAccepted, starts, _, rfl, fun other => mem_candidates_iff checked.1⟩

/-- Every unknown name in a value is reported with an offer, in the sense of `Finding.Offers`. -/
theorem finds_offers (context : Context) (text : Text) :
    FindsOffers context.settings context.definitions (findings context text) := by
  rw [findings_eq]
  refine finds_runAll fun t ht => ?_
  apply finds_rules
  · exact fun _ _ _ _ _ _ => nofun
  · intro lookup kind unknown span _ name named
    obtain rfl : lookup.nameOf t = name :=
      Option.some.inj ((lookup.unknownName?_issue _).symm.trans named)
    exact lookup.offers_finding ht kind unknown span

end Value

/-- Every unknown alias in a state key is reported with an offer. Nothing else that is found in a
state key has a name. -/
theorem StateKey.finds_offers (context : Context) (key : Text) :
    FindsOffers context.settings context.definitions (findings context key) := by
  refine finds_unless fun _ => finds_append ?_ ?_
  · refine (Bracket.finds context.base key).mono fun f bracket name named => ?_
    rw [bracket.nameless] at named
    cases named
  · rw [findingsOfTokens_eq]
    refine finds_runAll fun t _ => ?_
    apply finds_rules
    · exact fun _ _ _ => nofun
    · exact fun _ _ _ _ => nofun
    · intro _ unknown span _ name named
      obtain rfl : t.text = name := Option.some.inj named
      refine ⟨unknown, nofun, _, rfl, fun other => ?_⟩
      simp [Issue.offered, Text.sort]

/-- Every unknown name is reported with the closest name on offer, be it in a value or in a state
key. The two cases are `Value.finds_offers` and `StateKey.finds_offers`. -/
theorem Obligation.finds_offers (settings : Settings) (definitions : Definitions)
    (o : Obligation) : FindsOffers settings definitions (o.findings settings definitions) := by
  cases o with
  | value property text start => exact Value.finds_offers _ text
  | stateKey inside key start => exact StateKey.finds_offers _ key
  | startingProperty key => exact finds_at fun _ _ => nofun

/-! ## §5 Suggestions -/

theorem Finding.suggestions_diagnostic (f : Finding) :
    f.diagnostic.suggestions = f.suggestion.toList := rfl

/-- A diagnostic about a value, a state key or the starting state holds one suggestion at most, and
only an unknown name comes with one.

What is suggested is a name that the check accepts, other than the one that was written. Both start
with the sigil of their sort, and at most three edits turn the one into the other, letter case
apart. -/
theorem Obligation.suggestions_sound {settings : Settings} {definitions : Definitions}
    {o : Obligation} {found : List Finding} (checked : o.findings settings definitions = .ok found)
    {f : Finding} (mem : f ∈ found) :
    f.diagnostic.suggestions.length ≤ 1 ∧
      ∀ s ∈ f.diagnostic.suggestions, ∃ name, f.issue.unknownName? = some name ∧
        s ∈ f.issue.accepted settings definitions ∧ s ≠ name ∧
        (∀ sigil, f.issue.sigil? = some sigil →
          name.head? = some sigil ∧ s.head? = some sigil) ∧
        ∃ n ≤ 3, EditableIn n name.lower s.lower := by
  rw [f.suggestions_diagnostic]
  refine ⟨Option.length_toList_le, fun s hs => ?_⟩
  rw [Option.mem_toList] at hs
  -- Nothing is suggested for an issue that is not about a name.
  have named : f.issue.unknownName? ≠ none := by
    intro nameless
    rw [(o.findsPlain settings definitions found checked f mem).unsuggested nameless] at hs
    cases hs
  obtain ⟨name, named⟩ := Option.ne_none_iff_exists'.mp named
  have offers : f.Offers settings definitions name :=
    o.finds_offers settings definitions found checked f mem name named
  obtain ⟨onOffer, inReach, -⟩ := offers.reached hs
  have known := Issue.mem_accepted_of_offered onOffer
  -- It is another name than the one written, since it is accepted and that one is not.
  refine ⟨name, named, known, ?_, fun sigil sort => ⟨offers.sort sigil sort, ?_⟩, inReach.editable⟩
  · rintro rfl
    exact offers.unknown known
  · exact Issue.head?_of_mem_offered onOffer sort

/-- A check that comes to a result when it is run. `Except` has no decidable equality here, and
`Option` has. -/
theorem eq_ok_of_toOption {check : Except Fault (List Finding)} {found : List Finding}
    (run : check.toOption = some found) : check = .ok found := by
  cases check with
  | error fault => cases run
  | ok found' => exact congrArg Except.ok (Option.some.inj run)

/-- A misspelled alias in a state key. -/
theorem Obligation.suggestions_sound_alias : ∃ found f,
    (Obligation.stateKey false "@moblie".toText 4).findings
      { states := ["@mobile".toText] } {} = .ok found ∧ f ∈ found ∧
    f.diagnostic.suggestions = ["@mobile".toText] ∧ f.diagnostic.suggestions.length ≤ 1 ∧
      "@mobile".toText ∈ f.issue.accepted { states := ["@mobile".toText] } {} ∧
      ∃ n ≤ 3, EditableIn n "@moblie".toText.lower "@mobile".toText.lower := by
  have checked : (Obligation.stateKey false "@moblie".toText 4).findings
      { states := ["@mobile".toText] } {} =
        .ok [{ issue := .unknownAlias "@moblie".toText, span := ⟨4, 11, by decide⟩
               suggestion := some "@mobile".toText }] :=
    eq_ok_of_toOption (by decide +kernel)
  obtain ⟨one, each⟩ := Obligation.suggestions_sound checked List.mem_cons_self
  obtain ⟨name, named, known, -, -, near⟩ := each _ List.mem_cons_self
  obtain rfl : "@moblie".toText = name := Option.some.inj named
  exact ⟨_, _, checked, List.mem_cons_self, rfl, one, known, near⟩

namespace Value

/-- An unknown name in a value is reported with a suggestion if a name that the check accepts is in
reach, unless that is one of the `tacit` names and not listed besides.

The suggestion is accepted and in reach, and it is no farther off than any such name. -/
theorem suggestions_complete {settings : Settings} {definitions : Definitions} {base : Int}
    {property text : Text} {found : List Finding}
    (checked : findings { base, property, settings, definitions } text = .ok found) {f : Finding}
    (mem : f ∈ found) {name : Text} (unknown : f.issue.unknownName? = some name)
    (known : ∃ other ∈ f.issue.accepted settings definitions, InReach name other ∧
      (other ∈ f.issue.tacit → other ∈ f.issue.offered settings definitions)) :
    ∃ s, f.diagnostic.suggestions = [s] ∧ s ∈ f.issue.accepted settings definitions ∧
      InReach name s ∧
      ∀ other ∈ f.issue.accepted settings definitions, InReach name other →
        (other ∈ f.issue.tacit → other ∈ f.issue.offered settings definitions) →
          nameDistance name s ≤ nameDistance name other := by
  have offers : f.Offers settings definitions name := finds_offers
    { base, property, settings, definitions } text found checked f mem name unknown
  -- What is accepted is offered, unless it is tacit, and then it has to be listed besides.
  have listed {other : Text} (known : other ∈ f.issue.accepted settings definitions)
      (besides : other ∈ f.issue.tacit → other ∈ f.issue.offered settings definitions) :
      other ∈ f.issue.offered settings definitions := (List.mem_append.mp known).elim besides id
  obtain ⟨other, known, near, besides⟩ := known
  obtain ⟨s, suggested⟩ := offers.exists_suggestion (listed known besides) near
  obtain ⟨onOffer, inReach, least⟩ := offers.reached suggested
  refine ⟨s, ?_, Issue.mem_accepted_of_offered onOffer, inReach, ?_⟩
  · rw [f.suggestions_diagnostic, suggested]
    rfl
  · intro other known near besides
    exact least other (listed known besides) near

/-- A misspelled colour, with two colours in reach: `#primary` is one edit away, and `#prime` is
two. -/
theorem suggestions_complete_colors : ∃ found f,
    findings { base := 0, property := "color".toText, definitions := {},
               settings := { tokens := .only ["#prime".toText, "#primary".toText] } }
      "#primry".toText = .ok found ∧ f ∈ found ∧
    InReach "#primry".toText "#prime".toText ∧
    ∃ s, f.diagnostic.suggestions = [s] ∧
      nameDistance "#primry".toText s ≤ nameDistance "#primry".toText "#primary".toText := by
  have checked : findings
      { base := 0, property := "color".toText, definitions := {},
        settings := { tokens := .only ["#prime".toText, "#primary".toText] } }
      "#primry".toText =
        .ok [{ issue := .unknownColorToken "#primry".toText, span := ⟨0, 7, by decide⟩
               suggestion := some "#primary".toText }] :=
    eq_ok_of_toOption (by decide +kernel)
  obtain ⟨s, one, -, -, least⟩ := suggestions_complete checked List.mem_cons_self rfl
    ⟨"#prime".toText, by decide +kernel, by decide +kernel, by decide +kernel⟩
  refine ⟨_, _, checked, List.mem_cons_self, by decide +kernel, s, one, ?_⟩
  exact least "#primary".toText (by decide +kernel) (by decide +kernel) (by decide +kernel)

/-- Names that are accepted and in reach, and that are not suggested: a reserved colour, and a value
that every property accepts, in the place of a preset and of a recipe. -/
theorem findings_tacit :
    ((findings { base := 0, property := "color".toText, definitions := {},
                 settings := { tokens := .only [] } } "#curent".toText).toOption =
        some [{ issue := .unknownColorToken "#curent".toText, span := ⟨0, 7, by decide⟩ }] ∧
      "#current".toText ∈ (Issue.unknownColorToken "#curent".toText).accepted
        { tokens := .only [] } {} ∧
      InReach "#curent".toText "#current".toText) ∧
    ((findings { base := 0, property := "preset".toText, definitions := {},
                 settings := { presets := ["h1".toText] } } "inherrit".toText).toOption =
        some [{ issue := .unknownPreset "inherrit".toText, span := ⟨0, 8, by decide⟩ }] ∧
      "inherit".toText ∈ (Issue.unknownPreset "inherrit".toText).accepted
        { presets := ["h1".toText] } {} ∧
      InReach "inherrit".toText "inherit".toText) ∧
    ((findings { base := 0, property := "recipe".toText, definitions := {},
                 settings := { recipes := ["card".toText] } } "unsett".toText).toOption =
        some [{ issue := .unknownRecipe "unsett".toText, span := ⟨0, 6, by decide⟩ }] ∧
      "unset".toText ∈ (Issue.unknownRecipe "unsett".toText).accepted
        { recipes := ["card".toText] } {} ∧
      InReach "unsett".toText "unset".toText) := by
  decide +kernel

end Value

end StyleCheck
