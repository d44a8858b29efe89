import StyleCheck.Proofs.Check.Brackets
import StyleCheck.Proofs.Check.Opacity

/-!
# What findings point at

A finding has a range in the host file and an issue. Where the value or the key that was checked
stands in the file, the range is not empty and lies in the file, and the text there is what the
issue is about: the token that was judged, or the bracket.

Rules read names off tokens. A name may be the token, or the front of it where arguments or an
opacity follow, or the end of it as with units and opacities.

## Main definitions

- `Issue.Describes`: a text is what an issue is about.
- `Span.Marks`: a range of a source with the text there.
- `Finding.Points`: the range of a finding marks what the finding is about.

## Main statements

- `Value.finds_points`, `StateKey.finds_points`: the findings in values and in state keys.
-/

namespace StyleCheck

open Text (StandsAt)

/-! ## §1 Offending texts -/

/-- A text is what an issue is about: the name that nobody knows, or a token with that name in front
or with that unit or opacity at its end; the character that no rule covers; the bracket at fault; or
the state in the wrong place. -/
def Issue.Describes : Issue → Text → Prop
  | .unknownColorToken name, text | .unknownFunction name, text => name <+: text
  | .unknownCustomProperty name, text | .unknownPreset name, text | .unknownRecipe name, text
  | .unknownAlias name, text => text = name
  | .unknownUnit unit, text => unit <:+ text
  | .invalidOpacity digits, text => CodePoint.char '.' :: digits <:+ text
  | .invalidSyntax named, text => text = named ∧ ∃ c, named = [c]
  | .unmatchedBracket closer opener, text =>
    text = [closer] ∧ Bracket.openerOf? closer = some opener
  | .mismatchedBracket closer _ _ _, text =>
    text = [closer] ∧ ∃ opener, Bracket.openerOf? closer = some opener
  | .unclosedBracket opener closer, text =>
    text = [opener] ∧ Bracket.closerOf? opener = some closer
  | .ownOutsideSubElement, text => "@own".toText <+: text
  | .startingAsProperty, text => text = "@starting".toText

/-- A range of a source is not empty, lies in the source, and a text stands there.

The slice alone would not do: a range beyond the end has the empty slice, because `Text.slice` clips
its bounds. -/
structure Span.Marks (source : Text) (span : Span) (text : Text) : Prop where
  some : span.start < span.stop
  inside : span.stop ≤ source.length
  slice : span.slice source = text

/-- The range of a finding marks what the finding is about, in the sense of `Issue.Describes`. -/
def Finding.Points (source : Text) (f : Finding) : Prop :=
  f.span.start < f.span.stop ∧ f.span.stop ≤ source.length ∧
    f.issue.Describes (f.span.slice source)

theorem Span.Marks.points {source text : Text} {f : Finding} (h : f.span.Marks source text)
    (describes : f.issue.Describes text) : f.Points source :=
  ⟨h.some, h.inside, h.slice ▸ describes⟩

/-- Where a text stands that is not empty, its range marks it. -/
theorem Span.Marks.of_standsAt {source text : Text} {span : Span} {position : Nat}
    (stands : StandsAt source position text) (some : text ≠ []) (start : span.start = position)
    (stop : span.stop = position + text.length) : span.Marks source text := by
  have long := List.length_pos_iff.mpr some
  refine ⟨by omega, ?_, ?_⟩
  · rw [stop]
    exact stands.end_le
  · rw [Span.slice, start, stop, stands.slice_eq]

/-! ## §2 Parts of a text in a source -/

section Parts

variable {source text : Text} {position : Nat}

/-- A part of a text that stands in a source stands there as well. -/
theorem standsAt_of_part {part : Text} {place : Nat} (stands : StandsAt source position text)
    (inText : StandsAt text place part) : StandsAt source (position + place) part := by
  obtain ⟨front, back, rfl, rfl⟩ := inText
  exact stands.right.left

/-- A token that is a slice of a text stands in it. -/
theorem Token.IsSliceOf.standsAt {t : Token} (slice : t.IsSliceOf text) :
    StandsAt text t.start.toNat t.text ∧ t.stop = t.start + t.text.length := by
  obtain ⟨positive, ordered, inside, same⟩ := slice
  have front : (text.drop t.start.toNat).take (t.stop.toNat - t.start.toNat) = t.text := by
    rw [same, Text.slice, List.drop_take]
  have ahead := (List.take_append_drop (t.stop.toNat - t.start.toNat)
    (text.drop t.start.toNat)).symm
  rw [front] at ahead
  refine ⟨.of_drop_eq (by omega) ahead, ?_⟩
  rw [← front, List.length_take, List.length_drop]
  omega

/-- The range of a token that is not empty, moved to where its text stands, `Marks` the token. -/
theorem marks_of_hostSpan {t : Token} {span : Span} (stands : StandsAt source position text)
    (slice : t.IsSliceOf text) (some : t.start < t.stop)
    (placed : t.hostSpan position = .ok span) : span.Marks source t.text := by
  obtain ⟨inText, stop⟩ := slice.standsAt
  rw [Token.hostSpan_eq_ok_iff ⟨slice.1, slice.2.1⟩] at placed
  have start := slice.1
  apply Span.Marks.of_standsAt (standsAt_of_part stands inText)
  · intro none
    simp [none] at stop
    omega
  · omega
  · omega

end Parts

/-! ## §3 Values -/

namespace Value

variable {context : Context} {t : Token} {text : Text}

/-- The digits of an opacity end the text, with the point in front, unless there is a line break
behind. -/
theorem suffix_of_opacityDigits? {digits : Text} (suffix : opacityDigits? text = some digits)
    (noBreak : CodePoint.char '\n' ∉ text) : CodePoint.char '.' :: digits <:+ text := by
  have ends := (opacityDigits?_eq_some_iff.mp suffix).2
  rwa [dropFinalNewline_eq_self noBreak] at ends

theorem name_isPrefix (t : Token) : t.name <+: t.text := by
  rw [Token.name]
  split
  · exact (List.takeWhile_prefix _).trans (List.takeWhile_prefix _)
  · exact List.takeWhile_prefix _

/-- The name that a rule looks up is told by the text of the token: `Lookup.nameOf` takes a front or
an end of it, or the whole. -/
theorem Lookup.describes (lookup : Lookup) (t : Token) :
    (lookup.issue (lookup.nameOf t)).Describes t.text := by
  cases lookup with
  | colorToken => exact name_isPrefix t
  | customProperty => rfl
  | unit => exact unitOf_suffix t.text
  | preset => rfl
  | recipe => rfl
  | function => exact name_isPrefix t

/-- What the rules find at a token stands at its place and is told by its text, in the sense of
`Issue.Describes`.

The digits of an opacity end a colour only where no line break follows them, which no colour of a
value has. -/
theorem describes_rules (noBreak : t.kind = .colorToken → CodePoint.char '\n' ∉ t.text) :
    ∀ rule ∈ defaultRules, Finds (fun f =>
      t.hostSpan context.base = .ok f.span ∧ f.issue.Describes t.text) (rule.check context t) := by
  apply finds_rules
  · exact fun color _ suffix _ _ placed =>
      ⟨placed, suffix_of_opacityDigits? suffix (noBreak color)⟩
  · exact fun lookup _ _ _ placed => ⟨placed, lookup.describes t⟩

theorem isSliceOf_of_mem_flatten {lexicon : Lexicon} (ht : t ∈ Token.flatten (lex lexicon text)) :
    t.IsSliceOf text ∧ t.start < t.stop := by
  obtain ⟨place, c, cs, stands, rfl⟩ := exists_firstToken_of_mem_flatten (StandsAt.self text) ht
  exact (lexes lexicon).first_isSliceOf stands

/-- What is found in a value that stands in a source `Points` there at what it is about. -/
theorem finds_points {source : Text} {position : Nat} (stands : StandsAt source position text)
    (base : context.base = position) : Finds (Finding.Points source) (findings context text) := by
  rw [findings_eq]
  refine finds_runAll fun t ht rule hrule => ?_
  -- A token is a slice of the value, and so a slice of the source the value stands in.
  obtain ⟨slice, some⟩ := isSliceOf_of_mem_flatten ht
  refine (describes_rules (newline_notMem_of_colorToken ht) rule hrule).mono ?_
  rintro f ⟨placed, describes⟩
  rw [base] at placed
  exact (marks_of_hostSpan stands slice some placed).points describes

end Value

/-! ## §4 State keys -/

namespace StateKey

namespace Lexeme

/-- `own` is the only keyword of an own-state. -/
theorem eq_own_of_atState? {keyword : Text} {body : Body}
    (known : atState? keyword = some (.ownState, body)) : keyword = "own".toText := by
  unfold atState? at known
  split_ifs at known with media supports root own
  · cases known
  · cases known
  · cases known
  · exact beq_iff_eq.mp own

/-- The kinds behind the sign are those of states, and the name of an own-state is the keyword. -/
theorem advanced_kind (aliases : List Text) (position : Nat) (cs : Text) :
    (advanced aliases position cs).kind ≠ .unknown ∧
      ((advanced aliases position cs).kind = .ownState →
        "own".toText <+: (advanced aliases position cs).tail) := by
  unfold advanced
  split
  · exact ⟨TokenKind.noConfusion, TokenKind.noConfusion⟩
  · dsimp only
    by_cases configured : aliases.contains (CodePoint.char '@' :: Text.dashedName cs) = true
    · rw [if_pos configured]
      exact ⟨TokenKind.noConfusion, TokenKind.noConfusion⟩
    · rw [if_neg configured]
      split
      · next kind body inside known _ =>
        refine ⟨kind_ne_of_atState? known rfl, ?_⟩
        rintro rfl
        rw [eq_own_of_atState? known]
        exact List.prefix_append _ _
      · next kind body known _ =>
        refine ⟨kind_ne_of_atState? known rfl, ?_⟩
        rintro rfl
        exact ⟨[], by rw [List.append_nil, eq_own_of_atState? known]⟩
      · -- Neither a keyword nor an alias of the project: the kind is one of the two that remain.
        split_ifs <;> exact ⟨TokenKind.noConfusion, nofun⟩

variable {aliases : List Text} {position : Nat} {c : CodePoint} {cs : Text}

/-- A character that no rule covers is a token of its own, so what `.unknown` points at is one
character. -/
theorem tail_of_unknown (unknown : (read aliases position c cs).kind = .unknown) :
    (read aliases position c cs).tail = [] := by
  unfold read at unknown ⊢
  split_ifs at unknown ⊢ with blank operator punctuation colon point bracket sign start
  · rw [pseudo_kind] at unknown
    cases unknown
  · exact absurd unknown (advanced_kind aliases position cs).1
  · have unknown : (modifier true cs).1 = .unknown := unknown
    rcases modifier_kind true cs with kind | kind <;> simp [kind] at unknown
  · rfl

/-- An own-state is written with its keyword in front. -/
theorem own_isPrefix (own : (read aliases position c cs).kind = .ownState) :
    "@own".toText <+: c :: (read aliases position c cs).tail := by
  unfold read at own ⊢
  split_ifs at own ⊢ with blank operator punctuation colon point bracket sign start
  · rw [pseudo_kind] at own
    cases own
  · rw [beq_iff_eq] at sign
    rw [sign]
    exact List.cons_prefix_cons.mpr ⟨rfl, (advanced_kind aliases position cs).2 own⟩
  · have own : (modifier true cs).1 = .ownState := own
    rcases modifier_kind true cs with kind | kind <;> simp [kind] at own

end Lexeme

variable {context : Context} {t : Token} {key : Text} {aliases : List Text}

theorem text_of_unknown (ht : t ∈ lex aliases key) (unknown : t.kind = .unknown) :
    ∃ c, t.text = [c] := by
  obtain ⟨position, c, cs, -, rfl⟩ := exists_firstToken_of_mem_lex ht (by simp [unknown])
  exact ⟨c, congrArg (c :: ·) (Lexeme.tail_of_unknown unknown)⟩

/-- `own_isPrefix` for the tokens of a whole key. -/
theorem text_of_ownState (ht : t ∈ lex aliases key) (own : t.kind = .ownState) :
    "@own".toText <+: t.text := by
  obtain ⟨position, c, cs, -, rfl⟩ := exists_firstToken_of_mem_lex ht (by simp [own])
  exact Lexeme.own_isPrefix own

theorem describes_rules (ht : t ∈ lex aliases key) : ∀ rule ∈ defaultRules, Finds (fun f =>
    t.hostSpan context.base = .ok f.span ∧ f.issue.Describes t.text) (rule.check context t) := by
  apply finds_rules
  · exact fun unknown _ placed => ⟨placed, rfl, text_of_unknown ht unknown⟩
  · exact fun own _ _ placed => ⟨placed, text_of_ownState ht own⟩
  · exact fun _ _ _ placed => ⟨placed, rfl⟩

end StateKey

namespace Bracket

variable {source key : Text} {position : Nat}

/-- The range of a character marks it: `charPlace` is what brackets are reported at. -/
theorem marks_charPlace (stands : StandsAt source position key) {i : Nat} {c : CodePoint}
    (here : key[i]? = some c) : (charPlace position i).Marks source [c] := by
  obtain ⟨inside, rfl⟩ := List.getElem?_eq_some_iff.mp here
  have inKey : StandsAt key i [key[i]] := by
    have ahead : key.drop i = [key[i]] ++ key.drop (i + 1) := by
      rw [List.drop_eq_getElem_cons inside, List.singleton_append]
    exact .of_drop_eq (Nat.le_of_lt inside) ahead
  exact .of_standsAt (standsAt_of_part stands inKey) (List.cons_ne_nil _ _) rfl rfl

/-- What is found about brackets points at a single bracket.

The findings come from the pairs and from what the walk leaves open, and `inText_pairing` says of
both where they stand in the key. -/
theorem finds_points (stands : StandsAt source position key) :
    Finds (Finding.Points source) (findings position key) := by
  rw [findings_eq]
  refine finds_ok fun f mem => ?_
  have start : key.drop 0 = key := List.drop_zero
  obtain ⟨closings, unclosed⟩ := inText_pairing start (List.forall_mem_nil _)
  rcases List.mem_append.mp mem with closing | opening
  · obtain ⟨closing, mem, finding⟩ := List.mem_filterMap.mp closing
    obtain ⟨here, closes⟩ := closings closing mem
    obtain ⟨issue, atFault, rfl⟩ := Option.map_eq_some_iff.mp finding
    refine (marks_charPlace stands here).points ?_
    -- A closing bracket is at fault where nothing is open or where the other sort is.
    unfold closingIssue? at atFault
    split at atFault
    · cases atFault
      exact ⟨rfl, closes⟩
    · split at atFault
      · cases atFault
      · cases atFault
        exact ⟨rfl, _, closes⟩
  · obtain ⟨bracket, left, rfl⟩ := List.mem_map.mp opening
    obtain ⟨here, opens⟩ := unclosed bracket (List.mem_reverse.mp left)
    exact (marks_charPlace stands here).points ⟨rfl, opens⟩

end Bracket

/-- What is found in a state key that stands in a source points there at what it is about: brackets
at a character, everything else at a token. -/
theorem StateKey.finds_points {context : Context} {source key : Text} {position : Nat}
    (stands : StandsAt source position key) (base : context.base = position) :
    Finds (Finding.Points source) (findings context key) := by
  refine finds_unless fun notExempt => finds_append ?_ ?_
  · rw [base]
    exact Bracket.finds_points stands
  · have some : key ≠ [] := by
      rintro rfl
      exact notExempt rfl
    rw [findingsOfTokens_eq]
    refine finds_runAll fun t ht rule hrule => ?_
    obtain ⟨slice, long⟩ := isSliceOf_of_mem_lex ht
    refine (describes_rules ht rule hrule).mono ?_
    rintro f ⟨placed, describes⟩
    rw [base] at placed
    exact (marks_of_hostSpan stands slice (long some) placed).points describes

end StyleCheck
