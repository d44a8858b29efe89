import StyleCheck.Proofs.Check.Lookup
import StyleCheck.Proofs.Token.Names

/-!
# All findings are plain

What the checks find can be taken apart from its wording: the names that nobody knows are read off
tokens and hold no quote, and nothing is suggested for any other issue.

## Main definitions

- `FindsPlain`: a check finds plain findings, unless it fails.
- `Value.Quoteless`: no name that is read off a token holds a quote.

## Main statements

- `Value.findsPlain`, `StateKey.findsPlain`: values and state keys.
- `Document.findsPlain`: forests.
-/

namespace StyleCheck

/-- Where the `check` does not fail, all that it finds is plain. -/
abbrev FindsPlain (check : Except Fault (List Finding)) : Prop := Finds Finding.IsPlain check

/-! ## §1 Values -/

namespace Value

variable {context : Context} {t : Token}

/-- No name that is read off the token holds a `quote`. -/
def Quoteless (t : Token) : Prop :=
  quote ∉ t.text ∨ t.kind ∈ namelessKinds ∨ t.kind = .function ∧ quote ∉ Text.upTo '(' t.text

theorem Quoteless.text (h : Quoteless t) (named : t.kind ∉ namelessKinds)
    (noCall : t.kind ≠ .function) : quote ∉ t.text := by
  obtain all | nameless | call := h
  · exact all
  · exact absurd nameless named
  · exact absurd call.1 noCall

/-- The name of a token holds no quote, be it a call or not; the kinds in `namelessKinds` have no
name. -/
theorem Quoteless.name (h : Quoteless t) (named : t.kind ∉ namelessKinds) : quote ∉ t.name := by
  have head : quote ∉ Text.upTo '(' t.text := by
    obtain all | nameless | call := h
    · exact fun there => all (List.takeWhile_subset _ there)
    · exact absurd nameless named
    · exact call.2
  rw [Token.name]
  split
  · exact fun there => head (List.takeWhile_subset _ there)
  · exact head

theorem unitOf_suffix (text : Text) : unitOf text <:+ text := by
  unfold unitOf
  dsimp only
  split
  · exact (List.dropWhile_suffix _).trans (List.suffix_cons _ _)
  · exact (List.dropWhile_suffix _).trans (List.suffix_cons _ _)
  · exact List.dropWhile_suffix _

/-- The name that a rule looks up holds no quote: it is a part of the token, and a call has its name
in front of the bracket. For units that part is the end, by `unitOf_suffix`. -/
theorem Quoteless.nameOf {lookup : Lookup} (h : Quoteless t) (kind : t.kind = lookup.kind) :
    quote ∉ lookup.nameOf t := by
  have named : t.kind ∉ namelessKinds := by
    rw [kind]
    cases lookup <;> decide
  cases lookup with
  | colorToken => exact h.name named
  | function => exact h.name named
  | customProperty => exact h.text named (by simp [kind, Lookup.kind])
  | unit =>
    have inText := h.text named (by simp [kind, Lookup.kind])
    exact fun there => inText ((unitOf_suffix _).subset there)
  | preset => exact h.text named (by simp [kind, Lookup.kind])
  | recipe => exact h.text named (by simp [kind, Lookup.kind])

/-- What a rule finds is about the name that it has looked up, so it `IsPlain` where this name holds
no quote. -/
theorem Lookup.isPlain_finding (h : Quoteless t) {lookup : Lookup} (kind : t.kind = lookup.kind)
    (span : Span) : (lookup.finding context (lookup.nameOf t) span).IsPlain := by
  have unknown : (lookup.finding context (lookup.nameOf t) span).issue.unknownName? =
      some (lookup.nameOf t) := lookup.unknownName?_issue _
  refine ⟨fun name named => ?_, fun nameless => ?_⟩
  · rw [unknown, Option.some.injEq] at named
    exact named ▸ h.nameOf kind
  · rw [unknown] at nameless
    cases nameless

theorem findsPlain_rules (h : Quoteless t) :
    ∀ rule ∈ defaultRules, FindsPlain (rule.check context t) := by
  apply finds_rules
  · -- An opacity is no name, and none is suggested for it.
    exact fun _ _ _ _ _ _ => ⟨nofun, fun _ => rfl⟩
  · exact fun lookup kind _ span _ => lookup.isPlain_finding h kind span

/-- What is found in a value is plain: `Quoteless` holds of all tokens that the lexer makes. -/
theorem findsPlain (context : Context) (text : Text) : FindsPlain (findings context text) :=
  finds_bind fun _ _ => finds_runAll fun _ ht =>
    findsPlain_rules (quoteless_of_mem_flatten ht)

end Value

/-! ## §2 State keys -/

/-- The issue is about a bracket. -/
def Issue.isBracket : Issue → Bool
  | .unmatchedBracket .. | .mismatchedBracket .. | .unclosedBracket .. => true
  | _ => false

/-- What is found about a bracket; nothing is suggested for it. -/
structure Finding.IsBracket (f : Finding) : Prop where
  issue : f.issue.isBracket = true
  unsuggested : f.suggestion = none

theorem Finding.IsBracket.nameless {f : Finding} (h : f.IsBracket) :
    f.issue.unknownName? = none := by
  have bracket := h.issue
  cases issue : f.issue <;> simp_all [Issue.isBracket, Issue.unknownName?]

theorem Finding.IsBracket.isPlain {f : Finding} (h : f.IsBracket) : f.IsPlain :=
  ⟨fun name hname => by simp [h.nameless] at hname, fun _ => h.unsuggested⟩

namespace Bracket

/-- What is wrong with a closing bracket is an issue about brackets. -/
theorem isBracket_of_closingIssue? {closer opener : CodePoint} {last : Option Open}
    {issue : Issue} (h : closingIssue? closer opener last = some issue) :
    issue.isBracket = true := by
  unfold closingIssue? at h
  split at h
  · cases h
    rfl
  · split at h
    · cases h
    · cases h
      rfl

/-- What is found on the walk through a key is about brackets, each by `isBracket_of_closingIssue?`.
-/
theorem finds_scan (base : Int) (key : Text) (position : Nat) (stack : List Open) :
    Finds Finding.IsBracket ((scan base position stack key).map Prod.fst) := by
  induction key generalizing position stack with
  | nil => exact finds_nil
  | cons c cs ih =>
    rw [scan]
    split
    · -- An opening bracket is only remembered.
      exact ih _ _
    · next opener _ _ =>
      -- A closing bracket may be at fault.
      cases span : charSpan base position with
      | error fault => exact finds_error fault
      | ok span =>
        have later := ih (position + 1) stack.tail
        cases rest : scan base (position + 1) stack.tail cs with
        | error fault => exact finds_error fault
        | ok behind =>
          rw [rest] at later
          refine finds_ok fun f hf => ?_
          rcases List.mem_append.mp hf with here | behind'
          · obtain ⟨issue, hissue, rfl⟩ := List.mem_map.mp here
            exact ⟨isBracket_of_closingIssue? (Option.mem_toList.mp hissue), rfl⟩
          · exact later _ rfl f behind'
    · exact ih _ _

/-- What is found about brackets that are left open is about brackets. -/
theorem finds_unclosed (base : Int) (stack : List Open) :
    Finds Finding.IsBracket (stack.mapM (unclosed base)) := by
  induction stack with
  | nil => exact finds_nil
  | cons last stack ih =>
    rw [List.mapM_cons, unclosed]
    cases charSpan base last.position with
    | error fault => exact finds_error fault
    | ok span => cases rest : stack.mapM (unclosed base) with
      | error fault => exact finds_error fault
      | ok behind =>
        refine finds_ok fun f hf => ?_
        rcases List.mem_cons.mp hf with rfl | behind'
        · exact ⟨rfl, rfl⟩
        · exact ih behind rest f behind'

/-- All that is found on the text of a key is about brackets. -/
theorem finds (base : Int) (key : Text) : Finds Finding.IsBracket (findings base key) := by
  have closing := finds_scan base key 0 []
  unfold findings
  cases scanned : scan base 0 [] key with
  | error fault => exact finds_error fault
  | ok scanned' =>
    rw [scanned] at closing
    exact finds_append closing (finds_unclosed base scanned'.2.reverse)

end Bracket

namespace StateKey

/-- All that the rules find at a token of a state key is plain: only aliases are names there, and
they hold no quote. -/
theorem findsPlain_rules {context : Context} {t : Token}
    (quoteless : t.kind = .stateAlias → quote ∉ t.text) :
    ∀ rule ∈ defaultRules, FindsPlain (rule.check context t) := by
  apply finds_rules
  · exact fun _ _ _ => ⟨nofun, fun _ => rfl⟩
  · exact fun _ _ _ _ => ⟨nofun, fun _ => rfl⟩
  · -- Only here a name is read off the token, which is an alias then.
    refine fun isAlias _ _ _ => ⟨?_, nofun⟩
    rintro _ ⟨⟩
    exact quoteless isAlias

/-- What is found in a state key is plain, be it by `Bracket.finds` or by `findsPlain_rules`. -/
theorem findsPlain (context : Context) (key : Text) : FindsPlain (findings context key) :=
  finds_unless fun _ => finds_append
    ((Bracket.finds context.base key).mono fun _ => Finding.IsBracket.isPlain)
    (finds_bind fun _ _ => finds_runAll fun _ ht =>
      findsPlain_rules (quoteless_of_stateAlias ht))

end StateKey

/-! ## §3 Documents -/

theorem Obligation.findsPlain (settings : Settings) (definitions : Definitions) (o : Obligation) :
    FindsPlain (o.findings settings definitions) := by
  cases o with
  | value property text start => exact Value.findsPlain _ text
  | stateKey inside key start => exact StateKey.findsPlain _ key
  | startingProperty key => exact finds_at fun _ _ => ⟨nofun, fun _ => rfl⟩

/-- What is found in a forest is plain. -/
theorem Document.findsPlain (settings : Settings) (definitions : Definitions) (forest : Forest) :
    FindsPlain (findings settings definitions forest) :=
  finds_collect fun o _ => o.findsPlain settings definitions

end StyleCheck
