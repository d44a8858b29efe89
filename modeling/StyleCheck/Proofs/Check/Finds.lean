import Mathlib.Data.List.Forall2
import StyleCheck.Check.Rule

/-!
# What checks find

Checks are put together from others: one after the other, one for each token, one for each rule. A
check that is put together comes to a result if all its parts do, and then it finds what they find.

## Main definitions

- `Finds`: whatever a check finds has a property, unless the check fails.

## Main statements

- `collect_eq_ok_iff`, `exists_collect_iff`, `mem_collected_iff`: a check on each element of a list.
- `exists_runAll_iff`, `mem_runAll_iff`: rules on tokens.
- `finds_collect`, `finds_runAll`: properties of all findings.
-/

namespace StyleCheck

/-! ## §1 A check on each element -/

section Collect

variable {α : Type} {check : α → Except Fault (List Finding)} {l : List α} {found : List Finding}

/-- Of lists that correspond, every element of the first has one in the second. -/
theorem exists_mem_of_forall₂ {β γ : Type} {r : β → γ → Prop} {l : List β} {l' : List γ}
    (each : List.Forall₂ r l l') : ∀ b ∈ l, ∃ c ∈ l', r b c := by
  induction each with
  | nil => exact nofun
  | cons first _ ih =>
    intro b mem
    rcases List.mem_cons.mp mem with rfl | later
    · exact ⟨_, List.mem_cons_self, first⟩
    · obtain ⟨c, there, related⟩ := ih b later
      exact ⟨c, List.mem_cons_of_mem _ there, related⟩

/-- The results of a check on each element. With `List.mapM` it comes to results for the whole list
if it does for each element, and stops at the first failure. -/
theorem mapM_eq_ok_iff {parts : List (List Finding)} :
    l.mapM check = .ok parts ↔ List.Forall₂ (fun a part => check a = .ok part) l parts := by
  induction l generalizing parts with
  | nil =>
    rw [List.mapM_nil, List.forall₂_nil_left_iff]
    exact ⟨fun h => (Except.ok.inj h).symm, fun h => congrArg Except.ok h.symm⟩
  | cons a l ih =>
    rw [List.mapM_cons, List.forall₂_cons_left_iff]
    simp only [← ih]
    -- The check fails here, or later on, or it comes to a result both times.
    cases check a with
    | error fault => simp [bind, Except.bind]
    | ok part => cases l.mapM check with
      | error fault => simp [bind, Except.bind]
      | ok rest => simp [bind, Except.bind, pure, Except.pure, eq_comm]

theorem collect_eq_ok_iff : (l.mapM check).map List.flatten = .ok found ↔
    ∃ parts, List.Forall₂ (fun a part => check a = .ok part) l parts ∧ parts.flatten = found := by
  simp only [← mapM_eq_ok_iff]
  cases l.mapM check <;> simp [Except.map]

/-- There is a result if there is one for each element. -/
theorem exists_collect_iff : (∃ found, (l.mapM check).map List.flatten = .ok found) ↔
    ∀ a ∈ l, ∃ part, check a = .ok part := by
  simp only [collect_eq_ok_iff]
  constructor
  · rintro ⟨found, parts, each, rfl⟩ a mem
    obtain ⟨part, -, made⟩ := exists_mem_of_forall₂ each a mem
    exact ⟨part, made⟩
  · intro each
    -- The results for the elements make one for the list.
    induction l with
    | nil => exact ⟨[], [], .nil, rfl⟩
    | cons a l ih =>
      obtain ⟨part, made⟩ := each a List.mem_cons_self
      obtain ⟨_, parts, rest, rfl⟩ := ih fun b mem => each b (List.mem_cons_of_mem a mem)
      exact ⟨_, part :: parts, .cons made rest, rfl⟩

/-- What is found is found at some element. By `mapM_eq_ok_iff` the parts correspond to the
elements. -/
theorem mem_collected_iff (collected : (l.mapM check).map List.flatten = .ok found) {f : Finding} :
    f ∈ found ↔ ∃ a ∈ l, ∃ part, check a = .ok part ∧ f ∈ part := by
  obtain ⟨parts, each, rfl⟩ := collect_eq_ok_iff.mp collected
  rw [List.mem_flatten]
  constructor
  · rintro ⟨part, mem, there⟩
    obtain ⟨a, inList, made⟩ := exists_mem_of_forall₂ each.flip part mem
    exact ⟨a, inList, part, made, there⟩
  · rintro ⟨a, inList, part, made, there⟩
    obtain ⟨part', mem, made'⟩ := exists_mem_of_forall₂ each a inList
    rw [made, Except.ok.injEq] at made'
    exact ⟨part', mem, made' ▸ there⟩

/-- A check on each element of two lists, one after the other. -/
theorem collect_append (front back : List α) :
    ((front ++ back).mapM check).map List.flatten =
      (front.mapM check).map List.flatten >>= fun found =>
        (back.mapM check).map List.flatten >>= fun found' => .ok (found ++ found') := by
  rw [List.mapM_append]
  cases front.mapM check with
  | error fault => rfl
  | ok parts => cases back.mapM check with
    | error fault => rfl
    | ok parts' =>
      show Except.ok (parts ++ parts').flatten = Except.ok (parts.flatten ++ parts'.flatten)
      rw [List.flatten_append]

theorem collect_singleton (a : α) : (([a].mapM check).map List.flatten) = check a := by
  rw [List.mapM_cons, List.mapM_nil]
  cases check a with
  | error fault => rfl
  | ok found =>
    show Except.ok [found].flatten = Except.ok found
    rw [List.flatten_singleton]

variable {p : α → Bool} {q : Finding → Bool}

/-- Where some findings are made by some elements, these elements alone make them.

The elements are those that `p` chooses, and the findings those that `q` keeps. -/
theorem collect_filter (collected : (l.mapM check).map List.flatten = .ok found)
    (kept : ∀ a ∈ l, p a = true → ∀ part, check a = .ok part → part.filter q = part)
    (left : ∀ a ∈ l, p a = false → ∀ part, check a = .ok part → part.filter q = []) :
    ((l.filter p).mapM check).map List.flatten = .ok (found.filter q) := by
  obtain ⟨parts, made, rfl⟩ := collect_eq_ok_iff.mp collected
  clear collected
  rw [collect_eq_ok_iff]
  induction made with
  | nil => exact ⟨[], .nil, rfl⟩
  | @cons a part l parts first _ ih =>
    rw [List.forall_mem_cons] at kept left
    obtain ⟨others, rest, joined⟩ := ih kept.2 left.2
    rw [List.flatten_cons, List.filter_append]
    -- An element that is chosen makes only findings that are kept, and any other makes none of
    -- them.
    cases chosen : p a with
    | true =>
      rw [List.filter_cons_of_pos chosen, kept.1 chosen part first, ← joined]
      exact ⟨part :: others, .cons first rest, rfl⟩
    | false =>
      rw [List.filter_cons_of_neg (Bool.eq_false_iff.mp chosen), left.1 chosen part first, ← joined]
      exact ⟨others, rest, rfl⟩

/-- Findings that are told element by element, chosen on both sides: elements by `p`, and findings
by `q`. -/
theorem forall₂_filter_of_collect {r : α → Finding → Prop}
    (collected : (l.mapM check).map List.flatten = .ok found)
    (each : ∀ a ∈ l, ∀ part, check a = .ok part →
      List.Forall₂ r ([a].filter p) (part.filter q)) :
    List.Forall₂ r (l.filter p) (found.filter q) := by
  obtain ⟨parts, made, rfl⟩ := collect_eq_ok_iff.mp collected
  clear collected
  induction made with
  | nil => exact .nil
  | @cons a part l parts first _ ih =>
    rw [List.forall_mem_cons] at each
    rw [List.flatten_cons, List.filter_append, ← List.singleton_append, List.filter_append]
    exact List.rel_append (each.1 part first) (ih each.2)

end Collect

/-! ## §2 Rules -/

section Rules

variable {Context : Type} {rules : List (Rule Context)} {context : Context} {tokens : List Token}

theorem exists_runAll_iff : (∃ found, Rule.runAll rules context tokens = .ok found) ↔
    ∀ t ∈ tokens, ∀ rule ∈ rules, ∃ part, rule.check context t = .ok part := by
  unfold Rule.runAll
  rw [exists_collect_iff]
  exact forall₂_congr fun t _ => exists_collect_iff

/-- What rules find is found by some rule at some token.

This is `mem_collected_iff` twice, for the tokens and for the rules. -/
theorem mem_runAll_iff {found : List Finding}
    (collected : Rule.runAll rules context tokens = .ok found) {f : Finding} :
    f ∈ found ↔ ∃ t ∈ tokens, ∃ rule ∈ rules, ∃ part,
      rule.check context t = .ok part ∧ f ∈ part := by
  rw [mem_collected_iff collected]
  refine exists_congr fun t => and_congr_right fun mem => ?_
  -- The rules come to a result at every token.
  obtain ⟨parts, each, -⟩ := collect_eq_ok_iff.mp collected
  obtain ⟨part, -, made⟩ := exists_mem_of_forall₂ each t mem
  rw [← mem_collected_iff made]
  constructor
  · rintro ⟨part', made', there⟩
    rw [made, Except.ok.injEq] at made'
    exact made' ▸ there
  · exact fun there => ⟨part, made, there⟩

/-- Nothing is found in tokens about which no rule has anything to say. -/
theorem runAll_of_silent (silent : ∀ t ∈ tokens, ∀ rule ∈ rules, rule.check context t = .ok []) :
    Rule.runAll rules context tokens = .ok [] := by
  obtain ⟨found, ran⟩ := exists_runAll_iff.mpr fun t ht rule hrule => ⟨[], silent t ht rule hrule⟩
  have none : found = [] := by
    refine List.eq_nil_iff_forall_not_mem.mpr fun f hf => ?_
    obtain ⟨t, ht, rule, hrule, part, checked, there⟩ := (mem_runAll_iff ran).mp hf
    rw [silent t ht rule hrule, Except.ok.injEq] at checked
    exact List.not_mem_nil (checked ▸ there)
  rw [ran, none]

theorem runOn_singleton (rule : Rule Context) (t : Token) :
    Rule.runOn [rule] context t = rule.check context t := collect_singleton rule

theorem runAll_append (front back : List Token) :
    Rule.runAll rules context (front ++ back) =
      Rule.runAll rules context front >>= fun found =>
        Rule.runAll rules context back >>= fun found' => .ok (found ++ found') :=
  collect_append front back

theorem runAll_cons (t : Token) (ts : List Token) :
    Rule.runAll rules context (t :: ts) =
      Rule.runOn rules context t >>= fun found =>
        Rule.runAll rules context ts >>= fun found' => .ok (found ++ found') := by
  have alone : Rule.runAll rules context [t] = Rule.runOn rules context t := collect_singleton t
  rw [← List.singleton_append, runAll_append, alone]

/-- What rules find under some codes is what the rules with these codes find, if every rule is
`coded`. -/
theorem runOn_filter_code {t : Token} {found : List Finding}
    (ran : Rule.runOn rules context t = .ok found)
    (coded : ∀ rule ∈ rules, ∀ part, rule.check context t = .ok part →
      ∀ f ∈ part, f.issue.spec.code = rule.code) (p : Text → Bool) :
    Rule.runOn (rules.filter (p ·.code)) context t = .ok (found.filter (p ·.issue.spec.code)) := by
  refine collect_filter ran ?_ ?_
  · intro rule hrule chosen part made
    rw [List.filter_eq_self]
    intro f mem
    rwa [coded rule hrule part made f mem]
  · intro rule hrule other part made
    rw [List.filter_eq_nil_iff]
    intro f mem
    rwa [coded rule hrule part made f mem, Bool.not_eq_true]

/-- The same as `runOn_filter_code` over a list of tokens: findings can be chosen by their codes, or
rules by theirs. -/
theorem runAll_filter_code {found : List Finding}
    (ran : Rule.runAll rules context tokens = .ok found)
    (coded : ∀ t ∈ tokens, ∀ rule ∈ rules, ∀ part, rule.check context t = .ok part →
      ∀ f ∈ part, f.issue.spec.code = rule.code) (p : Text → Bool) :
    Rule.runAll (rules.filter (p ·.code)) context tokens =
      .ok (found.filter (p ·.issue.spec.code)) := by
  obtain ⟨parts, each, rfl⟩ := collect_eq_ok_iff.mp ran
  refine collect_eq_ok_iff.mpr ⟨parts.map (List.filter (p ·.issue.spec.code)), ?_,
    List.filter_flatten.symm⟩
  rw [List.forall₂_map_right_iff]
  refine ((List.forall₂_and_left _ _).mpr ⟨coded, each⟩).imp ?_
  intro t part ⟨coded, ran⟩
  exact runOn_filter_code ran coded p

end Rules

/-! ## §3 Properties of findings -/

/-- Where the `check` does not fail, all that it finds has the property. -/
def Finds (P : Finding → Prop) (check : Except Fault (List Finding)) : Prop :=
  ∀ found, check = .ok found → ∀ f ∈ found, P f

section Finds

variable {P Q : Finding → Prop}

theorem Finds.mono {check : Except Fault (List Finding)} (h : Finds P check)
    (weaker : ∀ f, P f → Q f) : Finds Q check :=
  fun found made f hf => weaker f (h found made f hf)

theorem finds_ok {found : List Finding} (all : ∀ f ∈ found, P f) : Finds P (.ok found) := by
  rintro _ ⟨⟩
  exact all

theorem finds_nil : Finds P (.ok []) := finds_ok (by simp)

theorem finds_error (fault : Fault) : Finds P (.error fault) := by
  rintro _ ⟨⟩

theorem finds_bind {α : Type} {first : Except Fault α} {next : α → Except Fault (List Finding)}
    (all : ∀ a, first = .ok a → Finds P (next a)) : Finds P (first >>= next) := by
  cases first with
  | error fault => exact finds_error fault
  | ok a => exact all a rfl

/-- A check of what is not known anyway. -/
theorem finds_unless {known : Prop} [Decidable known] {check : Except Fault (List Finding)}
    (all : ¬known → Finds P check) : Finds P (if known then .ok [] else check) := by
  split
  · exact finds_nil
  · next unknown => exact all unknown

/-- Two checks, one after the other. -/
theorem finds_append {first second : Except Fault (List Finding)} (all : Finds P first)
    (all' : Finds P second) :
    Finds P (first >>= fun found => second >>= fun found' => .ok (found ++ found')) := by
  cases first with
  | error fault => exact finds_error fault
  | ok found => cases second with
    | error fault => exact finds_error fault
    | ok found' =>
      refine finds_ok fun f hf => ?_
      rcases List.mem_append.mp hf with here | behind
      · exact all found rfl f here
      · exact all' found' rfl f behind

/-- The findings of many checks, one after the other, as `Rule.runAll` collects them. -/
theorem finds_collect {α : Type} {check : α → Except Fault (List Finding)} {l : List α}
    (all : ∀ a ∈ l, Finds P (check a)) : Finds P ((l.mapM check).map List.flatten) := by
  intro found collected f hf
  obtain ⟨a, mem, part, made, there⟩ := (mem_collected_iff collected).mp hf
  exact all a mem part made f there

theorem finds_runAll {Context : Type} {rules : List (Rule Context)} {context : Context}
    {tokens : List Token}
    (all : ∀ token ∈ tokens, ∀ rule ∈ rules, Finds P (rule.check context token)) :
    Finds P (Rule.runAll rules context tokens) :=
  finds_collect fun token mem => finds_collect (all token mem)

/-- A finding at a place. -/
theorem finds_at {place : Except Fault Span} {issue : Issue} {suggestion : Option Text}
    (holds : ∀ span, place = .ok span → P { issue, span, suggestion }) :
    Finds P (place.map fun span => [{ issue, span, suggestion }]) := by
  cases place with
  | error fault => exact finds_error fault
  | ok span =>
    refine finds_ok fun f hf => ?_
    rw [List.mem_singleton.mp hf]
    exact holds span rfl

end Finds

end StyleCheck
