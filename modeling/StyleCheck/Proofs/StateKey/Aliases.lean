import StyleCheck.Proofs.Check.Brackets
import StyleCheck.Proofs.Document.Total
import StyleCheck.Proofs.StateKey.Nesting

/-!
# Aliases and their uses

An alias is defined by a name that the walk over a file accepts, and used by a key that the lexer of
state keys cuts into one token. The two tell names by character classes of their own: a definition
may hold letters and digits of every script and a line break at its end, while the lexer goes on
through the names of the grammar only. So an alias can be used if its name is one of the grammar,
and then its use is no fault in any project and at any place of the file; any other alias is no
token at all.

## Main definitions

- `StateKey.aliasToken`: the token of an alias that takes a whole key.
- `EntryPath.InMapping`: the entries of state mappings.

## Main statements

- `StateKey.lex_alias_iff`: which names are one token.
- `StateKey.findings_alias`: nothing is found in the use of a defined alias.
- `Definitions.collect_usable`: the aliases that a file defines in its state mappings.
-/

namespace StyleCheck

open Text

namespace StateKey

/-! ## §1 Tokens -/

/-- The token of an alias that takes a whole key. -/
def aliasToken (name : Text) : Token where
  kind := .stateAlias
  text := name
  start := 0
  stop := name.length
  children := []

variable {aliases : List Text} {name : Text}

/-- A name of the grammar goes on to its end, so `dashedName` takes all of it. -/
theorem dashedName_of_all {cs : Text} (whole : cs.all isDashedNameChar = true) :
    dashedName cs = cs :=
  List.takeWhile_eq_self_iff.mpr (List.all_eq_true.mp whole)

/-- A name with the form of an alias is the sign, a letter or underscore, and more. Here only the
first two characters of `isAliasName` count. -/
theorem exists_of_isAliasName (named : isAliasName name = true) :
    ∃ c cs, name = CodePoint.char '@' :: c :: cs ∧ isNameStart c = true := by
  unfold isAliasName at named
  split at named
  · next c cs => exact ⟨c, cs, rfl, (Bool.and_eq_true_iff.mp named).1⟩
  · cases named

/-- What stands behind the sign is read by `Lexeme.advanced`. -/
theorem read_sign (aliases : List Text) (position : Nat) (cs : Text) :
    Lexeme.read aliases position (CodePoint.char '@') cs = Lexeme.advanced aliases position cs := by
  have notBlank : isBlank (CodePoint.char '@') = false := by decide
  have notOperator : isLogicalOperator (CodePoint.char '@') = false := by decide
  rw [Lexeme.read, notBlank, notOperator]
  rfl

/-- A known alias takes the whole name behind the sign. -/
theorem advanced_of_known {c : CodePoint} {cs : Text} (start : isNameStart c = true)
    (known : CodePoint.char '@' :: dashedName (c :: cs) ∈ aliases) (position : Nat) :
    Lexeme.advanced aliases position (c :: cs) =
      { kind := .stateAlias, tail := dashedName (c :: cs) } := by
  unfold Lexeme.advanced
  split
  · next opens =>
    -- No name starts with a parenthesis.
    rw [(List.cons.inj opens).1] at start
    exact absurd start (by decide)
  · rw [if_pos (List.contains_iff_mem.mpr known)]

/-- A known alias is one token just if the lexer goes on through all of its name.

The names that a project knows are told by `isAliasName`, which is more generous than `dashedName`.
-/
theorem lex_alias_iff (named : isAliasName name = true) (known : name ∈ aliases) :
    lex aliases name = [aliasToken name] ↔ name.tail.all isDashedNameChar = true := by
  constructor
  · intro single
    -- The text of such a token is the sign and a name of the grammar.
    have mem : aliasToken name ∈ lex aliases name := single ▸ List.mem_singleton_self _
    obtain ⟨cs, text⟩ := text_of_stateAlias mem rfl
    have text : name = CodePoint.char '@' :: dashedName cs := text
    rw [text, List.tail_cons, List.all_eq_true]
    exact fun c hc => List.mem_takeWhile_imp hc
  · intro whole
    obtain ⟨c, cs, rfl, start⟩ := exists_of_isAliasName named
    have behind : dashedName (c :: cs) = c :: cs := dashedName_of_all whole
    have read : Lexeme.read aliases 0 (CodePoint.char '@') (c :: cs) =
        { kind := .stateAlias, tail := c :: cs } := by
      rw [read_sign, advanced_of_known start (behind.symm ▸ known), behind]
    -- A blank key would be read as a whole.
    have notBlank : ¬(CodePoint.char '@' :: c :: cs).all isBlank = true := by
      rw [List.all_cons, (by decide : isBlank (CodePoint.char '@') = false)]
      exact Bool.false_ne_true
    rw [lex, if_neg notBlank, lexFrom, read, List.drop_length, lexFrom, aliasToken]
    have stop : 0 + 1 + (c :: cs).length = (CodePoint.char '@' :: c :: cs).length := by
      simp only [List.length_cons]
      omega
    rw [stop]
    rfl

/-! ## §2 Findings -/

/-- Nothing is found where a defined alias is used. A check may fail only at a negative offset.

The brackets of the key are well nested, as there are none, and its one token is a known alias
(`advanced_of_known`). -/
theorem findings_alias {context : Context} (positive : 0 ≤ context.base)
    (named : isAliasName name = true) (defined : name ∈ context.definitions.states)
    (whole : name.tail.all isDashedNameChar = true) : findings context name = .ok [] := by
  have tokens : lex context.aliases name = [aliasToken name] :=
    (lex_alias_iff named (List.mem_append_right _ defined)).mpr whole
  have brackets : Bracket.findings context.base name = .ok [] := by
    obtain ⟨base, position⟩ := Int.eq_ofNat_of_zero_le positive
    rw [position, Bracket.findings_eq_nil_iff]
    obtain ⟨c, cs, rfl, -⟩ := exists_of_isAliasName named
    have behind : dashedName (c :: cs) = c :: cs := dashedName_of_all whole
    exact behind ▸ Bracket.wellNested_cons (by decide) (Bracket.wellNested_dashedName _)
  have rules : Rule.runAll defaultRules context [aliasToken name] = .ok [] := by
    -- The rule for aliases is the only one to look at the token, and it knows the name.
    refine runAll_of_silent fun t ht rule hrule => ?_
    rw [List.mem_singleton] at ht
    subst ht
    obtain rfl | rfl | rfl := mem_rules_iff.mp hrule
    · rfl
    · rfl
    · have has : context.definitions.hasState name = true := List.contains_iff_mem.mpr defined
      simp [aliasRule, aliasToken, has]
  -- The key starts with the sign, so it is not one of those that are never checked.
  have notExempt : isExempt name = false := by
    obtain ⟨c, cs, rfl, -⟩ := exists_of_isAliasName named
    rfl
  rw [findings, notExempt, if_neg Bool.false_ne_true, findingsOfTokens_eq, tokens, brackets, rules]
  rfl

end StateKey

/-! ## §3 Files -/

/-- The entry stands in a state mapping.

That is the mapping of a property, told by `EntersMapping`, which stands in some styles. -/
def EntryPath.InMapping (p : EntryPath) : Prop :=
  ∃ outer opener inner, p.above = outer ++ opener :: inner ∧
    (∀ name ∈ outer, EntersStyles name) ∧ EntersMapping opener

/-- Every alias that a file defines in a state mapping is known to its uses. A use is one token if
the name is one of the grammar, and only then; and there nothing is found, in any project.

The two differ because `isAliasName` knows the letters of all scripts and the lexer, by
`dashedName`, those of one. -/
theorem Definitions.collect_usable {forest : Forest} (placed : forest.WellPlaced) :
    ∃ d, collect forest = .ok d ∧
      ∀ p ∈ forest.paths, p.InMapping → ∀ content start stop, p.value = .text content start stop →
        StateKey.isAliasDefinition p.key.name content = true →
        (StateKey.lex d.states p.key.name = [StateKey.aliasToken p.key.name] ↔
          p.key.name.tail.all isDashedNameChar = true) ∧
        (p.key.name.tail.all isDashedNameChar = true →
          ∀ settings (base : Int) insideSubElement, 0 ≤ base →
            StateKey.findings { base, settings, definitions := d, insideSubElement } p.key.name =
              .ok []) := by
  obtain ⟨d, collected⟩ := exists_collect_iff.mpr fun p hp _ _ => placed.keys p hp
  refine ⟨d, collected, ?_⟩
  intro p hp inMapping content start stop value isDefinition
  obtain ⟨outer, opener, inner, above, styles, opens⟩ := inMapping
  -- The entry defines an alias for the walk over the file, which collects its name.
  have defines : p.Defines .state := .mapped above styles opens value isDefinition
  have known : p.key.name ∈ d.names .state :=
    (mem_names_iff collected).mpr ⟨p, hp, defines, rfl⟩
  have named : StateKey.isAliasName p.key.name = true := by
    simp only [StateKey.isAliasDefinition, Bool.and_eq_true] at isDefinition
    exact isDefinition.1.1.1
  refine ⟨StateKey.lex_alias_iff named known, ?_⟩
  intro whole settings base insideSubElement positive
  exact StateKey.findings_alias (by exact positive) named known whole

/-- A name that is made an alias for being hovered. -/
def hoveredPath (name : Text) : EntryPath where
  above := ["fill".toText]
  key := ⟨name, 11, 11 + name.length⟩
  value := .text "hovered".toText (15 + name.length) (22 + name.length)

/-- The property with the alias. -/
def hoveredFillPath (name : Text) : EntryPath where
  above := []
  key := ⟨"fill".toText, 2, 6⟩
  value := .object [((hoveredPath name).key, (hoveredPath name).value)] 8 (25 + name.length)

/-- A style object with the property. -/
def hoveredFill (name : Text) : Forest :=
  [⟨[((hoveredFillPath name).key, (hoveredFillPath name).value)], 0, 27 + name.length⟩]

theorem paths_hoveredFill (name : Text) :
    (hoveredFill name).paths = [hoveredFillPath name, hoveredPath name] := rfl

/-- The entries of the file stand where they say. -/
theorem wellPlaced_hoveredFill (name : Text) : (hoveredFill name).WellPlaced := by
  constructor
  · simp only [hoveredFill, List.mem_singleton, forall_eq, InOrder]
    omega
  · simp only [paths_hoveredFill, List.mem_cons, List.not_mem_nil, or_false, forall_eq_or_imp,
      forall_eq, hoveredFillPath, hoveredPath, InOrder]
    omega
  · simp only [paths_hoveredFill, List.mem_cons, List.not_mem_nil, or_false, forall_eq_or_imp,
      forall_eq, StyleValue.WellPlaced, hoveredFillPath, hoveredPath, InOrder]
    omega

theorem inMapping_hoveredPath (name : Text) : (hoveredPath name).InMapping := by
  refine ⟨[], "fill".toText, [], rfl, nofun, ?_⟩
  rw [EntersMapping]
  decide

theorem Definitions.collect_usable_compact : ∃ d, collect (hoveredFill "@compact".toText) = .ok d ∧
    StateKey.lex d.states "@compact".toText = [StateKey.aliasToken "@compact".toText] ∧
    StateKey.findings { base := 0, settings := {}, definitions := d } "@compact".toText =
      .ok [] := by
  obtain ⟨d, collected, usable⟩ := collect_usable (wellPlaced_hoveredFill "@compact".toText)
  obtain ⟨single, silent⟩ := usable (hoveredPath "@compact".toText)
    (List.mem_cons_of_mem _ List.mem_cons_self) (inMapping_hoveredPath _) _ _ _ rfl
    (by decide +kernel)
  refine ⟨d, collected, ?_, ?_⟩
  · exact single.mpr (by decide)
  · exact silent (by decide) {} 0 false (by decide)

/-- An alias with a letter of another script is defined, but no token, and using it is a fault. -/
theorem Definitions.collect_unusable :
    (hoveredFill "@aé".toText).WellPlaced ∧
      hoveredPath "@aé".toText ∈ (hoveredFill "@aé".toText).paths ∧
      (hoveredPath "@aé".toText).InMapping ∧
      StateKey.isAliasDefinition "@aé".toText "hovered".toText = true ∧
      ∃ d, collect (hoveredFill "@aé".toText) = .ok d ∧
        StateKey.lex d.states "@aé".toText ≠ [StateKey.aliasToken "@aé".toText] ∧
        StateKey.findings { base := 0, settings := {}, definitions := d } "@aé".toText ≠
          .ok [] := by
  refine ⟨wellPlaced_hoveredFill _, List.mem_cons_of_mem _ List.mem_cons_self,
    inMapping_hoveredPath _, by decide +kernel, _, rfl, ?_, ?_⟩
  · -- The letter is a token of its own.
    intro single
    have one := congrArg List.length single
    revert one
    decide +kernel
  · decide +kernel

end StyleCheck
