import Mathlib.Data.Set.Card
import StyleCheck.Proofs.Files.Spelling
import StyleCheck.Proofs.Settings.Resolver

/-!
# How deep chains of bases go

A layer is merged by a call that first enters one for its base, and so on. Nothing but the files
themselves keeps these calls from going on for ever: each one enters a file of the tree, under a
spelling that no call around it has, and there are finitely many spellings. So calls that are
nested deeper than that are never made, whatever layers the files turn out to set, and a limit of
this depth changes nothing.

## Main definitions

- `Call`, `Call.Enters`: calls that merge a layer, and which call enters which.
- `Call.mergeWithin`: merging by calls that are nested to a limited depth.

## Main statements

- `Call.mergeWithin_eq`: a limit that leaves room for all spellings does not show.
- `merging_bounded_by_spellings`: the calls for a configuration file of a document.
-/

namespace StyleCheck.Resolver

/-! ## §1 Calls -/

/-- A call that merges a layer after its bases. The `chain` holds the files of this call and of
those around it, its own first. -/
structure Call where
  chain : List Path
  link : Link

namespace Call

variable {w : Workspace} {t : FileTree} {c c' : Call}

/-- The call that a configuration file is merged by. -/
def start (link : Link) : Call := ⟨[link.file], link⟩

/-- The call that a call enters for its base. -/
def behind (c : Call) (base : Path) (below : Settings.Layer) : Call :=
  ⟨base :: c.chain, ⟨base, below⟩⟩

/-- The base that a call enters, just as it is found, and what is noted about it. The `chain` alone
decides whether a base is cyclic. -/
def base (t : FileTree) (c : Call) : Option Path × List Event :=
  match c.link.layer.base with
  | none | some [] => (none, [])
  | some target =>
    match (ConfigFile.resolveBase t c.link.file target).1,
        (ConfigFile.resolveBase t c.link.file target).2 with
    | none, events => (none, events ++ [.baseNotFound target c.link.file.toText])
    | some found, events =>
      if found ∈ c.chain then (none, events ++ [.baseCyclic target c.link.file.toText])
      else (some found, events)

/-- One call enters the other, with whatever layer the file of that one sets. So a bound on these
calls does not depend on what the files say. -/
def Enters (t : FileTree) (c c' : Call) : Prop :=
  ∃ base below, (c.base t).1 = some base ∧ c' = c.behind base below

/-- Settings after a layer and its bases, by calls that are nested at most so deep. Nothing comes of
calls that would have to be nested deeper.

Unlike `mergeChain` it is a recursion on the depth, and does not know that the tree has finitely
many files. -/
def mergeWithin (w : Workspace) (s : Settings) : Nat → Call → Resolution (Option Settings)
  | 0, _ => return none
  | depth + 1, c => do
    let (base, events) := c.base w.tree
    note events
    match base with
    | none => return some (s.merge c.link.layer)
    | some base =>
      match ← layerOf w base with
      | none => return some (s.merge c.link.layer)
      | some below =>
        return (← mergeWithin w s depth (c.behind base below)).map (·.merge c.link.layer)

/-! ## §2 What a call enters -/

/-- From a file that is spelled without detours, a base is found in its absolute form, so
`Call.base` finds what `nextBase` finds.

The two differ in what they carry: `nextBase` comes with the proof that the base is one of the
spellings. -/
theorem base_eq_nextBase (normal : c.link.file.IsNormal) :
    c.base t = ((nextBase t c.chain c.link.file c.link.layer).1.map Subtype.val,
      (nextBase t c.chain c.link.file c.link.layer).2) := by
  generalize result : nextBase t c.chain c.link.file c.link.layer = next
  unfold nextBase at result
  split at result
  · next none =>
    subst result
    simp only [base, none, Option.map_none]
  · next empty =>
    subst result
    simp only [base, empty, Option.map_none]
  · next target _ named =>
    split at result
    · next nowhere =>
      subst result
      simp only [base, named, nowhere, Option.map_none]
    · next _ found at' =>
      -- The file that is found is spelled without detours as well, so making it absolute changes
      -- nothing.
      have absolute := (ConfigFile.isSpelling_of_resolveBase normal at').absolute_eq
      split at result
      · next used =>
        subst result
        rw [absolute] at used
        simp only [base, named, at', if_pos used, Option.map_none]
      · next fresh =>
        subst result
        rw [absolute] at fresh
        simp only [base, named, at', if_neg fresh, Option.map_some, absolute]

/-- What a call enters is a file of the tree, and none of those that its `chain` holds. -/
theorem isSpelling_of_base {base : Path} (normal : c.link.file.IsNormal)
    (enters : (c.base t).1 = some base) : t.IsSpelling base ∧ base ∉ c.chain := by
  unfold Call.base at enters
  split at enters
  · cases enters
  · cases enters
  · split at enters
    · cases enters
    · next found at' =>
      split at enters
      · cases enters
      · next fresh =>
        cases enters
        exact ⟨ConfigFile.isSpelling_of_resolveBase normal at', fresh⟩

/-- Calls that enter one another meet files of the tree, none of them twice, and none that the chain
of the first call holds. One step is `isSpelling_of_base`. -/
theorem files_of_isChain (calls : List Call) (normal : c.link.file.IsNormal)
    (run : (c :: calls).IsChain (Enters t)) :
    (∀ c' ∈ calls, t.IsSpelling c'.link.file ∧ c'.link.file ∉ c.chain) ∧
      (calls.map fun c' => c'.link.file).Nodup := by
  -- The induction is on the calls, from the outermost, with its chain growing.
  induction calls generalizing c with
  | nil => exact ⟨by simp, List.nodup_nil⟩
  | cons next calls ih =>
    obtain ⟨⟨base, below, enters, rfl⟩, rest⟩ := List.isChain_cons_cons.mp run
    obtain ⟨spelling, fresh⟩ := isSpelling_of_base normal enters
    obtain ⟨files, nodup⟩ := ih spelling.isNormal rest
    constructor
    · rw [List.forall_mem_cons]
      refine ⟨⟨spelling, fresh⟩, fun c' mem => ?_⟩
      -- The chain of the next call holds that of this one.
      obtain ⟨spelling', fresh'⟩ := files c' mem
      exact ⟨spelling', fun used => fresh' (List.mem_cons_of_mem base used)⟩
    · rw [List.map_cons, List.nodup_cons]
      refine ⟨fun again => ?_, nodup⟩
      obtain ⟨c', mem, same⟩ := List.mem_map.mp again
      exact (files c' mem).2 (List.mem_cons.mpr (.inl same))

/-! ## §3 The depth of calls -/

/-- The spellings that a chain can still go on with. Their number is the measure of
`mergeWithin_eq`. -/
def fresh (t : FileTree) (chain : List Path) : Set Path := {p | t.IsSpelling p ∧ p ∉ chain}

theorem finite_fresh (t : FileTree) (chain : List Path) : (fresh t chain).Finite :=
  t.finite_isSpelling.subset fun _ h => h.1

/-- With each file that a chain goes on with, fewer are left. The files are counted by `Set.ncard`,
so that spellings do not count twice. -/
theorem ncard_fresh_cons_lt {chain : List Path} {base : Path} (spelling : t.IsSpelling base)
    (new : base ∉ chain) : (fresh t (base :: chain)).ncard < (fresh t chain).ncard := by
  refine Set.ncard_lt_ncard ⟨fun p left => ?_, fun all => ?_⟩ (finite_fresh t chain)
  · exact ⟨left.1, fun used => left.2 (List.mem_cons_of_mem base used)⟩
  · exact (all ⟨spelling, new⟩).2 List.mem_cons_self

/-- A limit that leaves room for all files that the chain can still go on with does not show,
whatever layers are known or loaded. Then `mergeWithin` comes to what `mergeChain` comes to. -/
theorem mergeWithin_eq (s : Settings) {depth : Nat} (normal : c.link.file.IsNormal)
    (enough : (fresh w.tree c.chain).ncard < depth) :
    mergeWithin w s depth c = some <$> mergeChain w s c.chain c.link.file c.link.layer := by
  -- The limit goes down with the spellings that are left, so it is never reached before them.
  induction depth generalizing c with
  | zero => exact absurd enough (Nat.not_lt_zero _)
  | succ depth ih =>
    rw [mergeWithin, mergeChain, demand_none, pure_bind, base_eq_nextBase normal]
    cases goesOn : (nextBase w.tree c.chain c.link.file c.link.layer).1 with
    | none => simp [goesOn]
    | some base =>
      have enters : (c.base w.tree).1 = some base.val := by
        rw [base_eq_nextBase normal, goesOn, Option.map_some]
      obtain ⟨spelling, new⟩ := isSpelling_of_base normal enters
      -- The call that is entered has one spelling less to go on with, and one level less to do so.
      have less := ncard_fresh_cons_lt spelling new
      simp only [goesOn, Option.map_some, map_bind]
      refine bind_congr fun _ => bind_congr fun layer => ?_
      cases layer with
      | none => simp
      | some below =>
        have behind : mergeWithin w s depth (c.behind base.val below) =
            some <$> mergeChain w s (base.val :: c.chain) base.val below :=
          ih spelling.isNormal (by simp only [Call.behind]; omega)
        simp [behind]

end Call

/-- The calls for a configuration file of a document, whatever layers the files set, enter files of
the tree alone and none of them twice. So they are nested no deeper than there are spellings of
files, and with a limit at that depth merging comes to the same.

The second part is about the program itself: `mergeChain` has no limit, and `mergeWithin` returns
nothing beyond its own. -/
theorem merging_bounded_by_spellings (w : Workspace) {document root file : Path}
    (affects : file ∈ affecting w.tree document root) (layer : Settings.Layer) :
    (∀ calls, (Call.start ⟨file, layer⟩ :: calls).IsChain (Call.Enters w.tree) →
      (∀ c ∈ Call.start ⟨file, layer⟩ :: calls, w.tree.IsSpelling c.link.file) ∧
      ((Call.start ⟨file, layer⟩ :: calls).map fun c => c.link.file).Nodup ∧
      (Call.start ⟨file, layer⟩ :: calls).length ≤ {p | w.tree.IsSpelling p}.ncard) ∧
    ∀ s depth, {p | w.tree.IsSpelling p}.ncard ≤ depth →
      Call.mergeWithin w s depth (.start ⟨file, layer⟩) =
        some <$> mergeChain w s [file] file layer := by
  have directory : (directoryOf w.tree document).IsNormal :=
    (Path.isNormal_absolute document w.tree.cwd).parent
  have spelling : w.tree.IsSpelling file := ConfigFile.isSpelling_of_mem_upTo directory affects
  constructor
  · intro calls run
    obtain ⟨files, nodup⟩ := Call.files_of_isChain calls spelling.isNormal run
    have spellings : ∀ c ∈ Call.start ⟨file, layer⟩ :: calls, w.tree.IsSpelling c.link.file := by
      rw [List.forall_mem_cons]
      exact ⟨spelling, fun c mem => (files c mem).1⟩
    have distinct : ((Call.start ⟨file, layer⟩ :: calls).map fun c => c.link.file).Nodup := by
      rw [List.map_cons, List.nodup_cons]
      refine ⟨fun again => ?_, nodup⟩
      obtain ⟨c, mem, same⟩ := List.mem_map.mp again
      exact (files c mem).2 (List.mem_singleton.mpr same)
    refine ⟨spellings, distinct, ?_⟩
    rw [← List.length_map fun c : Call => c.link.file, ← List.toFinset_card_of_nodup distinct,
      ← Set.ncard_coe_finset]
    refine Set.ncard_le_ncard (fun p mem => ?_) w.tree.finite_isSpelling
    obtain ⟨c, among, rfl⟩ := List.mem_map.mp (List.mem_toFinset.mp mem)
    exact spellings c among
  · intro s depth enough
    -- The first file is in the chain already, so there are fewer left than spellings.
    refine Call.mergeWithin_eq s spelling.isNormal ?_
    have less : (Call.fresh w.tree [file]).ncard < (Call.fresh w.tree []).ncard :=
      Call.ncard_fresh_cons_lt spelling List.not_mem_nil
    have all : Call.fresh w.tree [] = {p | w.tree.IsSpelling p} := by simp [Call.fresh]
    rw [all] at less
    exact Nat.lt_of_lt_of_le less enough

/-- A project whose configuration builds on a package, from which a detour leads back to it. -/
def windingProject : Workspace where
  tree.files := .ofList [
    (.ofText "/p/tasty.config.toml".toText, .text "extends = 'kit'".toText),
    (.ofText "/p/node_modules/kit/package.json".toText, .text "\x7b\x7d".toText),
    (.ofText "/p/node_modules/kit/tasty.config.toml".toText,
      .text "extends = '../../src/..'".toText)]

/-- The configuration of a project with a package, whatever layers the two files set. -/
theorem merging_bounded_windingProject :
    Path.ofText "/p/tasty.config.toml".toText ∈
        affecting windingProject.tree (.ofText "/p/x.ts".toText) (.ofText "/p".toText) ∧
      ∀ (layer : Settings.Layer) (s : Settings),
        Call.mergeWithin windingProject s {p | windingProject.tree.IsSpelling p}.ncard
            (.start ⟨.ofText "/p/tasty.config.toml".toText, layer⟩) =
          some <$> mergeChain windingProject s [.ofText "/p/tasty.config.toml".toText]
            (.ofText "/p/tasty.config.toml".toText) layer := by
  have affects : Path.ofText "/p/tasty.config.toml".toText ∈
      affecting windingProject.tree (.ofText "/p/x.ts".toText) (.ofText "/p".toText) := by
    decide +kernel
  exact ⟨affects, fun layer s => (merging_bounded_by_spellings _ affects layer).2 s _ le_rfl⟩

/-- The detour back to the configuration is not taken: it leads to a file of the chain. -/
example :
    let file : Path := .ofText "/p/tasty.config.toml".toText
    let kit : Path := .ofText "/p/node_modules/kit/tasty.config.toml".toText
    Call.base windingProject.tree ⟨[kit, file], ⟨kit, { base := some "../../src/..".toText }⟩⟩ =
      (none, [.baseCyclic "../../src/..".toText kit.toText]) := by
  decide +kernel

end StyleCheck.Resolver
