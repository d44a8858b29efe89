import StyleCheck.Proofs.Files.Path
import StyleCheck.Proofs.OrderedMap
import StyleCheck.Proofs.Settings.Chain

/-!
# What resolving settings comes to

The settings of a document fold together the layers of certain files, in an order that can be said
without a loop: for each configuration file from the project root down to the document, the longest
chain of bases from that file, the last base first.

## Main definitions

- `Coherent`: known layers are those that loading the files gives.
- `Yields`, `ComesTo`: a computation comes to a result, or to a value unless it fails, whatever is
  known already.
- `DemandsBelow`, `BrokenOff`: what following a chain demands, and how it may end early.
- `configFiles`, `Consulted`: the configuration files of a document, and all files that are loaded.

## Main statements

- `comesTo_mergeChain`, `comesTo_mergeFile`: a file is merged after the chain of its bases.
- `resolve_folds_longest_chains`: the settings of a document.
-/

namespace StyleCheck.Resolver

variable {w : Workspace} {α β : Type}

/-! ## §1 Computations that come to a result -/

/-- Every layer that is known is the one that `Workspace.load` gives for its file. -/
def Coherent (w : Workspace) (layers : LayerCache) : Prop :=
  ∀ file layer, layers.get? file = some layer → ∃ events, w.load file = .ok (layer, events)

theorem coherent_empty (w : Workspace) : Coherent w .empty := by
  intro file layer known
  rw [OrderedMap.get?_empty] at known
  cases known

/-- To know what loading a file has given is coherent. -/
theorem Coherent.insert {layers : LayerCache} (h : Coherent w layers) {file : Path}
    {layer : Option Settings.Layer} {events : List Event}
    (load : w.load file = .ok (layer, events)) : Coherent w (layers.insert file layer) := by
  intro file' layer' known
  rw [OrderedMap.get?_insert] at known
  split at known
  · next same =>
    cases known
    exact ⟨events, same ▸ load⟩
  · exact h file' layer' known

/-- The computation comes to the `result` from whatever coherent layers are known, and leaves
coherent ones. What is noted on the way is not compared. -/
def Yields (w : Workspace) (m : Resolution α) (result : Except Fault α) : Prop :=
  ∀ p : Progress, Coherent w p.layers →
    ∃ p' : Progress, Coherent w p'.layers ∧ m.run.run p = (result, p')

/-- A computation that comes to a value goes on with it. -/
theorem run_bind_of_ok {m : Resolution α} {f : α → Resolution β} {a : α} {p p' : Progress}
    (first : m.run.run p = (.ok a, p')) : (m >>= f).run.run p = (f a).run.run p' := by
  rw [ExceptT.run_bind, StateT.run_bind, first]
  rfl

/-- A computation that fails does not go on. -/
theorem run_bind_of_error {m : Resolution α} {f : α → Resolution β} {fault : Fault}
    {p p' : Progress} (first : m.run.run p = (.error fault, p')) :
    (m >>= f).run.run p = (.error fault, p') := by
  rw [ExceptT.run_bind, StateT.run_bind, first]
  rfl

theorem yields_pure (a : α) : Yields w (pure a) (.ok a) := fun p known => ⟨p, known, rfl⟩

theorem Yields.bind {m : Resolution α} {f : α → Resolution β} {a : α} {result : Except Fault β}
    (first : Yields w m (.ok a)) (next : Yields w (f a) result) : Yields w (m >>= f) result := by
  intro p known
  obtain ⟨p', known', run⟩ := first p known
  obtain ⟨p'', known'', run'⟩ := next p' known'
  exact ⟨p'', known'', (run_bind_of_ok run).trans run'⟩

theorem Yields.bind_error {m : Resolution α} {f : α → Resolution β} {fault : Fault}
    (first : Yields w m (.error fault)) : Yields w (m >>= f) (.error fault) := by
  intro p known
  obtain ⟨p', known', run⟩ := first p known
  exact ⟨p', known', run_bind_of_error run⟩

theorem yields_note (events : List Event) : Yields w (note events) (.ok ()) :=
  fun p known => ⟨{ p with events := p.events ++ events }, known, rfl⟩

/-- Where nothing is refused, demands do not show: `demand` is `pure ()`. -/
theorem demand_none (demands : List Demand) : demand .none demands = pure () := by
  rw [demand, Refusals.first?_none]

section LayerOf

variable {file : Path} {p : Progress}

theorem layerOf_run_known {layer : Option Settings.Layer}
    (known : p.layers.get? file = some layer) :
    (layerOf w file).run.run p = (.ok layer, p) := by
  have asked : (get : Resolution Progress).run.run p = (.ok p, p) := rfl
  rw [layerOf, run_bind_of_ok asked, known]
  rfl

/-- A file that is not known yet is loaded; what becomes known and noted is told by `Workspace.load`
alone. -/
theorem layerOf_run_new (new : p.layers.get? file = none) :
    (layerOf w file).run.run p =
      ((w.load file).map Prod.fst, match w.load file with
        | .error _ => p
        | .ok (layer, events) =>
          { layers := p.layers.insert file layer, events := p.events ++ events }) := by
  have asked : (get : Resolution Progress).run.run p = (.ok p, p) := rfl
  rw [layerOf, run_bind_of_ok asked, new]
  cases w.load file with
  | error fault => rfl
  | ok outcome => rfl

/-- The layer of a file is the one that loading it gives, known already or not. That both come to
the same is what `Coherent` is for. -/
theorem yields_layerOf (w : Workspace) (file : Path) :
    Yields w (layerOf w file) ((w.load file).map Prod.fst) := by
  intro p known
  cases there : p.layers.get? file with
  | some layer =>
    obtain ⟨events, load⟩ := known file layer there
    refine ⟨p, known, ?_⟩
    rw [layerOf_run_known there, load]
    rfl
  | none =>
    rw [layerOf_run_new there]
    cases load : w.load file with
    | error fault => exact ⟨p, known, rfl⟩
    | ok outcome => exact ⟨_, known.insert load, rfl⟩

end LayerOf

/-- The computation comes to the value, or else to one of the `faults`, whatever is known already.

Which of the two it is does not depend on what is known either, since each is a case of `Yields`. -/
def ComesTo (w : Workspace) (m : Resolution α) (a : α) (faults : Fault → Prop) : Prop :=
  Yields w m (.ok a) ∨ ∃ fault, faults fault ∧ Yields w m (.error fault)

namespace ComesTo

variable {m : Resolution α} {f : α → Resolution β} {a : α} {b : β} {faults faults' : Fault → Prop}

theorem bind (first : ComesTo w m a faults) (next : ComesTo w (f a) b faults) :
    ComesTo w (m >>= f) b faults := by
  obtain yields | ⟨fault, among, fails⟩ := first
  · obtain yields' | ⟨fault, among, fails⟩ := next
    · exact .inl (yields.bind yields')
    · exact .inr ⟨fault, among, yields.bind fails⟩
  · exact .inr ⟨fault, among, fails.bind_error⟩

theorem mono (h : ComesTo w m a faults) (more : ∀ fault, faults fault → faults' fault) :
    ComesTo w m a faults' := by
  obtain yields | ⟨fault, among, fails⟩ := h
  · exact .inl yields
  · exact .inr ⟨fault, more fault among, fails⟩

/-- Where there is no fault to come to, the computation comes to the value. -/
theorem yields (h : ComesTo w m a faults) (none : ∀ fault, ¬faults fault) :
    Yields w m (.ok a) := by
  obtain yields | ⟨fault, among, -⟩ := h
  · exact yields
  · exact absurd among (none fault)

theorem exists_yields (h : ComesTo w m a faults) : ∃ result, Yields w m result := by
  obtain yields | ⟨fault, -, fails⟩ := h
  · exact ⟨_, yields⟩
  · exact ⟨_, fails⟩

end ComesTo

theorem comesTo_demand (w : Workspace) (refusals : Refusals) (demands : List Demand) :
    ComesTo w (demand refusals demands) () fun fault =>
      ∃ demand ∈ demands, refusals demand = some fault := by
  rw [demand]
  cases first : refusals.first? demands with
  | none => exact .inl (yields_pure ())
  | some fault =>
    refine .inr ⟨fault, Refusals.exists_mem_of_first? first, fun p known => ⟨p, known, rfl⟩⟩

theorem comesTo_foldlM {step : β → α → Resolution β} {next : β → α → β} {items : List α}
    {faults : Fault → Prop} (each : ∀ b, ∀ a ∈ items, ComesTo w (step b a) (next b a) faults)
    (b : β) : ComesTo w (items.foldlM step b) (items.foldl next b) faults := by
  induction items generalizing b with
  | nil => exact .inl (yields_pure b)
  | cons a items ih =>
    rw [List.foldlM_cons, List.foldl_cons]
    exact (each b a List.mem_cons_self).bind
      (ih (fun b a ha => each b a (List.mem_cons_of_mem _ ha)) (next b a))

theorem yields_foldlM {step : β → α → Resolution β} {next : β → α → β} {items : List α}
    (each : ∀ b, ∀ a ∈ items, Yields w (step b a) (.ok (next b a))) (b : β) :
    Yields w (items.foldlM step b) (.ok (items.foldl next b)) := by
  have comes : ComesTo w (items.foldlM step b) (items.foldl next b) fun _ => False :=
    comesTo_foldlM (fun b a ha => .inl (each b a ha)) b
  exact comes.yields fun _ none => none

/-! ## §2 Files with their bases -/

/-- Settings after the layers of a chain, the last base first. -/
def mergeLinks (s : Settings) (chain : List Link) : Settings :=
  chain.reverse.foldl (fun s link => s.merge link.layer) s

theorem mergeLinks_cons (s : Settings) (link : Link) (rest : List Link) :
    mergeLinks s (link :: rest) = (mergeLinks s rest).merge link.layer := by
  simp [mergeLinks]

/-- The base that a chain goes on with is the one that its last file `Names`, unless that is used
already. -/
theorem nextBase_cases (t : FileTree) (chain : List Path) (link : Link) :
    (∃ fresh, (nextBase t chain link.file link.layer).1 = some fresh ∧
      link.Names t fresh.val) ∨
    (nextBase t chain link.file link.layer).1 = none ∧
      ∀ base, link.Names t base → base ∈ chain := by
  unfold nextBase
  split
  · -- Without a base, and with one that is empty, no file is named.
    next none =>
    refine .inr ⟨rfl, ?_⟩
    rintro base ⟨target, found, named, -⟩
    rw [none] at named
    cases named
  · next empty =>
    refine .inr ⟨rfl, ?_⟩
    rintro base ⟨target, found, named, some, -⟩
    rw [empty, Option.some.injEq] at named
    exact absurd named.symm some
  · next target some named =>
    -- A target may be found nowhere, or at a file that the chain has used or has not.
    split
    · next nowhere =>
      refine .inr ⟨rfl, ?_⟩
      rintro base ⟨target', found, named', -, at', -⟩
      rw [named, Option.some.injEq] at named'
      rw [← named', nowhere] at at'
      cases at'
    · next _ found at' =>
      have names : link.Names t (t.absolute found) := ⟨target, found, named, some, at', rfl⟩
      split
      · next used => exact .inr ⟨rfl, fun base names' => names.unique names' ▸ used⟩
      · exact .inl ⟨_, rfl, names⟩

/-- A base that is named in the `chain` makes loading fail with the fault. The base itself is not in
the chain then. -/
def FaultBelow (w : Workspace) (chain : List Link) (fault : Fault) : Prop :=
  ∃ link ∈ chain, ∃ base, link.Names w.tree base ∧ w.load base = .error fault

/-- What following a chain demands of the system: one call for each of its files, the first of them
nested so deep, and what it takes to find the base that each file names (`demandsOfLayer`). -/
def DemandsBelow (t : FileTree) (depth : Nat) (chain : List Link) (demand : Demand) : Prop :=
  (∃ n < chain.length, demand = .nestedCall (depth + n)) ∨
    ∃ link ∈ chain, demand ∈ demandsOfLayer t link.file link.layer

theorem DemandsBelow.head {t : FileTree} {depth : Nat} {link : Link} {rest : List Link}
    {demand : Demand}
    (h : demand ∈ Demand.nestedCall depth :: demandsOfLayer t link.file link.layer) :
    DemandsBelow t depth (link :: rest) demand := by
  obtain call | search := List.mem_cons.mp h
  · exact .inl ⟨0, Nat.zero_lt_succ _, call⟩
  · exact .inr ⟨link, List.mem_cons_self, search⟩

theorem DemandsBelow.tail {t : FileTree} {depth : Nat} {link : Link} {rest : List Link}
    {demand : Demand} (h : DemandsBelow t (depth + 1) rest demand) :
    DemandsBelow t depth (link :: rest) demand := by
  obtain ⟨n, lt, call⟩ | ⟨next, among, search⟩ := h
  · exact .inl ⟨n + 1, Nat.succ_lt_succ lt, by rw [call, Nat.add_assoc, Nat.add_comm 1 n]⟩
  · exact .inr ⟨next, List.mem_cons_of_mem link among, search⟩

/-- Following a chain, of which the first call is nested so deep, ends with the fault: a base that
is named in it makes loading fail, or something that it demands is refused.

The two cases are `FaultBelow` and a demand of `DemandsBelow`. -/
def BrokenOff (w : Workspace) (refusals : Refusals) (depth : Nat) (chain : List Link)
    (fault : Fault) : Prop :=
  FaultBelow w chain fault ∨
    ∃ demand, DemandsBelow w.tree depth chain demand ∧ refusals demand = some fault

theorem BrokenOff.tail {refusals : Refusals} {depth : Nat} {link : Link} {rest : List Link}
    {fault : Fault} (h : BrokenOff w refusals (depth + 1) rest fault) :
    BrokenOff w refusals depth (link :: rest) fault := by
  obtain ⟨l, hl, named⟩ | ⟨demand, below, refused⟩ := h
  · exact .inl ⟨l, List.mem_cons_of_mem link hl, named⟩
  · exact .inr ⟨demand, below.tail, refused⟩

/-- A layer is merged after the chain of its bases, unless one of them makes loading fail or the
system refuses something on the way.

The way is told by the chain alone: the base that a file names is found as `nextBase_cases` says,
and what it takes to find it is refused or not before the base itself is loaded. -/
theorem comesTo_mergeChain {used : List Path} {link : Link} {rest : List Link}
    (h : Exhausts w used link.file (link :: rest)) (refusals : Refusals) (s : Settings) :
    ComesTo w (mergeChain w s (link.file :: used) link.file link.layer refusals)
      (mergeLinks s (link :: rest)) (BrokenOff w refusals (used.length + 1) (link :: rest)) := by
  generalize hfile : link.file = file at h
  generalize hchain : link :: rest = chain at h
  -- The induction is on the way as it is followed; the calls that are nested are those of the files
  -- used before.
  induction h generalizing link rest s with
  | unusable => cases hchain
  | @last used link' loads ends =>
    cases hchain
    obtain ⟨fresh, -, names⟩ | ⟨stops, -⟩ := nextBase_cases w.tree (link'.file :: used) link'
    · -- A base that is not used yet would have to be in the chain.
      exact absurd (ends fresh.val names) fresh.property.2
    · rw [mergeChain]
      simp only [stops]
      refine ((comesTo_demand w refusals _).mono ?_).bind ?_
      · rintro fault ⟨demand, among, refused⟩
        exact .inr ⟨demand, .head among, refused⟩
      · exact .inl ((yields_note _).bind (yields_pure _))
  | @goesOn used link' base rest' loads names fresh exhausts ih =>
    cases hchain
    obtain ⟨⟨base', _, fresh'⟩, goesOn, names'⟩ | ⟨-, allUsed⟩ :=
      nextBase_cases w.tree (link'.file :: used) link'
    · obtain rfl : base' = base := names'.unique names
      rw [mergeChain]
      simp only [goesOn]
      refine ((comesTo_demand w refusals _).mono ?_).bind (.bind (.inl (yields_note _)) ?_)
      · rintro fault ⟨demand, among, refused⟩
        exact .inr ⟨demand, .head among, refused⟩
      have asked := yields_layerOf w base'
      cases load : w.load base' with
      | error fault =>
        rw [load] at asked
        have below : FaultBelow w (link' :: rest') fault :=
          ⟨link', List.mem_cons_self, base', names, load⟩
        exact .inr ⟨fault, .inl below, asked.bind_error⟩
      | ok outcome =>
        rw [load] at asked
        refine .bind (.inl asked) ?_
        rw [mergeLinks_cons]
        -- A base that cannot be used ends the chain, any other one goes on with it.
        obtain ⟨none, rfl⟩ | ⟨layer, rest, some, rfl⟩ := exhausts.head_of_load load
        · simp only [none]
          exact .inl (yields_pure _)
        · simp only [some]
          refine .bind ((ih s rfl rfl).mono ?_) (.inl (yields_pure _))
          exact fun fault brokenOff => brokenOff.tail
    · exact absurd (allUsed base names) fresh

/-- Settings after a file are those after the longest chain from it, unless the file makes loading
fail or following the chain is `BrokenOff`. -/
theorem comesTo_mergeFile {file : Path} {chain : List Link} (h : Exhausts w [] file chain)
    (refusals : Refusals) (s : Settings) :
    ComesTo w (mergeFile w s file refusals) (mergeLinks s chain) fun fault =>
      w.load file = .error fault ∨ BrokenOff w refusals 1 chain fault := by
  have asked := yields_layerOf w file
  rw [mergeFile]
  cases load : w.load file with
  | error fault =>
    rw [load] at asked
    exact .inr ⟨fault, .inl rfl, asked.bind_error⟩
  | ok outcome =>
    rw [load] at asked
    refine .bind (.inl asked) ?_
    -- The longest chain is empty just where the file cannot be used.
    obtain ⟨none, rfl⟩ | ⟨layer, rest, some, rfl⟩ := h.head_of_load load
    · simp only [none]
      exact .inl (yields_pure _)
    · simp only [some]
      have ways : Exhausts w [] (Link.mk file layer).file (⟨file, layer⟩ :: rest) := h
      exact (comesTo_mergeChain ways refusals s).mono fun fault brokenOff => Or.inr brokenOff

/-- Where the file and all bases in the chain can be loaded and nothing is refused, settings after
the file are those after the chain. -/
theorem yields_mergeFile {file : Path} {chain : List Link} (h : Exhausts w [] file chain)
    (known : ∃ outcome, w.load file = .ok outcome)
    (knownBelow : ∀ l ∈ chain, ∀ base, l.Names w.tree base → ∃ outcome, w.load base = .ok outcome)
    (s : Settings) : Yields w (mergeFile w s file) (.ok (mergeLinks s chain)) := by
  refine (comesTo_mergeFile h .none s).yields ?_
  rintro fault (fails | ⟨l, hl, base, names, fails⟩ | ⟨demand, -, refused⟩)
  · obtain ⟨outcome, load⟩ := known
    rw [load] at fails
    cases fails
  · obtain ⟨outcome, load⟩ := knownBelow l hl base names
    rw [load] at fails
    cases fails
  · cases refused

/-! ## §3 Documents -/

/-- The configuration files of a document in a project: those of the directories above it within the
project root, the root first. -/
def configFiles (t : FileTree) (document root : Path) : List Path :=
  (((directoryOf t document).ancestors.filter (·.isWithin (t.absolute root))).reverse).filterMap
    (ConfigFile.inDirectory? t)

/-- `affecting` lists the same files, closest first. -/
theorem reverse_affecting (t : FileTree) (document root : Path) :
    (affecting t document root).reverse = configFiles t document root := by
  rw [affecting, ConfigFile.upTo, Path.takeWhile_isWithin, configFiles, List.filterMap_reverse]

/-- The files that are loaded for some `files`: these, and the bases that are named in chains from
them. A base may be named and be no part of the chain, if it cannot be used. -/
def Consulted (w : Workspace) (files : List Path) (file : Path) : Prop :=
  file ∈ files ∨ ∃ first ∈ files, ∃ chain, ChainFrom w first chain ∧
    ∃ link ∈ chain, link.Names w.tree file

/-- What is consulted is one of the files, or one of the `spellings` of the tree. -/
theorem Consulted.mem_or_mem_spellings {files : List Path} {file : Path}
    (h : Consulted w files file) : file ∈ files ∨ file ∈ w.tree.spellings := by
  obtain here | ⟨first, -, chain, -, link, -, names⟩ := h
  · exact .inl here
  · exact .inr names.mem_spellings

/-- From every file there is one longest chain of bases. If no file that is consulted for a document
makes loading fail, a new resolver answers with the layers of these chains folded together: those of
each configuration file in turn, from the project root to the document, and within a chain the base
before the file that names it.

The chain of a file does not depend on the document or on what was merged before, although the
program works both out in one go. What happens where loading does fail is said by
`comesTo_mergeFile`. -/
theorem resolve_folds_longest_chains (w : Workspace) (document root : Path) :
    ∃ chain : Path → List Link,
      (∀ file other, LongestChain w file other ↔ other = chain file) ∧
      ((∀ file, Consulted w (configFiles w.tree document root) file →
          ∃ outcome, w.load file = .ok outcome) →
        (resolve w {} document root).result =
          .ok (((configFiles w.tree document root).flatMap fun file => (chain file).reverse).foldl
            (fun s link => s.merge link.layer) {})) := by
  choose chain exhausts using exists_exhausts w []
  refine ⟨chain, fun file other => (exhausts file).longestChain_iff, fun loads => ?_⟩
  have each (s : Settings) (file : Path) (hfile : file ∈ configFiles w.tree document root) :
      Yields w (mergeFile w s file) (.ok (mergeLinks s (chain file))) := by
    refine yields_mergeFile (exhausts file) (loads file (.inl hfile)) ?_ s
    intro link hlink base names
    have way := ((exhausts file).chainFrom List.not_mem_nil).1
    exact loads base (.inr ⟨file, hfile, chain file, way, link, hlink, names⟩)
  -- A new resolver knows no layers, which is coherent with any files.
  have folds := yields_foldlM each {}
  have ends (p : Progress) (known : Coherent w p.layers) :
      (((configFiles w.tree document root).foldlM (mergeFile w) {}).run.run p).1 =
        .ok ((configFiles w.tree document root).foldl
          (fun s file => mergeLinks s (chain file)) {}) := by
    obtain ⟨p', -, run⟩ := folds p known
    rw [run]
  rw [List.foldl_flatMap, resolve]
  simp only [Refusals.first?_none, OrderedMap.get?_empty, reverse_affecting]
  exact ends _ (coherent_empty w)

/-- A project in which two files build on each other. The base lifts the limit on units that the
other file sets, so it matters which of them is merged first. -/
def cyclicProject : Workspace where
  tree.files := .ofList [
    (.ofText "/p/tasty.config.toml".toText,
      .text "extends = './b.toml'\nunits = ['cols']\npresets = ['card']".toText),
    (.ofText "/p/b.toml".toText,
      .text "extends = './tasty.config.toml'\nunits = false\npresets = ['box']".toText)]

/-- The chain is cut where it would come back, and the base is merged first: it lifts the limit on
units, and the list of the other file is set after that. -/
theorem resolve_cyclicProject :
    ∃ chain : Path → List Link,
      (∀ file other, LongestChain cyclicProject file other ↔ other = chain file) ∧
      (resolve cyclicProject {} (.ofText "/p/x.ts".toText) (.ofText "/p".toText)).result =
        .ok ((chain (.ofText "/p/tasty.config.toml".toText)).reverse.foldl
          (fun s link => s.merge link.layer) {}) ∧
      (resolve cyclicProject {} (.ofText "/p/x.ts".toText) (.ofText "/p".toText)).result.map
          (fun s => (s.units, s.presets)) =
        .ok (.only ["cols".toText], ["box".toText, "card".toText]) := by
  have files : configFiles cyclicProject.tree (.ofText "/p/x.ts".toText) (.ofText "/p".toText) =
      [.ofText "/p/tasty.config.toml".toText] := by decide +kernel
  have loads : ∀ file ∈ Path.ofText "/p/tasty.config.toml".toText :: cyclicProject.tree.spellings,
      (cyclicProject.load file).isOk = true := by decide +kernel
  have baseFirst : (resolve cyclicProject {} (.ofText "/p/x.ts".toText)
      (.ofText "/p".toText)).result.map (fun s => (s.units, s.presets)) =
        .ok (.only ["cols".toText], ["box".toText, "card".toText]) := by decide +kernel
  obtain ⟨chain, longest, result⟩ :=
    resolve_folds_longest_chains cyclicProject (.ofText "/p/x.ts".toText) (.ofText "/p".toText)
  rw [files] at result
  refine ⟨chain, longest, ?_, baseFirst⟩
  have folded := result fun file consulted => ?_
  · simpa using folded
  · -- All files that may be consulted are among those whose layers load.
    have known : file ∈ Path.ofText "/p/tasty.config.toml".toText ::
        cyclicProject.tree.spellings := by
      obtain here | there := consulted.mem_or_mem_spellings
      · exact List.mem_cons.mpr (.inl (List.mem_singleton.mp here))
      · exact List.mem_cons_of_mem _ there
    have ok := loads file known
    cases load : cyclicProject.load file with
    | ok outcome => exact ⟨outcome, rfl⟩
    | error fault =>
      rw [load] at ok
      cases ok

end StyleCheck.Resolver
