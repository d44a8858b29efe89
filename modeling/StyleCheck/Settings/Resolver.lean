import StyleCheck.Settings.Demand
import StyleCheck.Settings.Loading

/-!
# Resolving settings

The settings of a document are those of all configuration files from the project root down to its
directory, the root first, so that closer files count more. Each file may build on a base, which is
merged in just before it; a base may have a base of its own. A chain of bases ends where it would
come back to a file already in it.

Following a chain ends, because each file in it is one of finitely many spellings of the files in
the tree, and none comes twice.

A resolver remembers the layers of files and the settings of directories, until it is told that a
file has changed.

The system that all this runs on may refuse what is demanded of it on the way. Then the resolution
ends with a fault, like one that cannot load a file. What is refused is the last argument of
`Resolver.mergeChain` and of `Resolver.resolve`, and it is `Refusals.none` where it is left out.

## Main definitions

- `Resolver`: what has been worked out so far.
- `Resolution`: computations that load layers, note events and may fail.
- `Resolver.mergeChain`: a layer merged after its bases.
- `Resolver.resolve`, `Resolver.invalidate`: the settings of a document, and changes of files.
-/

namespace StyleCheck

/-- Layers by the files that set them; under a file that cannot be used stands `none`. -/
abbrev LayerCache := OrderedMap Path (Option Settings.Layer)

/-- What has been worked out: the layers of files, and the settings of directories under a project
root. A file stands in `layers` by its absolute path. -/
structure Resolver where
  layers : LayerCache := .empty
  settings : OrderedMap (Path × Path) Settings := .empty

/-- What a `Resolution` leaves behind, even one that fails: the layers known by now, and what was
noted. -/
structure Progress where
  layers : LayerCache := .empty
  events : List Event := []

/-- Computations that load layers, note events and may fail. -/
abbrev Resolution := ExceptT Fault (StateM Progress)

namespace Resolver

/-! ## §1 Steps -/

/-- Notes events. -/
def note (events : List Event) : Resolution Unit :=
  modify fun p => { p with events := p.events ++ events }

/-- The layer of a file, which is loaded unless it is known. A `Workspace.load` that fails leaves
nothing behind, so it is tried again next time. -/
def layerOf (w : Workspace) (file : Path) : Resolution (Option Settings.Layer) := do
  match (← get).layers.get? file with
  | some known => return known
  | none =>
    match w.load file with
    | .error fault => throw fault
    | .ok (layer, events) =>
      note events
      modify fun p => { p with layers := p.layers.insert file layer }
      return layer

/-- Demands something of the system, one thing after the other; what is refused is thrown. -/
def demand (refusals : Refusals) (demands : List Demand) : Resolution Unit :=
  match refusals.first? demands with
  | none => pure ()
  | some fault => throw fault

/-! ## §2 Chains of bases -/

/-- The files that a `chain` can still go on with: spellings of files in the tree that are not in
it. -/
abbrev Fresh (t : FileTree) (chain : List Path) := { p : Path // p ∈ t.spellings ∧ p ∉ chain }

/-- The base that a `chain` goes on with after a file, and what is noted about it. A base that is
not found and one that is in the chain already are both noted, and end it. -/
def nextBase (t : FileTree) (chain : List Path) (file : Path) (layer : Settings.Layer) :
    Option (Fresh t chain) × List Event :=
  match layer.base with
  | none | some [] => (none, [])
  | some target =>
    match h : (ConfigFile.resolveBase t file target).1,
        (ConfigFile.resolveBase t file target).2 with
    | none, events => (none, events ++ [.baseNotFound target file.toText])
    | some found, events =>
      if used : t.absolute found ∈ chain then
        (none, events ++ [.baseCyclic target file.toText])
      else
        (some ⟨t.absolute found,
          FileTree.absolute_mem_spellings (ConfigFile.isFile_of_resolveBase h), used⟩, events)

/-- What it takes to find the base of a file; a layer without one demands nothing. -/
def demandsOfLayer (t : FileTree) (file : Path) (layer : Settings.Layer) : List Demand :=
  match layer.base with
  | none | some [] => []
  | some target => ConfigFile.demandsForBase t file target

/-- How many files a `chain` can still go on with: the measure on which `mergeChain` ends. -/
def room (t : FileTree) (chain : List Path) : Nat := t.spellings.countP fun p => !chain.contains p

private theorem countP_fresh_cons_lt {chain : List Path} {p : Path} (fresh : p ∉ chain) :
    ∀ {paths : List Path}, p ∈ paths →
      (paths.countP fun q => !(p :: chain).contains q) < paths.countP fun q => !chain.contains q
  | [], h => nomatch h
  | q :: rest, h => by
    have le : (rest.countP fun q => !(p :: chain).contains q)
        ≤ rest.countP fun q => !chain.contains q :=
      List.countP_mono_left fun r _ hr => by simp_all
    by_cases same : q = p
    · subst same
      rw [List.countP_cons_of_neg (by simp), List.countP_cons_of_pos (by simpa using fresh)]
      exact Nat.lt_succ_of_le le
    · have lt := countP_fresh_cons_lt fresh ((List.mem_cons.mp h).resolve_left (Ne.symm same))
      by_cases used : q ∈ chain
      · rw [List.countP_cons_of_neg (by simp [used]), List.countP_cons_of_neg (by simp [used])]
        exact lt
      · rw [List.countP_cons_of_pos (by simp [used, same]),
          List.countP_cons_of_pos (by simp [used])]
        exact Nat.succ_lt_succ lt

theorem room_cons_lt {t : FileTree} {chain : List Path} {p : Path} (known : p ∈ t.spellings)
    (fresh : p ∉ chain) : room t (p :: chain) < room t chain :=
  countP_fresh_cons_lt fresh known

/-- Settings after a `layer` that stands at the end of a `chain`, the `file` of the layer first. The
bases of the layer are merged before it.

The settings `s` are those that the bases start from, so each base sees what was merged before the
whole chain. -/
def mergeChain (w : Workspace) (s : Settings) (chain : List Path) (file : Path)
    (layer : Settings.Layer) (refusals : Refusals := .none) : Resolution Settings := do
  demand refusals (.nestedCall chain.length :: demandsOfLayer w.tree file layer)
  let (next, events) := nextBase w.tree chain file layer
  note events
  match next with
  | none => return s.merge layer
  | some base =>
    -- A base that cannot be used is skipped; the layer itself still counts.
    match ← layerOf w base.val with
    | none => return s.merge layer
    | some below =>
      return (← mergeChain w s (base.val :: chain) base.val below refusals).merge layer
termination_by room w.tree chain
decreasing_by exact room_cons_lt base.property.1 base.property.2

/-- Settings after a configuration file with its bases, by `mergeChain`. A file that cannot be used
changes nothing. -/
def mergeFile (w : Workspace) (s : Settings) (file : Path) (refusals : Refusals := .none) :
    Resolution Settings := do
  match ← layerOf w file with
  | none => return s
  | some layer => mergeChain w s [file] file layer refusals

/-! ## §3 Settings of documents -/

/-- The directory of a document. -/
def directoryOf (t : FileTree) (document : Path) : Path := (t.absolute document).parent

/-- The configuration files from the directory of a document up to a project root, closest first.
They are merged in the opposite order. -/
def affecting (t : FileTree) (document root : Path) : List Path :=
  ConfigFile.upTo t (directoryOf t document) (t.absolute root)

/-- What comes of a request for settings: the settings or a fault, the resolver after it, and what
was noted. -/
structure Answer where
  result : Except Fault Settings
  resolver : Resolver
  events : List Event

/-- The settings of a document in a project: those known for its directory, or else what `mergeFile`
makes of the files that are `affecting`, the root first. -/
def resolve (w : Workspace) (r : Resolver) (document root : Path) (refusals : Refusals := .none) :
    Answer :=
  let directory := directoryOf w.tree document
  let key := (directory, w.tree.absolute root)
  match refusals.first? (document.demands ++ root.demands) with
  | some fault => ⟨.error fault, r, []⟩
  | none =>
    match r.settings.get? key with
    | some known => ⟨.ok known, r, [.settingsKnown directory.toText]⟩
    | none =>
      match refusals.first? (ConfigFile.demandsUpTo w.tree directory (w.tree.absolute root)) with
      | some fault => ⟨.error fault, r, [.settingsUnknown directory.toText]⟩
      | none =>
        let files := (affecting w.tree document root).reverse
        let start : Progress :=
          { layers := r.layers
            events := [.settingsUnknown directory.toText,
              .configFiles directory.toText (files.map Path.toText)] }
        let (result, progress) :=
          (files.foldlM (fun s file => mergeFile w s file refusals) {}).run.run start
        -- A resolution that failed is tried again next time, with the layers known by then.
        let settings := match result with
          | .ok found => r.settings.insert key found
          | .error _ => r.settings
        ⟨result, { layers := progress.layers, settings }, progress.events⟩

/-- Forgets the layer of a file that has changed, and all settings, since any of them may rest on
it. Layers are found by `FileTree.absolute`, which does not look through spellings. -/
def invalidate (t : FileTree) (r : Resolver) (file : Path) : Resolver where
  layers := r.layers.erase (t.absolute file)
  settings := .empty

end Resolver

end StyleCheck
