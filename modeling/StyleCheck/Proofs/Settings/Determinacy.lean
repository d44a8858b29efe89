import StyleCheck.Proofs.Files.Place
import StyleCheck.Proofs.Settings.Resolver

/-!
# Resolving settings comes to one result

What a resolver knows already saves work and changes no answer. A computation that loads layers
comes to the same result, be it settings or a fault, from whatever coherent layers are known, and a
computation that fails on the way leaves coherent layers behind as well. Layers become known of
files at places alone, as long as no base is spelled with two leading slashes.

## Main definitions

- `Settles`: a computation comes to one result, whatever is known.
- `mergeFiles`, `settingsIn`: the settings of a directory in a project, worked out anew.
- `UpToDate`: a resolver knows nothing that has changed, but for some files.

## Main statements

- `settles_mergeChain`, `settles_mergeFile`: merging files comes to one result.
- `resolve_of_upToDate`: a resolver that is up to date answers like a new one, and stays so.
-/

namespace StyleCheck.Resolver

variable {w : Workspace} {α β : Type}

/-! ## §1 Computations that come to one result -/

/-- Layers are known of files at places alone. Only of these can a resolver be told that they have
changed, since `invalidate` goes by the absolute path. -/
def KnowsPlaces (layers : LayerCache) : Prop :=
  ∀ file layer, layers.get? file = some layer → file.IsPlace

/-- The computation comes to one result from whatever coherent layers are known, a value that it
comes to has a `property`, and what it comes to know are layers of files at places. -/
structure Settles (w : Workspace) (m : Resolution α) (property : α → Prop) : Prop where
  yields : ∃ result, Yields w m result ∧ ∀ a, result = .ok a → property a
  knowsPlaces : ∀ p : Progress, Coherent w p.layers → KnowsPlaces p.layers →
    KnowsPlaces (m.run.run p).2.layers

theorem settles_pure {property : α → Prop} {a : α} (h : property a) :
    Settles w (pure a) property where
  yields := ⟨.ok a, yields_pure a, by simpa using h⟩
  knowsPlaces _ _ places := places

theorem settles_note (events : List Event) : Settles w (note events) fun _ => True where
  yields := ⟨.ok (), yields_note events, fun _ _ => trivial⟩
  knowsPlaces _ _ places := places

/-- Computations that settle, one after the other, settle. Where the first one fails, the second is
not asked. -/
theorem Settles.bind {m : Resolution α} {f : α → Resolution β} {property : α → Prop}
    {property' : β → Prop} (first : Settles w m property)
    (next : ∀ a, property a → Settles w (f a) property') : Settles w (m >>= f) property' := by
  obtain ⟨result, yields, holds⟩ := first.yields
  -- Either way, the first part leaves only files known by their places.
  cases result with
  | error fault =>
    refine ⟨⟨.error fault, yields.bind_error, by simp⟩, fun p known places => ?_⟩
    obtain ⟨p', -, run⟩ := yields p known
    have places' := first.knowsPlaces p known places
    rw [run] at places'
    rw [run_bind_of_error run]
    exact places'
  | ok a =>
    have next := next a (holds a rfl)
    obtain ⟨result', yields', holds'⟩ := next.yields
    refine ⟨⟨result', yields.bind yields', holds'⟩, fun p known places => ?_⟩
    obtain ⟨p', known', run⟩ := yields p known
    have places' := first.knowsPlaces p known places
    rw [run] at places'
    rw [run_bind_of_ok run]
    exact next.knowsPlaces p' known' places'

/-- The layer of a file at a place is the one that loading it gives, be it known or not: `Coherent`
says that what is known was loaded. -/
theorem settles_layerOf {file : Path} (place : file.IsPlace) :
    Settles w (layerOf w file) fun layer => ∃ events, w.load file = .ok (layer, events) := by
  refine ⟨⟨_, yields_layerOf w file, ?_⟩, fun p known places => ?_⟩
  · intro layer loads
    cases load : w.load file with
    | error fault =>
      rw [load] at loads
      cases loads
    | ok outcome =>
      rw [load] at loads
      cases loads
      exact ⟨outcome.2, rfl⟩
  · -- What is known stays known; a new file comes in by its place.
    cases there : p.layers.get? file with
    | some layer =>
      rw [layerOf_run_known there]
      exact places
    | none =>
      rw [layerOf_run_new there]
      cases w.load file with
      | error fault => exact places
      | ok outcome =>
        intro file' layer' known'
        rw [OrderedMap.get?_insert] at known'
        split at known'
        · next same => exact same ▸ place
        · exact places file' layer' known'

theorem settles_foldlM {step : β → α → Resolution β} {items : List α}
    (each : ∀ b, ∀ a ∈ items, Settles w (step b a) fun _ => True) (b : β) :
    Settles w (items.foldlM step b) fun _ => True := by
  induction items generalizing b with
  | nil => exact settles_pure trivial
  | cons a items ih =>
    rw [List.foldlM_cons]
    exact (each b a List.mem_cons_self).bind fun b _ =>
      ih (fun b a ha => each b a (List.mem_cons_of_mem _ ha)) b

/-! ## §2 Files with their bases -/

/-- Every base that a file at a place names is spelled plainly, in the sense of `PlainBase`. The
bases of other files do not matter, since they are never met. -/
def PlainBases (w : Workspace) : Prop :=
  ∀ file : Path, file.IsPlace → w.tree.isFile file = true →
    ∀ layer events, w.load file = .ok (some layer, events) →
      ∀ target, layer.base = some target → PlainBase target

/-- The base that a file at a place names is a file at a place, if bases are plain:
`ConfigFile.isPlace_of_resolveBase`. -/
theorem Link.Names.isPlace (plain : PlainBases w) {link : Link} {base : Path}
    (names : link.Names w.tree base) (place : link.file.IsPlace)
    (file : w.tree.isFile link.file = true) (loads : link.Loads w) :
    base.IsPlace ∧ w.tree.isFile base = true := by
  obtain ⟨target, found, named, -, at', rfl⟩ := names
  obtain ⟨events, load⟩ := loads
  have plainBase := plain link.file place file link.layer events load target named
  exact ConfigFile.isPlace_of_resolveBase place plainBase at'

/-- To merge a file after its bases settles.

The recursion is that of `mergeChain` itself, with `room` as its measure. The chain only goes on
from places to places, so what becomes known are layers of places. -/
theorem settles_mergeChain (plain : PlainBases w) (chain : List Path) (link : Link)
    (place : link.file.IsPlace) (file : w.tree.isFile link.file = true) (loads : link.Loads w)
    (s : Settings) : Settles w (mergeChain w s chain link.file link.layer) fun _ => True := by
  -- Each further base leaves less room for others.
  induction n : room w.tree chain using Nat.strongRecOn generalizing chain link s with
  | _ n ih =>
    rw [mergeChain, demand_none, pure_bind]
    obtain ⟨base, goesOn, names⟩ | ⟨stops, -⟩ := nextBase_cases w.tree chain link
    · simp only [goesOn]
      obtain ⟨place', file'⟩ := names.isPlace plain place file loads
      refine (settles_note _).bind fun _ _ => (settles_layerOf place').bind fun below load => ?_
      -- Where the base cannot be used, the chain ends here.
      cases below with
      | none => exact settles_pure trivial
      | some layer =>
        have less := room_cons_lt base.property.1 base.property.2
        rw [n] at less
        have below : Settles w (mergeChain w s (base.val :: chain) base.val layer) fun _ => True :=
          ih _ less (base.val :: chain) ⟨base.val, layer⟩ place' file' load s rfl
        exact below.bind fun _ _ => settles_pure trivial
    · simp only [stops]
      exact (settles_note _).bind fun _ _ => settles_pure trivial

theorem settles_mergeFile (plain : PlainBases w) {file : Path} (place : file.IsPlace)
    (isFile : w.tree.isFile file = true) (s : Settings) :
    Settles w (mergeFile w s file) fun _ => True := by
  refine (settles_layerOf place).bind fun layer load => ?_
  cases layer with
  | none => exact settles_pure trivial
  | some layer => exact settles_mergeChain plain [file] ⟨file, layer⟩ place isFile load s

/-! ## §3 Directories -/

/-- The configuration files of a directory in a project with a root, merged one after the other. -/
def mergeFiles (w : Workspace) (directory root : Path) (refusals : Refusals := .none) :
    Resolution Settings :=
  (ConfigFile.upTo w.tree directory root).reverse.foldlM
    (fun s file => mergeFile w s file refusals) {}

/-- The settings of a directory in a project with a root, worked out from the files alone: by
`mergeFiles`, with nothing known. -/
def settingsIn (w : Workspace) (directory root : Path) : Except Fault Settings :=
  ((mergeFiles w directory root).run.run {}).1

/-- Where a resolver starts from, asked for settings that it does not know. -/
def startOf (w : Workspace) (r : Resolver) (document root : Path) : Progress where
  layers := r.layers
  events := [.settingsUnknown (directoryOf w.tree document).toText,
    .configFiles (directoryOf w.tree document).toText
      ((affecting w.tree document root).reverse.map Path.toText)]

/-- The settings that are known after those under a key have been asked for. A resolution that
failed adds none. -/
def settingsAfter (r : Resolver) (key : Path × Path) :
    Except Fault Settings → OrderedMap (Path × Path) Settings
  | .ok found => r.settings.insert key found
  | .error _ => r.settings

/-- What is known after a request is what was worked out in it, or was known before; `settingsAfter`
adds nothing else. -/
theorem get?_settingsAfter {r : Resolver} {key key' : Path × Path}
    {result : Except Fault Settings} {known : Settings}
    (there : (settingsAfter r key result).get? key' = some known) :
    key' = key ∧ result = .ok known ∨ r.settings.get? key' = some known := by
  cases result with
  | error fault => exact .inr there
  | ok found =>
    rw [settingsAfter, OrderedMap.get?_insert] at there
    split at there
    · next same => exact .inl ⟨same, congrArg Except.ok (Option.some.inj there)⟩
    · exact .inr there

/-- What it takes to find the configuration files of a document, before any of them is loaded:
`ConfigFile.demandsUpTo` from its directory. -/
def demandsOfSearch (t : FileTree) (document root : Path) : List Demand :=
  ConfigFile.demandsUpTo t (directoryOf t document) (t.absolute root)

/-- Settings that are not known are worked out, and known from then on, if the system lets the
configuration files be found.

If working them out fails, the layers that were loaded stay known, and by `settingsAfter` the
settings do not change. -/
theorem resolve_of_run {refusals : Refusals} {r : Resolver} {document root : Path}
    {result : Except Fault Settings} {p : Progress}
    (starts : refusals.first? (document.demands ++ root.demands) = none)
    (searches : refusals.first? (demandsOfSearch w.tree document root) = none)
    (new : r.settings.get? (directoryOf w.tree document, w.tree.absolute root) = none)
    (run : (mergeFiles w (directoryOf w.tree document) (w.tree.absolute root) refusals).run.run
      (startOf w r document root) = (result, p)) :
    resolve w r document root refusals =
      { result
        resolver :=
          { layers := p.layers
            settings :=
              settingsAfter r (directoryOf w.tree document, w.tree.absolute root) result }
        events := p.events } := by
  have run' : ((affecting w.tree document root).reverse.foldlM
      (fun s file => mergeFile w s file refusals) {}).run.run
      (startOf w r document root) = (result, p) := run
  rw [startOf] at run'
  rw [demandsOfSearch] at searches
  unfold resolve
  simp only [starts, searches, new, run']
  cases result with
  | error fault => rfl
  | ok found => rfl

/-- Settings that are known are told again, and the resolver stays as it is. All that is noted is
`Event.settingsKnown`. -/
theorem resolve_of_known {refusals : Refusals} {r : Resolver} {document root : Path}
    {known : Settings} (starts : refusals.first? (document.demands ++ root.demands) = none)
    (there : r.settings.get? (directoryOf w.tree document, w.tree.absolute root) = some known) :
    (resolve w r document root refusals).result = .ok known ∧
      (resolve w r document root refusals).resolver = r := by
  unfold resolve
  simp only [starts, there, true_and]

/-- Where the system refuses what starts a resolution, or the search for configuration files, the
resolver is left as it was. -/
theorem resolve_of_refused {refusals : Refusals} {r : Resolver} {document root : Path}
    {fault : Fault}
    (refused : refusals.first? (document.demands ++ root.demands) = some fault ∨
      refusals.first? (document.demands ++ root.demands) = none ∧
        r.settings.get? (directoryOf w.tree document, w.tree.absolute root) = none ∧
        refusals.first? (demandsOfSearch w.tree document root) = some fault) :
    (resolve w r document root refusals).result = .error fault ∧
      (resolve w r document root refusals).resolver = r := by
  unfold resolve
  obtain starts | ⟨starts, new, searches⟩ := refused
  · simp only [starts, true_and]
  · rw [demandsOfSearch] at searches
    simp only [starts, new, searches, true_and]

/-- A resolver knows of files at places alone, and it knows what loading them gives, but for files
whose change is pending. While no change is pending, it knows the right settings.

With `pending` the files may change before the resolver is told of it, one announcement after the
other. -/
structure UpToDate (w : Workspace) (pending : List Path) (r : Resolver) : Prop where
  knowsPlaces : KnowsPlaces r.layers
  loads : ∀ file layer, r.layers.get? file = some layer → file ∉ pending →
    ∃ events, w.load file = .ok (layer, events)
  settings : pending = [] → ∀ key known, r.settings.get? key = some known →
    settingsIn w key.1 key.2 = .ok known

/-- A resolver that knows nothing is up to date. -/
theorem upToDate_empty (w : Workspace) (pending : List Path) : UpToDate w pending {} where
  knowsPlaces file layer known := by simp at known
  loads file layer known := by simp at known
  settings _ key settings known := by simp at known

/-- Merging the configuration files of a directory, a resolver that is up to date comes to the
settings that come of the files alone, and knows the layers of files at places after that. -/
theorem run_files_of_upToDate (plain : PlainBases w) {r : Resolver} (h : UpToDate w [] r)
    {directory : Path} (place : directory.IsPlace) (root : Path) (events : List Event) :
    ∃ p : Progress, Coherent w p.layers ∧ KnowsPlaces p.layers ∧
      (mergeFiles w directory root).run.run ⟨r.layers, events⟩ =
        (settingsIn w directory root, p) := by
  have settles : Settles w (mergeFiles w directory root) fun _ => True := by
    refine settles_foldlM (fun s file among => ?_) ({} : Settings)
    obtain ⟨place', isFile⟩ := ConfigFile.isPlace_of_mem_upTo place (List.mem_reverse.mp among)
    exact settles_mergeFile plain place' isFile s
  obtain ⟨result, yields, -⟩ := settles.yields
  -- Working the settings out anew starts from no layers, which are coherent as well.
  have anew : settingsIn w directory root = result := by
    obtain ⟨p, -, run⟩ := yields {} (coherent_empty w)
    exact congrArg Prod.fst run
  have coherent : Coherent w r.layers := by
    intro file layer there
    exact h.loads file layer there List.not_mem_nil
  obtain ⟨p, coherent', run⟩ := yields ⟨r.layers, events⟩ coherent
  have places := settles.knowsPlaces ⟨r.layers, events⟩ coherent h.knowsPlaces
  rw [run] at places
  exact ⟨p, coherent', places, anew ▸ run⟩

/-- A resolver that is up to date answers with the settings that come of the files alone, and stays
up to date, also where it fails halfway.

It may know the settings, or work them out from layers of which it knows some. By `Settles` it makes
no difference which. -/
theorem resolve_of_upToDate (plain : PlainBases w) {r : Resolver} (h : UpToDate w [] r)
    {document : Path} (place : (w.tree.absolute document).IsPlace) (root : Path) :
    (resolve w r document root).result =
        settingsIn w (directoryOf w.tree document) (w.tree.absolute root) ∧
      UpToDate w [] (resolve w r document root).resolver := by
  have place' : (directoryOf w.tree document).IsPlace := place.parent
  cases known : r.settings.get? (directoryOf w.tree document, w.tree.absolute root) with
  | some found =>
    obtain ⟨answer, same⟩ := resolve_of_known (Refusals.first?_none _) known
    rw [answer, same]
    exact ⟨(h.settings rfl _ found known).symm, h⟩
  | none =>
    obtain ⟨p, coherent, places, run⟩ := run_files_of_upToDate plain h place'
      (w.tree.absolute root) (startOf w r document root).events
    rw [resolve_of_run (Refusals.first?_none _) (Refusals.first?_none _) known run]
    refine ⟨rfl, places, fun file layer there _ => coherent file layer there, ?_⟩
    intro _ key known' there
    -- Known settings are those just worked out, or were known before.
    obtain ⟨rfl, anew⟩ | before := get?_settingsAfter there
    · exact anew
    · exact h.settings rfl key known' before

end StyleCheck.Resolver
