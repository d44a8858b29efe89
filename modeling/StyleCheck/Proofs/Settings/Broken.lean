import Mathlib.Data.List.Basic
import StyleCheck.Proofs.Settings.Determinacy
import StyleCheck.Proofs.Settings.Mending
import StyleCheck.Proofs.Settings.Reading

/-!
# Broken configuration files

No configuration file stops the settings of a document from being worked out, however it is broken:
a file that is missing, unreadable, malformed or of the wrong shape counts as an empty one, and so
does one whose reader fails, wherever it stands in a chain of bases. The exceptions lie beyond the
limits of reading. A file that is read directly is refused with a fault for an integer with more
digits than are read, for lists and mappings nested too deep, and for a path that the system does
not take; and a reader that was plugged in may be broken off. Such a fault goes through to whoever
asked for the settings. So does the fault of a system that refuses something else on the way, be it
to tell what there is at a path or to nest one more call.

## Main definitions

- `Workspace.BeyondLimits`: loading a file goes beyond a limit.
- `Demanded`: what it takes to work out the settings of a document.
- `Faithful`: a resolver knows nothing but what the files say.
- `Reached`: resolvers that have served requests while the files stayed as they are.

## Main statements

- `load_cases`: what loading a file may come to.
- `resolve_of_faithful`, `Reached.faithful`: what a resolver knows, by step and by run.
- `resolve_as_mended`: files that cannot be used count as empty ones.
- `resolve_longNumeral`: an integer that is too long stops everything.
-/

namespace StyleCheck

/-! ## §1 Loading -/

namespace Workspace

variable {w : Workspace} {file : Path}

/-- The file is read directly, in the format that its suffix stands for. A reader that is plugged in
for the suffix comes first, so among the `readers` there must be none. -/
def IsReadDirectly (w : Workspace) (file : Path) (format : ConfigFormat) : Prop :=
  w.readers.get? file.suffix = none ∧ ConfigFormat.ofSuffix? file.suffix = some format

/-- Loading the file goes beyond a limit, which makes it fail with the fault.

The limits are those of the readers that are built in, which can be seen in the text of the file,
and those that the system sets for paths and for plugged-in readers, which are told by
`ReadingLimits`. -/
inductive BeyondLimits (w : Workspace) (file : Path) : Fault → Prop
  /-- The text holds so many digits in a row, more than are read. -/
  | numeral {format : ConfigFormat} {text : Text} {digits : Nat} : w.IsReadDirectly file format →
      w.tree.read file = .ok text → HoldsLongRow digits text →
      BeyondLimits w file (.numeralTooLong digits)
  /-- The brackets that open in the text stand for more nested calls than there is room for. -/
  | nesting {format : ConfigFormat} {text activity : Text} : w.IsReadDirectly file format →
      w.tree.read file = .ok text → w.limits.room < callsIn format.calls text →
      BeyondLimits w file (.callsTooDeep activity)
  /-- The system does not take the path of the file for one. -/
  | path {format : ConfigFormat} {reason : Text} : w.IsReadDirectly file format →
      w.limits.pathRefusal file = some reason → BeyondLimits w file (.pathRefused reason)
  /-- The reader that is plugged in for the file is broken off. -/
  | reader {reason : Text} : (w.readers.get? file.suffix).isSome = true →
      w.limits.breakingOff file = some reason → BeyondLimits w file (.readerBrokenOff reason)

/-- A file that is read directly fails beyond a limit only: whatever else is wrong with it, it is
noted as `Event.loadFailed` and the file has no document. -/
theorem readDirectly_eq_error {format : ConfigFormat} {fault : Fault}
    (direct : w.IsReadDirectly file format)
    (fails : w.readDirectly format file = .error fault) : w.BeyondLimits file fault := by
  unfold readDirectly at fails
  split at fails
  · -- A path that cannot be opened, and then the two limits of the reader; the rest is noted.
    next reason refused =>
    cases fails
    exact .path direct refused
  · split at fails
    · cases fails
    · next text content =>
      split at fails
      · cases fails
      · cases fails
      · -- That the text warrants the refusal is what the readers promise.
        next digits refused =>
        cases fails
        exact .numeral direct content (ConfigFormat.warrants_of_read refused)
      · next activity refused =>
        cases fails
        exact .nesting direct content (ConfigFormat.warrants_of_read refused)

/-- Reading the document of a file fails beyond a limit only.

Whatever a plugged-in reader fails with is noted and no fault, unless it is broken off; and for a
file without any reader there is nothing that could fail. -/
theorem readDocument_eq_error {fault : Fault} (fails : w.readDocument file = .error fault) :
    w.BeyondLimits file fault := by
  unfold readDocument at fails
  split at fails
  · -- A plugged-in reader fails only where it is broken off.
    next reader plugged =>
    split at fails
    · next reason brokenOff =>
      cases fails
      exact .reader (Option.isSome_of_mem plugged) brokenOff
    · split at fails
      · cases fails
      · cases fails
  · next direct =>
    split at fails
    · next format known => exact readDirectly_eq_error ⟨direct, known⟩ fails
    · cases fails

/-- Loading a file comes to an outcome, unless it goes beyond a limit.

The outcome may be that there is no layer, and then something is noted. It is not said that a file
in `BeyondLimits` does fail, since the conditions are on its text and brackets may stand in strings.
-/
theorem load_cases (w : Workspace) (file : Path) :
    (∃ outcome, w.load file = .ok outcome) ∨
      ∃ fault, w.BeyondLimits file fault ∧ w.load file = .error fault := by
  cases loads : w.load file with
  | ok outcome => exact .inl ⟨outcome, rfl⟩
  | error fault =>
    refine .inr ⟨fault, ?_, rfl⟩
    unfold load at loads
    split at loads
    · next fails =>
      cases loads
      exact readDocument_eq_error fails
    · cases loads
    · split at loads
      · cases loads
      · cases loads

end Workspace

/-! ## §2 Resolvers that have served requests -/

namespace Resolver

variable {w w' : Workspace} {r r' : Resolver}

/-- The settings after files, each merged after a `chain` of bases. It is a plain fold and knows
nothing of resolvers. -/
def mergeChains (chain : Path → List Link) (files : List Path) : Settings :=
  files.foldl (fun s file => mergeLinks s (chain file)) {}

/-- What it takes to work out the settings of a document: the working directory, where a path is
relative; a search for configuration files; and, for each file in a chain of bases, one more nested
call and a search for the next base.

The chains are told by `ChainFrom`, so a file that cannot be used takes nothing beyond its own call.
-/
inductive Demanded (w : Workspace) (document root : Path) : Demand → Prop
  | start {demand : Demand} : demand ∈ document.demands ++ root.demands →
      Demanded w document root demand
  | search {demand : Demand} : demand ∈ demandsOfSearch w.tree document root →
      Demanded w document root demand
  | chain {first : Path} {chain : List Link} {demand : Demand} :
      first ∈ configFiles w.tree document root → ChainFrom w first chain →
      DemandsBelow w.tree 1 chain demand → Demanded w document root demand

/-- Working out the settings of a document ends with the `fault`: a file that is consulted makes
loading fail, or something that it takes is refused. -/
def Fails (w : Workspace) (refusals : Refusals) (document root : Path) (fault : Fault) : Prop :=
  (∃ file, Consulted w (configFiles w.tree document root) file ∧ w.load file = .error fault) ∨
    ∃ demand, Demanded w document root demand ∧ refusals demand = some fault

/-- The configuration files of a document, the root first, as `ConfigFile.upTo` finds them from the
other end. -/
theorem upTo_reverse_eq (t : FileTree) (document root : Path) :
    (ConfigFile.upTo t (directoryOf t document) (t.absolute root)).reverse =
      configFiles t document root := reverse_affecting t document root

/-- Settings are worked out for the configuration files of a document, unless a file that is
consulted makes loading fail or something is refused.

What is known already may only save the loading, by `yields_layerOf`. -/
theorem comesTo_mergeFiles {chain : Path → List Link}
    (exhausts : ∀ file, Exhausts w [] file (chain file)) (refusals : Refusals)
    (document root : Path) :
    ComesTo w (mergeFiles w (directoryOf w.tree document) (w.tree.absolute root) refusals)
      (mergeChains chain (configFiles w.tree document root)) (Fails w refusals document root) := by
  rw [mergeFiles, upTo_reverse_eq]
  -- Each file may fail for itself or for a base below it, and both are consulted.
  refine comesTo_foldlM (fun s file among => ?_) ({} : Settings)
  refine (comesTo_mergeFile (exhausts file) refusals s).mono ?_
  have way := ((exhausts file).chainFrom List.not_mem_nil).1
  rintro fault (fails | ⟨link, hlink, base, names, fails⟩ | ⟨demand, below, refused⟩)
  · exact .inl ⟨file, .inl among, fails⟩
  · exact .inl ⟨base, .inr ⟨file, among, chain file, way, link, hlink, names⟩, fails⟩
  · exact .inr ⟨demand, .chain among way below, refused⟩

/-- A resolver knows nothing but what the files say: layers as they are loaded, and settings as the
chains of the configuration files give them.

Of layers this is `Coherent`. For settings it does not matter which chains are taken, since there is
one longest way from each file. -/
structure Faithful (w : Workspace) (r : Resolver) : Prop where
  layers : Coherent w r.layers
  settings : ∀ directory root known, r.settings.get? (directory, root) = some known →
    ∀ chain, (∀ file, Exhausts w [] file (chain file)) →
      known = mergeChains chain (ConfigFile.upTo w.tree directory root).reverse

theorem faithful_empty (w : Workspace) : Faithful w {} where
  layers := coherent_empty w
  settings directory root known there := by
    rw [OrderedMap.get?_empty] at there
    cases there

/-- To forget something keeps a resolver faithful. -/
theorem Faithful.invalidate (h : Faithful w r) (file : Path) :
    Faithful w (r.invalidate w.tree file) where
  layers file' layer known := by
    rw [Resolver.invalidate, OrderedMap.get?_erase] at known
    split at known
    · cases known
    · exact h.layers file' layer known
  settings directory root known there := by
    rw [Resolver.invalidate, OrderedMap.get?_empty] at there
    cases there

/-- From a file there is only one way that is followed to its end, so `mergeChains` does not depend
on who has followed it. -/
theorem Exhausts.unique {file : Path} {chain chain' : List Link} (h : Exhausts w [] file chain)
    (h' : Exhausts w [] file chain') : chain = chain' :=
  h'.longestChain_iff.mp (h.longestChain_iff.mpr rfl)

/-- A faithful resolver answers with what comes of the files, or fails for a reason that lies in
them or in the system, and stays faithful, also where it fails.

The layers that it comes to know are coherent by `comesTo_mergeFiles`; the settings are those of the
chains, which `Exhausts.unique` makes the same ones whenever they are asked for. -/
theorem resolve_of_faithful (h : Faithful w r) {chain : Path → List Link}
    (exhausts : ∀ file, Exhausts w [] file (chain file)) (refusals : Refusals)
    (document root : Path) :
    ((resolve w r document root refusals).result =
          .ok (mergeChains chain (configFiles w.tree document root)) ∨
        ∃ fault, Fails w refusals document root fault ∧
          (resolve w r document root refusals).result = .error fault) ∧
      Faithful w (resolve w r document root refusals).resolver := by
  -- Refusals are met in this order: the paths first, then, where nothing is known, the search.
  cases starts : refusals.first? (document.demands ++ root.demands) with
  | some fault =>
    obtain ⟨answer, same⟩ := resolve_of_refused (w := w) (r := r) (.inl starts)
    obtain ⟨demand, among, refused⟩ := Refusals.exists_mem_of_first? starts
    rw [answer, same]
    exact ⟨.inr ⟨fault, .inr ⟨demand, .start among, refused⟩, rfl⟩, h⟩
  | none =>
    cases known : r.settings.get? (directoryOf w.tree document, w.tree.absolute root) with
    | some found =>
      -- What is known was worked out before, from the same chains.
      obtain ⟨answer, same⟩ := resolve_of_known starts known
      rw [answer, same, h.settings _ _ found known chain exhausts, upTo_reverse_eq]
      exact ⟨.inl rfl, h⟩
    | none =>
      cases searches : refusals.first? (demandsOfSearch w.tree document root) with
      | some fault =>
        obtain ⟨answer, same⟩ := resolve_of_refused (.inr ⟨starts, known, searches⟩)
        obtain ⟨demand, among, refused⟩ := Refusals.exists_mem_of_first? searches
        rw [answer, same]
        exact ⟨.inr ⟨fault, .inr ⟨demand, .search among, refused⟩, rfl⟩, h⟩
      | none =>
        obtain yields | ⟨fault, fails, yields⟩ := comesTo_mergeFiles exhausts refusals document root
        · obtain ⟨p, coherent, run⟩ := yields (startOf w r document root) h.layers
          rw [resolve_of_run starts searches known run]
          refine ⟨.inl rfl, coherent, fun directory root' known' there chain' exhausts' => ?_⟩
          obtain rfl : chain = chain' := funext fun file => (exhausts file).unique (exhausts' file)
          obtain ⟨same, answer⟩ | before := get?_settingsAfter there
          · cases same
            cases answer
            rw [upTo_reverse_eq]
          · exact h.settings directory root' known' before chain exhausts
        · obtain ⟨p, coherent, run⟩ := yields (startOf w r document root) h.layers
          rw [resolve_of_run starts searches known run]
          exact ⟨.inr ⟨fault, fails, rfl⟩, coherent, h.settings⟩

/-- The resolvers that have served requests, with an answer or a fault, and were told of changes,
while the files stayed as they are.

The system may have refused something else each time, so the `refusals` are those of the one
request. -/
inductive Reached (w : Workspace) : Resolver → Prop
  | new : Reached w {}
  | resolved {r : Resolver} (document root : Path) (refusals : Refusals) :
      Reached w r → Reached w (resolve w r document root refusals).resolver
  | invalidated {r : Resolver} (file : Path) : Reached w r → Reached w (r.invalidate w.tree file)

theorem Reached.faithful (h : Reached w r) : Faithful w r := by
  induction h with
  | new => exact faithful_empty w
  | resolved document root refusals _ ih =>
    choose chain exhausts using exists_exhausts w []
    exact (resolve_of_faithful ih exhausts refusals document root).2
  | invalidated file _ ih => exact ih.invalidate file

/-! ## §3 Broken files -/

/-- In a mended workspace where nothing is refused, the settings of a document are those that the
chains of the first workspace give.

A chain ends before a file that cannot be used, and there the mended one goes on with an empty layer
that changes nothing (`mergeLinks_of_mends`). -/
theorem resolve_of_mends (mends : w.Mends w') (h : Faithful w' r') {chain : Path → List Link}
    (exhausts : ∀ file, Exhausts w [] file (chain file)) (document root : Path) :
    (resolve w' r' document root).result =
      .ok (mergeChains chain (configFiles w.tree document root)) := by
  choose chain' exhausts' using exists_exhausts w' []
  have files := mends.samePlaces.configFiles_eq document root
  have spelled {file : Path} (among : file ∈ configFiles w.tree document root) :
      file ∈ w.tree.spellings := mem_spellings_of_mem_configFiles among
  -- File by file, the links of the two workspaces merge to the same settings.
  have same : mergeChains chain' (configFiles w'.tree document root) =
      mergeChains chain (configFiles w.tree document root) := by
    rw [files, mergeChains, mergeChains]
    refine List.foldl_ext _ _ _ fun s file among => ?_
    exact mergeLinks_of_mends mends (exhausts file) (exhausts' file) (spelled among) s
  rw [← same]
  obtain answer | ⟨fault, fails, -⟩ := (resolve_of_faithful h exhausts' .none document root).1
  · exact answer
  · exfalso
    obtain ⟨file, consulted, loads⟩ | ⟨demand, -, refused⟩ := fails
    · -- Every file of a mended workspace can be used.
      have among : file ∈ w.tree.spellings := by
        obtain here | there := consulted.mem_or_mem_spellings
        · exact spelled (files ▸ here)
        · exact mends.samePlaces.spellings_eq ▸ there
      obtain ⟨layer, events, usable⟩ := mends.usable_mended among
      rw [usable] at loads
      cases loads
    · cases refused

/-- Loading a file comes to an outcome, whatever is in the file and whatever its reader fails with,
unless it goes beyond a limit; and whatever a resolver has been asked before, the settings of a
document are those that come of the mended files. The exceptions are told apart: a file that is
consulted goes beyond a limit, and loading it fails, or the system refuses something that it takes
to work the settings out.

Mended files are those in which an empty object stands for whatever cannot be used; there are such
files for every workspace (`Workspace.mends_mended`), and the settings do not depend on how they are
mended. `resolve_of_faithful` says what a resolver may answer, and `resolve_of_mends` that the
mended files give the same settings. -/
theorem resolve_as_mended (w : Workspace) :
    (∀ file, (∃ outcome, w.load file = .ok outcome) ∨
      ∃ fault, w.BeyondLimits file fault ∧ w.load file = .error fault) ∧
    (∃ w', w.Mends w') ∧
    ∀ r document root refusals, Reached w r →
      (∃ s, (resolve w r document root refusals).result = .ok s ∧
        ∀ w' r', w.Mends w' → Reached w' r' → (resolve w' r' document root).result = .ok s) ∨
      ∃ fault, (resolve w r document root refusals).result = .error fault ∧
        ((∃ file, Consulted w (configFiles w.tree document root) file ∧
            w.BeyondLimits file fault ∧ w.load file = .error fault) ∨
          ∃ demand, Demanded w document root demand ∧ refusals demand = some fault) := by
  refine ⟨w.load_cases, ⟨w.mended, w.mends_mended⟩, fun r document root refusals reached => ?_⟩
  choose chain exhausts using exists_exhausts w []
  obtain answer | ⟨fault, fails, answer⟩ :=
    (resolve_of_faithful reached.faithful exhausts refusals document root).1
  · refine .inl ⟨_, answer, fun w' r' mends reached' => ?_⟩
    exact resolve_of_mends mends reached'.faithful exhausts document root
  · refine .inr ⟨fault, answer, ?_⟩
    obtain ⟨file, consulted, loads⟩ | refused := fails
    · -- A file that makes the resolution fail has gone beyond a limit, since `load_cases` leaves
      -- nothing else.
      obtain ⟨outcome, loads'⟩ | ⟨fault', beyond, loads'⟩ := w.load_cases file
      · rw [loads'] at loads
        cases loads
      · rw [loads'] at loads
        cases loads
        exact .inl ⟨file, consulted, beyond, loads'⟩
    · exact .inr refused

/-- A project whose configuration builds on a file with the given text. -/
def basedProject (base : String) : Workspace where
  tree.files := .ofList [
    (.ofText "/p/tasty.config.toml".toText, .text "extends = './b.toml'\nstates = ['@a']".toText),
    (.ofText "/p/b.toml".toText, .text base.toText)]

/-- A base that breaks off is mended by an empty text, and the other file stays as it is. -/
theorem mends_basedProject : (basedProject "[").Mends (basedProject "") := by
  -- Which of the two files can be used, and what stands in them, is evaluated.
  have kept : ∀ file ∈ (basedProject "[").tree.spellings, (basedProject "[").Usable file →
      (basedProject "").tree.read file = (basedProject "[").tree.read file := by decide +kernel
  have emptied : ∀ file ∈ (basedProject "[").tree.spellings, ¬(basedProject "[").Usable file →
      ConfigFormat.ofSuffix? file.suffix = some .toml ∧
        (basedProject "").tree.read file = .ok [] := by decide +kernel
  apply Workspace.mends_of_read
  · exact ⟨rfl, rfl, rfl⟩
  · rfl
  · rfl
  · decide
  · exact kept
  · intro file spelled broken
    obtain ⟨toml, empty⟩ := emptied file spelled broken
    exact ⟨rfl, rfl, .toml, toml, empty⟩

/-- The settings of a document beside them are the same in both, and there are some. -/
theorem resolve_basedProject :
    ∃ s, (resolve (basedProject "[") {} (.ofText "/p/x.ts".toText) (.ofText "/p".toText)).result =
        .ok s ∧
      (resolve (basedProject "") {} (.ofText "/p/x.ts".toText) (.ofText "/p".toText)).result =
        .ok s := by
  have answers : (resolve (basedProject "[") {} (.ofText "/p/x.ts".toText)
      (.ofText "/p".toText)).result.isOk = true := by decide +kernel
  obtain ⟨s, result, mended⟩ | ⟨fault, fails, -⟩ :=
    (resolve_as_mended (basedProject "[")).2.2 {} (.ofText "/p/x.ts".toText) (.ofText "/p".toText)
      .none .new
  · exact ⟨s, result, mended (basedProject "") {} mends_basedProject .new⟩
  · -- Neither file goes beyond a limit.
    rw [fails] at answers
    cases answers

/-- A list in a list takes four nested calls. -/
example :
    ({ basedProject "a = [[1]]" with limits.room := 3 }.load (.ofText "/p/b.toml".toText)).map
      (fun _ => ()) = .error (.callsTooDeep []) := by decide +kernel

/-- A system that does not tell whether there is a directory where the base should be. -/
example :
    ((resolve (basedProject "") {} (.ofText "/p/x.ts".toText) (.ofText "/p".toText) fun demand =>
        if demand = .isDirectory (.ofText "/p/b.toml".toText)
          then some (.lookupRefused "File name too long".toText) else none).result.map
      fun _ => ()) = .error (.lookupRefused "File name too long".toText) := by decide +kernel

/-- A project whose configuration is an integer of a digit more than are read, 4301 of them. -/
def numeralProject : Workspace where
  tree.files := .ofList [
    (.ofText "/p/tasty.config.toml".toText,
      .text ("n = ".toText ++ List.replicate 4301 (CodePoint.char '1')))]

/-- Neither can this file be loaded nor the settings of a document beside it be worked out. -/
theorem resolve_longNumeral :
    numeralProject.load (.ofText "/p/tasty.config.toml".toText) = .error (.numeralTooLong 4301) ∧
      (resolve numeralProject {} (.ofText "/p/f.ts".toText) (.ofText "/p".toText)).result =
        .error (.numeralTooLong 4301) := by
  -- Outcomes have no decidable equality, so only the fault is compared.
  have fault {α : Type} {x : Except Fault α}
      (h : x.map (fun _ => ()) = .error (.numeralTooLong 4301)) :
      x = .error (.numeralTooLong 4301) := by
    cases x with
    | ok a => cases h
    | error e => cases h; rfl
  constructor
  · apply fault
    decide +kernel
  · apply fault
    decide +kernel

end Resolver

end StyleCheck
