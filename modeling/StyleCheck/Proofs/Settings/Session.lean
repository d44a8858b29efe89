import Mathlib.Data.List.Induction
import StyleCheck.Proofs.Settings.Determinacy

/-!
# Sessions

In a session files come, change and go, while one resolver is asked for the settings of documents
again and again. The resolver is told of each change before it is asked the next time. Then it
answers as a new resolver would, whatever it has been asked before and wherever it failed halfway.

Being told goes by the spelling of a path, up to detours and the working directory. A root that is
spelled with two slashes keeps its spelling, so a file that a resolver knows by such a path stays
known when it is told of the plain one. Hence nothing may be spelled with two leading slashes,
and neither may the path in a package that a base names.

## Main definitions

- `Project`: files, and readers that look at them.
- `Session.Step`, `Session.run`: what happens, and the session after it.
- `Session.Announced`: the resolver is told of each change in time.
- `Session.PlainlySpelled`: no two leading slashes anywhere.

## Main statements

- `upToDate_after`, `upToDate_run`: what the resolver of a session knows, by step and by run.
- `answer_eq_newAnswer`: the resolver of a session answers like a new one.
- `answer_doubleSlash`: it does not where a path in a package is spelled with two leading slashes.
-/

namespace StyleCheck

/-! ## §1 Projects -/

/-- Files with the readers that were plugged in. A reader sees the path of a file and what is in
it. -/
structure Project where
  tree : FileTree := {}
  readers : OrderedMap Text (Path → Option FileContent → Except Text ConfigValue) := .empty
  limits : ReadingLimits := {}

namespace Project

/-- What configuration is loaded from while the files are as they are. A reader that was plugged in
sees what is in the file at that time. -/
def workspace (project : Project) : Workspace where
  tree := project.tree
  readers := project.readers.mapValues fun reader file =>
    reader file (project.tree.files.get? (project.tree.place file))
  limits := project.limits

/-- What loading a file gives is told by its content, given the `readers` and the `limits`. -/
theorem load_congr {project project' : Project} {file : Path}
    (readers : project.readers = project'.readers) (limits : project.limits = project'.limits)
    (content : project.tree.files.get? (project.tree.place file) =
      project'.tree.files.get? (project'.tree.place file)) :
    project.workspace.load file = project'.workspace.load file := by
  have reads : project.tree.read file = project'.tree.read file := by
    rw [FileTree.read, FileTree.read, content]
  have documents : project.workspace.readDocument file = project'.workspace.readDocument file := by
    simp only [Workspace.readDocument, Workspace.readDirectly, workspace, reads,
      OrderedMap.get?_mapValues, readers, limits]
    cases project'.readers.get? file.suffix with
    | none => rfl
    | some reader => simp only [Option.map_some, content]
  rw [Workspace.load, Workspace.load, documents]

end Project

/-! ## §2 Steps -/

/-- Files, and what has been worked out of them. -/
structure Session where
  project : Project
  resolver : Resolver := {}

namespace Session

open Resolver (PlainBases UpToDate upToDate_empty resolve_of_upToDate)

/-- What can happen in a session. -/
inductive Step
  /-- A file is written or overwritten. -/
  | write (file : Path) (content : FileContent)
  /-- A file is removed. -/
  | remove (file : Path)
  /-- The resolver is told that a file has changed. -/
  | invalidate (file : Path)
  /-- The resolver is told to forget everything. -/
  | clear
  /-- The configuration files of a document are asked for. -/
  | affecting (document root : Path)
  /-- The settings of a document are asked for. -/
  | resolve (document root : Path)

/-- The paths that are handed over in a step. -/
def Step.paths : Step → List Path
  | write file _ | remove file | invalidate file => [file]
  | clear => []
  | affecting document root | resolve document root => [document, root]

/-- The session after a step. -/
def after (s : Session) : Step → Session
  | .write file content => { s with project.tree := s.project.tree.write file content }
  | .remove file => { s with project.tree := s.project.tree.remove file }
  | .invalidate file => { s with resolver := s.resolver.invalidate s.project.tree file }
  | .clear => { s with resolver := {} }
  | .affecting _ _ => s
  | .resolve document root =>
    { s with resolver := (s.resolver.resolve s.project.workspace document root).resolver }

/-- The session after some steps, in which nothing has been worked out at first. -/
def run (project : Project) (steps : List Step) : Session := steps.foldl after { project }

theorem run_concat (project : Project) (steps : List Step) (step : Step) :
    run project (steps ++ [step]) = (run project steps).after step :=
  List.foldl_append

/-- What the resolver of the session answers, asked for the settings of a document. -/
def answer (s : Session) (document root : Path) : Except Fault Settings :=
  (Resolver.resolve s.project.workspace s.resolver document root).result

/-- What a resolver that has just been made would answer. -/
def newAnswer (s : Session) (document root : Path) : Except Fault Settings :=
  (Resolver.resolve s.project.workspace {} document root).result

/-- Of the files that have changed, in absolute form, those that the resolver is still to be told
of. To be told, by `invalidate`, goes by the absolute form as well. -/
def pendingAfter (cwd : Path) (pending : List Path) : Step → List Path
  | .write file _ | .remove file => file.absolute cwd :: pending
  | .invalidate file => pending.filter (· ≠ file.absolute cwd)
  | .clear => []
  | .affecting _ _ | .resolve _ _ => pending

/-- The files that the resolver is still to be told of after some steps. -/
def pending (cwd : Path) (steps : List Step) : List Path := steps.foldl (pendingAfter cwd) []

theorem pending_concat (cwd : Path) (steps : List Step) (step : Step) :
    pending cwd (steps ++ [step]) = pendingAfter cwd (pending cwd steps) step :=
  List.foldl_append

/-- Whenever a step asks for settings, the resolver has been told of all changes. Between two
requests there may be any number of changes, and it may be told of files that have not changed. -/
def Announced (cwd : Path) (steps : List Step) : Prop :=
  ∀ n document root, steps[n]? = some (.resolve document root) → pending cwd (steps.take n) = []

/-- Nothing in the session is spelled with two leading slashes: not the working directory, no path
that is handed over, no base that a file names at any time, and no path in a package in such a base.

The last condition is more than `answer_eq_newAnswer` seems to ask for, and `answer_doubleSlash`
shows why it is there. -/
structure PlainlySpelled (project : Project) (steps : List Step) : Prop where
  cwd : project.tree.cwd.anchor ≠ .doubleRoot
  paths : ∀ step ∈ steps, ∀ p ∈ Step.paths step, p.anchor ≠ .doubleRoot
  bases : ∀ n, PlainBases (run project (steps.take n)).project.workspace

/-! ## §3 What the resolver knows -/

variable {s : Session} {project : Project} {steps : List Step} {told : List Path}

/-- The working directory never changes. -/
theorem after_cwd (s : Session) (step : Step) :
    (s.after step).project.tree.cwd = s.project.tree.cwd := by
  cases step <;> rfl

theorem run_cwd (project : Project) (steps : List Step) :
    (run project steps).project.tree.cwd = project.tree.cwd := by
  induction steps using List.reverseRecOn with
  | nil => rfl
  | append_singleton steps step ih => rw [run_concat, after_cwd _ step, ih]

/-- Where the change of a file is pending, the resolver may be wrong about that file alone. For all
others `load_congr` applies. -/
theorem upToDate_of_changed {project' : Project} {r : Resolver} {changed : Path}
    {pending : List Path} (h : UpToDate project.workspace pending r)
    (readers : project'.readers = project.readers) (limits : project'.limits = project.limits)
    (unchanged : ∀ file, file.IsPlace → file ≠ changed →
      project'.tree.files.get? (project'.tree.place file) =
        project.tree.files.get? (project.tree.place file)) :
    UpToDate project'.workspace (changed :: pending) r where
  knowsPlaces := h.knowsPlaces
  loads file layer known other := by
    rw [List.mem_cons, not_or] at other
    rw [Project.load_congr readers limits (unchanged file (h.knowsPlaces file layer known) other.1)]
    exact h.loads file layer known other.2
  settings none := by cases none

/-- What the resolver knows after a step. Settings may only be asked for where no change is pending.

`UpToDate` is the invariant of a session. Writing and removing make a change pending, being told of
it takes it back, and a request adds to what is known. -/
theorem upToDate_after {pending : List Path} {step : Step}
    (h : UpToDate s.project.workspace pending s.resolver)
    (plainCwd : s.project.tree.cwd.anchor ≠ .doubleRoot)
    (plain : ∀ p ∈ step.paths, p.anchor ≠ .doubleRoot) (bases : PlainBases s.project.workspace)
    (announced : ∀ document root, step = .resolve document root → pending = []) :
    UpToDate (s.after step).project.workspace (pendingAfter s.project.tree.cwd pending step)
      (s.after step).resolver := by
  have place (p : Path) (handed : p ∈ step.paths) : (s.project.tree.absolute p).IsPlace :=
    Path.isPlace_absolute (plain p handed) plainCwd
  cases step with
  | write file content =>
    have here := place file (by simp [Step.paths])
    refine upToDate_of_changed h rfl rfl fun file' place' other => ?_
    have elsewhere : (s.after (.write file content)).project.tree.place file' ≠
        s.project.tree.place file := by
      rw [FileTree.place_of_isPlace _ place', FileTree.place_eq_absolute here]
      exact other
    exact (OrderedMap.get?_insert ..).trans (if_neg elsewhere)
  -- The same for a file that is no longer there.
  | remove file =>
    have here := place file (by simp [Step.paths])
    refine upToDate_of_changed h rfl rfl fun file' place' other => ?_
    have elsewhere : (s.after (.remove file)).project.tree.place file' ≠
        s.project.tree.place file := by
      rw [FileTree.place_of_isPlace _ place', FileTree.place_eq_absolute here]
      exact other
    exact (OrderedMap.get?_erase ..).trans (if_neg elsewhere)
  | invalidate file =>
    have kept (file' : Path) (layer : Option Settings.Layer)
        (known : (s.after (.invalidate file)).resolver.layers.get? file' = some layer) :
        file' ≠ file.absolute s.project.tree.cwd ∧
          s.resolver.layers.get? file' = some layer := by
      simp only [after, Resolver.invalidate, OrderedMap.get?_erase] at known
      split at known
      · cases known
      · next other => exact ⟨other, known⟩
    refine ⟨fun file' layer known => ?_, fun file' layer known settled => ?_, ?_⟩
    · exact h.knowsPlaces file' layer (kept file' layer known).2
    · obtain ⟨other, known⟩ := kept file' layer known
      apply h.loads file' layer known
      intro waiting
      exact settled (List.mem_filter.mpr ⟨waiting, by simpa using other⟩)
    · -- All settings are forgotten.
      intro _ key known there
      simp [after, Resolver.invalidate] at there
  | clear => exact upToDate_empty _ _
  | affecting document root => exact h
  | resolve document root =>
    obtain rfl := announced document root rfl
    exact (resolve_of_upToDate bases h (place document (by simp [Step.paths])) root).2

/-- What the resolver of a session knows at any time, by induction on the steps; `upToDate_after` is
the step. -/
theorem upToDate_run (announced : Announced project.tree.cwd steps)
    (plain : PlainlySpelled project steps) (n : Nat) :
    UpToDate (run project (steps.take n)).project.workspace
      (pending project.tree.cwd (steps.take n)) (run project (steps.take n)).resolver := by
  induction n with
  | zero => exact upToDate_empty _ _
  | succ n ih =>
    rw [List.take_add_one]
    -- Behind the last step nothing changes any more.
    cases taken : steps[n]? with
    | none => simpa using ih
    | some step =>
      have cwd := run_cwd project (steps.take n)
      rw [Option.toList_some, run_concat, pending_concat, ← cwd]
      rw [← cwd] at ih
      refine upToDate_after ih (cwd ▸ plain.cwd) (plain.paths step (List.mem_of_getElem? taken))
        (plain.bases n) ?_
      rintro document root rfl
      rw [cwd]
      exact announced n document root taken

/-- Whenever the settings of a document are asked for, the resolver of the session answers like one
that has just been made, with settings or with a fault.

Both are up to date at that time, the first by `upToDate_run` and the second since it knows nothing,
so both answer with `settingsIn`. -/
theorem answer_eq_newAnswer (announced : Announced project.tree.cwd steps)
    (plain : PlainlySpelled project steps) {n : Nat} {document root : Path}
    (asked : steps[n]? = some (.resolve document root)) :
    (run project (steps.take n)).answer document root =
      (run project (steps.take n)).newAnswer document root := by
  have known := upToDate_run announced plain n
  rw [announced n document root asked] at known
  have handed : document.anchor ≠ .doubleRoot :=
    plain.paths _ (List.mem_of_getElem? asked) document (by simp [Step.paths])
  have place : ((run project (steps.take n)).project.tree.absolute document).IsPlace :=
    Path.isPlace_absolute handed (run_cwd project (steps.take n) ▸ plain.cwd)
  have anew := upToDate_empty (run project (steps.take n)).project.workspace []
  rw [answer, newAnswer, (resolve_of_upToDate (plain.bases n) known place root).1,
    (resolve_of_upToDate (plain.bases n) anew place root).1]

/-- The bases that the files of a workspace name, one by one. -/
theorem plainBases_of_keys {w : Workspace}
    (each : ∀ file ∈ w.tree.files.keys, ∀ layer ∈ (w.load file).toOption.bind Prod.fst,
      ∀ target ∈ layer.base, PlainBase target) : PlainBases w := by
  intro file place isFile layer events load target named
  have known : file ∈ w.tree.files.keys := by
    unfold FileTree.isFile OrderedMap.contains at isFile
    rw [FileTree.place_of_isPlace _ place] at isFile
    obtain ⟨e, he, same⟩ := List.any_eq_true.mp isFile
    exact List.mem_map.mpr ⟨e, he, by simpa using same⟩
  exact each file known layer (by simp [load, Except.toOption]) target named

/-- A project whose configuration builds on a path in a package, which is written as given. Of the
package it only counts that it is there. -/
def packagedProject (base : String) : Project where
  tree.files := .ofList [
    (.ofText "/p/tasty.config.toml".toText, .text ("extends = '" ++ base ++ "'").toText),
    (.ofText "/p/node_modules/pkg/package.json".toText, .unreadable),
    (.ofText "/p/node_modules/pkg/x.toml".toText, .text "states = ['@a']".toText),
    (.ofText "/x.toml".toText, .text "states = ['@a']".toText)]

/-- Settings are asked for, then a file is written anew and the resolver is told of that, and
settings are asked for again. -/
def rewriting (file : String) : List Step :=
  [.resolve (.ofText "/p/f.ts".toText) (.ofText "/p".toText),
    .write (.ofText file.toText) (.text "states = ['@b']".toText),
    .invalidate (.ofText file.toText),
    .resolve (.ofText "/p/f.ts".toText) (.ofText "/p".toText)]

/-- The resolver is told in time, whatever the file is. -/
theorem announced_rewriting (cwd : Path) (file : String) : Announced cwd (rewriting file) := by
  rintro (_ | _ | _ | _ | n) document root asked
  · rfl
  · cases asked
  · cases asked
  · simp [rewriting, pending, pendingAfter]
  · cases asked

/-- Neither the paths of the session nor the base are spelled with two slashes in front. -/
theorem plainlySpelled_rewriting :
    PlainlySpelled (packagedProject "pkg/x.toml") (rewriting "/p/node_modules/pkg/x.toml") := by
  refine ⟨by decide, by decide, ?_⟩
  rintro (_ | _ | _ | _ | n)
  · exact plainBases_of_keys (by decide +kernel)
  · exact plainBases_of_keys (by decide +kernel)
  · exact plainBases_of_keys (by decide +kernel)
  · exact plainBases_of_keys (by decide +kernel)
  · rw [List.take_of_length_le (by simp [rewriting])]
    exact plainBases_of_keys (by decide +kernel)

/-- Where the rewritten file is the base, the resolver notices. -/
theorem answer_eq_newAnswer_rewriting :
    (run (packagedProject "pkg/x.toml") ((rewriting "/p/node_modules/pkg/x.toml").take 3)).answer
        (.ofText "/p/f.ts".toText) (.ofText "/p".toText) =
      (run (packagedProject "pkg/x.toml")
        ((rewriting "/p/node_modules/pkg/x.toml").take 3)).newAnswer
        (.ofText "/p/f.ts".toText) (.ofText "/p".toText) :=
  answer_eq_newAnswer (announced_rewriting _ _) plainlySpelled_rewriting rfl

/-- A path in a package with two slashes in front leads to a file of the root, under a spelling that
the resolver is not told of when this file changes. -/
theorem answer_doubleSlash :
    Announced (packagedProject "pkg///x.toml").tree.cwd (rewriting "/x.toml") ∧
      (∀ step ∈ rewriting "/x.toml", ∀ p ∈ step.paths, p.anchor = .root) ∧
      (Path.ofText "pkg///x.toml".toText).anchor = .relative ∧
      ((run (packagedProject "pkg///x.toml") ((rewriting "/x.toml").take 3)).answer
        (.ofText "/p/f.ts".toText) (.ofText "/p".toText)).map (·.states) = .ok ["@a".toText] ∧
      ((run (packagedProject "pkg///x.toml") ((rewriting "/x.toml").take 3)).newAnswer
        (.ofText "/p/f.ts".toText) (.ofText "/p".toText)).map (·.states) = .ok ["@b".toText] := by
  refine ⟨announced_rewriting _ _, by decide, by rfl, ?_, ?_⟩
  · decide +kernel
  · decide +kernel

end Session

end StyleCheck
