import Mathlib.Data.List.Infix
import StyleCheck.Proofs.Files.Path
import StyleCheck.Settings.Resolver

/-!
# Configuration files above a document

The configuration files that affect a document are found by going up from its directory, one parent
at a time, until the project root has been reached or left. What is found can be said without going
anywhere: the directories from that of the document to the root, closest first, each with the first
of the known names that leads to a file in it. A document outside of the root is affected by none,
and a name that merely starts like the root does not count as inside.

## Main definitions

- `Path.descend`: what lies below a directory.
- `ConfigFile.IsConfigOf`, `ConfigFile.ConfigsOf`: the configuration file of a directory, and those
  of directories in a row.
- `ConfigFile.climb`: going up, for a limited number of steps.

## Main statements

- `ConfigFile.climb_eq`: going up ends, at the latest where the path starts.
- `ConfigFile.configsOf_upTo`: what is found between a directory and the root above it.
- `Resolver.affecting_climbs`: the configuration files that affect a document.
-/

namespace StyleCheck

/-! ## §1 Up and down -/

namespace Path

variable {p directory : Path}

/-- What lies below a directory, along some `names`. -/
def descend (directory : Path) (names : List Text) : Path :=
  { directory with parts := directory.parts ++ names }

theorem descend_nil (directory : Path) : directory.descend [] = directory := by
  rw [descend, List.append_nil]

/-- A path is within a directory if it lies below it, along some names or none. So `/app2` is not
within `/app`: its names do not begin with `app`. -/
theorem isWithin_iff_exists_descend :
    p.isWithin directory = true ↔ ∃ below, p = directory.descend below := by
  rw [isWithin_iff]
  constructor
  · rintro ⟨anchor, below, parts⟩
    refine ⟨below, ?_⟩
    rw [descend, parts, ← anchor]
  · rintro ⟨below, rfl⟩
    exact ⟨rfl, List.prefix_append directory.parts below⟩

theorem parent_descend_concat (directory : Path) (below : List Text) (name : Text) :
    (directory.descend (below ++ [name])).parent = directory.descend below := by
  rw [parent, descend, descend, ← List.append_assoc, List.dropLast_concat]

/-- Going up leads nowhere only where the path starts. -/
theorem parent_eq_self_iff : p.parent = p ↔ p.parts = [] := by
  constructor
  · intro same
    have shorter := congrArg (fun q : Path => q.parts.length) same
    simp only [parent, List.length_dropLast] at shorter
    rw [← List.length_eq_zero_iff]
    omega
  · intro start
    cases p
    subst start
    rfl

theorem length_parent_lt (moves : p.parent ≠ p) : p.parent.parts.length < p.parts.length := by
  have some := List.length_pos_iff.mpr fun start => moves (parent_eq_self_iff.mpr start)
  rw [parent, List.length_dropLast]
  omega

/-- The ancestors of a path are the path itself and those of its parent, if it has another. -/
theorem ancestors_eq (p : Path) :
    p.ancestors = p :: if p.parent = p then [] else p.parent.ancestors := by
  have first : p.parts.take (p.parts.length - 0) = p.parts := List.take_length
  rw [ancestors, List.range_succ_eq_map, List.map_cons, List.map_map, first]
  congr 1
  split
  · next start =>
    rw [parent_eq_self_iff.mp start]
    rfl
  · next moves =>
    -- Dropping one part fewer from the parent is dropping it from the path.
    have shorter := length_parent_lt moves
    have length : p.parent.parts.length = p.parts.length - 1 := List.length_dropLast
    have count : p.parent.parts.length + 1 = p.parts.length := by omega
    rw [ancestors, count]
    refine List.map_congr_left fun k _ => ?_
    rw [Function.comp_apply, length, parent, List.dropLast_eq_take, List.take_take]
    congr 2
    omega

end Path

namespace ConfigFile

variable {t : FileTree} {directory root file : Path}

/-! ## §2 Going up -/

/-- The configuration files met by going up from a directory within the root, closest first, until
the root has been reached or left, or the start of the path. Nothing comes of it where the steps do
not suffice.

This is the walk as one would write it as a loop. `ConfigFile.upTo` says the same with
`Path.ancestors`, and `climb_eq` that the two agree. -/
def climb (t : FileTree) (root : Path) : Nat → Path → Option (List Path)
  | 0, _ => none
  | steps + 1, current =>
    if current.isWithin root then
      let here := (inDirectory? t current).toList
      if current = root ∨ current.parent = current then some here
      else (climb t root steps current.parent).map (here ++ ·)
    else some []

/-- The directories within a root, from one of them upwards. -/
theorem takeWhile_isWithin_eq (directory root : Path) :
    directory.ancestors.takeWhile (·.isWithin root) =
      if directory.isWithin root then
        directory :: if directory = root ∨ directory.parent = directory then []
          else directory.parent.ancestors.takeWhile (·.isWithin root)
      else [] := by
  rw [directory.ancestors_eq, List.takeWhile_cons]
  congr 2
  by_cases start : directory.parent = directory
  · simp [start]
  · by_cases reached : directory = root
    · -- The parent of the root has fewer names than the root, so it is not within it.
      have shorter := Path.length_parent_lt start
      have left : ¬directory.parent.isWithin root = true := fun within => by
        have longer := (Path.isWithin_iff.mp within).2.length_le
        rw [← reached] at longer
        omega
      rw [if_neg start, if_pos (.inl reached), Path.ancestors_eq, List.takeWhile_cons, if_neg left]
    · rw [if_neg start, if_neg (by simp [start, reached])]

/-- Going up ends after a step for each name in the path at the latest, and meets the files of the
directories within the root. So `climb` with enough steps finds what `upTo` finds. -/
theorem climb_eq {steps : Nat} (enough : directory.parts.length < steps) :
    climb t root steps directory = some (upTo t directory root) := by
  -- The steps go down with the names of the directory.
  induction steps generalizing directory with
  | zero => exact absurd enough (Nat.not_lt_zero _)
  | succ steps ih =>
    rw [climb, upTo, takeWhile_isWithin_eq]
    split
    · next within =>
      have here : [directory].filterMap (inDirectory? t) =
          (inDirectory? t directory).toList := by
        cases found : inDirectory? t directory <;> simp [found]
      dsimp only
      split
      · rw [here]
      · next goesOn =>
        rw [not_or] at goesOn
        have shorter := Path.length_parent_lt goesOn.2
        rw [ih (by omega), Option.map_some, upTo, ← here, ← List.filterMap_append]
        rfl
    · rfl

/-! ## §3 What is found -/

/-- The configuration file of a directory: the first of the known names in it that leads to a file.
The names are spelled out here, apart from `ConfigFile.names`. -/
def IsConfigOf (t : FileTree) (directory file : Path) : Prop :=
  ∃ before name after,
    ["tasty.config.json", "tasty.config.toml", "tasty.config.ts", "tasty.config.js",
      "tasty.config.mjs"].map String.toText = before ++ name :: after ∧
    file = directory.child name ∧ t.isFile file = true ∧
    ∀ other ∈ before, t.isFile (directory.child other) = false

/-- The configuration files of some directories, in their order. A directory without one adds
nothing, and no directory adds two, for `IsConfigOf` holds of one file at most. -/
inductive ConfigsOf (t : FileTree) : List Path → List Path → Prop
  | nil : ConfigsOf t [] []
  | config {directory file : Path} {directories files : List Path} :
      IsConfigOf t directory file → ConfigsOf t directories files →
      ConfigsOf t (directory :: directories) (file :: files)
  | without {directory : Path} {directories files : List Path} :
      (∀ file, ¬IsConfigOf t directory file) → ConfigsOf t directories files →
      ConfigsOf t (directory :: directories) files

/-- What is found in a directory is its configuration file, in the sense of `IsConfigOf`. -/
theorem inDirectory?_eq_some_iff :
    inDirectory? t directory = some file ↔ IsConfigOf t directory file := by
  have known : names = ["tasty.config.json", "tasty.config.toml", "tasty.config.ts",
      "tasty.config.js", "tasty.config.mjs"].map String.toText := by decide
  rw [inDirectory?, List.find?_eq_some_iff_append, IsConfigOf, ← known]
  constructor
  · rintro ⟨isFile, front, back, whole, none⟩
    -- What stands before the file in the list of candidates comes from the names before its own.
    obtain ⟨before, behind, parts, rfl, rest⟩ := List.map_eq_append_iff.mp whole
    obtain ⟨name, after, rfl, rfl, rfl⟩ := List.map_eq_cons_iff.mp rest
    refine ⟨before, name, after, parts, rfl, isFile, fun other mem => ?_⟩
    simpa using none _ (List.mem_map_of_mem mem)
  · rintro ⟨before, name, after, parts, rfl, isFile, none⟩
    refine ⟨isFile, before.map directory.child, after.map directory.child, ?_, ?_⟩
    · rw [parts, List.map_append, List.map_cons]
    · intro p mem
      obtain ⟨other, mem', rfl⟩ := List.mem_map.mp mem
      simpa using none other mem'

/-- Directory by directory, what `inDirectory?` finds is what there is. -/
theorem configsOf_filterMap (t : FileTree) (directories : List Path) :
    ConfigsOf t directories (directories.filterMap (inDirectory? t)) := by
  induction directories with
  | nil => exact .nil
  | cons directory directories ih =>
    cases found : inDirectory? t directory with
    | none =>
      rw [List.filterMap_cons_none found]
      refine .without (fun file config => ?_) ih
      rw [inDirectory?_eq_some_iff.mpr config] at found
      cases found
    | some file =>
      rw [List.filterMap_cons_some found]
      exact .config (inDirectory?_eq_some_iff.mp found) ih

/-- From a directory below the root, the directories within the root are those on the way up to it,
closest first. The way is told by the `List.inits` of the names below. -/
theorem takeWhile_isWithin_descend (root : Path) (below : List Text) :
    (root.descend below).ancestors.takeWhile (·.isWithin root) =
      below.inits.reverse.map root.descend := by
  induction below using List.reverseRecOn with
  | nil =>
    rw [takeWhile_isWithin_eq, if_pos (Path.isWithin_iff_exists_descend.mpr ⟨[], rfl⟩),
      if_pos (.inl root.descend_nil)]
    rfl
  | append_singleton names name ih =>
    -- With a name more below the root, the walk has not arrived, nor is it at the start.
    have moves : root.descend (names ++ [name]) ≠ root := fun same => by
      have lengths := congrArg (fun p : Path => p.parts.length) same
      simp [Path.descend] at lengths
    have start : (root.descend (names ++ [name])).parent ≠ root.descend (names ++ [name]) := by
      simp [Path.parent_eq_self_iff, Path.descend]
    rw [takeWhile_isWithin_eq, if_pos (Path.isWithin_iff_exists_descend.mpr ⟨_, rfl⟩),
      if_neg (by simp only [moves, start, or_self, not_false_eq_true]),
      Path.parent_descend_concat, ih, List.inits_append]
    simp

/-- The configuration files between a directory and a root above it. -/
theorem configsOf_upTo (t : FileTree) (root : Path) (below : List Text) :
    ConfigsOf t (below.inits.reverse.map root.descend) (upTo t (root.descend below) root) := by
  rw [upTo, takeWhile_isWithin_descend]
  exact configsOf_filterMap t _

end ConfigFile

/-- Going up from the directory of a document ends, and finds the files that affect the document:
for a directory below the project root, or the root itself, those of the directories on the way up,
closest first and the root among them; for any other directory none.

That it ends is said with `climb`: any number of steps above the number of names gives the files. -/
theorem Resolver.affecting_climbs (t : FileTree) (document root : Path) :
    (∀ steps, (directoryOf t document).parts.length < steps →
      ConfigFile.climb t (t.absolute root) steps (directoryOf t document) =
        some (affecting t document root)) ∧
    (∀ below, directoryOf t document = (t.absolute root).descend below →
      ConfigFile.ConfigsOf t (below.inits.reverse.map (t.absolute root).descend)
        (affecting t document root)) ∧
    ((∀ below, directoryOf t document ≠ (t.absolute root).descend below) →
      affecting t document root = []) := by
  refine ⟨fun steps enough => ConfigFile.climb_eq enough, fun below within => ?_, fun outside => ?_⟩
  · rw [affecting, within]
    exact ConfigFile.configsOf_upTo t (t.absolute root) below
  · have left : ¬(directoryOf t document).isWithin (t.absolute root) = true := fun within => by
      obtain ⟨below, same⟩ := Path.isWithin_iff_exists_descend.mp within
      exact outside below same
    rw [affecting, ConfigFile.upTo, ConfigFile.takeWhile_isWithin_eq, if_neg left,
      List.filterMap_nil]

/-- A root does not contain a directory whose name only starts like its own. -/
example :
    Resolver.affecting
      { files := .ofList [(.ofText "/a/tasty.config.json".toText, .text []),
          (.ofText "/a/app2/tasty.config.json".toText, .text [])] }
      (.ofText "/a/app2/x.ts".toText) (.ofText "/a/app".toText) = [] := by
  decide +kernel

end StyleCheck
