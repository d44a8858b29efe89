import StyleCheck.Settings.Package

/-!
# What is demanded of the system

Looking for configuration files asks the system, one path after the other, what is there, and
following bases nests one call in another. A system may refuse each of these. It does not tell what
there is at a name that is too long for it, or at a place that is closed to the caller; the working
directory may be gone; and calls are nested only so deep.

What is demanded in a search is told by the search: each path that it looks at, up to the one at
which it ends. A system that answers finds what `ConfigFile.upTo` and `ConfigFile.resolveBase` find,
and one that refuses ends the search with a fault. What a system refuses is no part of its files, so
it stands apart from them as `Refusals`, and unless it is said otherwise nothing is refused.

## Main definitions

- `Demand`, `Refusals`: what can be demanded, and the faults that a system answers with instead.
- `Refusals.first?`: the fault that demands come to, one made after the other.
- `ConfigFile.demandsUpTo`, `ConfigFile.demandsForBase`: what the searches for configuration files
  and for bases demand.
-/

namespace StyleCheck

/-! ## §1 Demands -/

/-- What can be demanded of the system. -/
inductive Demand
  /-- The working directory, which a relative path starts from. -/
  | workingDirectory
  /-- Whether there is a file at a path. -/
  | isFile (p : Path)
  /-- Whether there is a directory at a path. -/
  | isDirectory (p : Path)
  /-- One more call for a base, so deep inside of others. -/
  | nestedCall (depth : Nat)
deriving DecidableEq, Repr

/-- The faults that a system answers with where it refuses what is demanded. -/
abbrev Refusals := Demand → Option Fault

namespace Refusals

/-- The system that refuses nothing; the searches then end as `FileTree` alone decides. -/
protected def none : Refusals := fun _ => Option.none

/-- The fault that `demands` come to, one made after the other: that of the first one refused. -/
def first? (refusals : Refusals) (demands : List Demand) : Option Fault :=
  demands.findSome? refusals

@[simp]
theorem first?_none (demands : List Demand) : Refusals.none.first? demands = Option.none := by
  simp [first?, Refusals.none]

/-- What demands come to is the answer to one of them. -/
theorem exists_mem_of_first? {refusals : Refusals} {demands : List Demand} {fault : Fault}
    (h : refusals.first? demands = some fault) :
    ∃ demand ∈ demands, refusals demand = some fault :=
  List.exists_of_findSome?_eq_some h

end Refusals

/-! ## §2 What searches demand -/

/-- What `FileTree.absolute` demands for a path: the working directory, if the path is relative. -/
def Path.demands (p : Path) : List Demand :=
  if p.anchor = .relative then [.workingDirectory] else []

/-- What it takes to find the first of some paths that leads to a file. The search looks no further
than this one, so a later path may well be one that the system refuses. -/
def FileTree.demandsForFirst (t : FileTree) : List Path → List Demand
  | [] => []
  | p :: rest => .isFile p :: if t.isFile p then [] else t.demandsForFirst rest

/-- What `Package.directory?` demands: whether there is a `package.json` in the package directories
from `start` upwards. -/
def Package.demandsForDirectory (t : FileTree) (name : Text) (start : Path) : List Demand :=
  t.demandsForFirst <| start.ancestors.map fun directory =>
    ((directory.child "node_modules".toText).append name).child "package.json".toText

namespace ConfigFile

/-- What `ConfigFile.inDirectory?` demands. -/
def demandsInDirectory (t : FileTree) (directory : Path) : List Demand :=
  t.demandsForFirst (names.map directory.child)

/-- What `ConfigFile.upTo` demands, from a directory up to a project root. -/
def demandsUpTo (t : FileTree) (directory root : Path) : List Demand :=
  (directory.ancestors.takeWhile (·.isWithin root)).flatMap (demandsInDirectory t)

/-- What `ConfigFile.atPath?` demands. It asks for a directory first, and no suffix is tried where
there is one. -/
def demandsAtPath (t : FileTree) (p : Path) : List Demand :=
  .isDirectory p ::
    if t.isDirectory p then demandsInDirectory t p
    else t.demandsForFirst (p :: suffixes.map p.addSuffix)

/-- What `ConfigFile.inPackage?` demands. The path in the package plays a part only where the
package itself has no configuration file. -/
def demandsInPackage (t : FileTree) (package : Path) (path : Text) : List Demand :=
  demandsInDirectory t package ++
    match inDirectory? t package with
    | some _ => []
    | none => if path.isEmpty then [] else demandsAtPath t (package.append path).normalize

/-- What `ConfigFile.resolveBase` demands.

A target that is no specifier of a package is looked for where the file stands; for a specifier, the
package comes first, and the search ends if there is none. -/
def demandsForBase (t : FileTree) (file : Path) (target : Text) : List Demand :=
  let here := file.parent
  if !Package.isSpecifier target then demandsAtPath t (here.append target).normalize
  else
    let (name, path) := Package.splitSpecifier target
    Package.demandsForDirectory t name here ++
      match Package.directory? t name here with
      | none => []
      | some package => demandsInPackage t package path

end ConfigFile

end StyleCheck
