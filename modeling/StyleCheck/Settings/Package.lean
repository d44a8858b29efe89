import StyleCheck.Fault
import StyleCheck.Files.Tree
import StyleCheck.Text.Alphanumeric

/-!
# Finding configuration files

A directory is configured by the first file in it that has one of the known names. The base that a
file names is either a path from where the file stands, or a package: then it is looked for in the
package directories beside the file and above it.

## Main definitions

- `ConfigFile.inDirectory?`: the configuration file of a directory.
- `ConfigFile.upTo`: those of a directory and of all above it, up to a project root.
- `Package.isSpecifier`, `Package.directory?`: packages by name.
- `ConfigFile.resolveBase`, `ConfigFile.resolveRelativeBase`: the file that a base refers to.
-/

namespace StyleCheck

/-! ## §1 Configuration files of directories -/

namespace ConfigFile

/-- The suffixes of configuration files, in the order of preference. -/
def suffixes : List Text := [".json", ".toml", ".ts", ".js", ".mjs"].map String.toText

/-- The names of configuration files: `tasty.config` with one of the `suffixes`, in their order. -/
def names : List Text := suffixes.map ("tasty.config".toText ++ ·)

/-- The configuration file of a directory: the first of the `names` that is a file in it. -/
def inDirectory? (t : FileTree) (directory : Path) : Option Path :=
  (names.map directory.child).find? t.isFile

/-- The configuration files of a directory and of those above it, up to a project root, closest
first. Where the directory is not within `root`, there are none. -/
def upTo (t : FileTree) (directory root : Path) : List Path :=
  (directory.ancestors.takeWhile (·.isWithin root)).filterMap (inDirectory? t)

/-- The file that a path to a configuration refers to: the configuration file of a directory, the
file itself, or the file with one of the known `suffixes`. -/
def atPath? (t : FileTree) (p : Path) : Option Path :=
  if t.isDirectory p then inDirectory? t p
  else (p :: suffixes.map p.addSuffix).find? t.isFile

end ConfigFile

/-! ## §2 Packages -/

namespace Package

/-- Whether a text is a name of word characters and hyphens, perhaps with a path behind it that
stays on one line. -/
def isNamedPath (t : Text) : Bool :=
  let name := t.takeWhile Text.isDashedWordChar
  !name.isEmpty && match t.drop name.length with
    | [] => true
    | '/' :: path => !path.contains '\n'
    | _ => false

/-- Whether a text names a package, in a scope as in `@scope/name` or not, or something in one. One
line break behind it is no matter. -/
def isSpecifier (t : Text) : Bool :=
  match Text.dropFinalNewline t with
  | '@' :: inScope =>
    let scope := inScope.takeWhile Text.isDashedWordChar
    !scope.isEmpty && match inScope.drop scope.length with
      | '/' :: rest => isNamedPath rest
      | _ => false
  | plain => isNamedPath plain

/-- A package specifier, taken apart into the name of the package, its scope included, and the path
in it. Of several slashes between the two, all but one belong to the path. -/
def splitSpecifier (t : Text) : Text × Text :=
  let parts := Text.splitOn '/' t
  let count := if t.head? == some '@' then 2 else 1
  (Text.join ['/'] (parts.take count), Text.join ['/'] (parts.drop count))

/-- The directory of a package: the first one in `node_modules`, beside `start` or further up, that
holds a `package.json`. -/
def directory? (t : FileTree) (name : Text) (start : Path) : Option Path :=
  (start.ancestors.map fun directory => (directory.child "node_modules".toText).append name).find?
    fun package => t.isFile (package.child "package.json".toText)

end Package

/-! ## §3 Bases -/

namespace ConfigFile

/-- The configuration file of a package, or what `atPath?` finds behind a path in it. -/
def inPackage? (t : FileTree) (package : Path) (path : Text) : Option Path :=
  match inDirectory? t package with
  -- The file of the package itself comes first, even where a path in it is named.
  | some file => some file
  | none => if path.isEmpty then none else atPath? t (package.append path).normalize

/-- The file that the base of a configuration file refers to, and what there is to note about the
search.

A target of the form `isSpecifier` is always taken for a package, even where a file of that name
stands beside the configuration file. -/
def resolveBase (t : FileTree) (file : Path) (target : Text) : Option Path × List Event :=
  let here := file.parent
  if !Package.isSpecifier target then (atPath? t (here.append target).normalize, [])
  else
    let (name, path) := Package.splitSpecifier target
    match Package.directory? t name here with
    | none => (none, [.packageNotFound name here.toText])
    | some package =>
      match inPackage? t package path with
      | some found => (some found, [])
      | none => (none, [.packageWithoutConfig target package.toText])

/-- Whether a target leads from a configuration file to the working directory itself, without there
being anything. Such a place has no name that `Path.addSuffix` could be used on. -/
def leadsNowhere (t : FileTree) (file : Path) (target : Text) : Bool :=
  let cwd : Path := ⟨.relative, []⟩
  !Package.isSpecifier target && (file.parent.append target).normalize == cwd
    && !t.isDirectory cwd && !t.isFile cwd

/-- The file that `resolveBase` finds, where the configuration file need not be given from the root.
-/
def resolveRelativeBase (t : FileTree) (file : Path) (target : Text) :
    Except Fault (Option Path × List Event) :=
  if leadsNowhere t file target then .error .namelessPath else .ok (resolveBase t file target)

/-! ## §4 What is found is a file -/

theorem isFile_of_inDirectory? {t : FileTree} {d p : Path} (h : inDirectory? t d = some p) :
    t.isFile p = true :=
  List.find?_some h

theorem isFile_of_atPath? {t : FileTree} {q p : Path} (h : atPath? t q = some p) :
    t.isFile p = true := by
  unfold atPath? at h
  split at h
  · exact isFile_of_inDirectory? h
  · exact List.find?_some h

theorem isFile_of_inPackage? {t : FileTree} {d p : Path} {path : Text}
    (h : inPackage? t d path = some p) : t.isFile p = true := by
  unfold inPackage? at h
  split at h
  · next found => cases h; exact isFile_of_inDirectory? found
  · split at h
    · cases h
    · exact isFile_of_atPath? h

/-- The base of a file is itself a file of the tree, whichever way `resolveBase` took. -/
theorem isFile_of_resolveBase {t : FileTree} {file p : Path} {target : Text}
    (h : (resolveBase t file target).1 = some p) : t.isFile p = true := by
  unfold resolveBase at h
  dsimp only at h
  split at h
  · exact isFile_of_atPath? h
  · split at h
    · cases h
    · split at h
      · next found => cases h; exact isFile_of_inPackage? found
      · cases h

end ConfigFile

end StyleCheck
