import StyleCheck.Event
import StyleCheck.Files.Path
import StyleCheck.OrderedMap

/-!
# File trees

The files that configuration is looked for in, as a value. A path is looked up in absolute normal
form, and both ways to write the root lead to the same files.

## Main definitions

- `FileTree`: files, empty directories and the working directory.
- `FileTree.isFile`, `FileTree.isDirectory`, `FileTree.read`: what a path leads to.
- `FileTree.spellings`: the absolute normal paths that lead to files.
-/

namespace StyleCheck

/-- The content of a file. -/
inductive FileContent
  | text (content : Text)
  | bytes (content : ByteArray)
  /-- The file exists, but reading it fails. -/
  | unreadable

/-- Files and directories. The keys of the files and the empty directories are places, so a look-up
goes by `place`. -/
structure FileTree where
  files : OrderedMap Path FileContent := .empty
  emptyDirectories : List Path := []
  cwd : Path := ⟨.root, []⟩

namespace FileTree

/-! ## §1 Places -/

/-- The absolute normal form of a path. -/
def absolute (t : FileTree) (p : Path) : Path := p.absolute t.cwd

/-- The place that a path leads to: its absolute normal form, with a plain root. Only here do
`.root` and `.doubleRoot` come to the same. -/
def place (t : FileTree) (p : Path) : Path := { t.absolute p with anchor := .root }

/-- Whether a path leads to a file, by its `place`. -/
def isFile (t : FileTree) (p : Path) : Bool := t.files.contains (t.place p)

/-- Whether a path leads to a directory: the root, or a place with something below it, or one of the
`emptyDirectories`. -/
def isDirectory (t : FileTree) (p : Path) : Bool :=
  let here := t.place p
  here.parts.isEmpty || t.emptyDirectories.any (·.isWithin here)
    || t.files.keys.any fun file => file.isWithin here && file != here

/-! ## §2 Changes -/

/-- Writes a file. -/
def write (t : FileTree) (p : Path) (content : FileContent) : FileTree :=
  { t with files := t.files.insert (t.place p) content }

/-- Makes a directory. -/
def makeDirectory (t : FileTree) (p : Path) : FileTree :=
  { t with emptyDirectories := t.emptyDirectories ++ [t.place p] }

/-- Removes a file. -/
def remove (t : FileTree) (p : Path) : FileTree := { t with files := t.files.erase (t.place p) }

/-! ## §3 Reading -/

/-- A text in which every line break is a line feed, also those that were written as a carriage
return with or without one. -/
def unifyLineBreaks : Text → Text
  | [] => []
  | '\r' :: '\n' :: cs => '\n' :: unifyLineBreaks cs
  | c :: cs => (if c == '\r' then '\n' else c) :: unifyLineBreaks cs

/-- The text of a file, with `unifyLineBreaks`. A file that is missing, unreadable or no text is a
`LoadFailure`. -/
def read (t : FileTree) (p : Path) : Except LoadFailure Text :=
  match t.files.get? (t.place p) with
  | none | some .unreadable => .error .unreadable
  | some (.text content) => .ok (unifyLineBreaks content)
  | some (.bytes content) =>
    match String.fromUTF8? content with
    | some decoded => .ok (unifyLineBreaks decoded.toText)
    | none => .error .notText

/-! ## §4 Spellings -/

/-- The absolute normal paths that lead to files: each file has two, one for each way to write the
root, `.root` and `.doubleRoot`. -/
def spellings (t : FileTree) : List Path :=
  t.files.keys.flatMap fun file =>
    [{ file with anchor := .root }, { file with anchor := .doubleRoot }]

theorem absolute_mem_spellings {t : FileTree} {p : Path} (file : t.isFile p = true) :
    t.absolute p ∈ t.spellings := by
  have known : t.place p ∈ t.files.keys := by
    unfold isFile OrderedMap.contains at file
    obtain ⟨e, he, same⟩ := List.any_eq_true.mp file
    exact List.mem_map.mpr ⟨e, he, by simpa using same⟩
  refine List.mem_flatMap.mpr ⟨t.place p, known, ?_⟩
  have spelled : t.absolute p = { t.place p with anchor := (t.absolute p).anchor } := rfl
  have anchored : (t.absolute p).anchor ≠ .relative := Path.absolute_anchor_ne_relative p t.cwd
  rw [spelled]
  cases h : (t.absolute p).anchor
  · exact absurd h anchored
  · exact List.mem_cons_self
  · exact List.mem_cons_of_mem _ List.mem_cons_self

end FileTree

end StyleCheck
