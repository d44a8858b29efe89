import StyleCheck.Text.Basic

/-!
# Paths

Paths of files, read as a sequence of names. A path may start at the root, and a root written with
exactly two slashes is kept apart from the plain one, though it leads to the same files. Empty
names and single points drop out when a path is read; a double point stays until the path is
normalized, since it may stand behind a link.

## Main definitions

- `Path`, `Path.ofText`, `Path.toText`: paths and their written form.
- `Path.append`, `Path.parent`, `Path.ancestors`, `Path.suffix`: moving along paths.
- `Path.normalize`, `Path.absolute`: paths without detours, and from the root.
-/

namespace StyleCheck

/-- Where a path starts. -/
inductive Anchor
  /-- Wherever it is used. -/
  | relative
  /-- At the root. -/
  | root
  /-- At the root, written with two slashes. -/
  | doubleRoot
deriving DecidableEq, Repr

/-- A path: where it starts and the names along it. Single points and empty names are no `parts`,
and double points are. -/
structure Path where
  anchor : Anchor
  parts : List Text
deriving DecidableEq, Repr

namespace Path

/-! ## §1 Written form -/

/-- The anchor of a written path, which its leading slashes tell. Two slashes are an anchor of their
own, `.doubleRoot`, but three are not. -/
def anchorOf : Text → Anchor
  | '/' :: '/' :: '/' :: _ => .root
  | '/' :: '/' :: _ => .doubleRoot
  | '/' :: _ => .root
  | _ => .relative

/-- Reads a path. What is read is written again by `toText`, up to points and slashes that mean
nothing. -/
def ofText (t : Text) : Path where
  anchor := anchorOf t
  parts := (Text.splitOn '/' t).filter fun part => !part.isEmpty && part != ".".toText

/-- What a written path starts with. -/
def anchorText : Anchor → Text
  | .relative => []
  | .root => ['/']
  | .doubleRoot => ['/', '/']

/-- Writes a path. The path without names, if relative, is a point, `.`. -/
def toText (p : Path) : Text :=
  if p.anchor = .relative ∧ p.parts = [] then ['.']
  else anchorText p.anchor ++ Text.join ['/'] p.parts

/-! ## §2 Moving along paths -/

/-- What a second written path leads to from a first path; an anchored one leads there alone,
whatever `p` is. -/
def append (p : Path) (t : Text) : Path :=
  let q := ofText t
  if q.anchor = .relative then { p with parts := p.parts ++ q.parts } else q

/-- A name in the directory that the path leads to. -/
def child (p : Path) (name : Text) : Path := { p with parts := p.parts ++ [name] }

/-- The path to the directory that holds what the path leads to; at the root, the root itself. -/
def parent (p : Path) : Path := { p with parts := p.parts.dropLast }

/-- The path, its `parent`, and so on up to where it starts. -/
def ancestors (p : Path) : List Path :=
  (List.range (p.parts.length + 1)).map fun k =>
    { p with parts := p.parts.take (p.parts.length - k) }

/-- The last name of a path, empty where there is none. -/
def name (p : Path) : Text := p.parts.getLastD []

/-- The end of the last name from its last point on, if something stands on both sides of the
point. -/
def suffix (p : Path) : Text :=
  let behind := (Text.upTo '.' p.name.reverse).reverse
  if behind.isEmpty || p.name.length ≤ behind.length + 1 then [] else '.' :: behind

/-- The path with characters added to its last name. -/
def addSuffix (p : Path) (extension : Text) : Path :=
  match p.parts with
  | [] => p
  | _ :: _ => { p with parts := p.parts.dropLast ++ [p.name ++ extension] }

/-- Whether a path leads to a directory or to something below it. It is asked of names and not of
characters: `/app2` is not within `/app`. -/
def isWithin (p directory : Path) : Bool :=
  p.anchor == directory.anchor && directory.parts.isPrefixOf p.parts

/-! ## §3 Normal form -/

/-- The double point `..`, which leads to the parent. -/
def up : Text := ['.', '.']

/-- The names passed so far, last one first, after one more. A double point takes the last name
back; at the root it leads nowhere, and a relative path keeps it where nothing can be taken
back. -/
def passName (anchor : Anchor) (passed : List Text) (part : Text) : List Text :=
  if part ≠ up then part :: passed
  else match passed with
    | [] => if anchor = .relative then [up] else []
    | last :: before => if last = up then up :: last :: before else before

/-- The path without detours through parents: `passName` for each name, from the front. -/
def normalize (p : Path) : Path :=
  { p with parts := (p.parts.foldl (passName p.anchor) []).reverse }

/-- The path from the root and without detours, for a given working directory `cwd`. -/
def absolute (p cwd : Path) : Path :=
  if p.anchor = .relative then
    normalize
      { anchor := if cwd.anchor = .relative then .root else cwd.anchor
        parts := cwd.parts ++ p.parts }
  else p.normalize

theorem absolute_anchor_ne_relative (p cwd : Path) : (p.absolute cwd).anchor ≠ .relative := by
  unfold absolute normalize
  split
  · dsimp only; split <;> simp_all
  · assumption

end Path

end StyleCheck
