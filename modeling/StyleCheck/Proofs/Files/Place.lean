import Mathlib.Data.List.TakeWhile
import StyleCheck.Proofs.Files.Path
import StyleCheck.Proofs.Text.Pieces
import StyleCheck.Settings.Package

/-!
# Places

A place is a path from the plain root without detours. It is its own absolute form and nothing else
is spelled like it, so whoever knows files by their places can be told that one has changed. The
configuration files above a place are places, and so are the bases of configuration files, unless
a name is spelled with two leading slashes on the way.

## Main definitions

- `Path.IsNormal`, `Path.IsPlace`: paths without detours from either root, and the places.
- `PlainBase`: base names that do not lead away from the plain root.

## Main statements

- `isPlace_absolute`: plainly spelled paths lead to places.
- `isPlace_of_mem_upTo`: the configuration files above a place.
- `isPlace_of_resolveBase`: the base of a configuration file.
-/

namespace StyleCheck

/-! ## §1 Paths without detours -/

namespace Path

/-- A path from a root, spelled either way, without detours: `up`, the double point, is none of its
names. -/
structure IsNormal (p : Path) : Prop where
  anchored : p.anchor ≠ .relative
  up_notMem : up ∉ p.parts

/-- A path from the plain root without detours. Two places lead to the same file only if they are
the same path. -/
structure IsPlace (p : Path) : Prop where
  anchor_eq : p.anchor = .root
  up_notMem : up ∉ p.parts

variable {p : Path}

theorem IsPlace.isNormal (h : p.IsPlace) : p.IsNormal := ⟨by simp [h.anchor_eq], h.up_notMem⟩

/-- Passing names from the root, no double point is ever kept: it takes back the name in front of
it, and at the root it is dropped. -/
theorem up_notMem_foldl_passName {anchor : Anchor} (anchored : anchor ≠ .relative)
    (parts : List Text) {passed : List Text} (kept : up ∉ passed) :
    up ∉ parts.foldl (passName anchor) passed := by
  induction parts generalizing passed with
  | nil => exact kept
  | cons part parts ih =>
    rw [List.foldl_cons]
    apply ih
    unfold passName
    split
    · next other => simpa [List.mem_cons] using ⟨Ne.symm other, kept⟩
    · -- A double point meets the name before it, or nothing at all.
      cases passed with
      | nil => simp
      | cons last before =>
        rw [List.mem_cons, not_or] at kept
        simp only [if_neg (Ne.symm kept.1)]
        exact kept.2

/-- Names without a double point among them are all kept. -/
theorem foldl_passName_eq {anchor : Anchor} {parts : List Text} (plain : up ∉ parts)
    (passed : List Text) : parts.foldl (passName anchor) passed = parts.reverse ++ passed := by
  induction parts generalizing passed with
  | nil => rfl
  | cons part parts ih =>
    rw [List.mem_cons, not_or] at plain
    have kept : passName anchor passed part = part :: passed := by
      unfold passName
      exact if_pos (Ne.symm plain.1)
    rw [List.foldl_cons, kept, ih plain.2]
    simp

theorem isNormal_normalize (anchored : p.anchor ≠ .relative) : p.normalize.IsNormal where
  anchored := anchored
  up_notMem := by
    rw [normalize, List.mem_reverse]
    exact up_notMem_foldl_passName anchored p.parts (by simp)

theorem isNormal_absolute (p cwd : Path) : (p.absolute cwd).IsNormal := by
  unfold absolute
  split
  · exact isNormal_normalize (by dsimp only; split <;> simp_all)
  · next anchored => exact isNormal_normalize anchored

theorem isPlace_absolute {cwd : Path} (plain : p.anchor ≠ .doubleRoot)
    (plainCwd : cwd.anchor ≠ .doubleRoot) : (p.absolute cwd).IsPlace := by
  refine ⟨?_, (isNormal_absolute p cwd).up_notMem⟩
  unfold absolute normalize
  split
  · cases h : cwd.anchor <;> simp_all
  · cases h : p.anchor <;> simp_all

namespace IsNormal

/-- A path without detours is its own absolute form. -/
theorem absolute_eq (h : p.IsNormal) (cwd : Path) : p.absolute cwd = p := by
  rw [absolute, if_neg h.anchored, normalize, foldl_passName_eq h.up_notMem]
  simp

theorem parent (h : p.IsNormal) : p.parent.IsNormal where
  anchored := h.anchored
  up_notMem above := h.up_notMem (List.dropLast_subset _ above)

theorem of_mem_ancestors (h : p.IsNormal) {q : Path} (above : q ∈ p.ancestors) : q.IsNormal := by
  obtain ⟨k, -, rfl⟩ := List.mem_map.mp above
  exact ⟨h.anchored, fun passed => h.up_notMem (List.mem_of_mem_take passed)⟩

theorem child (h : p.IsNormal) {name : Text} (other : name ≠ up) : (p.child name).IsNormal where
  anchored := h.anchored
  up_notMem := by
    rw [Path.child, List.mem_append, List.mem_singleton, not_or]
    exact ⟨h.up_notMem, Ne.symm other⟩

end IsNormal

namespace IsPlace

/-- A place is its own absolute form. -/
theorem absolute_eq (h : p.IsPlace) (cwd : Path) : p.absolute cwd = p := h.isNormal.absolute_eq cwd

theorem parent (h : p.IsPlace) : p.parent.IsPlace := ⟨h.anchor_eq, h.isNormal.parent.up_notMem⟩

end IsPlace

/-- A written path that does not start with two slashes leads from the plain root to the plain
root. -/
theorem anchor_append (anchored : p.anchor = .root) {t : Text}
    (plain : (ofText t).anchor ≠ .doubleRoot) : (p.append t).anchor = .root := by
  unfold append
  dsimp only
  split
  · exact anchored
  · cases h : (ofText t).anchor <;> simp_all

end Path

/-! ## §2 Files at places -/

namespace FileTree

variable {t : FileTree} {p : Path}

theorem place_of_isPlace (t : FileTree) (h : p.IsPlace) : t.place p = p := by
  have anchored := h.anchor_eq
  rw [place, absolute, h.absolute_eq, ← anchored]

/-- Where the absolute form of a path is a place, it is the one that the path leads to. -/
theorem place_eq_absolute (h : (t.absolute p).IsPlace) : t.place p = t.absolute p := by
  have anchored := h.anchor_eq
  rw [place, ← anchored]

theorem isFile_absolute (h : (t.absolute p).IsPlace) :
    t.isFile (t.absolute p) = t.isFile p := by
  rw [isFile, isFile, t.place_of_isPlace h, place_eq_absolute h]

end FileTree

/-! ## §3 Configuration files -/

namespace ConfigFile

variable {t : FileTree} {directory p q : Path}

theorem anchor_of_inDirectory? (h : inDirectory? t directory = some p) :
    p.anchor = directory.anchor := by
  obtain ⟨name, -, rfl⟩ := List.mem_map.mp (List.mem_of_find?_eq_some h)
  rfl

theorem anchor_of_atPath? (h : atPath? t q = some p) : p.anchor = q.anchor := by
  unfold atPath? at h
  split at h
  · exact anchor_of_inDirectory? h
  · rcases List.mem_cons.mp (List.mem_of_find?_eq_some h) with rfl | added
    · rfl
    · obtain ⟨suffix, -, rfl⟩ := List.mem_map.mp added
      unfold Path.addSuffix
      split <;> rfl

/-- What is found in a directory without detours has none: the names of `ConfigFile.names` are
plain. -/
theorem isNormal_of_inDirectory? (h : directory.IsNormal)
    (found : inDirectory? t directory = some p) : p.IsNormal := by
  obtain ⟨name, known, rfl⟩ := List.mem_map.mp (List.mem_of_find?_eq_some found)
  have plain : ∀ name ∈ names, name ≠ Path.up := by decide
  exact h.child (plain name known)

/-- The configuration files above a directory without detours are files, and spelled like it. -/
theorem isNormal_of_mem_upTo {root : Path} (h : directory.IsNormal)
    (found : p ∈ upTo t directory root) :
    p.IsNormal ∧ p.anchor = directory.anchor ∧ t.isFile p = true := by
  obtain ⟨above, within, here⟩ := List.mem_filterMap.mp found
  have ancestor : above ∈ directory.ancestors := List.takeWhile_subset _ within
  refine ⟨isNormal_of_inDirectory? (h.of_mem_ancestors ancestor) here, ?_,
    isFile_of_inDirectory? here⟩
  rw [anchor_of_inDirectory? here]
  obtain ⟨k, -, rfl⟩ := List.mem_map.mp ancestor
  rfl

/-- The configuration files above a place are files at places. -/
theorem isPlace_of_mem_upTo {root : Path} (h : directory.IsPlace)
    (found : p ∈ upTo t directory root) : p.IsPlace ∧ t.isFile p = true := by
  obtain ⟨normal, anchor, file⟩ := isNormal_of_mem_upTo h.isNormal found
  exact ⟨⟨anchor.trans h.anchor_eq, normal.up_notMem⟩, file⟩

end ConfigFile

/-! ## §4 Bases -/

/-- A base name that is not spelled with two leading slashes, nor is the path in a package that it
names.

With two slashes in front, a path starts at a root of its own, and a file that is found from there
is stored under another path than the one by which its change is announced. -/
structure PlainBase (target : Text) : Prop where
  path : (Path.ofText target).anchor ≠ .doubleRoot
  pathInPackage : Package.isSpecifier target = true →
    (Path.ofText (Package.splitSpecifier target).2).anchor ≠ .doubleRoot

instance (target : Text) : Decidable (PlainBase target) :=
  decidable_of_iff (_ ∧ (_ → _)) ⟨fun h => ⟨h.1, h.2⟩, fun h => ⟨h.path, h.pathInPackage⟩⟩

theorem Text.exists_join_cons (c : CodePoint) (piece : Text) (pieces : List Text) :
    ∃ rest, Text.join ['/'] ((c :: piece) :: pieces) = c :: rest := by
  cases pieces with
  | nil => exact ⟨piece, rfl⟩
  | cons next pieces => exact ⟨_, rfl⟩

namespace Package

/-- A path behind a name starts with a character of the name. -/
theorem exists_cons_of_isNamedPath {t : Text} (h : isNamedPath t = true) :
    ∃ d more, t = d :: more ∧ Text.isDashedWordChar d = true := by
  cases t with
  | nil => cases h
  | cons d more =>
    refine ⟨d, more, rfl, ?_⟩
    by_contra other
    -- The name in front would be empty.
    rw [isNamedPath, List.takeWhile_cons_of_neg other] at h
    cases h

/-- A specifier starts with the first character of a name, or with a scope in front of one. A final
line break, which `isSpecifier` does not look at, may stand behind. -/
theorem specifier_cases {target : Text} (h : isSpecifier target = true) :
    (∃ d more, target = d :: more ∧ Text.isDashedWordChar d = true) ∨
    ∃ (scope : Text) (d : CodePoint) (more : Text),
      target = CodePoint.char '@' :: (scope ++ CodePoint.char '/' :: d :: more) ∧
      (∀ c ∈ scope, Text.isDashedWordChar c = true) ∧ Text.isDashedWordChar d = true := by
  -- Only the end of the text may drop out, so the front is found as it stands.
  obtain ⟨rest, whole⟩ : Text.dropFinalNewline target <+: target := by
    unfold Text.dropFinalNewline
    split
    · exact List.dropLast_prefix target
    · exact List.prefix_rfl
  unfold isSpecifier at h
  split at h
  · next inScope marked =>
    rw [Bool.and_eq_true] at h
    obtain ⟨-, named⟩ := h
    split at named
    · next name behind =>
      obtain ⟨d, more, rfl, dashed⟩ := exists_cons_of_isNamedPath named
      refine .inr ⟨inScope.takeWhile Text.isDashedWordChar, d, more ++ rest, ?_,
        fun c mem => List.mem_takeWhile_imp mem, dashed⟩
      have parts : inScope.takeWhile Text.isDashedWordChar ++
          CodePoint.char '/' :: d :: more = inScope := by
        rw [← behind]
        exact List.prefix_iff_eq_append.mp (List.takeWhile_prefix _)
      rw [← whole, marked]
      conv_lhs => rw [← parts]
      simp
    · cases named
  · obtain ⟨d, more, starts, dashed⟩ := exists_cons_of_isNamedPath h
    exact .inl ⟨d, more ++ rest, by rw [← whole, starts]; rfl, dashed⟩

/-- The name of a package falls into pieces that start with something else than a point: one piece,
or two with a scope. -/
theorem exists_pieces_of_isSpecifier {target : Text} (h : isSpecifier target = true) :
    ∃ first others, (splitSpecifier target).1 = Text.join ['/'] (first :: others) ∧
      ∀ piece ∈ first :: others,
        CodePoint.char '/' ∉ piece ∧ ∃ c cs, piece = c :: cs ∧ c ≠ '.' := by
  -- No character of a name is a slash, a point or the sign of a scope.
  have dashed_ne {c d : CodePoint} (dashed : Text.isDashedWordChar c = true)
      (other : Text.isDashedWordChar d = false) : c ≠ d := by
    rintro rfl
    rw [dashed] at other
    cases other
  have slash : Text.isDashedWordChar '/' = false := by decide +kernel
  have point : Text.isDashedWordChar '.' = false := by decide +kernel
  have at' : Text.isDashedWordChar '@' = false := by decide +kernel
  obtain ⟨d, more, rfl, dashed⟩ | ⟨scope, d, more, rfl, inside, dashed⟩ := specifier_cases h
  · obtain ⟨piece, pieces, -, splits⟩ := Text.splitOn_cons_of_ne (dashed_ne dashed slash) more
    have plain : CodePoint.char '/' ∉ d :: piece :=
      Text.notMem_of_mem_splitOn (splits ▸ List.mem_cons_self)
    refine ⟨d :: piece, [], ?_, ?_⟩
    · simp [splitSpecifier, splits, dashed_ne dashed at']
    · rw [List.forall_mem_singleton]
      exact ⟨plain, d, piece, rfl, dashed_ne dashed point⟩
  · obtain ⟨piece, pieces, -, splits⟩ := Text.splitOn_cons_of_ne (dashed_ne dashed slash) more
    have plain : CodePoint.char '/' ∉ d :: piece :=
      Text.notMem_of_mem_splitOn (splits ▸ List.mem_cons_self)
    have plainScope : CodePoint.char '/' ∉ CodePoint.char '@' :: scope := by
      rw [List.mem_cons, not_or]
      exact ⟨by decide, fun mem => dashed_ne (inside _ mem) slash rfl⟩
    have whole :
        Text.splitOn '/' (CodePoint.char '@' :: (scope ++ CodePoint.char '/' :: d :: more)) =
          (CodePoint.char '@' :: scope) :: (d :: piece) :: pieces := by
      rw [Text.splitOn_eq, ← List.cons_append,
        List.splitOn_append_cons_self_of_not_mem plainScope, ← Text.splitOn_eq, splits]
    refine ⟨'@' :: scope, [d :: piece], ?_, ?_⟩
    · simp [splitSpecifier, whole]
    · rw [List.forall_mem_cons, List.forall_mem_singleton]
      exact ⟨⟨plainScope, _, _, rfl, by decide⟩, plain, d, piece, rfl, dashed_ne dashed point⟩

/-- The name of a package is a relative path without a double point, so looking for it never leads
away from the directories that are searched. -/
theorem name_of_isSpecifier {target : Text} (h : isSpecifier target = true) :
    (Path.ofText (splitSpecifier target).1).anchor = .relative ∧
      Path.up ∉ (Path.ofText (splitSpecifier target).1).parts := by
  obtain ⟨first, others, name, plain⟩ := exists_pieces_of_isSpecifier h
  rw [name]
  constructor
  · -- The first piece is not empty, so the name does not start with a slash.
    obtain ⟨noSlash, c, cs, rfl, -⟩ := plain first List.mem_cons_self
    obtain ⟨rest, starts⟩ := Text.exists_join_cons c cs others
    rw [List.mem_cons, not_or] at noSlash
    rw [starts]
    unfold Path.ofText Path.anchorOf
    split <;> simp_all
  · intro above
    -- The parts of the path are pieces of the name, and none of these starts with a point.
    have among := (List.mem_filter.mp above).1
    rw [Text.splitOn_join (List.cons_ne_nil first others) fun piece mem => (plain piece mem).1]
      at among
    obtain ⟨-, c, cs, starts, other⟩ := plain _ among
    exact other (List.cons.inj starts).1.symm

theorem anchor_of_directory? {t : FileTree} {name : Text} {start p : Path}
    (relative : (Path.ofText name).anchor = .relative) (h : directory? t name start = some p) :
    p.anchor = start.anchor := by
  obtain ⟨above, ancestor, rfl⟩ := List.mem_map.mp (List.mem_of_find?_eq_some h)
  obtain ⟨k, -, rfl⟩ := List.mem_map.mp ancestor
  simp [Path.append, relative, Path.child]

end Package

namespace ConfigFile

variable {t : FileTree} {file p : Path} {target : Text}

/-- A base is found along a path, or in a package or along a path in it. These are the ways that
`resolveBase` tries. -/
theorem resolveBase_cases (h : (resolveBase t file target).1 = some p) :
    atPath? t (file.parent.append target).normalize = some p ∨
    Package.isSpecifier target = true ∧
      ∃ package, Package.directory? t (Package.splitSpecifier target).1 file.parent = some package ∧
        (inDirectory? t package = some p ∨
          atPath? t (package.append (Package.splitSpecifier target).2).normalize = some p) := by
  unfold resolveBase at h
  dsimp only at h
  split at h
  · exact .inl h
  · next specifier =>
    rw [Bool.not_eq_true, Bool.not_eq_false'] at specifier
    split at h
    · cases h
    · next package there =>
      refine .inr ⟨specifier, package, there, ?_⟩
      split at h
      · next found =>
        cases h
        -- The file of the package itself, or a path in the package.
        unfold inPackage? at found
        split at found
        · next here => exact .inl (here.trans found)
        · split at found
          · cases found
          · exact .inr found
      · cases h

/-- The base that a file at a place names plainly is found from the plain root. -/
theorem anchor_of_resolveBase (place : file.IsPlace) (plain : PlainBase target)
    (h : (resolveBase t file target).1 = some p) : p.anchor = .root := by
  have here : file.parent.anchor = .root := place.parent.anchor_eq
  rcases resolveBase_cases h with along | ⟨specifier, package, there, inside | along⟩
  · rw [anchor_of_atPath? along]
    exact Path.anchor_append here plain.path
  · have relative := (Package.name_of_isSpecifier specifier).1
    rw [anchor_of_inDirectory? inside, Package.anchor_of_directory? relative there, here]
  · have relative := (Package.name_of_isSpecifier specifier).1
    have anchored := (Package.anchor_of_directory? relative there).trans here
    rw [anchor_of_atPath? along]
    exact Path.anchor_append anchored (plain.pathInPackage specifier)

/-- And its absolute form is a file at a place, so a change of it can be announced. -/
theorem isPlace_of_resolveBase (place : file.IsPlace) (plain : PlainBase target)
    (h : (resolveBase t file target).1 = some p) :
    (t.absolute p).IsPlace ∧ t.isFile (t.absolute p) = true := by
  have anchored := anchor_of_resolveBase place plain h
  have place' : (t.absolute p).IsPlace := by
    refine ⟨?_, (Path.isNormal_absolute p t.cwd).up_notMem⟩
    rw [FileTree.absolute, Path.absolute, if_neg (by simp [anchored])]
    exact anchored
  rw [FileTree.isFile_absolute place']
  exact ⟨place', isFile_of_resolveBase h⟩

end ConfigFile

end StyleCheck
