import Mathlib.Data.Set.Finite.List
import StyleCheck.Proofs.Files.Place

/-!
# Spellings of files

A file is spelled by the paths from a root, without detours, that lead to it; there are two of them,
since the root may be written with one slash or with two. Whichever way a base is found, along a
path, in a directory, with a suffix added or in a package, it comes out as a spelling of a file
that exists. So the same file, found twice from the same root, is the same path.

## Main definitions

- `FileTree.IsSpelling`: a path from a root, without detours, that leads to a file.

## Main statements

- `FileTree.finite_isSpelling`: a tree has finitely many of them.
- `ConfigFile.isSpelling_of_resolveBase`: the base that a configuration file names.
-/

namespace StyleCheck

/-! ## §1 Spellings -/

namespace FileTree

variable {t : FileTree} {p : Path}

/-- A path from a root, without detours, that leads to a file. -/
structure IsSpelling (t : FileTree) (p : Path) : Prop where
  isNormal : p.IsNormal
  isFile : t.isFile p = true

/-- A spelling is its own absolute form. -/
theorem IsSpelling.absolute_eq (h : t.IsSpelling p) : t.absolute p = p :=
  h.isNormal.absolute_eq t.cwd

theorem IsSpelling.mem_spellings (h : t.IsSpelling p) : p ∈ t.spellings := by
  have known := absolute_mem_spellings h.isFile
  rwa [h.absolute_eq] at known

theorem finite_isSpelling (t : FileTree) : {p | t.IsSpelling p}.Finite :=
  t.spellings.finite_toSet.subset fun _ h => h.mem_spellings

end FileTree

/-! ## §2 Moving on without detours -/

namespace Path

variable {p : Path}

theorem anchor_append_ne_relative (anchored : p.anchor ≠ .relative) (t : Text) :
    (p.append t).anchor ≠ .relative := by
  unfold append
  dsimp only
  split
  · exact anchored
  · assumption

/-- A plain relative text makes no detours. -/
theorem IsNormal.append (h : p.IsNormal) {t : Text} (plain : up ∉ (ofText t).parts) :
    (p.append t).IsNormal where
  anchored := anchor_append_ne_relative h.anchored t
  up_notMem := by
    unfold Path.append
    dsimp only
    split
    · rw [List.mem_append, not_or]
      exact ⟨h.up_notMem, plain⟩
    · exact plain

/-- A suffix of more than two characters makes no double point. -/
theorem IsNormal.addSuffix (h : p.IsNormal) {extension : Text} (long : 2 < extension.length) :
    (p.addSuffix extension).IsNormal := by
  unfold Path.addSuffix
  split
  · exact h
  · refine ⟨h.anchored, ?_⟩
    rw [List.mem_append, List.mem_singleton, not_or]
    refine ⟨fun above => h.up_notMem (List.dropLast_subset _ above), fun same => ?_⟩
    have lengths := congrArg List.length same
    rw [List.length_append, up] at lengths
    simp only [List.length_cons, List.length_nil] at lengths
    omega

end Path

/-! ## §3 Bases -/

/-- A package directory is found without detours. -/
theorem Package.isNormal_of_directory? {t : FileTree} {name : Text} {start p : Path}
    (h : start.IsNormal) (plain : Path.up ∉ (Path.ofText name).parts)
    (found : directory? t name start = some p) : p.IsNormal := by
  obtain ⟨above, ancestor, rfl⟩ := List.mem_map.mp (List.mem_of_find?_eq_some found)
  exact ((h.of_mem_ancestors ancestor).child (by decide)).append plain

namespace ConfigFile

variable {t : FileTree} {directory file p q : Path} {target : Text}

theorem isSpelling_of_inDirectory? (h : directory.IsNormal)
    (found : inDirectory? t directory = some p) : t.IsSpelling p :=
  ⟨isNormal_of_inDirectory? h found, isFile_of_inDirectory? found⟩

/-- What is found along a path is a spelling of a file: at the path, with a suffix added, or in a
directory there. -/
theorem isSpelling_of_atPath? (h : q.IsNormal) (found : atPath? t q = some p) :
    t.IsSpelling p := by
  refine ⟨?_, isFile_of_atPath? found⟩
  unfold atPath? at found
  split at found
  · exact isNormal_of_inDirectory? h found
  · rcases List.mem_cons.mp (List.mem_of_find?_eq_some found) with rfl | added
    · exact h
    · obtain ⟨suffix, known, rfl⟩ := List.mem_map.mp added
      have long : ∀ suffix ∈ suffixes, 2 < suffix.length := by decide
      exact h.addSuffix (long suffix known)

/-- The base that a configuration file names is found as a spelling of a file, whichever way it is
named. -/
theorem isSpelling_of_resolveBase (h : file.IsNormal)
    (found : (resolveBase t file target).1 = some p) : t.IsSpelling p := by
  have here : file.parent.IsNormal := h.parent
  rcases resolveBase_cases found with along | ⟨specifier, package, there, inside | along⟩
  · have anchored := Path.anchor_append_ne_relative here.anchored target
    exact isSpelling_of_atPath? (Path.isNormal_normalize anchored) along
  · have plain := (Package.name_of_isSpecifier specifier).2
    exact isSpelling_of_inDirectory? (Package.isNormal_of_directory? here plain there) inside
  · have plain := (Package.name_of_isSpecifier specifier).2
    have normal := Package.isNormal_of_directory? here plain there
    have anchored := Path.anchor_append_ne_relative normal.anchored
      (Package.splitSpecifier target).2
    exact isSpelling_of_atPath? (Path.isNormal_normalize anchored) along

theorem isSpelling_of_mem_upTo {root : Path} (h : directory.IsNormal)
    (found : p ∈ upTo t directory root) : t.IsSpelling p := by
  obtain ⟨normal, -, file⟩ := isNormal_of_mem_upTo h found
  exact ⟨normal, file⟩

end ConfigFile

end StyleCheck
