import StyleCheck.Proofs.Files.Place
import StyleCheck.Proofs.Settings.Resolver

/-!
# Files that cannot be used, taken for empty ones

A configuration file that cannot be used leaves no trace in the settings: they are what they would
be if it held an empty object. Where it stands in a chain of bases makes no difference. An empty
object sets nothing and names no base, so a chain that reaches such a file ends there, one link
later than the chain that could not go on to it.

## Main definitions

- `FileTree.SamePlaces`: trees with files and directories at the same places.
- `Workspace.Usable`: a file sets a layer.
- `Workspace.Mends`: every file that cannot be used holds an empty object instead.
- `Workspace.mended`: the files of a workspace, mended by readers.

## Main statements

- `mends_mended`, `mends_of_read`: every workspace can be mended; files that are read directly are
  mended by the text of an empty object.
- `mergeLinks_of_mends`: mending changes nothing about settings after a chain.
-/

namespace StyleCheck

/-! ## §1 Trees with the same places -/

/-- Two trees have files and directories at the same places, whatever is in the files. Whatever is
only looked up in the one, as by `isFile`, is looked up alike in the other. -/
structure FileTree.SamePlaces (t t' : FileTree) : Prop where
  cwd : t'.cwd = t.cwd
  files : t'.files.keys = t.files.keys
  emptyDirectories : t'.emptyDirectories = t.emptyDirectories

namespace FileTree.SamePlaces

variable {t t' : FileTree} (same : SamePlaces t t')
include same

theorem absolute_eq : t'.absolute = t.absolute := by
  funext p
  rw [absolute, absolute, same.cwd]

theorem isFile_eq : t'.isFile = t.isFile := by
  funext p
  simp only [isFile, place, same.absolute_eq, OrderedMap.contains_eq_decide_mem_keys, same.files]

theorem isDirectory_eq : t'.isDirectory = t.isDirectory := by
  funext p
  simp only [isDirectory, place, same.absolute_eq, same.files, same.emptyDirectories]

theorem spellings_eq : t'.spellings = t.spellings := by rw [spellings, spellings, same.files]

theorem inDirectory?_eq : ConfigFile.inDirectory? t' = ConfigFile.inDirectory? t := by
  funext directory
  rw [ConfigFile.inDirectory?, ConfigFile.inDirectory?, same.isFile_eq]

theorem resolveBase_eq : ConfigFile.resolveBase t' = ConfigFile.resolveBase t := by
  funext file target
  simp only [ConfigFile.resolveBase, ConfigFile.inPackage?, ConfigFile.atPath?,
    Package.directory?, same.isFile_eq, same.isDirectory_eq, same.inDirectory?_eq]

theorem names_iff {link : Resolver.Link} {base : Path} :
    link.Names t' base ↔ link.Names t base := by
  simp only [Resolver.Link.Names, same.resolveBase_eq, same.absolute_eq]

theorem configFiles_eq (document root : Path) :
    Resolver.configFiles t' document root = Resolver.configFiles t document root := by
  simp only [Resolver.configFiles, Resolver.directoryOf, same.absolute_eq, same.inDirectory?_eq]

end FileTree.SamePlaces

/-- The configuration files of a document are files of the tree, without detours. -/
theorem Resolver.mem_spellings_of_mem_configFiles {t : FileTree} {document root file : Path}
    (h : file ∈ configFiles t document root) : file ∈ t.spellings := by
  rw [← reverse_affecting, List.mem_reverse] at h
  -- Going up from a directory without detours and down to a name makes no detour.
  have directory : (directoryOf t document).IsNormal :=
    (Path.isNormal_absolute document t.cwd).parent
  obtain ⟨normal, -, isFile⟩ := ConfigFile.isNormal_of_mem_upTo directory h
  have spelled := FileTree.absolute_mem_spellings isFile
  rwa [FileTree.absolute, normal.absolute_eq] at spelled

/-! ## §2 Mended workspaces -/

/-- The text of a document without entries: two braces in JSON, and nothing in TOML. -/
def ConfigFormat.emptyObject : ConfigFormat → Text
  | json => "\x7b\x7d".toText
  | toml => []

/-- A document without entries is read as an empty object. It takes room for one call, since the
empty object is a mapping all the same. -/
theorem ConfigFormat.read_emptyObject (format : ConfigFormat) {room : Nat} (roomy : 0 < room) :
    format.read format.emptyObject room = .ok (.mapping []) := by
  cases format with
  | json =>
    have starts : "\x7b\x7d".toText.dropWhile Json.isSpace = "\x7b\x7d".toText := by decide +kernel
    have enters : enter Json.whileInMapping 1 room = .ok (room - 1) := if_pos roomy
    have value : ∃ shorter,
        Json.readValue room "\x7b\x7d".toText = .ok ⟨.mapping [], [], shorter⟩ := by
      -- One step of the reader: it takes the call, and the closing brace ends it.
      have behind : Json.readValue room "\x7b\x7d".toText =
          (enter Json.whileInMapping 1 room >>= fun _ =>
            .ok ⟨.mapping [], [], Nat.zero_lt_two⟩) := by
        rw [Json.readValue.eq_def]
        rfl
      exact ⟨Nat.zero_lt_two, by rw [behind, enters]; rfl⟩
    obtain ⟨shorter, value⟩ := value
    rw [emptyObject, read, Json.read, if_neg (by decide +kernel), starts, value]
    rfl
  | toml =>
    rw [emptyObject, read, Toml.read, Toml.readLines]
    rfl

namespace Workspace

variable {w w' : Workspace} {file : Path}

/-- The file sets a layer. A file beyond a limit does not, and neither does one that is noted to be
broken; both times `Workspace.load` gives none. -/
def Usable (w : Workspace) (file : Path) : Prop :=
  ∃ layer events, w.load file = .ok (some layer, events)

/-- `Usable` by the outcome of loading, so that it can be decided. -/
theorem usable_iff : w.Usable file ↔ ((w.load file).toOption.bind Prod.fst).isSome = true := by
  rw [Usable]
  cases w.load file with
  | error fault => simp [Except.toOption]
  | ok outcome =>
    obtain ⟨layer, events⟩ := outcome
    cases layer with
    | none => simp [Except.toOption]
    | some layer => simp [Except.toOption]

instance (w : Workspace) (file : Path) : Decidable (w.Usable file) :=
  decidable_of_iff _ usable_iff.symm

/-- The second workspace has the files of the first. Those that are `Usable` hold the same document,
and all others hold an empty object. How the files are read is left open. -/
structure Mends (w w' : Workspace) : Prop where
  samePlaces : w.tree.SamePlaces w'.tree
  usable : ∀ file ∈ w.tree.spellings, w.Usable file → w'.readDocument file = w.readDocument file
  broken : ∀ file ∈ w.tree.spellings, ¬w.Usable file →
    w'.readDocument file = .ok (.ok (.mapping []))

/-- Files that are read directly are mended by the text of an `emptyObject` in them, if they can be
opened at all. -/
theorem mends_of_read (places : w.tree.SamePlaces w'.tree) (readers : w'.readers = w.readers)
    (limits : w'.limits = w.limits) (roomy : 0 < w.limits.room)
    (usable : ∀ file ∈ w.tree.spellings, w.Usable file → w'.tree.read file = w.tree.read file)
    (broken : ∀ file ∈ w.tree.spellings, ¬w.Usable file →
      w.readers.get? file.suffix = none ∧ w.limits.pathRefusal file = none ∧ ∃ format,
        ConfigFormat.ofSuffix? file.suffix = some format ∧
          w'.tree.read file = .ok format.emptyObject) : Mends w w' where
  samePlaces := places
  usable file h usable' := by
    simp only [readDocument, readDirectly, readers, limits, usable file h usable']
  broken file h broken' := by
    obtain ⟨direct, opens, format, known, empty⟩ := broken file h broken'
    simp only [readDocument, readDirectly, readers, limits, direct, opens, known, empty,
      format.read_emptyObject roomy]

/-- What a mended file is read as: its document where it can be used, and an empty object otherwise.
-/
def mendedDocument (w : Workspace) (file : Path) : ConfigValue :=
  match w.load file, w.readDocument file with
  | .ok (some _, _), .ok (.ok document) => document
  | _, _ => .mapping []

/-- The reader that knows what mended files hold. -/
def mendedReader (w : Workspace) (file : Path) : Except Text ConfigValue :=
  .ok (w.mendedDocument file)

/-- The workspace in which files that cannot be used are mended, by one `mendedReader` for all
suffixes. -/
def mended (w : Workspace) : Workspace where
  tree := w.tree
  readers := .ofList (w.tree.spellings.map fun file => (file.suffix, w.mendedReader))

theorem readDocument_mended (h : file ∈ w.tree.spellings) :
    w.mended.readDocument file = .ok (.ok (w.mendedDocument file)) := by
  have each : ∀ e ∈ w.tree.spellings.map fun file => (file.suffix, w.mendedReader),
      e.2 = w.mendedReader := by simp
  have plugged : w.mended.readers.get? file.suffix = some w.mendedReader := by
    rw [mended, OrderedMap.ofList, OrderedMap.get?_insertAll_of_forall each, List.map_map]
    exact if_pos (List.mem_map_of_mem h)
  rw [readDocument, plugged]
  rfl

theorem Usable.exists_document (h : w.Usable file) :
    ∃ document, w.readDocument file = .ok (.ok document) := by
  obtain ⟨layer, events, loads⟩ := h
  unfold load at loads
  split at loads
  · cases loads
  · cases loads
  · next document reads => exact ⟨document, reads⟩

/-- Every workspace can be mended. The suffixes of all files are given to one reader, so no `limits`
of the readers that are built in apply. -/
theorem mends_mended (w : Workspace) : Mends w w.mended where
  samePlaces := ⟨rfl, rfl, rfl⟩
  usable file h usable := by
    obtain ⟨document, reads⟩ := usable.exists_document
    obtain ⟨layer, events, load⟩ := usable
    rw [readDocument_mended h, mendedDocument, load, reads]
  broken file h broken := by
    rw [readDocument_mended h, mendedDocument]
    split
    · next layer events document load reads => exact absurd ⟨layer, events, load⟩ broken
    · rfl

namespace Mends

theorem load_of_usable (mends : Mends w w') (h : file ∈ w.tree.spellings) (usable : w.Usable file) :
    w'.load file = w.load file := by
  rw [load, load, mends.usable file h usable]

theorem load_of_not_usable (mends : Mends w w') (h : file ∈ w.tree.spellings)
    (broken : ¬w.Usable file) : w'.load file = .ok (some {}, []) := by
  rw [load, mends.broken file h broken]
  rfl

/-- In a mended workspace every file is `Usable`, if only with a layer that sets nothing. -/
theorem usable_mended (mends : Mends w w') (h : file ∈ w.tree.spellings) : w'.Usable file := by
  by_cases usable : w.Usable file
  · obtain ⟨layer, events, load⟩ := usable
    exact ⟨layer, events, (mends.load_of_usable h ⟨layer, events, load⟩).trans load⟩
  · exact ⟨{}, [], mends.load_of_not_usable h usable⟩

end Mends

end Workspace

/-! ## §3 Chains of bases in mended workspaces -/

namespace Resolver

variable {w w' : Workspace} {used : List Path} {file : Path} {chain chain' : List Link}

/-- An empty layer changes no settings, since it sets no field. -/
theorem merge_empty (s : Settings) : s.merge {} = s := rfl

namespace Link

theorem Loads.usable {link : Link} (loads : link.Loads w) : w.Usable link.file := by
  obtain ⟨events, load⟩ := loads
  exact ⟨link.layer, events, load⟩

theorem Loads.of_mends {link : Link} (loads : link.Loads w) (mends : w.Mends w')
    (spelled : link.file ∈ w.tree.spellings) : link.Loads w' := by
  have same := mends.load_of_usable spelled loads.usable
  obtain ⟨events, load⟩ := loads
  exact ⟨events, same.trans load⟩

end Link

/-- A chain from a file that cannot be used is, once the file is mended, that file alone, with a
layer that is empty and so names no base. -/
theorem Exhausts.eq_of_broken (h : Exhausts w' used file chain') (mends : w.Mends w')
    (spelled : file ∈ w.tree.spellings) (broken : ¬w.Usable file) : chain' = [⟨file, {}⟩] := by
  have empty {link : Link} (loads : link.Loads w') (here : link.file = file) :
      link = ⟨file, {}⟩ :=
    loads.unique ⟨[], mends.load_of_not_usable spelled broken⟩ here
  cases h with
  | unusable none =>
    exact absurd ⟨[], mends.load_of_not_usable spelled broken⟩ (none ⟨file, {}⟩ rfl)
  | last loads ends => rw [empty loads rfl]
  | goesOn loads names =>
    -- An empty layer names no base.
    obtain ⟨target, found, named, -⟩ := names
    rw [empty loads rfl] at named
    cases named

/-- Settings after a chain are the same in a mended workspace, though the chain may be longer. By
`eq_of_broken` it is longer by one empty layer at most. -/
theorem mergeLinks_of_mends (mends : w.Mends w') (h : Exhausts w used file chain)
    (h' : Exhausts w' used file chain') (spelled : file ∈ w.tree.spellings) (s : Settings) :
    mergeLinks s chain' = mergeLinks s chain := by
  -- The chain of the first workspace is followed to its end, and the other one beside it. They part
  -- only at a file that cannot be used.
  induction h generalizing chain' with
  | @unusable used file none =>
    have broken : ¬w.Usable file := by
      rintro ⟨layer, events, load⟩
      exact none ⟨file, layer⟩ rfl ⟨events, load⟩
    rw [h'.eq_of_broken mends spelled broken]
    exact merge_empty s
  | @last used link loads ends =>
    have loads' := loads.of_mends mends spelled
    generalize here : link.file = file at h'
    cases h' with
    | unusable none => exact absurd loads' (none link here)
    | last loads'' => rw [loads''.unique loads' here.symm]
    | goesOn loads'' names fresh =>
      -- The base is named in the first workspace as well, where it was used already.
      obtain rfl := loads''.unique loads' here.symm
      exact absurd (ends _ (mends.samePlaces.names_iff.mp names)) fresh
  -- Both go on with the same base, so the induction applies behind it.
  | @goesOn used link base rest loads names fresh exhausts ih =>
    have loads' := loads.of_mends mends spelled
    generalize here : link.file = file at h'
    cases h' with
    | unusable none => exact absurd loads' (none link here)
    | last loads'' ends =>
      obtain rfl := loads''.unique loads' here.symm
      exact absurd (ends base (mends.samePlaces.names_iff.mpr names)) fresh
    | goesOn loads'' names' _ exhausts' =>
      obtain rfl := loads''.unique loads' here.symm
      obtain rfl := (mends.samePlaces.names_iff.mp names').unique names
      rw [mergeLinks_cons, mergeLinks_cons, ih exhausts' names.mem_spellings]

end Resolver

end StyleCheck
