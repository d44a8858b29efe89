import Mathlib.Tactic.Common
import StyleCheck.Settings.Resolver

/-!
# Chains of bases

A configuration file may name a base, which may name a base of its own. From each file there is one
longest way along these names that meets no file twice and only files that can be used: every other
such way is a beginning of it.

## Main definitions

- `Link`: a file with the layer that it sets; `Link.Names`: the base that it names.
- `ChainFrom`, `LongestChain`: ways along the names of bases, and the longest of them.
- `Exhausts`: such a way, followed step by step until it can go on no more.

## Main statements

- `exists_exhausts`: from every file a way can be followed to its end.
- `Exhausts.longestChain_iff`: a way that is followed to its end is the only longest one.
-/

namespace StyleCheck.Resolver

variable {w : Workspace} {file : Path} {used : List Path}

/-! ## §1 Links -/

/-- A file and the layer that it sets. -/
structure Link where
  file : Path
  layer : Settings.Layer

namespace Link

/-- The file can be used and sets the `layer`, whatever is noted about it. -/
def Loads (w : Workspace) (link : Link) : Prop :=
  ∃ events, w.load link.file = .ok (some link.layer, events)

/-- The layer of a link names a base, and this is the file that it is found in. An empty name counts
as none, as in `nextBase`. -/
def Names (t : FileTree) (link : Link) (base : Path) : Prop :=
  ∃ target found, link.layer.base = some target ∧ target ≠ [] ∧
    (ConfigFile.resolveBase t link.file target).1 = some found ∧ t.absolute found = base

theorem Loads.unique {link link' : Link} (h : Loads w link) (h' : Loads w link')
    (same : link.file = link'.file) : link = link' := by
  obtain ⟨events, load⟩ := h
  obtain ⟨events', load'⟩ := h'
  rw [same, load', Except.ok.injEq, Prod.mk.injEq, Option.some.injEq] at load
  cases link
  cases link'
  simp_all

theorem Names.unique {t : FileTree} {link : Link} {base base' : Path} (h : Names t link base)
    (h' : Names t link base') : base = base' := by
  obtain ⟨target, found, named, -, at', rfl⟩ := h
  obtain ⟨target', found', named', -, at'', rfl⟩ := h'
  rw [named, Option.some.injEq] at named'
  rw [named', at'', Option.some.injEq] at at'
  rw [at']

/-- A base is one of the files of the tree, under one of its `spellings`. -/
theorem Names.mem_spellings {t : FileTree} {link : Link} {base : Path} (h : Names t link base) :
    base ∈ t.spellings := by
  obtain ⟨target, found, -, -, at', rfl⟩ := h
  exact FileTree.absolute_mem_spellings (ConfigFile.isFile_of_resolveBase at')

end Link

/-! ## §2 Chains -/

/-- A way from a file along the names of bases, which meets only files that can be used, and none of
them twice.

The empty way is one, also from a file that can be used. Ways need not go on as far as they could;
those that do are `Exhausts`. -/
structure ChainFrom (w : Workspace) (file : Path) (chain : List Link) : Prop where
  head : ∀ link ∈ chain.head?, link.file = file
  loads : ∀ link ∈ chain, link.Loads w
  names : chain.IsChain fun link next => link.Names w.tree next.file
  nodup : (chain.map Link.file).Nodup

/-- No way from the file is longer. That there is only one such way is `Exhausts.longestChain_iff`.
-/
def LongestChain (w : Workspace) (file : Path) (chain : List Link) : Prop :=
  ChainFrom w file chain ∧ ∀ other, ChainFrom w file other → other.length ≤ chain.length

namespace ChainFrom

theorem nil (w : Workspace) (file : Path) : ChainFrom w file [] := ⟨by simp, by simp, .nil, by simp⟩

/-- A way by its first link: the file can be used, does not come again, and the way ends there or
goes on with the base that it names. -/
theorem cons_iff {link : Link} {rest : List Link} :
    ChainFrom w file (link :: rest) ↔ link.file = file ∧ link.Loads w ∧
      file ∉ rest.map Link.file ∧
      (rest = [] ∨ ∃ base, link.Names w.tree base ∧ ChainFrom w base rest) := by
  constructor
  · intro h
    have head : link.file = file := h.head link rfl
    have nodup := h.nodup
    rw [List.map_cons, List.nodup_cons, head] at nodup
    refine ⟨head, h.loads link List.mem_cons_self, nodup.1, ?_⟩
    -- A way that goes on does so with the base that its first link names.
    cases rest with
    | nil => exact .inl rfl
    | cons next rest =>
      have names := List.isChain_cons_cons.mp h.names
      exact .inr ⟨next.file, names.1, by simp, fun l hl => h.loads l (List.mem_cons_of_mem _ hl),
        names.2, nodup.2⟩
  · rintro ⟨rfl, loads, fresh, rfl | ⟨base, names, h⟩⟩
    · exact ⟨by simp, by simpa using loads, .singleton _, by simp⟩
    · refine ⟨by simp, List.forall_mem_cons.mpr ⟨loads, h.loads⟩, ?_,
        List.nodup_cons.mpr ⟨fresh, h.nodup⟩⟩
      cases rest with
      | nil => exact .singleton _
      | cons next rest =>
        have head : next.file = base := h.head next rfl
        exact .cons_cons (head ▸ names) h.names

/-- Behind its first file a way avoids that file, and what it avoids as a whole. -/
theorem avoids_behind {link : Link} {rest : List Link} (way : ChainFrom w file (link :: rest))
    (avoids : ∀ l ∈ link :: rest, l.file ∉ used) : ∀ l ∈ rest, l.file ∉ link.file :: used := by
  obtain ⟨rfl, -, fresh, -⟩ := cons_iff.mp way
  intro l hl again
  rcases List.mem_cons.mp again with same | again
  · exact fresh (same ▸ List.mem_map_of_mem hl)
  · exact avoids l (List.mem_cons_of_mem _ hl) again

end ChainFrom

/-! ## §3 Following a chain to its end -/

/-- The way that goes on with a file, after some files that are `used` already, and ends only where
it has to: at a file that cannot be used, or behind one that names no base but used ones. -/
inductive Exhausts (w : Workspace) : List Path → Path → List Link → Prop
  | unusable {used : List Path} {file : Path} :
      (∀ link : Link, link.file = file → ¬link.Loads w) → Exhausts w used file []
  | last {used : List Path} {link : Link} : link.Loads w →
      (∀ base, link.Names w.tree base → base ∈ link.file :: used) →
      Exhausts w used link.file [link]
  | goesOn {used : List Path} {link : Link} {base : Path} {rest : List Link} : link.Loads w →
      link.Names w.tree base → base ∉ link.file :: used →
      Exhausts w (link.file :: used) base rest → Exhausts w used link.file (link :: rest)

/-- From every file a way can be followed to its end, whatever is used already.

The tree has finitely many spellings, and each base uses one of them up, which `room` measures. -/
theorem exists_exhausts (w : Workspace) (used : List Path) (file : Path) :
    ∃ chain, Exhausts w used file chain := by
  -- Each further file leaves less room for others.
  induction n : room w.tree (file :: used) using Nat.strongRecOn generalizing used file with
  | _ n ih =>
    by_cases usable : ∃ link : Link, link.file = file ∧ link.Loads w
    · obtain ⟨link, rfl, loads⟩ := usable
      -- The way goes on where a base is named that is not used, and ends with this file otherwise.
      by_cases open' : ∃ base, link.Names w.tree base ∧ base ∉ link.file :: used
      · obtain ⟨base, names, fresh⟩ := open'
        have less := room_cons_lt names.mem_spellings fresh
        rw [n] at less
        obtain ⟨rest, exhausts⟩ := ih _ less (link.file :: used) base rfl
        exact ⟨link :: rest, .goesOn loads names fresh exhausts⟩
      · refine ⟨[link], .last loads fun base names => ?_⟩
        by_contra fresh
        exact open' ⟨base, names, fresh⟩
    · exact ⟨[], .unusable fun link same loads => usable ⟨link, same, loads⟩⟩

namespace Exhausts

variable {chain : List Link}

/-- A way starts with the layer that loading its file gives, and has no link if there is none. -/
theorem head_of_load (h : Exhausts w used file chain) {outcome : Option Settings.Layer}
    {events : List Event} (load : w.load file = .ok (outcome, events)) :
    outcome = none ∧ chain = [] ∨
      ∃ layer rest, outcome = some layer ∧ chain = ⟨file, layer⟩ :: rest := by
  cases h with
  | unusable none =>
    cases outcome with
    | none => exact .inl ⟨rfl, rfl⟩
    | some layer => exact absurd ⟨events, load⟩ (none ⟨file, layer⟩ rfl)
  | last loads ends =>
    obtain ⟨_, load'⟩ := loads
    rw [load, Except.ok.injEq, Prod.mk.injEq] at load'
    exact .inr ⟨_, [], load'.1, rfl⟩
  | goesOn loads names fresh exhausts =>
    obtain ⟨_, load'⟩ := loads
    rw [load, Except.ok.injEq, Prod.mk.injEq] at load'
    exact .inr ⟨_, _, load'.1, rfl⟩

/-- A way that is followed to its end is a way, and avoids what was used before. -/
theorem chainFrom (h : Exhausts w used file chain) (fresh : file ∉ used) :
    ChainFrom w file chain ∧ ∀ link ∈ chain, link.file ∉ used := by
  induction h with
  | unusable => exact ⟨.nil w _, by simp⟩
  | last loads ends => exact ⟨ChainFrom.cons_iff.mpr ⟨rfl, loads, by simp, .inl rfl⟩, by simpa⟩
  | @goesOn used link base rest loads names fresh' exhausts ih =>
    obtain ⟨chain, avoids⟩ := ih fresh'
    constructor
    · refine ChainFrom.cons_iff.mpr ⟨rfl, loads, ?_, .inr ⟨base, names, chain⟩⟩
      rw [List.mem_map]
      rintro ⟨l, hl, same⟩
      exact avoids l hl (same ▸ List.mem_cons_self)
    · rw [List.forall_mem_cons]
      exact ⟨fresh, fun l hl again => avoids l hl (List.mem_cons_of_mem _ again)⟩

/-- Every other way from the file that avoids what was `used` is a beginning of it. This is what
makes the way that is followed to its end the longest one, and the only one. -/
theorem isPrefix (h : Exhausts w used file chain) {other : List Link}
    (way : ChainFrom w file other) (avoids : ∀ link ∈ other, link.file ∉ used) :
    other <+: chain := by
  -- Links and bases are told by files, so the two ways agree for as long as both go on.
  induction h generalizing other with
  | unusable none =>
    cases other with
    | nil => exact List.nil_prefix
    | cons l rest =>
      obtain ⟨same, loads, -⟩ := ChainFrom.cons_iff.mp way
      exact absurd loads (none l same)
  | @last used link loads ends =>
    cases other with
    | nil => exact List.nil_prefix
    | cons l rest =>
      have avoids' := way.avoids_behind avoids
      obtain ⟨same, loads', -, behind⟩ := ChainFrom.cons_iff.mp way
      obtain rfl := loads'.unique loads same
      cases rest with
      | nil => exact List.prefix_rfl
      | cons next rest =>
        exfalso
        obtain none | ⟨base, names, way'⟩ := behind
        · cases none
        · have head : next.file = base := way'.head next rfl
          exact avoids' next List.mem_cons_self (head ▸ ends base names)
  | @goesOn used link base rest loads names fresh' exhausts ih =>
    cases other with
    | nil => exact List.nil_prefix
    | cons l rest' =>
      have avoids' := way.avoids_behind avoids
      obtain ⟨same, loads', -, behind⟩ := ChainFrom.cons_iff.mp way
      obtain rfl := loads'.unique loads same
      refine (List.prefix_cons_inj l).mpr ?_
      obtain rfl | ⟨base', names', way'⟩ := behind
      · exact List.nil_prefix
      · obtain rfl := names'.unique names
        exact ih way' avoids'

/-- A way from a file that is followed to its end is the only longest one: by `isPrefix` any other
is a beginning of it, and one that is as long is the same. -/
theorem longestChain_iff (h : Exhausts w [] file chain) {other : List Link} :
    LongestChain w file other ↔ other = chain := by
  have way := (h.chainFrom List.not_mem_nil).1
  have begins {other : List Link} (way' : ChainFrom w file other) : other <+: chain :=
    h.isPrefix way' fun _ _ => List.not_mem_nil
  constructor
  · rintro ⟨way', longest⟩
    exact (begins way').eq_of_length_le (longest chain way)
  · rintro rfl
    exact ⟨way, fun other way' => (begins way').length_le⟩

end Exhausts

end StyleCheck.Resolver
