import Mathlib.Data.List.Basic
import StyleCheck.Proofs.OrderedMap
import StyleCheck.Proofs.Style.Paths
import StyleCheck.Style.Definitions

/-!
# What a file defines

Tokens and aliases are collected by two walks, one over styles and one over state mappings, and the
first calls the second. Together they are one grammar of paths: the path of an entry alone tells
whether the entry defines something. The names that are collected are then those of the entries that
the grammar accepts, and each name is located at the first of them.

Offsets come from outside. Collecting makes a range of every key that defines something, so it has a
result only if the offsets of those keys are in order.

## Main definitions

- `EntryPath.Defines`: the grammar of definition sites.
- `Forest.FirstDefinition`: the first site of a name, depth first.

## Main statements

- `definitionSites_eq`: the sites that the walks collect are those of the grammar.
- `collected_foldlM`: what the names and locations are after any number of sites.
- `collect_finds_sites`: the names and locations of a forest.
-/

namespace StyleCheck

/-! ## §1 The grammar of sites -/

/-- What defines a token or an alias, by the path that leads there. -/
inductive EntryPath.Defines : DefinitionKind → EntryPath → Prop
  /-- A token among styles. -/
  | token {p : EntryPath} :
      (∀ name ∈ p.above, EntersStyles name) → NamesToken p.key.name → Defines .token p
  /-- A token that is declared. -/
  | declared {p : EntryPath} {outer : List Text} :
      p.above = outer ++ ["@properties".toText] → (∀ name ∈ outer, EntersStyles name) →
      NamesToken p.key.name → Defines .token p
  /-- An alias with its meaning among styles. -/
  | state {p : EntryPath} {content : Text} {start stop : Int} :
      (∀ name ∈ p.above, EntersStyles name) → NamesState p.key.name →
      p.value = .text content start stop → Defines .state p
  /-- An alias with its meaning somewhere in a state mapping. -/
  | mapped {p : EntryPath} {outer inner : List Text} {opener content : Text} {start stop : Int} :
      p.above = outer ++ opener :: inner → (∀ name ∈ outer, EntersStyles name) →
      EntersMapping opener → p.value = .text content start stop →
      StateKey.isAliasDefinition p.key.name content = true → Defines .state p

/-- The first site of a name: no entry before it in `Forest.paths`, depth first, defines the name.
-/
def Forest.FirstDefinition (forest : Forest) (kind : DefinitionKind) (name : Text)
    (p : EntryPath) : Prop :=
  ∃ before after, forest.paths = before ++ p :: after ∧ p.Defines kind ∧ p.key.name = name ∧
    ∀ q ∈ before, q.Defines kind → q.key.name ≠ name

/-! ## §2 The walks -/

/-- What a walk for definitions is looking at. -/
inductive SiteRegion
  /-- Styles, in which tokens and aliases are defined. -/
  | styles
  /-- The object of `@properties`, which declares tokens. -/
  | declarations
  /-- A state mapping, in which aliases are defined. -/
  | mapping
  /-- Everything that is not looked into. -/
  | closed
deriving DecidableEq

namespace SiteRegion

/-- What the walk looks at below a key. From a `.mapping` there is no way back to styles. -/
def enter : SiteRegion → Text → SiteRegion
  | .styles, name =>
    match KeyRole.ofName name with
    | .subElement | .nested | .starting | .state => .styles
    | .properties => .declarations
    | .token | .affix | .property => .mapping
    | .keyframes => .closed
  | .mapping, _ => .mapping
  | .declarations, _ | .closed, _ => .closed

/-- What an entry defines. -/
def kind? : SiteRegion → Text → StyleValue → Option DefinitionKind
  | .styles, name, value =>
    match KeyRole.ofName name, value with
    | .token, _ => some .token
    | .starting, .text .. | .state, .text .. => some .state
    | _, _ => none
  | .declarations, name, _ =>
    match KeyRole.ofName name with
    | .token => some .token
    | _ => none
  | .mapping, name, .text content _ _ =>
    if StateKey.isAliasDefinition name content then some .state else none
  | .mapping, _, _ | .closed, _, _ => none

/-- The site of an entry, if it is one. -/
def site? (region : SiteRegion) (key : StyleKey) (value : StyleValue) : Option DefinitionSite :=
  (region.kind? key.name value).map (⟨·, key⟩)

/-- The sites in an object. -/
def sites : SiteRegion → StyleEntries → List DefinitionSite
  | .styles => objectSites
  | .declarations => declaredTokens
  | .mapping => mappingSites
  | .closed => fun _ => []

/-- The sites in one entry. -/
def entrySites : SiteRegion → StyleKey → StyleValue → List DefinitionSite
  | .styles => StyleCheck.entrySites
  | .declarations => fun key _ => (site? .declarations key .unread).toList
  | .mapping => mappingEntrySites
  | .closed => fun _ _ => []

end SiteRegion

theorem definesToken_iff {key : StyleKey} :
    definesToken key = true ↔ KeyRole.ofName key.name = .token := by
  rw [← KeyRole.namesToken_iff]
  simp only [definesToken, isTokenName, NamesToken, Bool.and_eq_true, Bool.or_eq_true, beq_iff_eq,
    bne_iff_ne]

namespace SiteRegion

/-- The two walks for definitions are one that is told by the names on the way. So `Walks` makes one
pass over all paths of them. -/
theorem walks : Walks enter (fun region key value => (site? region key value).toList)
    sites entrySites where
  nil region := by cases region <;> simp [sites, objectSites, declaredTokens, mappingSites]
  cons region key value entries := by
    cases region with
    | styles => exact objectSites.eq_2 key value entries
    | mapping => exact mappingSites.eq_2 key value entries
    | closed => rfl
    | declarations =>
      -- Declared tokens are filtered, and the key alone decides.
      simp only [sites, entrySites, declaredTokens, site?, kind?]
      by_cases token : KeyRole.ofName key.name = .token
      · simp [definesToken_iff, token]
      · have none_here : definesToken key = false := by
          rwa [← Bool.not_eq_true, definesToken_iff]
        simp [none_here]
  unread region key := by
    cases region with
    | styles =>
      simp only [entrySites, StyleCheck.entrySites, site?, kind?, definesToken_iff]
      cases KeyRole.ofName key.name <;> rfl
    | declarations | closed => rfl
    | mapping => simp [entrySites, mappingEntrySites, site?, kind?]
  text region key content start stop := by
    cases region with
    | styles =>
      simp only [entrySites, StyleCheck.entrySites, site?, kind?]
      cases KeyRole.ofName key.name <;> rfl
    | declarations | closed => rfl
    | mapping =>
      simp only [entrySites, mappingEntrySites, site?, kind?]
      split <;> rfl
  object region key entries start stop := by
    cases region with
    | styles =>
      simp only [entrySites, StyleCheck.entrySites, site?, kind?, enter]
      cases KeyRole.ofName key.name <;> rfl
    | declarations => simp [entrySites, site?, kind?, enter, sites]
    | closed => rfl
    | mapping => simp [entrySites, mappingEntrySites, site?, kind?, enter, sites]

/-! ## §3 The walks and the grammar -/

/-- What the walk looks at behind names, by `enter` for each of them. -/
def behind (above : List Text) : SiteRegion := above.foldl enter .styles

theorem behind_eq_styles_iff {above : List Text} :
    behind above = .styles ↔ ∀ name ∈ above, EntersStyles name := by
  -- Styles that are left are never entered again.
  refine foldl_iff_forall (· = SiteRegion.styles) rfl (fun region name => ?_) above
  cases region with
  | styles =>
    rw [KeyRole.entersStyles_iff, enter]
    cases KeyRole.ofName name <;> simp
  | declarations | mapping | closed => simp [enter]

theorem behind_eq_declarations_iff {above : List Text} :
    behind above = .declarations ↔
      ∃ outer, above = outer ++ ["@properties".toText] ∧ ∀ name ∈ outer, EntersStyles name := by
  obtain rfl | ⟨outer, last, rfl⟩ := above.eq_nil_or_concat
  · simp [behind]
  -- Only `@properties` among styles leads to declarations.
  have step : enter (behind outer) last = .declarations ↔
      behind outer = .styles ∧ last = "@properties".toText := by
    rw [← KeyRole.ofName_eq_iff (rfl : KeyRole.ownName? .properties = _)]
    cases behind outer with
    | styles =>
      rw [enter]
      cases KeyRole.ofName last <;> simp
    | declarations | mapping | closed => simp [enter]
  rw [List.concat_eq_append, behind, List.foldl_append]
  refine step.trans ?_
  rw [behind_eq_styles_iff]
  constructor
  · rintro ⟨styles, rfl⟩
    exact ⟨outer, rfl, styles⟩
  · rintro ⟨outer', same, styles⟩
    obtain ⟨rfl, lasts⟩ := List.append_inj' same rfl
    exact ⟨styles, (List.cons.inj lasts).1⟩

theorem behind_eq_mapping_iff {above : List Text} :
    behind above = .mapping ↔ ∃ outer opener inner, above = outer ++ opener :: inner ∧
      (∀ name ∈ outer, EntersStyles name) ∧ EntersMapping opener := by
  simp only [← behind_eq_styles_iff]
  -- A mapping is entered by one name among styles, and never left again.
  refine foldl_iff_exists (· = SiteRegion.mapping)
    (fun region name => region = .styles ∧ EntersMapping name) ?_ (fun region name => ?_) above
  · exact nofun
  · cases region with
    | styles =>
      rw [KeyRole.entersMapping_iff, enter]
      cases KeyRole.ofName name <;> simp
    | declarations | mapping | closed => simp [enter]

end SiteRegion

/-- What the entry at the end of a path defines. -/
def EntryPath.kind? (p : EntryPath) : Option DefinitionKind :=
  (SiteRegion.behind p.above).kind? p.key.name p.value

namespace SiteRegion

variable {name : Text} {value : StyleValue} {kind : DefinitionKind}

theorem kind?_styles_iff : kind? .styles name value = some kind ↔
    kind = .token ∧ NamesToken name ∨
      kind = .state ∧ NamesState name ∧ ∃ content start stop, value = .text content start stop := by
  rw [KeyRole.namesToken_iff, KeyRole.namesState_iff]
  cases role : KeyRole.ofName name <;> cases value <;> simp [kind?, role, eq_comm]

theorem kind?_declarations_iff : kind? .declarations name value = some kind ↔
    kind = .token ∧ NamesToken name := by
  rw [KeyRole.namesToken_iff]
  cases role : KeyRole.ofName name <;> simp [kind?, role, eq_comm]

theorem kind?_mapping_iff : kind? .mapping name value = some kind ↔
    kind = .state ∧ ∃ content start stop, value = .text content start stop ∧
      StateKey.isAliasDefinition name content = true := by
  cases value with
  | unread | object => simp [kind?]
  | text content start stop =>
    rw [kind?]
    split
    · next defines =>
      rw [Option.some.injEq, eq_comm]
      simp [defines]
    · next uses => simp [uses]

end SiteRegion

/-- The walks take a path for a site if the grammar does, that is, if `EntryPath.Defines` holds of
it. -/
theorem EntryPath.kind?_eq_some_iff {p : EntryPath} {kind : DefinitionKind} :
    p.kind? = some kind ↔ p.Defines kind := by
  unfold kind?
  -- The regions stand for the ways of the grammar, one for each.
  constructor
  · intro found
    cases region : SiteRegion.behind p.above with
    | styles =>
      have styles := SiteRegion.behind_eq_styles_iff.mp region
      rw [region, SiteRegion.kind?_styles_iff] at found
      obtain ⟨rfl, token⟩ | ⟨rfl, state, content, start, stop, value⟩ := found
      · exact .token styles token
      · exact .state styles state value
    | declarations =>
      obtain ⟨outer, above, styles⟩ := SiteRegion.behind_eq_declarations_iff.mp region
      rw [region, SiteRegion.kind?_declarations_iff] at found
      obtain ⟨rfl, token⟩ := found
      exact .declared above styles token
    | mapping =>
      obtain ⟨outer, opener, inner, above, styles, opens⟩ :=
        SiteRegion.behind_eq_mapping_iff.mp region
      rw [region, SiteRegion.kind?_mapping_iff] at found
      obtain ⟨rfl, content, start, stop, value, defines⟩ := found
      exact .mapped above styles opens value defines
    | closed =>
      rw [region] at found
      cases found
  · intro defines
    cases defines with
    | token styles token =>
      rw [SiteRegion.behind_eq_styles_iff.mpr styles, SiteRegion.kind?_styles_iff]
      exact .inl ⟨rfl, token⟩
    | declared above styles token =>
      rw [SiteRegion.behind_eq_declarations_iff.mpr ⟨_, above, styles⟩,
        SiteRegion.kind?_declarations_iff]
      exact ⟨rfl, token⟩
    | state styles state value =>
      rw [SiteRegion.behind_eq_styles_iff.mpr styles, SiteRegion.kind?_styles_iff]
      exact .inr ⟨rfl, state, _, _, _, value⟩
    | mapped above styles opens value defines =>
      rw [SiteRegion.behind_eq_mapping_iff.mpr ⟨_, _, _, above, styles, opens⟩,
        SiteRegion.kind?_mapping_iff]
      exact ⟨rfl, _, _, _, value, defines⟩

/-- The site at the end of a path, if there is one. -/
def EntryPath.site? (p : EntryPath) : Option DefinitionSite := p.kind?.map (⟨·, p.key⟩)

/-- The walks collect the sites of the grammar, depth first, as `Forest.paths` lists them. -/
theorem definitionSites_eq (forest : Forest) :
    definitionSites forest = forest.paths.filterMap EntryPath.site? := by
  have collected := walk_eq_flatMap SiteRegion.walks .styles forest
  rw [List.filterMap_eq_flatMap_toList]
  exact collected

theorem mem_definitionSites_iff {forest : Forest} {site : DefinitionSite} :
    site ∈ definitionSites forest ↔
      ∃ p ∈ forest.paths, p.Defines site.kind ∧ p.key = site.key := by
  obtain ⟨kind, key⟩ := site
  rw [definitionSites_eq, List.mem_filterMap]
  simp only [EntryPath.site?, Option.map_eq_some_iff, DefinitionSite.mk.injEq,
    EntryPath.kind?_eq_some_iff]
  constructor
  · rintro ⟨p, hp, _, defines, rfl, rfl⟩
    exact ⟨p, hp, defines, rfl⟩
  · rintro ⟨p, hp, defines, same⟩
    exact ⟨p, hp, kind, defines, rfl, same⟩

/-- Whether a site defines a name. -/
def DefinitionSite.isOf (kind : DefinitionKind) (name : Text) (site : DefinitionSite) : Bool :=
  site.kind == kind && site.key.name == name

/-- The first site of a name is that of its `FirstDefinition`. -/
theorem find?_definitionSites_iff {forest : Forest} {kind : DefinitionKind} {name : Text}
    {site : DefinitionSite} :
    (definitionSites forest).find? (DefinitionSite.isOf kind name) = some site ↔
      ∃ p, forest.FirstDefinition kind name p ∧ site = ⟨kind, p.key⟩ := by
  have isSite (p : EntryPath) : (p.site?.any (DefinitionSite.isOf kind name)) = true ↔
      p.Defines kind ∧ p.key.name = name := by
    rw [EntryPath.site?, ← EntryPath.kind?_eq_some_iff]
    cases p.kind? <;> simp [DefinitionSite.isOf]
  rw [definitionSites_eq, List.find?_filterMap, Option.bind_eq_some_iff]
  simp only [List.find?_eq_some_iff_append, isSite, Bool.not_eq_true', ← Bool.not_eq_true]
  constructor
  -- No path before the first definition is a site of the name, and none is a definition of it.
  · rintro ⟨p, ⟨⟨defines, named⟩, before, after, split, none⟩, found⟩
    refine ⟨p, ⟨before, after, split, defines, named, ?_⟩, ?_⟩
    · intro q hq defines' named'
      exact none q hq ⟨defines', named'⟩
    · rw [EntryPath.site?, EntryPath.kind?_eq_some_iff.mpr defines] at found
      exact (Option.some.inj found).symm
  · rintro ⟨p, ⟨before, after, split, defines, named, none⟩, rfl⟩
    refine ⟨p, ⟨⟨defines, named⟩, before, after, split, ?_⟩, ?_⟩
    · rintro q hq ⟨defines', named'⟩
      exact none q hq defines' named'
    · rw [EntryPath.site?, EntryPath.kind?_eq_some_iff.mpr defines]
      rfl

/-! ## §4 Collecting -/

namespace Definitions

/-- The names of a kind. -/
def names (d : Definitions) : DefinitionKind → List Text
  | .token => d.tokens
  | .state => d.states

/-- Where the names of a kind are defined. -/
def locations (d : Definitions) : DefinitionKind → OrderedMap Text Span
  | .token => d.tokenSites
  | .state => d.stateSites

variable {d d' : Definitions} {site : DefinitionSite} {sites seen : List DefinitionSite}

theorem keys_addSite (m : OrderedMap Text Span) (name : Text) (span : Span) :
    (addSite m name span).keys = addName m.keys name := by
  rw [addSite, addName, m.contains_eq_decide_mem_keys, List.contains_eq_mem]
  by_cases known : name ∈ m.keys
  · simp [known]
  · simp [known, OrderedMap.keys_insert_of_notMem known]

/-- A location that is known stays, and so only a new name gets one. -/
theorem get?_addSite (m : OrderedMap Text Span) (name other : Text) (span : Span) :
    (addSite m name span).get? other =
      (m.get? other).or (if name = other then some span else none) := by
  unfold addSite
  split
  · next known =>
    rw [m.contains_eq_isSome] at known
    -- A name that has a site already keeps it, whether or not it is the one asked for.
    split
    · next same => rw [← same, Option.or_of_isSome known]
    · rw [Option.or_none]
  · next new =>
    rw [m.contains_eq_isSome, Option.not_isSome_iff_eq_none] at new
    rw [m.get?_insert]
    by_cases same : name = other
    · rw [if_pos same.symm, if_pos same, ← same, new, Option.none_or]
    · rw [if_neg (Ne.symm same), if_neg same, Option.or_none]

/-- What a site adds. Only the names of its own kind change, by `addName` and `addSite`. -/
theorem addDefinition_of_eq_ok (h : d.addDefinition site = .ok d') :
    ∃ span, site.key.span = .ok span ∧ ∀ kind,
      d'.names kind =
        (if site.kind = kind then addName (d.names kind) site.key.name else d.names kind) ∧
      d'.locations kind =
        (if site.kind = kind then addSite (d.locations kind) site.key.name span
          else d.locations kind) := by
  unfold addDefinition at h
  cases made : site.key.span with
  | error fault =>
    rw [made] at h
    cases h
  | ok span =>
    rw [made] at h
    cases h
    refine ⟨span, rfl, fun kind => ?_⟩
    cases site.kind <;> cases kind <;> exact ⟨rfl, rfl⟩

/-- What definitions are after some sites: every name is located, at its first site. It is the
invariant of `Definitions.collect`. -/
structure Collected (seen : List DefinitionSite) (d : Definitions) : Prop where
  placed : ∀ site ∈ seen, ∃ span, site.key.span = .ok span
  keyed : ∀ kind, d.names kind = (d.locations kind).keys
  located : ∀ kind name, (d.locations kind).get? name =
    (seen.find? (DefinitionSite.isOf kind name)).bind fun site => site.key.span.toOption

theorem collected_nil : Collected [] {} where
  placed _ h := nomatch h
  keyed kind := by cases kind <;> rfl
  located kind name := by cases kind <;> rfl

/-- One more site. -/
theorem Collected.addDefinition (h : Collected seen d) (added : d.addDefinition site = .ok d') :
    Collected (seen ++ [site]) d' := by
  obtain ⟨span, placed, after⟩ := addDefinition_of_eq_ok added
  refine ⟨?_, fun kind => ?_, fun kind name => ?_⟩
  · intro other mem
    -- Every site seen has a span: the earlier ones as before, the new one since it was added.
    rcases List.mem_append.mp mem with earlier | last
    · exact h.placed other earlier
    · rw [List.mem_singleton] at last
      exact ⟨span, last ▸ placed⟩
  · obtain ⟨names, locations⟩ := after kind
    rw [names, locations, h.keyed]
    split
    · exact (keys_addSite _ _ _).symm
    · rfl
  · -- The first site of a name is the first among the earlier ones, or else the new one.
    have new : (d'.locations kind).get? name = ((d.locations kind).get? name).or
        (if site.isOf kind name then some span else none) := by
      rw [(after kind).2, DefinitionSite.isOf]
      by_cases same : site.kind = kind
      · rw [if_pos same, get?_addSite]
        simp [same]
      · simp [same]
    rw [new, h.located, List.find?_append, List.find?_singleton]
    cases found : seen.find? (DefinitionSite.isOf kind name) with
    | none =>
      split
      · simp [placed, Except.toOption]
      · rfl
    | some first =>
      obtain ⟨earlier, located⟩ := h.placed first (List.mem_of_find?_eq_some found)
      simp [located, Except.toOption]

theorem Collected.get?_eq_some_iff (h : Collected seen d) {kind : DefinitionKind} {name : Text}
    {span : Span} : (d.locations kind).get? name = some span ↔
      ∃ site, seen.find? (DefinitionSite.isOf kind name) = some site ∧
        site.key.span = .ok span := by
  rw [h.located, Option.bind_eq_some_iff]
  refine exists_congr fun site => and_congr_right fun _ => ?_
  cases site.key.span <;> simp [Except.toOption]

theorem Collected.mem_names_iff (h : Collected seen d) {kind : DefinitionKind} {name : Text} :
    name ∈ d.names kind ↔ ∃ site ∈ seen, site.kind = kind ∧ site.key.name = name := by
  rw [h.keyed, OrderedMap.mem_keys_iff, Option.isSome_iff_exists]
  simp only [h.get?_eq_some_iff]
  constructor
  · rintro ⟨span, site, first, -⟩
    have isOf := List.find?_some first
    rw [DefinitionSite.isOf, Bool.and_eq_true, beq_iff_eq, beq_iff_eq] at isOf
    exact ⟨site, List.mem_of_find?_eq_some first, isOf⟩
  · rintro ⟨site, mem, sameKind, sameName⟩
    -- There is some site of the name, so there is a first one.
    have isOf : site.isOf kind name = true := by simp [DefinitionSite.isOf, sameKind, sameName]
    obtain ⟨first, found⟩ := Option.isSome_iff_exists.mp
      (List.find?_isSome.mpr ⟨site, mem, isOf⟩)
    obtain ⟨span, placed⟩ := h.placed first (List.mem_of_find?_eq_some found)
    exact ⟨span, first, found, placed⟩

/-- What definitions are after any number of sites, by `Collected.addDefinition` for each. -/
theorem collected_foldlM (h : Collected seen d)
    (collected : sites.foldlM Definitions.addDefinition d = .ok d') :
    Collected (seen ++ sites) d' := by
  induction sites generalizing seen d with
  | nil =>
    cases collected
    rwa [List.append_nil]
  | cons site sites ih =>
    rw [List.foldlM_cons] at collected
    -- The first site is added, or the whole collection fails.
    cases added : d.addDefinition site with
    | error fault =>
      rw [added] at collected
      cases collected
    | ok next =>
      rw [added] at collected
      rw [List.append_cons]
      exact ih (h.addDefinition added) collected

theorem exists_addDefinition_iff (d : Definitions) (site : DefinitionSite) :
    (∃ d', d.addDefinition site = .ok d') ↔ InOrder site.key.start site.key.stop := by
  rw [← Span.exists_ofBounds_iff]
  constructor
  · rintro ⟨d', added⟩
    obtain ⟨span, placed, -⟩ := addDefinition_of_eq_ok added
    exact ⟨span, placed⟩
  · rintro ⟨span, placed⟩
    have made : site.key.span = .ok span := placed
    rw [addDefinition, made]
    exact ⟨_, rfl⟩

/-- Sites can be added if all their keys make ranges. -/
theorem exists_foldlM_iff (d : Definitions) :
    (∃ d', sites.foldlM Definitions.addDefinition d = .ok d') ↔
      ∀ site ∈ sites, InOrder site.key.start site.key.stop := by
  induction sites generalizing d with
  | nil => simp [pure, Except.pure]
  | cons site sites ih =>
    rw [List.foldlM_cons, List.forall_mem_cons, ← exists_addDefinition_iff d site]
    cases added : d.addDefinition site with
    | error fault => simp [bind, Except.bind]
    | ok next => simp [bind, Except.bind, ih]

/-- The definitions of a forest can be collected if the keys of all its sites make ranges: each is
`InOrder`. -/
theorem exists_collect_iff {forest : Forest} : (∃ d, collect forest = .ok d) ↔
    ∀ p ∈ forest.paths, ∀ kind, p.Defines kind → InOrder p.key.start p.key.stop := by
  rw [collect, exists_foldlM_iff]
  constructor
  · intro placed p hp kind defines
    exact placed ⟨kind, p.key⟩ (mem_definitionSites_iff.mpr ⟨p, hp, defines, rfl⟩)
  · intro placed site mem
    obtain ⟨p, hp, defines, same⟩ := mem_definitionSites_iff.mp mem
    exact same ▸ placed p hp site.kind defines

/-- The names that are collected are those that some path `Defines`. -/
theorem mem_names_iff {forest : Forest} {d : Definitions} (collected : collect forest = .ok d)
    {kind : DefinitionKind} {name : Text} :
    name ∈ d.names kind ↔ ∃ p ∈ forest.paths, p.Defines kind ∧ p.key.name = name := by
  have all : Collected (definitionSites forest) d := collected_foldlM collected_nil collected
  rw [all.mem_names_iff]
  constructor
  · rintro ⟨site, mem, rfl, rfl⟩
    obtain ⟨p, hp, defines, same⟩ := mem_definitionSites_iff.mp mem
    exact ⟨p, hp, defines, by rw [same]⟩
  · rintro ⟨p, hp, defines, rfl⟩
    exact ⟨⟨kind, p.key⟩, mem_definitionSites_iff.mpr ⟨p, hp, defines, rfl⟩, rfl, rfl⟩

/-- The definitions of a forest are those at the end of the paths that the grammar accepts: there is
a result just if the keys there make ranges, and then the names are those keys, each with the place
of the first of them.

The grammar is `EntryPath.Defines`, and the order of the paths is depth first. -/
theorem collect_finds_sites (forest : Forest) :
    ((∃ d, collect forest = .ok d) ↔
      ∀ p ∈ forest.paths, ∀ kind, p.Defines kind → InOrder p.key.start p.key.stop) ∧
    ∀ d, collect forest = .ok d → ∀ kind, d.names kind = (d.locations kind).keys ∧ ∀ name,
      (name ∈ d.names kind ↔ ∃ p ∈ forest.paths, p.Defines kind ∧ p.key.name = name) ∧
      ∀ span, (d.locations kind).get? name = some span ↔
        ∃ p, forest.FirstDefinition kind name p ∧
          (span.start : Int) = p.key.start ∧ (span.stop : Int) = p.key.stop := by
  refine ⟨exists_collect_iff, fun d collected kind => ?_⟩
  have all : Collected (definitionSites forest) d := collected_foldlM collected_nil collected
  refine ⟨all.keyed kind, fun name => ⟨mem_names_iff collected, fun span => ?_⟩⟩
  rw [all.get?_eq_some_iff]
  simp only [find?_definitionSites_iff]
  constructor
  · rintro ⟨_, ⟨p, first, rfl⟩, located⟩
    exact ⟨p, first, Span.ofBounds_eq_ok_iff.mp located⟩
  · rintro ⟨p, first, bounds⟩
    exact ⟨_, ⟨p, first, rfl⟩, Span.ofBounds_eq_ok_iff.mpr bounds⟩

end Definitions

/-- A token inside a sub-element. -/
def gapPath : EntryPath :=
  ⟨["Title".toText], ⟨"$gap".toText, 11, 15⟩, .text "8px".toText 19 22⟩

/-- The sub-element with the token. -/
def titlePath : EntryPath :=
  ⟨[], ⟨"Title".toText, 2, 7⟩, .object [(gapPath.key, gapPath.value)] 9 24⟩

/-- A style object with the sub-element. -/
def titledGap : Forest := [⟨[(titlePath.key, titlePath.value)], 0, 26⟩]

theorem paths_titledGap : titledGap.paths = [titlePath, gapPath] := rfl

theorem Definitions.collect_finds_sites_titledGap :
    ∃ d, collect titledGap = .ok d ∧ "$gap".toText ∈ d.names .token ∧
      (d.locations .token).get? "$gap".toText = some ⟨11, 15, by decide⟩ := by
  obtain ⟨-, finds⟩ := collect_finds_sites titledGap
  have defines : gapPath.Defines .token := EntryPath.kind?_eq_some_iff.mp (by decide)
  -- The first key only leads to the token, and defines nothing itself.
  have enters : ¬titlePath.Defines .token := by
    rw [← EntryPath.kind?_eq_some_iff]
    decide
  refine ⟨_, rfl, ?_⟩
  obtain ⟨-, found⟩ := finds _ rfl .token
  obtain ⟨named, located⟩ := found "$gap".toText
  constructor
  · rw [named]
    refine ⟨gapPath, ?_, defines, rfl⟩
    rw [paths_titledGap]
    exact List.mem_cons_of_mem _ List.mem_cons_self
  · rw [located]
    refine ⟨gapPath, ⟨[titlePath], [], paths_titledGap, defines, rfl, ?_⟩, rfl, rfl⟩
    intro q mem defines'
    rw [List.mem_singleton] at mem
    exact absurd (mem ▸ defines') enters

/-- A token whose key ends before it starts. -/
def invertedGap : Forest :=
  [⟨[(⟨"$gap".toText, 6, 2⟩, .text "8px".toText 9 12)], 0, 14⟩]

/-- A token may be defined, and yet nothing is collected: its key makes no range. -/
theorem Definitions.collect_invertedGap :
    (∃ p ∈ invertedGap.paths, p.Defines .token ∧ p.key.name = "$gap".toText) ∧
      collect invertedGap = .error .invertedRange := by
  refine ⟨⟨⟨[], ⟨"$gap".toText, 6, 2⟩, .text "8px".toText 9 12⟩, ?_, ?_, rfl⟩, rfl⟩
  · exact List.mem_cons_self
  · exact .token nofun ⟨.inr rfl, by decide⟩

end StyleCheck
