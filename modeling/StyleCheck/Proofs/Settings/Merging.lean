import Mathlib.Data.List.DropRight
import StyleCheck.Proofs.Distinct
import StyleCheck.Proofs.OrderedMap
import StyleCheck.Settings

/-!
# What layers add up to

Layers are merged one after the other. What a field comes to in the end can be told from what the
layers set it to, without going through them: layers that do not set a field do not count for it,
and no field depends on another.

A category has three states in a layer. It may be left out, it may be limited by a list, or its
limit may be lifted; an empty list is a list. Lifting the limit forgets all lists before, so only
the lists since then count.

## Main definitions

- `Category`, `Listing`, `Described`: the fields of settings and layers, by how they are merged.
- `Permitted.after`, `listedAfter`, `describedAfter`: what a field comes to.

## Main statements

- `inSettings_merge`: how each field is merged.
- `merge_merge`: a layer that is merged twice counts once.
- `foldl_merge`: what any number of layers add up to.
-/

namespace StyleCheck

/-! ## §1 What a field comes to -/

/-- What a category comes to by what is set, in this order. The last word is that of the layer that
sets the category last: if it lifts the limit, there is none. Otherwise the lists since the limit
was last lifted are added up, and if it never was, they are added to the list that was there.

An empty list is a list: behind a lifted limit it permits nothing. -/
def Permitted.after (before : Permitted) (sets : List Permitted) : Permitted :=
  match sets.getLast? with
  | none => before
  | some .anything => .anything
  | some (.only _) =>
    let kept := if .anything ∈ sets then [] else before.listed
    .only (firstOccurrences
      (kept ++ (sets.rtakeWhile (· ≠ .anything)).flatMap Permitted.listed))

namespace Settings

/-- What a list comes to by the lists that are set. It stays as it is where none is. -/
def listedAfter (before : List Text) (sets : List (List Text)) : List Text :=
  if sets = [] then before else firstOccurrences (before ++ sets.flatten)

/-- The description of a name by the descriptions that are set: that of the last ones that describe
the name, or the one that was there. Each name is looked at on its own. -/
def describedAfter (before : Descriptions) (sets : List Descriptions) (name : Text) :
    Option Text :=
  (sets.reverse.findSome? (·.get? name)).or (before.get? name)

/-! ## §2 One layer -/

/-- The fields that permit names, all or those of a list. A layer may set them to a list or to
`false`. -/
inductive Category
  | tokens
  | units
  | funcs

/-- The fields that are lists of names. -/
inductive Listing
  | states
  | presets
  | recipes

/-- The fields that describe names. -/
inductive Described
  | tokens
  | presets
  | recipes
  | states

namespace Category

/-- The category in settings. -/
def inSettings : Category → Settings → Permitted
  | tokens, s => s.tokens
  | units, s => s.units
  | funcs, s => s.funcs

/-- What a layer sets the category to. -/
def inLayer : Category → Layer → Option Permitted
  | tokens, layer => layer.tokens
  | units, layer => layer.units
  | funcs, layer => layer.funcs

/-- A category is merged by `mergePermitted`, and no other field has a say in it. -/
theorem inSettings_merge (c : Category) (s : Settings) (layer : Layer) :
    c.inSettings (s.merge layer) = mergePermitted (c.inSettings s) (c.inLayer layer) := by
  cases c <;> rfl

end Category

namespace Listing

/-- The list in settings. -/
def inSettings : Listing → Settings → List Text
  | states, s => s.states
  | presets, s => s.presets
  | recipes, s => s.recipes

/-- What a layer sets the list to. -/
def inLayer : Listing → Layer → Option (List Text)
  | states, layer => layer.states
  | presets, layer => layer.presets
  | recipes, layer => layer.recipes

/-- A list is merged by `mergeNames`. -/
theorem inSettings_merge (l : Listing) (s : Settings) (layer : Layer) :
    l.inSettings (s.merge layer) = mergeNames (l.inSettings s) (l.inLayer layer) := by
  cases l <;> rfl

end Listing

namespace Described

/-- The descriptions in settings. -/
def inSettings : Described → Settings → Descriptions
  | tokens, s => s.tokenDescriptions
  | presets, s => s.presetDescriptions
  | recipes, s => s.recipeDescriptions
  | states, s => s.stateDescriptions

/-- What a layer sets the descriptions to. -/
def inLayer : Described → Layer → Option Descriptions
  | tokens, layer => layer.tokenDescriptions
  | presets, layer => layer.presetDescriptions
  | recipes, layer => layer.recipeDescriptions
  | states, layer => layer.stateDescriptions

/-- Descriptions are merged by `mergeDescriptions`. -/
theorem inSettings_merge (d : Described) (s : Settings) (layer : Layer) :
    d.inSettings (s.merge layer) = mergeDescriptions (d.inSettings s) (d.inLayer layer) := by
  cases d <;> rfl

end Described

/-! ## §3 A layer again -/

theorem mergePermitted_twice (current : Permitted) (set : Option Permitted) :
    mergePermitted (mergePermitted current set) set = mergePermitted current set := by
  cases set with
  | none => rfl
  | some set => cases set with
    | anything => rfl
    | only names =>
      exact congrArg Permitted.only (firstOccurrences_append_twice current.listed names)

theorem mergeNames_twice (current : List Text) (set : Option (List Text)) :
    mergeNames (mergeNames current set) set = mergeNames current set := by
  cases set with
  | none => rfl
  | some names => exact firstOccurrences_append_twice current names

theorem mergeDescriptions_twice (current : Descriptions) (set : Option Descriptions) :
    mergeDescriptions (mergeDescriptions current set) set = mergeDescriptions current set := by
  cases set with
  | none => rfl
  | some added => exact OrderedMap.union_union current added

/-- A layer that is merged twice in a row counts once. -/
theorem merge_merge (s : Settings) (layer : Layer) :
    (s.merge layer).merge layer = s.merge layer := by
  simp only [merge, mergePermitted_twice, mergeNames_twice, mergeDescriptions_twice]

/-! ## §4 Any number of layers -/

/-- A field that is merged on its own, through any number of layers: only the layers that set it
count. The three sorts of fields are cases of it, each with its own `mergeField`. -/
theorem foldl_field {σ ρ : Type} {inSettings : Settings → σ} {inLayer : Layer → Option ρ}
    {mergeField : σ → Option ρ → σ} (unset : ∀ current, mergeField current none = current)
    (step : ∀ s layer, inSettings (s.merge layer) = mergeField (inSettings s) (inLayer layer))
    (base : Settings) (layers : List Layer) :
    inSettings (layers.foldl merge base) =
      (layers.filterMap inLayer).foldl (fun current set => mergeField current (some set))
        (inSettings base) := by
  induction layers generalizing base with
  | nil => rfl
  | cons layer layers ih =>
    rw [List.foldl_cons, ih, step]
    cases set : inLayer layer with
    | none => rw [unset, List.filterMap_cons_none set]
    | some value => rw [List.filterMap_cons_some set, List.foldl_cons]

/-- One more list goes behind all that counts so far. So `Permitted.after` is what the merges of a
category come to. -/
theorem mergePermitted_after (before : Permitted) (sets : List Permitted) (set : Permitted) :
    mergePermitted (before.after sets) (some set) = before.after (sets ++ [set]) := by
  cases set with
  | anything => simp [mergePermitted, Permitted.after]
  | only names =>
    have known : (.anything ∈ sets ++ [Permitted.only names]) ↔ .anything ∈ sets := by simp
    have since : (sets ++ [Permitted.only names]).rtakeWhile (· ≠ .anything) =
        sets.rtakeWhile (· ≠ .anything) ++ [.only names] :=
      List.rtakeWhile_concat_pos _ _ _ (by simp)
    have behind : before.after (sets ++ [.only names]) =
        .only (firstOccurrences ((if .anything ∈ sets then [] else before.listed) ++
          (sets.rtakeWhile (· ≠ .anything)).flatMap Permitted.listed ++ names)) := by
      simp only [Permitted.after, List.getLast?_concat, known, since, List.flatMap_append,
        List.flatMap_singleton, Permitted.listed, List.append_assoc]
    rw [behind, mergePermitted]
    obtain rfl | ⟨sets, last, rfl⟩ := sets.eq_nil_or_concat
    · -- This is the first list that is set.
      simp [Permitted.after]
    · rw [List.concat_eq_append, Permitted.after, List.getLast?_concat]
      cases last with
      | anything =>
        -- The limit has just been lifted, so that nothing before counts.
        simp [Permitted.listed]
      | only earlier => rw [Permitted.listed, firstOccurrences_append_left]

/-- What is set one after the other comes to `Permitted.after`. -/
theorem foldl_mergePermitted (before : Permitted) (sets : List Permitted) :
    sets.foldl (fun current set => mergePermitted current (some set)) before =
      before.after sets := by
  induction sets using List.reverseRecOn with
  | nil => rfl
  | append_singleton sets set ih =>
    rw [List.foldl_append, List.foldl_cons, List.foldl_nil, ih, mergePermitted_after]

example : (Permitted.only ["a".toText]).after
    [.only ["b".toText], .anything, .only [], .only ["c".toText, "c".toText]] =
      .only ["c".toText] := by
  decide

/-- Lists that are set one after the other come to `listedAfter`. -/
theorem foldl_mergeNames (before : List Text) (sets : List (List Text)) :
    sets.foldl (fun current set => mergeNames current (some set)) before =
      listedAfter before sets := by
  -- The list that is set last is merged last.
  induction sets using List.reverseRecOn with
  | nil => rfl
  | append_singleton sets set ih =>
    have behind : listedAfter before (sets ++ [set]) =
        firstOccurrences (before ++ sets.flatten ++ set) := by
      rw [listedAfter, if_neg (by simp), List.flatten_append, List.flatten_singleton,
        List.append_assoc]
    rw [List.foldl_append, List.foldl_cons, List.foldl_nil, ih, mergeNames, behind, listedAfter]
    split
    · next unset => rw [unset, List.flatten_nil, List.append_nil]
    · exact firstOccurrences_append_left _ _

/-- Descriptions that are set one after the other come to `describedAfter`, for each name. -/
theorem get?_foldl_mergeDescriptions (before : Descriptions) (sets : List Descriptions)
    (name : Text) :
    (sets.foldl (fun current set => mergeDescriptions current (some set)) before).get? name =
      describedAfter before sets name := by
  induction sets using List.reverseRecOn with
  | nil => rfl
  | append_singleton sets set ih =>
    rw [List.foldl_append, List.foldl_cons, List.foldl_nil, mergeDescriptions,
      OrderedMap.get?_union, ih, describedAfter, describedAfter, List.reverse_append,
      List.reverse_singleton, List.singleton_append, List.findSome?_cons]
    cases set.get? name <;> rfl

/-- What layers add up to, whatever they set in whichever order: each category, list and description
comes to what the layers that set it make of it, and a layer that follows itself counts once.

What they make of it is told by `Permitted.after`, `listedAfter` and `describedAfter`. The first two
add lists up and keep `firstOccurrences`. By `eq_firstOccurrences_iff`, these are the one list that
has the same members, without repetitions, in the order in which they come first. -/
theorem foldl_merge (base : Settings) (layers : List Layer) :
    (∀ c : Category, c.inSettings (layers.foldl merge base) =
      (c.inSettings base).after (layers.filterMap c.inLayer)) ∧
    (∀ l : Listing, l.inSettings (layers.foldl merge base) =
      listedAfter (l.inSettings base) (layers.filterMap l.inLayer)) ∧
    (∀ (d : Described) (name : Text), (d.inSettings (layers.foldl merge base)).get? name =
      describedAfter (d.inSettings base) (layers.filterMap d.inLayer) name) ∧
    ∀ front layer behind, layers = front ++ layer :: layer :: behind →
      layers.foldl merge base = (front ++ layer :: behind).foldl merge base := by
  refine ⟨fun c => ?_, fun l => ?_, fun d name => ?_, ?_⟩
  · rw [foldl_field (fun _ => rfl) c.inSettings_merge, foldl_mergePermitted]
  · rw [foldl_field (fun _ => rfl) l.inSettings_merge, foldl_mergeNames]
  · rw [foldl_field (fun _ => rfl) d.inSettings_merge, get?_foldl_mergeDescriptions]
  · rintro front layer behind rfl
    rw [List.foldl_append, List.foldl_append, List.foldl_cons, List.foldl_cons, List.foldl_cons,
      merge_merge]

end Settings

end StyleCheck
