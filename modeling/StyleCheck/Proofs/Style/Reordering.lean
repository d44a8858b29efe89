import StyleCheck.Check.Document
import StyleCheck.Proofs.Alike

/-!
# Style objects in another order

The entries of a style object may be written in another order, and so may those of the objects in
it, and the style objects of a file among themselves. Every key and value keeps its offsets, so
the file reads differently, but the same keys stand on the same paths. What a walk over the
entries collects is then the same, up to the order.

## Main definitions

- `StyleEntries.Reordered`, `Forest.Reordered`: the same entries in another order, at any depth.
- `SameNames`: definitions of the same names.

## Main statements

- `Reordered.perm_of_walk`: what a walk collects.
- `definitionSites_perm`, `obligations_perm`: what is defined and what has to be checked.
- `alike_collect`: the definitions of a forest.
-/

namespace StyleCheck

/-! ## §1 Reordering -/

/-- The same entries in another order, also inside the objects that they hold. Keys and values keep
their offsets. -/
inductive StyleEntries.Reordered : StyleEntries → StyleEntries → Prop
  | nil : Reordered [] []
  | cons (entry : StyleKey × StyleValue) {rest rest' : StyleEntries} :
      Reordered rest rest' → Reordered (entry :: rest) (entry :: rest')
  | inside (key : StyleKey) (start stop : Int) {inner inner' rest rest' : StyleEntries} :
      Reordered inner inner' → Reordered rest rest' →
      Reordered ((key, .object inner start stop) :: rest)
        ((key, .object inner' start stop) :: rest')
  | swap (entry entry' : StyleKey × StyleValue) (rest : StyleEntries) :
      Reordered (entry :: entry' :: rest) (entry' :: entry :: rest)
  | trans {entries entries' entries'' : StyleEntries} :
      Reordered entries entries' → Reordered entries' entries'' → Reordered entries entries''

/-- The same style objects in another order, also inside. -/
inductive Forest.Reordered : Forest → Forest → Prop
  | nil : Reordered [] []
  | cons (start stop : Int) {entries entries' : StyleEntries} {rest rest' : Forest} :
      StyleEntries.Reordered entries entries' → Reordered rest rest' →
      Reordered (⟨entries, start, stop⟩ :: rest) (⟨entries', start, stop⟩ :: rest')
  | swap (object object' : StyleObject) (rest : Forest) :
      Reordered (object :: object' :: rest) (object' :: object :: rest)
  | trans {forest forest' forest'' : Forest} :
      Reordered forest forest' → Reordered forest' forest'' → Reordered forest forest''

variable {entries entries' : StyleEntries} {forest forest' : Forest} {α γ : Type}

namespace StyleEntries.Reordered

/-- Every order of the entries is a reordering, since `swap` and `trans` make all of them. -/
theorem of_perm (same : entries.Perm entries') : Reordered entries entries' := by
  induction same with
  | nil => exact .nil
  | cons entry _ ih => exact .cons entry ih
  | swap entry entry' rest => exact .swap entry' entry rest
  | trans _ _ ih ih' => exact .trans ih ih'

/-- A walk that collects something in each entry collects the same from reordered entries, up to the
order. What it collects in an object may depend on the way there.

The cases are those of `Reordered`. For `inside`, the walk says how it goes on within an object;
that is the only thing that the walks have to prove for themselves. -/
theorem perm_of_walk (whole : γ → StyleEntries → List α)
    (part : γ → StyleKey → StyleValue → List α)
    (walks : ∀ way key value rest,
      whole way ((key, value) :: rest) = part way key value ++ whole way rest)
    (inside : ∀ way key start stop {inner inner'}, Reordered inner inner' →
      (∀ way, (whole way inner).Perm (whole way inner')) →
      (part way key (.object inner start stop)).Perm (part way key (.object inner' start stop)))
    (h : Reordered entries entries') (way : γ) : (whole way entries).Perm (whole way entries') := by
  induction h generalizing way with
  | nil => exact .refl _
  | cons entry _ ih =>
    rw [walks, walks]
    exact (ih way).append_left _
  | inside key start stop within _ ih ih' =>
    rw [walks, walks]
    exact (inside way key start stop within ih).append (ih' way)
  | swap entry entry' rest =>
    simp only [walks, ← List.append_assoc]
    exact List.perm_append_comm.append_right _
  | trans _ _ ih ih' => exact (ih way).trans (ih' way)

/-! ## §2 What is defined -/

theorem mappingSites_perm (h : Reordered entries entries') :
    (mappingSites entries).Perm (mappingSites entries') := by
  refine perm_of_walk (fun _ : Unit => mappingSites) (fun _ => mappingEntrySites) ?_ ?_ h ()
  · intro _ key value rest
    rw [mappingSites]
  · intro _ key start stop inner inner' _ ih
    rw [mappingEntrySites, mappingEntrySites]
    exact ih ()

theorem declaredTokens_perm (h : Reordered entries entries') :
    (declaredTokens entries).Perm (declaredTokens entries') := by
  refine perm_of_walk (fun _ : Unit => declaredTokens)
    (fun _ key _ => if definesToken key then [⟨.token, key⟩] else []) ?_ ?_ h ()
  · intro _ key value rest
    by_cases defines : definesToken key = true <;> simp [declaredTokens, defines]
  · intro _ key start stop inner inner' _ _
    exact .refl _

/-- What style objects define is the same, by `perm_of_walk`; a site keeps its offsets. -/
theorem objectSites_perm (h : Reordered entries entries') :
    (objectSites entries).Perm (objectSites entries') := by
  refine perm_of_walk (fun _ : Unit => objectSites) (fun _ => entrySites) ?_ ?_ h ()
  · intro _ key value rest
    rw [objectSites]
  · intro _ key start stop inner inner' within ih
    simp only [entrySites]
    -- What an object is entered for depends on the role of its key.
    cases KeyRole.ofName key.name with
    | subElement | nested | state | starting => exact ih ()
    | keyframes => exact .refl _
    | properties => exact within.declaredTokens_perm
    | token => exact within.mappingSites_perm.cons _
    | affix | property => exact within.mappingSites_perm

/-! ## §3 What has to be checked -/

/-- What has to be checked in mappings is the same. -/
theorem mappingObligations_perm (h : Reordered entries entries') (inside : Bool)
    (property : Text) :
    (mappingObligations inside property entries).Perm
      (mappingObligations inside property entries') := by
  refine perm_of_walk (fun _ : Unit => mappingObligations inside property)
    (fun _ => mappingEntryObligations inside property) ?_ ?_ h ()
  · intro _ key value rest
    rw [mappingObligations]
  · intro _ key start stop inner inner' _ ih
    rw [mappingEntryObligations, mappingEntryObligations]
    exact (ih ()).cons _

/-- What has to be checked in style objects is the same. -/
theorem objectObligations_perm (h : Reordered entries entries') (inside : Bool) :
    (objectObligations inside entries).Perm (objectObligations inside entries') := by
  refine perm_of_walk objectObligations entryObligations ?_ ?_ h inside
  · intro inside key value rest
    rw [objectObligations]
  · intro inside key start stop inner inner' within ih
    simp only [entryObligations]
    -- Inside of a sub-element the walk goes on with another flag, but the same for both orders.
    cases KeyRole.ofName key.name with
    | subElement => exact ih true
    | nested | state => exact ih inside
    | starting => exact .refl _
    | token | property => exact within.mappingObligations_perm inside _
    | keyframes | properties | affix => exact .refl _

end StyleEntries.Reordered

/-! ## §4 Forests -/

namespace Forest.Reordered

theorem of_perm (same : forest.Perm forest') : Reordered forest forest' := by
  induction same with
  | nil => exact .nil
  | cons object _ ih => exact .cons object.start object.stop (.of_perm (.refl _)) ih
  | swap object object' rest => exact .swap object' object rest
  | trans _ _ ih ih' => exact .trans ih ih'

/-- What is collected from reordered forests is the same, if it is from reordered objects. So only
`collect` on one object has to be looked at. -/
theorem flatMap_perm {collect : StyleEntries → List α}
    (each : ∀ {entries entries'}, StyleEntries.Reordered entries entries' →
      (collect entries).Perm (collect entries'))
    (h : Reordered forest forest') :
    (forest.flatMap fun object => collect object.entries).Perm
      (forest'.flatMap fun object => collect object.entries) := by
  induction h with
  | nil => exact .refl _
  | cons start stop entries _ ih =>
    rw [List.flatMap_cons, List.flatMap_cons]
    exact (each entries).append ih
  | swap object object' rest =>
    simp only [List.flatMap_cons, ← List.append_assoc]
    exact List.perm_append_comm.append_right _
  | trans _ _ ih ih' => exact ih.trans ih'

theorem definitionSites_perm (h : Reordered forest forest') :
    (definitionSites forest).Perm (definitionSites forest') :=
  flatMap_perm (fun h => h.objectSites_perm) h

theorem obligations_perm (h : Reordered forest forest') :
    (obligations forest).Perm (obligations forest') :=
  flatMap_perm (fun h => h.objectObligations_perm false) h

end Forest.Reordered

/-! ## §5 Definitions -/

namespace Definitions

/-- Definitions of the same names, whatever the order in which they were found and the sites. Checks
ask for `hasToken` and `hasState` alone. -/
structure SameNames (d d' : Definitions) : Prop where
  tokens : d.tokens.Perm d'.tokens
  states : d.states.Perm d'.states

theorem addName_perm {names names' : List Text} (same : names.Perm names') (name : Text) :
    (addName names name).Perm (addName names' name) := by
  unfold addName
  have known : names.contains name = names'.contains name := by
    simp only [List.contains_eq_mem, same.mem_iff]
  rw [known]
  split
  · exact same
  · exact same.append_right [name]

/-- Two names may be added in either order, since `addName` keeps a set. -/
theorem addName_comm (names : List Text) (name name' : Text) :
    (addName (addName names name) name').Perm (addName (addName names name') name) := by
  by_cases same : name = name'
  · rw [same]
  by_cases known : name ∈ names <;> by_cases known' : name' ∈ names
  · simp [addName, known, known']
  · simp [addName, known, known']
  · simp [addName, known, known']
  · -- Both names are new, and the later one goes behind the earlier one.
    simp only [addName, List.contains_eq_mem, List.mem_append, List.mem_singleton, known, known',
      same, Ne.symm same, or_self, decide_false, Bool.false_eq_true, if_false, List.append_assoc]
    exact (List.Perm.swap name' name []).append_left names

theorem SameNames.refl (d : Definitions) : SameNames d d := ⟨.refl _, .refl _⟩

theorem SameNames.trans (d d' d'' : Definitions) (h : SameNames d d') (h' : SameNames d' d'') :
    SameNames d d'' :=
  ⟨h.tokens.trans h'.tokens, h.states.trans h'.states⟩

/-- A site adds the same name to definitions of the `SameNames`, or it fails for both. -/
theorem alike_addDefinition {d d' : Definitions} (h : SameNames d d') (site : DefinitionSite) :
    Alike SameNames (d.addDefinition site) (d'.addDefinition site) := by
  unfold addDefinition
  cases site.key.span with
  | error fault => exact .error fault fault
  | ok span =>
    refine .ok ?_
    cases site.kind with
    | token => exact ⟨addName_perm h.tokens _, h.states⟩
    | state => exact ⟨h.tokens, addName_perm h.states _⟩

/-- Two sites may be added in either order. -/
theorem alike_addDefinition_swap (d : Definitions) (site site' : DefinitionSite) :
    Alike SameNames (d.addDefinition site >>= (addDefinition · site'))
      (d.addDefinition site' >>= (addDefinition · site)) := by
  unfold addDefinition
  cases site.key.span with
  | error fault => cases site'.key.span <;> exact .error _ _
  | ok span => cases site'.key.span with
    | error fault => exact .error _ _
    | ok span' =>
      refine .ok ?_
      -- Two sites of one kind meet in the same set; those of different kinds do not meet.
      cases site.kind with
      | token => cases site'.kind with
        | token => exact ⟨addName_comm _ _ _, .refl _⟩
        | state => exact ⟨.refl _, .refl _⟩
      | state => cases site'.kind with
        | token => exact ⟨.refl _, .refl _⟩
        | state => exact ⟨.refl _, addName_comm _ _ _⟩

/-- Reordered forests define the same names, or their definitions cannot be collected. Which of the
sites of a name comes first may change, and `SameNames` does not look at it. -/
theorem alike_collect (h : Forest.Reordered forest forest') :
    Alike SameNames (collect forest) (collect forest') :=
  alike_foldlM_of_perm SameNames.refl SameNames.trans (fun site h => alike_addDefinition h site)
    alike_addDefinition_swap h.definitionSites_perm {}

end Definitions

end StyleCheck
