import Mathlib.Data.List.Induction
import StyleCheck.Document.Store
import StyleCheck.Proofs.OrderedMap

/-!
# What a document store remembers

Edits come in any order, documents are closed and opened again, and collecting the definitions of an
edit may fail. What is stored for a document in the end is told by its own history alone: the edits
that were accepted since it was last closed, of which the last one is stored.

## Main definitions

- `Step`, `run`: what is asked of a store, and the store after it.
- `accepted`: the edits of a document that were accepted since it was last closed.
- `Remembers`: a store and the accepted edits of a document belong together.
- `Agree`: two stores give the same answers about a document.

## Main statements

- `Remembers.after`, `remembers_run`: one step, and all steps from an empty store.
- `run_follows_history`: what a store holds and answers, by the history of the document.
-/

namespace StyleCheck.DocumentStore

/-! ## §1 Steps and history -/

/-- What is asked of a store. Opening a document is an edit like any other. -/
inductive Step
  | edit (uri : Text) (version : Int) (forest : Forest)
  | close (uri : Text)
  | validate (uri : Text) (settings : Settings)

/-- The document that a step is about. -/
def Step.uri : Step → Text
  | edit uri _ _ | close uri | validate uri _ => uri

/-- The store after a step. An edit that fails leaves no new store behind, so the old one stays;
`validate` does not touch the store. -/
def after (store : DocumentStore) : Step → DocumentStore
  | .edit uri version forest =>
    match store.update uri version forest with
    | .ok update => update.store
    | .error _ => store
  | .close uri => store.close uri
  | .validate _ _ => store

/-- The store after some steps, which is empty at first. -/
def run (steps : List Step) : DocumentStore := steps.foldl after .empty

/-- A version of a document, as it is handed over. -/
structure Edit where
  version : Int
  forest : Forest

/-- An edit is accepted after others if none of them is newer and its definitions can be collected.
An edit with the version of an earlier one is accepted as well. -/
def Accepts (edits : List Edit) (edit : Edit) : Prop :=
  (∀ earlier ∈ edits, earlier.version ≤ edit.version) ∧
    (Definitions.collect edit.forest).isOk = true

instance (edits : List Edit) (edit : Edit) : Decidable (Accepts edits edit) :=
  inferInstanceAs (Decidable (_ ∧ _))

/-- The accepted edits of a document after one more step.

Nothing of a store is mentioned: this is the history by which the store is judged, and `Remembers`
ties the two together. -/
def acceptedAfter (uri : Text) (edits : List Edit) : Step → List Edit
  | .edit uri' version forest =>
    if uri' = uri ∧ Accepts edits ⟨version, forest⟩ then edits ++ [⟨version, forest⟩] else edits
  | .close uri' => if uri' = uri then [] else edits
  | .validate _ _ => edits

/-- The edits of a document that were accepted since it was last closed, oldest first. -/
def accepted (uri : Text) (steps : List Step) : List Edit := steps.foldl (acceptedAfter uri) []

variable {store : DocumentStore} {uri : Text} {edits : List Edit} {edit : Edit}

theorem run_append (steps later : List Step) :
    run (steps ++ later) = later.foldl after (run steps) :=
  List.foldl_append

/-- `run_append` for one more step. -/
theorem run_concat (steps : List Step) (step : Step) :
    run (steps ++ [step]) = (run steps).after step := by
  rw [run_append]
  rfl

theorem accepted_append (uri : Text) (steps later : List Step) :
    accepted uri (steps ++ later) = later.foldl (acceptedAfter uri) (accepted uri steps) :=
  List.foldl_append

theorem acceptedAfter_other {step : Step} (other : step.uri ≠ uri) :
    acceptedAfter uri edits step = edits := by
  cases step with
  | edit uri' version forest => exact if_neg fun h => other h.1
  | close uri' => exact if_neg other
  | validate uri' settings => rfl

/-- An accepted edit came in as a step. -/
theorem mem_of_mem_accepted {steps : List Step} (h : edit ∈ accepted uri steps) :
    Step.edit uri edit.version edit.forest ∈ steps := by
  induction steps using List.reverseRecOn with
  | nil => cases h
  | append_singleton steps step ih =>
    rw [accepted_append, List.foldl_cons, List.foldl_nil] at h
    rw [List.mem_append, List.mem_singleton]
    -- Only an edit adds something, and what it adds is the edit itself.
    cases step with
    | edit uri' version forest =>
      simp only [acceptedAfter] at h
      split at h
      · next now =>
        rcases List.mem_append.mp h with before | last
        · exact .inl (ih before)
        · rw [List.mem_singleton.mp last, now.1]
          exact .inr rfl
      · exact .inl (ih h)
    | close uri' =>
      simp only [acceptedAfter] at h
      split at h
      · cases h
      · exact .inl (ih h)
    | validate uri' settings => exact .inl (ih h)

/-- Until a document is closed, what was accepted stays accepted, and in the same order. -/
theorem accepted_grows (steps : List Step) {later : List Step} (stays : Step.close uri ∉ later) :
    accepted uri steps <+: accepted uri (steps ++ later) := by
  induction later using List.reverseRecOn with
  | nil => simp
  | append_singleton later step ih =>
    rw [List.mem_append, not_or] at stays
    refine (ih stays.1).trans ?_
    rw [← List.append_assoc, accepted_append uri (steps ++ later) [step], List.foldl_cons,
      List.foldl_nil]
    -- An edit only adds at the end, and the close of another document changes nothing.
    cases step with
    | edit uri' version forest =>
      simp only [acceptedAfter]
      split
      · exact List.prefix_append _ _
      · exact List.prefix_rfl
    | close uri' =>
      have other : (Step.close uri').uri ≠ uri := by
        rintro rfl
        exact stays.2 (List.mem_singleton.mpr rfl)
      exact (acceptedAfter_other other).symm ▸ List.prefix_rfl
    | validate uri' settings => exact List.prefix_rfl

/-! ## §2 What is stored -/

/-- A document is the one that is stored for an `edit`: its definitions are those of the forest. -/
def IsStoredFor (uri : Text) (edit : Edit) (document : StoredDocument) : Prop :=
  document.uri = uri ∧ document.version = edit.version ∧ document.forest = edit.forest ∧
    Definitions.collect edit.forest = .ok document.definitions

theorem IsStoredFor.unique {document document' : StoredDocument} (h : IsStoredFor uri edit document)
    (h' : IsStoredFor uri edit document') : document = document' := by
  obtain ⟨sameUri, version, forest, collects⟩ := h
  obtain ⟨sameUri', version', forest', collects'⟩ := h'
  rw [collects, Except.ok.injEq] at collects'
  cases document
  cases document'
  simp_all

/-- Where an edit is stored, nothing else moves: `put` writes under the one `uri'` only. -/
theorem get?_put_other {uri' : Text} (other : uri' ≠ uri) {version : Int} {forest : Forest}
    {update : Update} (puts : put store uri' version forest = .ok update) :
    update.store.get? uri = store.get? uri := by
  unfold put at puts
  cases collects : Definitions.collect forest with
  | error fault =>
    rw [collects] at puts
    cases puts
  | ok definitions =>
    rw [collects] at puts
    cases puts
    rw [OrderedMap.get?_insert, if_neg (Ne.symm other)]

/-- Steps on other documents leave what is stored for a document. -/
theorem get?_after_other {step : Step} (other : step.uri ≠ uri) :
    (store.after step).get? uri = store.get? uri := by
  cases step with
  | edit uri' version forest =>
    rw [after]
    split
    · next updated updates =>
      unfold update at updates
      split at updates
      · split at updates
        · -- The edit is stale.
          cases updates
          rfl
        · exact get?_put_other other updates
      · exact get?_put_other other updates
    · rfl
  | close uri' =>
    have apart : uri ≠ uri' := Ne.symm other
    rw [after, close, OrderedMap.get?_erase, if_neg apart]
  | validate uri' settings => rfl

/-- A store holds the last of the accepted `edits` of a document, and that is the newest one. -/
structure Remembers (store : DocumentStore) (uri : Text) (edits : List Edit) : Prop where
  stored : ∀ document, store.get? uri = some document ↔
    ∃ edit, edits.getLast? = some edit ∧ IsStoredFor uri edit document
  newest : ∀ last, edits.getLast? = some last → ∀ edit ∈ edits, edit.version ≤ last.version
  collected : ∀ edit ∈ edits, ∃ definitions, Definitions.collect edit.forest = .ok definitions

theorem remembers_empty (uri : Text) : Remembers .empty uri [] where
  stored document := by simp
  newest last h := by cases h
  collected edit h := by cases h

theorem exists_ok_of_isOk {ε α : Type} {result : Except ε α} (h : result.isOk = true) :
    ∃ a, result = .ok a := by
  cases result with
  | error e => cases h
  | ok a => exact ⟨a, rfl⟩

namespace Remembers

theorem get?_eq_none (h : Remembers store uri []) : store.get? uri = none := by
  cases found : store.get? uri with
  | none => rfl
  | some document =>
    obtain ⟨edit, last, -⟩ := (h.stored document).mp found
    cases last

/-- Where edits were accepted, the last one is stored. -/
theorem exists_document (h : Remembers store uri edits) (last : edits.getLast? = some edit) :
    ∃ document, store.get? uri = some document ∧ IsStoredFor uri edit document := by
  obtain ⟨definitions, collects⟩ := h.collected edit (List.mem_of_getLast? last)
  have storedFor : IsStoredFor uri edit ⟨uri, edit.version, edit.forest, definitions⟩ :=
    ⟨rfl, rfl, rfl, collects⟩
  exact ⟨_, (h.stored _).mpr ⟨edit, last, storedFor⟩, storedFor⟩

/-- The version of the stored document is below that of an edit just if one of the accepted ones is.

The store compares with the last one only, which is enough as that is the `newest`. -/
theorem stale_iff (h : Remembers store uri edits) {document : StoredDocument}
    (found : store.get? uri = some document) (version : Int) :
    version < document.version ↔ ∃ earlier ∈ edits, version < earlier.version := by
  obtain ⟨last, isLast, -, same, -⟩ := (h.stored document).mp found
  constructor
  · intro stale
    exact ⟨last, List.mem_of_getLast? isLast, same ▸ stale⟩
  · rintro ⟨earlier, member, newer⟩
    have := h.newest last isLast earlier member
    omega

/-- An edit that is accepted is stored, with its definitions, and no events are published for it. -/
theorem update_of_accepts (h : Remembers store uri edits) (accepts : Accepts edits edit) :
    ∃ document, IsStoredFor uri edit document ∧
      store.update uri edit.version edit.forest =
        .ok { document, store := store.insert uri document, events := [] } := by
  obtain ⟨definitions, collects⟩ := exists_ok_of_isOk accepts.2
  refine ⟨⟨uri, edit.version, edit.forest, definitions⟩, ⟨rfl, rfl, rfl, collects⟩, ?_⟩
  have puts : put store uri edit.version edit.forest = .ok
      { document := ⟨uri, edit.version, edit.forest, definitions⟩
        store := store.insert uri ⟨uri, edit.version, edit.forest, definitions⟩
        events := [] } := by
    rw [put, collects]
    rfl
  unfold update
  cases found : store.get? uri with
  | none => exact puts
  | some current =>
    -- The guard compares with what is stored, and none of the accepted edits is newer.
    have notStale : ¬edit.version < current.version := by
      rw [h.stale_iff found]
      rintro ⟨earlier, member, newer⟩
      have := accepts.1 earlier member
      omega
    exact (if_neg notStale).trans puts

/-- An edit that is not accepted changes nothing: it is stale, by `stale_iff`, or its definitions
cannot be collected. -/
theorem after_of_not_accepts (h : Remembers store uri edits) (refused : ¬Accepts edits edit) :
    store.after (.edit uri edit.version edit.forest) = store := by
  have fails (uncollected : (Definitions.collect edit.forest).isOk ≠ true) :
      ∃ fault, put store uri edit.version edit.forest = .error fault := by
    cases collects : Definitions.collect edit.forest with
    | error fault => exact ⟨fault, by rw [put, collects]; rfl⟩
    | ok definitions => exact absurd (by rw [collects]; rfl) uncollected
  rw [DocumentStore.after]
  unfold update
  cases found : store.get? uri with
  | none =>
    -- Nothing is stored, so nothing was accepted that could be newer.
    have none : edits = [] := by
      rw [← List.getLast?_eq_none_iff]
      cases last : edits.getLast? with
      | none => rfl
      | some edit' =>
        obtain ⟨document, there, -⟩ := h.exists_document last
        rw [found] at there
        cases there
    obtain ⟨fault, put⟩ := fails fun ok => refused ⟨by simp [none], ok⟩
    simp only [put]
  | some current =>
    by_cases stale : edit.version < current.version
    · simp only [if_pos stale]
    · have newest : ∀ earlier ∈ edits, earlier.version ≤ edit.version := by
        intro earlier member
        by_contra newer
        exact stale ((h.stale_iff found _).mpr ⟨earlier, member, Int.not_le.mp newer⟩)
      obtain ⟨fault, put⟩ := fails fun ok => refused ⟨newest, ok⟩
      simp only [if_neg stale, put]

/-- The document of an accepted edit is stored in the place of all before it. -/
theorem insert (h : Remembers store uri edits) (accepts : Accepts edits edit)
    {document : StoredDocument} (storedFor : IsStoredFor uri edit document) :
    Remembers (OrderedMap.insert store uri document) uri (edits ++ [edit]) where
  stored document' := by
    rw [OrderedMap.get?_insert, if_pos rfl, Option.some.injEq, List.getLast?_concat]
    -- The last accepted edit is the new one, and documents stored for one edit are equal.
    constructor
    · rintro rfl
      exact ⟨edit, rfl, storedFor⟩
    · rintro ⟨edit', isEdit, storedFor'⟩
      rw [← Option.some.inj isEdit] at storedFor'
      exact storedFor.unique storedFor'
  newest last isLast earlier member := by
    rw [List.getLast?_concat, Option.some.injEq] at isLast
    subst isLast
    rcases List.mem_append.mp member with before | now
    · exact accepts.1 earlier before
    · exact (List.mem_singleton.mp now) ▸ Int.le_refl _
  collected edit' member := by
    rcases List.mem_append.mp member with before | now
    · exact h.collected edit' before
    · rw [List.mem_singleton.mp now]
      exact exists_ok_of_isOk accepts.2

/-- A step leaves a store that remembers one step more.

This is the invariant of `remembers_run`. Only an edit that is accepted and a closing of the
document itself move both sides; whatever else is asked leaves both as they are. -/
theorem after (h : Remembers store uri edits) (step : Step) :
    Remembers (store.after step) uri (acceptedAfter uri edits step) := by
  by_cases other : step.uri ≠ uri
  · rw [acceptedAfter_other other]
    refine ⟨fun document => ?_, h.newest, h.collected⟩
    rw [get?_after_other other]
    exact h.stored document
  rw [not_not] at other
  cases step with
  | edit uri' version forest =>
    obtain rfl : uri' = uri := other
    simp only [acceptedAfter, true_and]
    by_cases accepts : Accepts edits ⟨version, forest⟩
    · obtain ⟨document, storedFor, updates⟩ := h.update_of_accepts accepts
      rw [if_pos accepts, DocumentStore.after, updates]
      exact h.insert accepts storedFor
    · have same := h.after_of_not_accepts accepts
      rw [if_neg accepts, same]
      exact h
  | close uri' =>
    obtain rfl : uri' = uri := other
    -- Behind a closing, nothing is stored and the history starts anew.
    have gone : (store.close uri').get? uri' = none := by
      rw [close, OrderedMap.get?_erase, if_pos rfl]
    rw [acceptedAfter, if_pos rfl]
    refine ⟨fun document => ?_, fun last isLast => ?_, fun edit member => ?_⟩
    · simp [DocumentStore.after, gone]
    · cases isLast
    · cases member
  | validate uri' settings => exact h

end Remembers

/-- After any steps the store holds the last of the edits that the history of a document accepts:
`Remembers.after` along the run, from the empty store. -/
theorem remembers_run (steps : List Step) (uri : Text) :
    Remembers (run steps) uri (accepted uri steps) := by
  induction steps using List.reverseRecOn with
  | nil => exact remembers_empty uri
  | append_singleton steps step ih =>
    rw [run_concat, accepted_append]
    exact ih.after step

/-! ## §3 What a store answers -/

/-- Two stores give the same answers about a document. What an update returns is compared without
the `store` in it, which may differ in other documents. -/
structure Agree (store store' : DocumentStore) (uri : Text) : Prop where
  stored : store.get? uri = store'.get? uri
  contains : store.contains uri = store'.contains uri
  isCurrent : ∀ version, store.isCurrent uri version = store'.isCurrent uri version
  validate : ∀ settings, store.validate uri settings = store'.validate uri settings
  publishable : ∀ result, result.uri = uri → store.publishable result = store'.publishable result
  publishEvents : ∀ result, result.uri = uri →
    store.publishEvents result = store'.publishEvents result
  update : ∀ version forest,
    (store.update uri version forest).map (fun u => (u.document, u.events)) =
      (store'.update uri version forest).map fun u => (u.document, u.events)

/-- All answers about a document are told by what `get?` finds for it. -/
theorem agree_of_get? {store store' : DocumentStore} (same : store.get? uri = store'.get? uri) :
    Agree store store' uri := by
  -- Each answer looks at the store through the one document only.
  have isCurrent (version : Int) : store.isCurrent uri version = store'.isCurrent uri version := by
    rw [DocumentStore.isCurrent, DocumentStore.isCurrent, same]
  have publishable (result : StampedValidation) (about : result.uri = uri) :
      store.publishable result = store'.publishable result := by
    subst about
    exact isCurrent result.version
  refine ⟨same, ?_, isCurrent, fun settings => ?_, publishable, ?_, fun version forest => ?_⟩
  · simp only [OrderedMap.contains_eq_isSome, same]
  · simp only [DocumentStore.validate, same]
  · intro result about
    rw [publishEvents, publishEvents, publishable result about]
  · -- The stores behind the answers may differ, the documents in them do not.
    have put : (put store uri version forest).map (fun u => (u.document, u.events)) =
        (DocumentStore.put store' uri version forest).map fun u => (u.document, u.events) := by
      unfold DocumentStore.put
      cases Definitions.collect forest <;> rfl
    unfold DocumentStore.update
    rw [same]
    split
    · split
      · rfl
      · exact put
    · exact put

/-- The validation of a forest from scratch, with a stamp. -/
def stampedValidation (uri : Text) (edit : Edit) (settings : Settings) :
    Except Fault StampedValidation :=
  (Document.validate settings none (.forest edit.forest)).map fun v =>
    { uri, version := edit.version, diagnostics := v.diagnostics, hasErrors := v.hasErrors }

namespace Remembers

/-- Validating a stored document is validating its forest from scratch, because the definitions that
are stored with it are those of its forest (`IsStoredFor`). -/
theorem validate_eq (h : Remembers store uri edits) (settings : Settings) :
    store.validate uri settings =
      edits.getLast?.elim (.error (.documentNotOpen uri)) (stampedValidation uri · settings) := by
  cases last : edits.getLast? with
  | none =>
    rw [List.getLast?_eq_none_iff] at last
    subst last
    rw [validate, h.get?_eq_none]
    rfl
  | some edit =>
    obtain ⟨document, found, -, version, forest, collects⟩ := h.exists_document last
    rw [validate, found, Option.elim_some, stampedValidation, ← version, ← forest]
    rw [← forest] at collects
    -- The stored definitions are those that would be collected.
    simp only [Document.validate, Document.definitionsFor, collects]

/-- A result is not publishable where an edit that is newer was accepted. The stored version is the
`newest` and so not that of the result. -/
theorem publishable_eq_false (h : Remembers store uri edits) {result : StampedValidation}
    (about : result.uri = uri) (overtaken : ∃ edit ∈ edits, result.version < edit.version) :
    store.publishable result = false := by
  obtain ⟨edit, member, newer⟩ := overtaken
  rw [publishable, isCurrent, about]
  cases found : store.get? uri with
  | none => rfl
  | some document =>
    have := (h.stale_iff found result.version).mpr ⟨edit, member, newer⟩
    have differs : document.version ≠ result.version := by omega
    simpa using differs

end Remembers

/-- The history of a document, the edits accepted since it was last closed, tells all that is stored
and answered for it.

`accepted` reads the history off the steps without a store, so each line relates the answer of a
store to steps that were asked of it. -/
theorem run_follows_history (steps : List Step) (uri : Text) :
    -- Stored is the last accepted edit, with the definitions collected from its forest.
    (∀ document, (run steps).get? uri = some document ↔
      ∃ edit, (accepted uri steps).getLast? = some edit ∧ IsStoredFor uri edit document) ∧
    -- A validation is that of its forest from scratch, stamped with its version.
    (∀ settings, (run steps).validate uri settings =
      (accepted uri steps).getLast?.elim (.error (.documentNotOpen uri))
        (stampedValidation uri · settings)) ∧
    -- An edit that is accepted is answered by the document that is then stored.
    (∀ edit, Accepts (accepted uri steps) edit → ∃ document, IsStoredFor uri edit document ∧
      (run steps).update uri edit.version edit.forest =
        .ok { document, store := run (steps ++ [.edit uri edit.version edit.forest]),
              events := [] }) ∧
    -- An edit that is not accepted, for its age or its fault, changes nothing at all.
    (∀ edit, ¬Accepts (accepted uri steps) edit →
      run (steps ++ [.edit uri edit.version edit.forest]) = run steps) ∧
    -- Steps on other documents change no answer about this one.
    (∀ later, (∀ step ∈ later, Step.uri step ≠ uri) →
      Agree (run (steps ++ later)) (run steps) uri) ∧
    -- Until the document is closed, a result that was overtaken stays so.
    (∀ later result, result.uri = uri →
      (∃ edit ∈ accepted uri steps, result.version < edit.version) →
      Step.close uri ∉ later → (run (steps ++ later)).publishable result = false) := by
  have now := remembers_run steps uri
  refine ⟨now.stored, now.validate_eq, fun edit accepts => ?_, fun edit refused => ?_,
    fun later others => agree_of_get? ?_, fun later result about overtaken stays => ?_⟩
  · obtain ⟨document, storedFor, updates⟩ := now.update_of_accepts accepts
    refine ⟨document, storedFor, ?_⟩
    rw [run_concat, after, updates]
  · rw [run_concat, now.after_of_not_accepts refused]
  · induction later using List.reverseRecOn with
    | nil => rw [List.append_nil]
    | append_singleton later step ih =>
      have other : step.uri ≠ uri := others step (by simp)
      rw [← List.append_assoc, run_concat, get?_after_other other]
      exact ih fun step member => others step (by simp [member])
  · obtain ⟨edit, member, newer⟩ := overtaken
    have kept : edit ∈ accepted uri (steps ++ later) :=
      (accepted_grows steps stays).subset member
    exact (remembers_run (steps ++ later) uri).publishable_eq_false about ⟨edit, kept, newer⟩

/-- A style object that defines the token `$gap`. -/
def gapObject : StyleObject :=
  ⟨[(⟨"$gap".toText, 2, 6⟩, .text "8px".toText 9 12)], 0, 14⟩

/-- A style object whose only key ends before it starts, so that no definitions can be collected. -/
def invertedObject : StyleObject := ⟨[(⟨"$gap".toText, 6, 2⟩, .text "8px".toText 9 12)], 0, 14⟩

/-- A document that is closed and opened again, under an older version, and then edited. -/
def reopened : List Step :=
  [.edit "a".toText 7 [], .close "a".toText, .edit "a".toText 1 [gapObject],
    .edit "b".toText 9 [invertedObject], .edit "a".toText 0 [], .edit "a".toText 2 [invertedObject],
    .edit "a".toText 2 []]

/-- Of the edits since the document was opened again, the first and the last are accepted.

Another one with the same version would be too; an older one or one that fails would not, and the
result for the first version is held back also after the other document is closed. -/
theorem run_follows_history_reopened :
    accepted "a".toText reopened = [⟨1, [gapObject]⟩, ⟨2, []⟩] ∧
      (∃ document, (run reopened).get? "a".toText = some document ∧
        IsStoredFor "a".toText ⟨2, []⟩ document) ∧
      (∃ document, IsStoredFor "a".toText ⟨2, [gapObject]⟩ document ∧
        (run reopened).update "a".toText 2 [gapObject] =
          .ok { document, store := run (reopened ++ [.edit "a".toText 2 [gapObject]]),
                events := [] }) ∧
      run (reopened ++ [.edit "a".toText 1 []]) = run reopened ∧
      run (reopened ++ [.edit "a".toText 3 [invertedObject]]) = run reopened ∧
      Agree (run (reopened ++ [.close "b".toText])) (run reopened) "a".toText ∧
      (run (reopened ++ [.close "b".toText])).publishable ⟨"a".toText, 1, [], false⟩ = false := by
  obtain ⟨stored, -, accepts, refuses, others, overtaken⟩ :=
    run_follows_history reopened "a".toText
  have history : accepted "a".toText reopened = [⟨1, [gapObject]⟩, ⟨2, []⟩] := by rfl
  rw [history] at stored accepts refuses overtaken
  -- The other document is never touched, so what happens to it is no matter here.
  have other : "b".toText ≠ "a".toText := by decide
  refine ⟨history, ?_, ?_, ?_, ?_, ?_, ?_⟩
  · have storedFor : IsStoredFor "a".toText ⟨2, []⟩ ⟨"a".toText, 2, [], {}⟩ := ⟨rfl, rfl, rfl, rfl⟩
    exact ⟨_, (stored _).mpr ⟨⟨2, []⟩, rfl, storedFor⟩, storedFor⟩
  · exact accepts ⟨2, [gapObject]⟩ (by decide)
  · exact refuses ⟨1, []⟩ (by decide)
  · exact refuses ⟨3, [invertedObject]⟩ (by decide)
  · exact others [.close "b".toText] (by simpa [Step.uri] using other)
  · exact overtaken [.close "b".toText] _ rfl ⟨⟨2, []⟩, by simp, by decide⟩
      (by simpa using other.symm)

end StyleCheck.DocumentStore
