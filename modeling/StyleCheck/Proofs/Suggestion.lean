import Mathlib.Data.List.MinMax
import StyleCheck.Proofs.EditDistance
import StyleCheck.Suggestion

/-!
# The closest name

The candidates for a suggestion are read once. The reader keeps the best of them so far, with its
distance, and a later one takes its place only if it is closer. So the first of the closest
candidates is suggested, if it is close enough.

A candidate whose length is too far off is passed over before its distance is computed. The lengths
are those of the names as they are written, and the distance is taken in lower case. For all
characters but one this comes to the same: every character has one small form, but the dotted
capital I has one of two characters. Only names that differ in how many of these they hold can be
close enough and be passed over.

## Main definitions

- `nearest?`: the closest of all candidates, whatever their lengths.
- `InReach`: the names that can be suggested for an unknown one.

## Main statements

- `Text.length_lower`: the length of a text in lower case.
- `foldl_nearer`: what the reader keeps.
- `closest_is_argmin`: which candidate is suggested.
- `mem_of_suggest?`, `exists_suggest?`: what is suggested, and when something is.
- `closest_eq_nearest_iff`: when it does not matter that candidates are passed over.
-/

namespace StyleCheck

/-! ## §1 Lengths -/

/-- A text cannot be turned into another one by fewer edits than it has characters more. -/
theorem length_le_add_recursiveDistance (a b : Text) :
    a.length ≤ b.length + recursiveDistance a b := by
  fun_induction recursiveDistance a b with
  | case1 b => exact Nat.zero_le _
  | case2 a some => exact Nat.le_add_left _ _
  | case3 c a d b delete insert replace =>
    simp only [List.length_cons] at delete insert ⊢
    omega

/-- The lengths of two names in lower case differ by no more than their `nameDistance`. -/
theorem length_lower_le_add_nameDistance (a b : Text) :
    a.lower.length ≤ b.lower.length + nameDistance a b ∧
      b.lower.length ≤ a.lower.length + nameDistance a b := by
  rw [nameDistance, editDistance_eq]
  refine ⟨length_le_add_recursiveDistance _ _, ?_⟩
  rw [recursiveDistance_comm]
  exact length_le_add_recursiveDistance _ _

namespace Text

/-- The capital I with a dot, `U+0130`, the only character with a longer small form. -/
def dottedI : CodePoint := .char 'İ'

theorem length_lowerChar (c : CodePoint) :
    (lowerChar c).length = 1 + if c == dottedI then 1 else 0 := by
  unfold lowerChar dottedI
  split
  · rfl
  · split <;> rfl

/-- The length does not depend on what stands in front, although the form of a sigma does. -/
theorem length_lowerAfter (before cs : Text) :
    (lowerAfter before cs).length = cs.length + cs.count dottedI := by
  induction cs generalizing before with
  | nil => rfl
  | cons c cs ih =>
    -- A capital sigma has one of two small forms, by what stands around it, and both are as long.
    have small (sigma : Bool) : (if c == 'Σ' then (if sigma then ['ς'] else ['σ'])
        else lowerChar c : Text).length = 1 + if c == dottedI then 1 else 0 := by
      split
      · next same =>
        rw [beq_iff_eq.mp same]
        cases sigma <;> rfl
      · exact length_lowerChar c
    rw [lowerAfter, List.length_append, ih, small, List.length_cons, List.count_cons]
    omega

/-- In lower case, a text is longer by the number of its dotted capitals. Only `dottedI` has a small
form of two characters. -/
theorem length_lower (cs : Text) : cs.lower.length = cs.length + cs.count dottedI :=
  length_lowerAfter [] cs

end Text

/-- Lengths are close enough where neither name has more characters than the other and `limit`. -/
theorem lengthsWithin_iff {limit : Int} {a b : Text} : lengthsWithin limit a b = true ↔
    (a.length : Int) ≤ b.length + limit ∧ (b.length : Int) ≤ a.length + limit := by
  rw [lengthsWithin, decide_eq_true_eq]
  omega

/-- Close names with equally many dotted capitals have lengths that are as close, so none of them is
passed over. Dotted capitals count because distances are those of `Text.lower`. -/
theorem lengthsWithin_of_nameDistance_le {limit : Int} {a b : Text}
    (close : nameDistance b a ≤ limit) (dotted : a.count Text.dottedI = b.count Text.dottedI) :
    lengthsWithin limit a b = true := by
  obtain ⟨longer, shorter⟩ := length_lower_le_add_nameDistance b a
  rw [Text.length_lower, Text.length_lower, dotted] at longer shorter
  rw [lengthsWithin_iff]
  omega

/-! ## §2 Reading the candidates -/

/-- The better of the `best` candidate so far, if there is one, and the next candidate, whatever its
length. -/
def nearer (unknown : Text) (limit : Int) (best : Option (Text × Nat)) (candidate : Text) :
    Option (Text × Nat) :=
  let distance := nameDistance unknown candidate
  match best with
  | some (_, d) => if distance < d then some (candidate, distance) else best
  | none => if distance ≤ limit then some (candidate, distance) else none

/-- The first of all candidates that are closest to an unknown name, within a distance. Unlike
`closest?` it passes none of them over. -/
def nearest? (unknown : Text) (candidates : List Text) (limit : Int) : Option Text :=
  (candidates.foldl (nearer unknown limit) none).map (·.1)

variable {unknown name : Text} {candidates : List Text} {limit : Int}

/-- Passing candidates over is the same as leaving them out. -/
theorem closest?_eq_nearest? (unknown : Text) (candidates : List Text) (limit : Int) :
    closest? unknown candidates limit =
      nearest? unknown (candidates.filter (lengthsWithin limit · unknown)) limit := by
  rw [nearest?, List.foldl_filter]
  rfl

/-- What is kept of a candidate that is better than all others so far: the candidate with its
distance, if that is within the `limit`. -/
def kept (unknown : Text) (limit : Int) (best : Text) : Option (Text × Nat) :=
  if nameDistance unknown best ≤ limit then some (best, nameDistance unknown best) else none

/-- After the next candidate, the better one of the two is kept, if it is close enough. -/
theorem nearer_kept (unknown : Text) (limit : Int) (best candidate : Text) :
    nearer unknown limit (kept unknown limit best) candidate =
      kept unknown limit
        (if nameDistance unknown candidate < nameDistance unknown best then candidate
          else best) := by
  unfold kept
  by_cases closer : nameDistance unknown candidate < nameDistance unknown best
  · rw [if_pos closer]
    split
    · next counts =>
      have close : nameDistance unknown candidate ≤ limit := by omega
      simp only [nearer, if_pos closer, if_pos close]
    · rfl
  · rw [if_neg closer]
    split
    · simp only [nearer, if_neg closer]
    · next far =>
      -- Nothing is kept so far, and the candidate is no closer than what was not close enough.
      have far' : ¬nameDistance unknown candidate ≤ limit := by omega
      simp only [nearer, if_neg far']

/-- Of all candidates, the first of the closest ones is kept, if it is close enough.

`List.argmin` is the first of the least elements, as a later one takes the place of the best only if
it is closer. -/
theorem foldl_nearer (unknown : Text) (limit : Int) (candidates : List Text) :
    candidates.foldl (nearer unknown limit) none =
      (candidates.argmin (nameDistance unknown)).bind (kept unknown limit) := by
  -- By induction on the candidates that have been read: the next one is compared with the best of
  -- them, which is all that was kept.
  induction candidates using List.reverseRecOn with
  | nil => rfl
  | append_singleton front candidate ih =>
    rw [List.foldl_concat, ih, List.argmin_concat]
    cases front.argmin (nameDistance unknown) with
    | none => rfl
    | some best =>
      show _ = (if nameDistance unknown candidate < nameDistance unknown best then some candidate
        else some best).bind (kept unknown limit)
      rw [Option.bind_some, nearer_kept]
      split <;> rfl

theorem nearest?_eq (unknown : Text) (candidates : List Text) (limit : Int) :
    nearest? unknown candidates limit =
      (candidates.argmin (nameDistance unknown)).filter (nameDistance unknown · ≤ limit) := by
  rw [nearest?, foldl_nearer]
  cases candidates.argmin (nameDistance unknown) with
  | none => rfl
  | some best =>
    rw [Option.bind_some, kept, Option.filter_some]
    by_cases close : nameDistance unknown best ≤ limit <;> simp [close]

/-! ## §3 The closest candidate -/

/-- The first of the least elements of a list is also that of a part of the list that it is in. -/
theorem argmin_filter_eq_some {α : Type} {f : α → Nat} {p : α → Bool} {l : List α} {a : α}
    (least : l.argmin f = some a) (holds : p a = true) : (l.filter p).argmin f = some a := by
  -- The least element of the rest is known, and the first one is compared with it.
  induction l with
  | nil => cases least
  | cons b l ih =>
    rw [List.argmin_cons] at least
    cases rest : l.argmin f with
    | none =>
      rw [rest] at least
      cases least
      rw [List.argmin_eq_none.mp rest, List.filter_cons_of_pos holds, List.filter_nil,
        List.argmin_singleton]
    | some c =>
      rw [rest] at least
      have least : (if f c < f b then some c else some b) = some a := least
      split at least
      · next less =>
        -- The least element stands behind the first one.
        cases least
        rw [List.filter_cons]
        split
        · rw [List.argmin_cons, ih rest]
          exact if_pos less
        · exact ih rest
      · next notLess =>
        cases least
        rw [List.filter_cons_of_pos holds, List.argmin_cons]
        cases among : (l.filter p).argmin f with
        | none => rfl
        | some d =>
          have inRest : d ∈ l := List.mem_of_mem_filter (List.argmin_mem among)
          have above : f c ≤ f d := List.le_of_mem_argmin inRest rest
          exact if_neg (by omega)

theorem nearest?_eq_some_iff : nearest? unknown candidates limit = some name ↔
    candidates.argmin (nameDistance unknown) = some name ∧ nameDistance unknown name ≤ limit := by
  rw [nearest?_eq, Option.filter_eq_some_iff, decide_eq_true_eq]

/-- Nothing is close if all candidates are too far off. -/
theorem nearest?_eq_none_iff : nearest? unknown candidates limit = none ↔
    ∀ other ∈ candidates, ¬nameDistance unknown other ≤ limit := by
  rw [nearest?_eq, Option.filter_eq_none_iff]
  constructor
  · intro far other mem close
    cases least : candidates.argmin (nameDistance unknown) with
    | none =>
      rw [List.argmin_eq_none.mp least] at mem
      cases mem
    | some best =>
      -- If any candidate is near enough, the closest one is too.
      have closer : nameDistance unknown best ≤ nameDistance unknown other :=
        List.le_of_mem_argmin mem least
      exact far best least (decide_eq_true (by omega))
  · intro far best least close
    exact far best (List.argmin_mem least) (of_decide_eq_true close)

/-- What is closest is a candidate, it is close enough, and no other one is closer. -/
theorem mem_of_nearest? (found : nearest? unknown candidates limit = some name) :
    name ∈ candidates ∧ nameDistance unknown name ≤ limit ∧
      ∀ other ∈ candidates, nameDistance unknown name ≤ nameDistance unknown other := by
  obtain ⟨least, close⟩ := nearest?_eq_some_iff.mp found
  exact ⟨List.argmin_mem least, close, fun other mem => List.le_of_mem_argmin mem least⟩

theorem isLeast_nameDistance (a b : Text) :
    IsLeast {n | EditableIn n a.lower b.lower} (nameDistance a b) := by
  rw [nameDistance, editDistance_eq]
  exact ⟨editableIn_recursiveDistance _ _, fun n turns => recursiveDistance_le turns⟩

/-- The name that is suggested for an unknown one is the first of those whose distance to it is
least, among the candidates with lengths that are close enough, and if that distance is close
enough. There is none just if no such candidate is that close. The distance is the least number of
edits that turn the one name into the other, letter case apart.

The candidates with such lengths are those that `lengthsWithin` keeps: by `lengthsWithin_iff`, the
number of their characters and that of the unknown name differ by no more than `limit`. -/
theorem closest_is_argmin (unknown : Text) (candidates : List Text) (limit : Int) :
    (∀ name : Text,
      IsLeast {n | EditableIn n unknown.lower name.lower} (nameDistance unknown name)) ∧
    closest? unknown candidates limit =
      ((candidates.filter (lengthsWithin limit · unknown)).argmin (nameDistance unknown)).filter
        (nameDistance unknown · ≤ limit) ∧
    (closest? unknown candidates limit = none ↔
      ∀ name ∈ candidates, lengthsWithin limit name unknown = true →
        ¬nameDistance unknown name ≤ limit) := by
  rw [closest?_eq_nearest?]
  refine ⟨isLeast_nameDistance unknown, nearest?_eq .., ?_⟩
  simp only [nearest?_eq_none_iff, List.mem_filter, and_imp]

/-! ## §4 Names in reach -/

/-- Whether a name can be suggested for an unknown one: its length and its distance are close
enough, so `closest?` neither passes it over nor finds it too far off. -/
def InReach (unknown name : Text) : Prop :=
  lengthsWithin suggestionLimit name unknown = true ∧ nameDistance unknown name ≤ suggestionLimit

instance (unknown name : Text) : Decidable (InReach unknown name) :=
  inferInstanceAs (Decidable (_ ∧ _))

/-- What is suggested is a candidate in reach, and no other candidate in reach is closer. -/
theorem mem_of_suggest? (found : suggest? unknown candidates = some name) :
    name ∈ candidates ∧ InReach unknown name ∧
      ∀ other ∈ candidates, InReach unknown other →
        nameDistance unknown name ≤ nameDistance unknown other := by
  rw [suggest?, closest?_eq_nearest?] at found
  obtain ⟨kept, close, least⟩ := mem_of_nearest? found
  obtain ⟨mem, within⟩ := List.mem_filter.mp kept
  refine ⟨mem, ⟨within, close⟩, fun other mem' reached => least other ?_⟩
  exact List.mem_filter.mpr ⟨mem', reached.1⟩

/-- Some name is suggested if a candidate is `InReach`. -/
theorem exists_suggest? {other : Text} (mem : other ∈ candidates)
    (reached : InReach unknown other) : ∃ name, suggest? unknown candidates = some name := by
  rw [suggest?, closest?_eq_nearest?, ← Option.ne_none_iff_exists', ne_eq, nearest?_eq_none_iff]
  exact fun far => far other (List.mem_filter.mpr ⟨mem, reached.1⟩) reached.2

/-- A name in reach differs by at most three edits, letter case apart. By `editDistance_isLeast`
there is a script of so few. -/
theorem InReach.editable (reached : InReach unknown name) :
    ∃ n ≤ 3, EditableIn n unknown.lower name.lower :=
  ⟨nameDistance unknown name, Int.ofNat_le.mp reached.2, (isLeast_nameDistance unknown name).1⟩

/-! ## §5 All candidates -/

/-- To pass over candidates by their lengths changes nothing just if the closest of all candidates
is not passed over. It never is if it has as many dotted capitals as the unknown name.

The lengths are those of the names as they are written, and distances are taken in lower case;
`closest_dottedCapitals` shows where this makes a difference. -/
theorem closest_eq_nearest_iff (unknown : Text) (candidates : List Text) (limit : Int) :
    nearest? unknown candidates limit =
      (candidates.argmin (nameDistance unknown)).filter (nameDistance unknown · ≤ limit) ∧
    (closest? unknown candidates limit = nearest? unknown candidates limit ↔
      ∀ name, nearest? unknown candidates limit = some name →
        lengthsWithin limit name unknown = true) ∧
    (∀ name, nearest? unknown candidates limit = some name →
      name.count Text.dottedI = unknown.count Text.dottedI →
        lengthsWithin limit name unknown = true) := by
  refine ⟨nearest?_eq .., ⟨?_, ?_⟩, ?_⟩
  · -- Whatever `closest?` shows has passed the filter by lengths.
    intro same name found
    rw [← same, closest?_eq_nearest?] at found
    exact (List.mem_filter.mp (mem_of_nearest? found).1).2
  · intro within
    rw [closest?_eq_nearest?]
    cases found : nearest? unknown candidates limit with
    | none =>
      rw [nearest?_eq_none_iff] at found ⊢
      exact fun other mem => found other (List.mem_of_mem_filter mem)
    | some name =>
      -- The least of all is the least of those that are left, if it is among them.
      have notPassedOver := within name found
      rw [nearest?_eq_some_iff] at found ⊢
      exact ⟨argmin_filter_eq_some found.1 notPassedOver, found.2⟩
  · intro name found dotted
    exact lengthsWithin_of_nameDistance_le (mem_of_nearest? found).2.1 dotted

/-- A name of four dotted capitals and its lower-case form do not differ but for letter case, and
yet the one is not suggested for the other. -/
theorem closest_dottedCapitals :
    nearest? "\u0130\u0130\u0130\u0130".toText ["i\u0307i\u0307i\u0307i\u0307".toText]
        suggestionLimit = some "i\u0307i\u0307i\u0307i\u0307".toText ∧
      closest? "\u0130\u0130\u0130\u0130".toText ["i\u0307i\u0307i\u0307i\u0307".toText]
        suggestionLimit = none := by
  decide +kernel

end StyleCheck
