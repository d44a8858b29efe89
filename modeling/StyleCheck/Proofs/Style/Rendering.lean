import StyleCheck.Proofs.Style.Source

/-!
# What a rendered source describes

The style object of a rendered source has the shape of the mapping that was rendered, and its
offsets are exact. Between those of a key stands the key, between those of a text the text, and
between those of an object a pair of braces with the rest of it inside. Within the braces, keys and
values follow one another in the order of the mapping, with something in between.

## Main definitions

- `Text.IsSliceBetween`: what stands between two offsets of a source.
- `StyleEntries.ranges`: the offsets of keys and values in a row.
- `StyleSource.Describes`: a value of a style object describes an entry of a mapping.

## Main statements

- `StyleSource.orderly_renderEntries`: keys and values lie in a row within the written entries.
- `StyleSource.render_describes`: the style object of a rendered source.
-/

namespace StyleCheck

/-! ## §1 Exact descriptions -/

/-- A text is what stands between two offsets of a source, and these are offsets in it. -/
structure Text.IsSliceBetween (source : Text) (start stop : Int) (text : Text) : Prop where
  inSource : 0 ≤ start ∧ start ≤ stop ∧ stop ≤ source.length
  slice_eq : Text.slice source start.toNat stop.toNat = text

theorem Text.StandsBetween.isSliceBetween {source text : Text} {start stop : Int}
    (h : Text.StandsBetween source text start stop) :
    Text.IsSliceBetween source start stop text := by
  obtain ⟨position, stands, rfl, rfl⟩ := h
  have inside := stands.end_le
  exact ⟨by omega, stands.slice_eq⟩

/-- The offsets of a value. One that is not looked into has none. -/
def StyleValue.ranges : StyleValue → List (Int × Int)
  | .unread => []
  | .text _ start stop => [(start, stop)]
  | .object _ start stop => [(start, stop)]

/-- The offsets of the keys and values of entries, in their order. Those inside an object are not
among them, for `StyleValue.ranges` does not look into it. -/
def StyleEntries.ranges (entries : StyleEntries) : List (Int × Int) :=
  entries.flatMap fun e => (e.1.start, e.1.stop) :: e.2.ranges

/-- Keys and values lie strictly between two offsets, each one behind those before it. So none
overlaps with another, and none touches the next.

This is said of one object; for those inside of it, `Describes` says it again. -/
structure StyleEntries.Orderly (start stop : Int) (entries : StyleEntries) : Prop where
  inside : ∀ range ∈ entries.ranges, start < range.1 ∧ range.2 < stop
  apart : entries.ranges.Pairwise fun range later => range.2 < later.1

theorem StyleEntries.ranges_cons (key : StyleKey) (value : StyleValue) (entries : StyleEntries) :
    StyleEntries.ranges ((key, value) :: entries) =
      (key.start, key.stop) :: (value.ranges ++ entries.ranges) := rfl

/-- A key, its value behind it, and other entries behind an offset that neither goes beyond, are
`Orderly` together. -/
theorem StyleEntries.Orderly.cons {start middle stop : Int} {key : StyleKey} {value : StyleValue}
    {entries : StyleEntries} (front : start < key.start) (ordered : key.start ≤ key.stop)
    (next : key.stop ≤ middle) (back : middle < stop)
    (ofValue : ∀ range ∈ value.ranges, key.stop < range.1 ∧ range.2 ≤ middle)
    (behind : entries.Orderly middle stop) :
    StyleEntries.Orderly start stop ((key, value) :: entries) where
  inside := by
    rw [StyleEntries.ranges_cons, List.forall_mem_cons, List.forall_mem_append]
    refine ⟨by dsimp only; omega, fun range mem => ?_, fun range mem => ?_⟩
    · have behindKey := ofValue range mem
      omega
    · have inside := behind.inside range mem
      omega
  apart := by
    rw [StyleEntries.ranges_cons, List.pairwise_cons, List.pairwise_append]
    have single : value.ranges.Pairwise fun range later => range.2 < later.1 := by
      cases value with
      | unread => exact .nil
      | text => exact List.pairwise_singleton ..
      | object => exact List.pairwise_singleton ..
    refine ⟨fun later mem => ?_, single, behind.apart, fun range mem later mem' => ?_⟩
    · -- Behind the key come the ranges of its value and those of the other entries.
      rcases List.mem_append.mp mem with own | other
      · exact (ofValue later own).1
      · have inside := behind.inside later other
        dsimp only
        omega
    · have own := ofValue range mem
      have inside := behind.inside later mem'
      omega

theorem StyleEntries.Orderly.mono {start stop start' stop' : Int} {entries : StyleEntries}
    (h : entries.Orderly start stop) (front : start' ≤ start) (back : stop ≤ stop') :
    entries.Orderly start' stop' where
  inside range mem := by
    have inside := h.inside range mem
    omega
  apart := h.apart

namespace StyleSource

mutual

/-- A value of a style object describes what an entry of a mapping holds, by offsets of a source. -/
inductive Describes (source : Text) : Literal → StyleValue → Prop
  | null : Describes source .null .unread
  | text {content : Text} {start stop : Int} : source.IsSliceBetween start stop content →
      Describes source (.text content) (.text content start stop)
  | mapping {mapping : List (Text × Literal)} {entries : StyleEntries} {start stop : Int}
      {inside : Text} :
      source.IsSliceBetween start stop ("\x7b".toText ++ inside ++ "\x7d".toText) →
      entries.Orderly start stop → DescribesEntries source mapping entries →
      Describes source (.mapping mapping) (.object entries start stop)

/-- The entries of a style object describe those of a mapping, one by one. -/
inductive DescribesEntries (source : Text) : List (Text × Literal) → StyleEntries → Prop
  | nil : DescribesEntries source [] []
  | cons {name : Text} {start stop : Int} {literal : Literal} {value : StyleValue}
      {mapping : List (Text × Literal)} {entries : StyleEntries} :
      source.IsSliceBetween start stop name → Describes source literal value →
      DescribesEntries source mapping entries →
      DescribesEntries source ((name, literal) :: mapping) ((⟨name, start, stop⟩, value) :: entries)

end

/-! ## §2 Keys and values in a row -/

theorem length_quote (content : Text) : (quote content).length = content.length + 2 := by
  simp [quote]

/-- The offsets of a value are within its written form, between `position` and what lies behind the
form. -/
theorem ranges_renderValue (position : Nat) (literal : Literal) :
    ∀ range ∈ (renderValue position literal).2.ranges,
      (position : Int) ≤ range.1 ∧
        range.2 ≤ (position + (renderValue position literal).1.length : Nat) := by
  intro range mem
  cases literal with
  | null => cases mem
  | text content =>
    rw [renderValue, StyleValue.ranges, List.mem_singleton] at mem
    subst mem
    rw [renderValue, length_quote]
    dsimp only
    omega
  | mapping entries =>
    rw [renderValue, StyleValue.ranges, List.mem_singleton] at mem
    subst mem
    -- The braces take one character on each side.
    have written : (braced (renderEntries (position + 1) [] entries).1).length =
        (renderEntries (position + 1) [] entries).1.length + 2 := by
      simp [braced, String.toText]
    rw [renderValue, written]
    dsimp only
    omega

/-- Keys and values lie in a row within their written form, with something in front of them.

The induction is on the entries, for any position and `separator`; only the first entry has no comma
in front. -/
theorem orderly_renderEntries (position : Nat) (separator : Text)
    (entries : List (Text × Literal)) :
    (renderEntries position separator entries).2.Orderly position
      ((position + (renderEntries position separator entries).1.length : Nat) + 1) := by
  induction entries generalizing position separator with
  | nil =>
    rw [renderEntries]
    exact ⟨by simp [StyleEntries.ranges], List.Pairwise.nil⟩
  | cons entry entries ih =>
    obtain ⟨name, value⟩ := entry
    rw [renderEntries]
    dsimp only
    have head : (separator ++ quote name ++ ": ".toText).length =
        separator.length + name.length + 4 := by
      simp [length_quote, String.toText]
      omega
    generalize (separator ++ quote name ++ ": ".toText) = front at head ⊢
    -- Behind the key comes the value, and behind that come the other entries.
    have ofValue := ranges_renderValue (position + front.length) value
    generalize renderValue (position + front.length) value = rendered at ofValue ⊢
    have behind := ih (position + front.length + rendered.1.length) ", ".toText
    generalize renderEntries (position + front.length + rendered.1.length) ", ".toText entries =
      rest at behind ⊢
    rw [List.length_append, List.length_append]
    refine .cons ?_ ?_ ?_ ?_ (fun range mem => ?_) (behind.mono (Int.le_refl _) ?_)
    · dsimp only
      omega
    · dsimp only
      omega
    · dsimp only
      omega
    · omega
    · have inside := ofValue range mem
      dsimp only
      omega
    · omega

mutual

/-- A value that stands in the source where it was written is described exactly. It goes along with
the recursion of literals, together with `describes_renderEntries`. -/
theorem describes_renderValue {source : Text} (position : Nat) :
    ∀ literal : Literal, Text.StandsAt source position (renderValue position literal).1 →
      Describes source literal (renderValue position literal).2
  | .null, _ => by
    rw [renderValue]
    exact .null
  | .text content, stands => by
    rw [renderValue] at stands ⊢
    have placed : Text.StandsBetween source content (position + 1)
        (position + 1 + content.length) :=
      ⟨position + 1, standsAt_of_quote stands, rfl, rfl⟩
    exact .text placed.isSliceBetween
  | .mapping entries, stands => by
    rw [renderValue] at stands ⊢
    dsimp only at stands ⊢
    -- The entries stand behind the first brace.
    have inside := stands.left.right
    have orderly := orderly_renderEntries (position + 1) [] entries
    have described := describes_renderEntries (position + 1) [] entries inside
    generalize renderEntries (position + 1) [] entries = rendered at stands orderly described ⊢
    have placed : Text.StandsBetween source (braced rendered.1) position
        (position + rendered.1.length + 2) := by
      refine ⟨position, stands, rfl, ?_⟩
      simp [braced, String.toText]
      omega
    refine .mapping placed.isSliceBetween (orderly.mono ?_ ?_) described
    · omega
    · omega

/-- So are entries, one by one, from the place where the first is written. -/
theorem describes_renderEntries {source : Text} (position : Nat) (separator : Text) :
    ∀ entries : List (Text × Literal),
      Text.StandsAt source position (renderEntries position separator entries).1 →
      DescribesEntries source entries (renderEntries position separator entries).2
  | [], _ => by
    rw [renderEntries]
    exact .nil
  | (name, value) :: entries, stands => by
    rw [renderEntries] at stands ⊢
    -- Quotes stand around the key, and the value stands behind a colon and a space.
    have key := standsAt_of_quote stands.left.left.left.right
    have rest := stands.right
    rw [List.length_append, ← Nat.add_assoc] at rest
    refine .cons (Text.StandsBetween.isSliceBetween ⟨_, key, rfl, rfl⟩) ?_ ?_
    · exact describes_renderValue _ value stands.left.right
    · exact describes_renderEntries _ _ entries rest

end

/-- The style object of a rendered source describes the mapping that was rendered, and covers the
whole source.

`Describes` is an isomorphism of trees with exact offsets: nothing of the mapping is missing and
nothing else is there. -/
theorem render_describes (mapping : List (Text × Literal)) :
    Describes (render mapping).text (.mapping mapping)
        (.object (render mapping).root.entries (render mapping).root.start
          (render mapping).root.stop) ∧
      (render mapping).root.start = 0 ∧
      (render mapping).root.stop = (render mapping).text.length := by
  refine ⟨?_, rfl, rfl⟩
  -- The object is the value of the mapping at the offset zero, and the text of that value is the
  -- source.
  have whole : (renderValue 0 (.mapping mapping)).1 = (render mapping).text := by
    rw [renderValue]
    rfl
  have described := describes_renderValue 0 (.mapping mapping)
    (whole ▸ Text.StandsAt.self (render mapping).text)
  rw [renderValue] at described
  have stop : (render mapping).root.stop =
      ((0 : Nat) : Int) + ((renderEntries 1 [] mapping).1.length : Nat) + 2 := by
    simp [render, braced, String.toText]
    omega
  rw [stop]
  exact described

end StyleSource

end StyleCheck
