import Switchboard.Proofs.Path
import Switchboard.Proofs.Text.Utf8

/-!
The components of a path, read off its spelling, and the order they give paths. Main statements: the
spelling of a path has just one reading, which its components are, and a path comes before another
where its components do.
-/

namespace Switchboard.Path

/-! ### Spelling -/

/-- How a spelling is read as components, from the front. -/
inductive Spells : Bytes → List Component → Prop where
  /-- The empty path has no components. -/
  | empty : Spells [] []
  /-- A slash at the start is the root. -/
  | root : Spells [slash] [.root]
  /-- A dot at the start is the working directory. -/
  | here : Spells dot [.here]
  /-- Two dots at the start lead up. -/
  | up : Spells dotDot [.up]
  /-- Any other piece at the start is a name. -/
  | name {piece : Bytes} (proper : isName piece) : Spells piece [.name piece]
  /-- One more slash behind anything says nothing. -/
  | closed {front : Bytes} {steps : List Component} (filled : front ≠ [])
    (before : Spells front steps) : Spells (front ++ [slash]) steps
  /-- A dot behind a slash says nothing. -/
  | behindHere {front : Bytes} {steps : List Component} (before : Spells (front ++ [slash]) steps) :
    Spells (front ++ slash :: dot) steps
  /-- Two dots behind a slash lead up. -/
  | behindUp {front : Bytes} {steps : List Component} (before : Spells (front ++ [slash]) steps) :
    Spells (front ++ slash :: dotDot) (steps ++ [.up])
  /-- Any other piece behind a slash is a name. -/
  | behindName {front piece : Bytes} {steps : List Component} (proper : isName piece)
    (before : Spells (front ++ [slash]) steps) :
    Spells (front ++ slash :: piece) (steps ++ [.name piece])

/-- A piece between slashes is empty, one dot, two dots or a name. -/
theorem piece_cases {piece : Bytes} (inner : slash ∉ piece) :
    piece = [] ∨ piece = dot ∨ piece = dotDot ∨ isName piece := by
  -- Names are what is left when the other three are ruled out.
  unfold isName
  grind

/-- Each reading of a spelling gives the components of the path. -/
theorem Spells.components_eq {bytes : Bytes} {steps : List Component}
    (reading : Spells bytes steps) : components ⟨bytes⟩ = steps := by
  -- One more slash adds no piece that counts, and a piece behind it is read by itself.
  induction reading with
  | empty | root | here | up => rfl
  -- A name that stands alone is no leading dot.
  | name proper =>
    rw [components_of_notMem proper.2.1, if_neg proper.2.2.1, component?_of_isName proper]
    rfl
  -- A slash at the end says nothing.
  | closed filled _ ih => rw [components_slash filled, ih]
  -- A dot behind a slash is a piece without a component.
  | behindHere _ ih =>
    rw [components_append, ih]
    exact List.append_nil _
  -- Two dots behind a slash are one more component.
  | behindUp _ ih =>
    rw [components_append, ih]
    rfl
  -- Any other piece behind a slash is one more component, its name.
  | behindName proper _ ih =>
    rw [components_append, ih, pieces_of_notMem proper.2.1]
    simp [component?_of_isName proper]

/-- Bytes with a slash in them are cut at the last one. -/
theorem exists_last_slash {bytes : Bytes} (inner : slash ∈ bytes) :
    ∃ front last, bytes = front ++ slash :: last ∧ slash ∉ last := by
  -- The last slash is the first one from behind.
  obtain ⟨last, front, reversed, unbroken⟩ :=
    List.eq_append_cons_of_mem (List.mem_reverse.mpr inner)
  refine ⟨front.reverse, last.reverse, ?_, by simpa using unbroken⟩
  rw [← List.reverse_reverse bytes, reversed]
  simp

/-- The components of a path are a reading of its spelling. -/
theorem spells_components (bytes : Bytes) : Spells bytes (components ⟨bytes⟩) := by
  -- What stands before the last slash is shorter, and the piece behind it is read by itself.
  induction size : bytes.length using Nat.strongRecOn generalizing bytes with
  | ind size ih =>
  by_cases inner : slash ∈ bytes
  · obtain ⟨front, last, rfl, unbroken⟩ := exists_last_slash inner
    have before : Spells (front ++ [slash]) (components ⟨front ++ [slash]⟩) := by
      -- In front of the slash there is the root or a shorter spelling.
      by_cases top : front = []
      · rw [top]
        exact .root
      · rw [components_slash top]
        exact .closed top (ih front.length (by simp [← size]) front rfl)
    rw [components_append, pieces_of_notMem unbroken]
    -- What stands behind the slash is one of four things.
    rcases piece_cases unbroken with rfl | rfl | rfl | proper
    · rw [show [[]].filterMap component? = [] from rfl, List.append_nil]
      exact before
    · rw [show [dot].filterMap component? = [] from rfl, List.append_nil]
      exact .behindHere before
    · exact .behindUp before
    · rw [List.filterMap_cons_some (component?_of_isName proper)]
      exact .behindName proper before
  · -- Without a slash the spelling is a single piece.
    rw [components_of_notMem inner]
    rcases piece_cases inner with rfl | rfl | rfl | proper
    · exact .empty
    · exact .here
    · exact .up
    · rw [if_neg proper.2.2.1, component?_of_isName proper]
      exact .name proper

/-- The components of a path are the only reading of its spelling. -/
theorem components_eq_iff {path : Path} {steps : List Component} :
    path.components = steps ↔ Spells path.bytes steps :=
  ⟨fun same => same ▸ spells_components path.bytes, Spells.components_eq⟩

/-- A name in a path is spelled within the path. -/
theorem subset_of_name_mem_components {path : Path} {name : Bytes}
    (member : .name name ∈ path.components) : name ⊆ path.bytes := by
  -- The induction follows how the spelling is read.
  have general {bytes : Bytes} {steps : List Component} (reading : Spells bytes steps)
      (inside : .name name ∈ steps) : name ⊆ bytes := by
    -- What stands in front of a slash and the slash are part of what goes on behind it.
    have longer (front rest : Bytes) : front ++ [slash] ⊆ front ++ slash :: rest := by simp
    induction reading with
    | empty | root | here | up => simp at inside
    | name _ => simp_all
    | closed _ _ ih => exact List.Subset.trans (ih inside) (List.subset_append_left _ _)
    | behindHere _ ih => exact List.Subset.trans (ih inside) (longer _ _)
    | behindUp _ ih => exact List.Subset.trans (ih (by simpa using inside)) (longer _ _)
    -- The name is an earlier one or the piece behind the slash.
    | behindName _ _ ih =>
      rcases List.mem_append.mp inside with earlier | last
      · exact List.Subset.trans (ih earlier) (longer _ _)
      · cases List.mem_singleton.mp last
        exact List.subset_append_of_subset_right _ (List.subset_cons_self _ _)
  exact general (spells_components path.bytes) member

/-! ### The order -/

/-- How two components are ordered. -/
inductive Component.Before : Component → Component → Prop where
  /-- The root comes before the working directory. -/
  | rootHere : Before .root .here
  /-- The working directory comes before the directory above. -/
  | hereUp : Before .here .up
  /-- The directory above comes before every name. -/
  | upName (bytes : Bytes) : Before .up (.name bytes)
  /-- Names are ordered by their bytes. -/
  | names {bytes others : Bytes} (lower : bytes < others) : Before (.name bytes) (.name others)
  /-- What comes before something comes before all that follows it. -/
  | trans {first second third : Component} (front : Before first second)
    (rear : Before second third) : Before first third

/-- Components of different kinds are ordered by their kind. -/
theorem Component.before_of_rank_lt {left right : Component} (lower : left.rank < right.rank) :
    Component.Before left right := by
  -- Two steps up and three steps up follow from the single ones.
  have rootUp : Before .root .up := .trans .rootHere .hereUp
  have hereName (bytes : Bytes) : Before .here (.name bytes) := .trans .hereUp (.upName bytes)
  have rootName (bytes : Bytes) : Before .root (.name bytes) := .trans .rootHere (hereName bytes)
  -- Of the sixteen pairs of kinds six rise.
  cases left <;> cases right <;> simp [rank] at lower
  case root.here => exact .rootHere
  case root.up => exact rootUp
  case root.name bytes => exact rootName bytes
  case here.up => exact .hereUp
  case here.name bytes => exact hereName bytes
  case up.name bytes => exact .upName bytes

/-- Comparing components tells which comes before the other. -/
theorem Component.compare_eq_lt_iff {left right : Component} :
    compare left right = .lt ↔ Component.Before left right := by
  constructor
  · intro order
    -- Either the kinds decide or, where they are level, the keys.
    rcases Ordering.then_eq_lt.mp order with kinds | ⟨kinds, keys⟩
    · exact before_of_rank_lt (Nat.compare_eq_lt.mp kinds)
    · -- Only names differ within their kind.
      have level : left.rank = right.rank := Nat.compare_eq_eq.mp kinds
      have lower : left.key < right.key := Utf8.compare_bytes_eq_lt_iff.mp keys
      cases left <;> cases right <;> simp_all [rank, key]
      exact .names lower
  · -- Every rule of the order holds of the comparison.
    intro order
    induction order with
    | rootHere | hereUp | upName => rfl
    | names lower => exact Utf8.compare_bytes_eq_lt_iff.mpr lower
    | trans _ _ front rear => exact Std.TransCmp.lt_trans front rear

/-- A path comes before another exactly when its components do. -/
theorem compare_eq_lt_iff {left right : Path} :
    compare left right = .lt ↔ List.Lex Component.Before left.components right.components := by
  -- The order of lists is lexicographic.
  rw [compare_eq, compareOn, compare_eq_lt_iff_lex]
  simp only [Component.compare_eq_lt_iff]

end Switchboard.Path
