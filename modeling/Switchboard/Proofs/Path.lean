import Switchboard.Path
import Switchboard.Proofs.Text.Lines

/-!
Paths are totally preordered by their components, and in a directory this order tells its entries
apart.
-/

namespace Switchboard.Path

/-! ### The order -/

namespace Component

/-- A component is known by its kind and the bytes that order it. -/
theorem eq_of_rank_of_key {left right : Component} (kinds : left.rank = right.rank)
    (keys : left.key = right.key) : left = right := by
  -- Only names have more than their kind, and those bytes are the key.
  cases left <;> cases right <;> simp_all [rank, key]

/-- The order of components, as that of pairs. -/
theorem compare_eq : (compare : Component → Component → Ordering) =
    compareLex (compareOn rank) (compareOn key) :=
  rfl

instance : Std.TransOrd Component where
  eq_swap := by
    -- Swapping and chaining are inherited from the two orders it is made of.
    rw [compare_eq]
    exact Std.OrientedCmp.eq_swap
  isLE_trans := by
    rw [compare_eq]
    exact Std.TransCmp.isLE_trans

instance : Std.LawfulEqOrd Component where
  compare_self := Std.ReflCmp.compare_self
  eq_of_compare outcome := by
    -- The keys are compared only where the kinds are level.
    obtain ⟨kinds, keys⟩ := Ordering.then_eq_eq.mp outcome
    exact eq_of_rank_of_key (Std.LawfulEqCmp.eq_of_compare kinds)
      (Std.LawfulEqCmp.eq_of_compare keys)

end Component

/-- The order of paths, as that of their components. -/
theorem compare_eq : (compare : Path → Path → Ordering) = compareOn components :=
  rfl

instance : Std.TransOrd Path where
  -- The components are lists, whose order is swapped and chained as that of their elements.
  eq_swap := by
    rw [compare_eq]
    exact Std.OrientedCmp.eq_swap
  isLE_trans := by
    rw [compare_eq]
    exact Std.TransCmp.isLE_trans

/-- Paths are level exactly when they have the same components. -/
theorem compare_eq_eq_iff {left right : Path} :
    compare left right = .eq ↔ left.components = right.components := by
  -- Lists of components are level only if they are equal.
  rw [compare_eq, compareOn]
  exact Std.LawfulEqOrd.compare_eq_iff_eq

/-! ### Components -/

/-- A slash behind part of a path splits the components there. -/
theorem components_append (front rest : Bytes) :
    components ⟨front ++ slash :: rest⟩ =
      components ⟨front ++ [slash]⟩ ++ (pieces slash rest).filterMap component? := by
  -- The first piece is the same in both, and behind it every piece counts for itself.
  obtain ⟨first, others, cut⟩ := List.exists_cons_of_ne_nil (pieces_ne_nil slash front)
  simp [components, spelled, pieces_append, cut, firstComponent?, component?, pieces]

/-- A path without a slash has the component of its only piece. -/
theorem components_of_notMem {piece : Bytes} (inner : slash ∉ piece) :
    components ⟨piece⟩ = if piece = dot then [.here] else (component? piece).toList := by
  simp only [components, spelled, pieces_of_notMem inner, firstComponent?, List.filterMap_nil,
    List.append_nil]
  -- Only a dot at the start counts.
  split
  · rename_i empty
    subst empty
    rfl
  · -- An empty path has no component either way.
    split <;> rfl

/-- A slash at the end of a path says nothing. -/
theorem components_slash {front : Bytes} (filled : front ≠ []) :
    components ⟨front ++ [slash]⟩ = components ⟨front⟩ := by
  -- The slash adds an empty piece, which is no component.
  obtain ⟨first, others, cut⟩ := List.exists_cons_of_ne_nil (pieces_ne_nil slash front)
  simp [components, spelled, pieces_append, cut, firstComponent?, component?, pieces, filled]

/-! ### Entries of a directory -/

/-- Different entries of a directory have different paths. -/
@[simp] theorem join_inj {directory : Path} {name other : Bytes} :
    directory.join name = directory.join other ↔ name = other := by
  -- What stands in front of the name depends on the directory alone.
  refine ⟨fun same => ?_, fun same => by rw [same]⟩
  unfold join at same
  cases last : directory.bytes.getLast? <;> simp_all

/-- Whether some bytes can name an entry of a directory. -/
def isName (bytes : Bytes) : Prop :=
  bytes ≠ [] ∧ slash ∉ bytes ∧ bytes ≠ dot ∧ bytes ≠ dotDot

instance (bytes : Bytes) : Decidable (isName bytes) :=
  inferInstanceAs (Decidable (_ ∧ _))

/-- A name is its own component. -/
theorem component?_of_isName {name : Bytes} (proper : isName name) :
    component? name = some (.name name) := by
  -- None of the tests before that for names applies.
  obtain ⟨filled, -, noDot, noDotDot⟩ := proper
  simp [component?, filled, noDot, noDotDot]

/-- The path of an entry, seen from behind its last slash, of which a nonempty directory has one. -/
theorem join_eq (directory : Path) :
    directory.bytes = [] ∨
      ∃ before, ∀ name, directory.join name = ⟨before ++ slash :: name⟩ := by
  unfold join
  -- Whether the directory ends in a slash decides if one is put in.
  cases last : directory.bytes.getLast? with
  | none => exact .inl (List.getLast?_eq_none_iff.mp last)
  | some byte =>
    right
    by_cases ends : byte = slash
    · -- The slash is the directory's own.
      obtain ⟨before, spelling⟩ := List.getLast?_eq_some_iff.mp last
      exact ⟨before, fun name => by simp [spelling, ends]⟩
    · -- The slash is put in behind the directory.
      exact ⟨directory.bytes, fun name => by simp [ends]⟩

/-- The path of an entry has one component behind those of the directory, and that is its name. -/
theorem components_join (directory : Path) :
    ∃ before, ∀ name, isName name → (directory.join name).components = before ++ [.name name] := by
  rcases directory.join_eq with empty | ⟨before, joined⟩
  · -- The path is the name itself, which is no leading dot.
    refine ⟨[], fun name proper => ?_⟩
    have joined : directory.join name = ⟨name⟩ := by simp [join, empty]
    rw [joined, components_of_notMem proper.2.1, if_neg proper.2.2.1, component?_of_isName proper]
    rfl
  · -- What stands before the last slash is the same for every name.
    refine ⟨components ⟨before ++ [slash]⟩, fun name proper => ?_⟩
    rw [joined, components_append, pieces_of_notMem proper.2.1,
      List.filterMap_cons_some (component?_of_isName proper)]
    rfl

/-- The order of paths tells the entries of a directory apart. -/
theorem eq_of_compare_join {directory : Path} {name other : Bytes} (proper : isName name)
    (proper' : isName other)
    (level : compare (directory.join name) (directory.join other) = .eq) : name = other := by
  -- Level paths have the same components, and the last of them is the name.
  obtain ⟨before, spelling⟩ := directory.components_join
  have same : (directory.join name).components = (directory.join other).components :=
    Std.LawfulEqCmp.eq_of_compare level
  rw [spelling name proper, spelling other proper'] at same
  simpa using same

end Switchboard.Path
