import Switchboard.Hub.Basic
import Switchboard.Proofs.Name
import Switchboard.Proofs.Spot

/-!
The panels of a hub stay in strict order of their names: the order makes the search find a name, and
what the search finds keeps the order.
-/

namespace Switchboard

namespace Hub

variable {U : Universe}

/-- The panels rise strictly by name, so no name occurs twice. -/
def Sorted (hub : Hub U) : Prop :=
  hub.panels.Pairwise fun left right => compare left.name right.name = .lt

/-- The panel of a name, found without any regard to the order. -/
def panel? (hub : Hub U) (tag : Name) : Option (Panel U) :=
  hub.panels.find? fun panel => panel.name == tag

/-- How registering a panel changes the panels and what it warns about. -/
inductive Placed (panel : Panel U) : List (Panel U) → Warned (Hub U) → Prop where
  /-- The name is new, and the panel goes where it belongs. -/
  | added {before after : List (Panel U)}
      (lower : ∀ other ∈ before, compare other.name panel.name = .lt)
      (higher : ∀ other ∈ after, compare other.name panel.name = .gt) :
      Placed panel (before ++ after) { value := ⟨before ++ panel :: after⟩ }
  /-- The name is in use, and the panel takes the place of the one that has it. -/
  | replaced {before after : List (Panel U)} {old : Panel U} (same : old.name = panel.name)
      (lower : ∀ other ∈ before, compare other.name panel.name = .lt)
      (higher : ∀ other ∈ after, compare other.name panel.name = .gt) :
      Placed panel (before ++ old :: after)
        { value := ⟨before ++ panel :: after⟩, notes := [.replaced panel.name] }

variable {hub : Hub U}

/-- In order, the panels rise with the comparison to any name. -/
theorem Sorted.rises (sorted : hub.Sorted) (tag : Name) :
    Spot.Rises (fun panel : Panel U => compare panel.name tag) hub.panels := by
  -- Unless the earlier name is below the tag, the later one is above the tag.
  refine List.Pairwise.imp ?_ sorted
  intro left right order
  have reversed : compare right.name left.name = .gt := Std.OrientedCmp.gt_of_lt order
  cases outcome : compare left.name tag with
  | lt => exact Or.inl outcome
  | eq => exact Or.inr (Std.TransCmp.gt_of_gt_of_eq reversed outcome)
  | gt => exact Or.inr (Std.TransCmp.gt_trans reversed outcome)

/-- In order, the search for a name splits the panels at that name. -/
theorem Sorted.position_splits (sorted : hub.Sorted) (tag : Name) :
    (hub.position tag).Splits (fun panel : Panel U => compare panel.name tag) hub.panels :=
  Spot.search_splits (sorted.rises tag)

/-- In order, the search for a tag says of every name of the hub what comparing the two says. -/
theorem Sorted.verdict_position (sorted : hub.Sorted) {index : Nat} {name : Name}
    (found : hub.names[index]? = some name) (tag : Name) :
    (hub.position tag).verdict index = compare name tag := by
  -- The name at the index is that of the panel there, which is what the search compares.
  rw [names, List.getElem?_map, Option.map_eq_some_iff] at found
  obtain ⟨panel, found, rfl⟩ := found
  exact (sorted.position_splits tag).verdict_eq found

/-- Inserting at the length of a list's front puts the item between front and rear. -/
private theorem insertIdx_length_append {α : Type} (front rest : List α) (item : α) :
    (front ++ rest).insertIdx front.length item = front ++ item :: rest := by
  induction front with
  | nil => rfl
  | cons head front ih => simp [ih]

/-- Into panels in order, a panel is put either in a gap or in the place of its name. -/
theorem Sorted.placed_insert (sorted : hub.Sorted) (panel : Panel U) :
    Placed panel hub.panels (hub.insert panel) := by
  -- The search splits the panels around the name, and the panel goes where they are split.
  have splits := sorted.position_splits panel.name
  unfold insert
  cases found : hub.position panel.name with
  -- The search found the name, so the panel there is replaced.
  | taken index =>
    rw [found] at splits
    obtain ⟨before, old, after, panels, width, same, lower, higher⟩ := splits
    subst width
    simp only [panels, List.set_append_right _ _ (Nat.le_refl _), Nat.sub_self, List.set_cons_zero]
    exact .replaced (Std.LawfulEqCmp.eq_of_compare same) lower higher
  -- The search found where the name would stand.
  | free index =>
    rw [found] at splits
    obtain ⟨before, after, panels, width, lower, higher⟩ := splits
    subst width
    simp only [panels, insertIdx_length_append]
    exact .added lower higher

/-- Registering a panel keeps the panels in order. -/
theorem Sorted.insert (sorted : hub.Sorted) (panel : Panel U) :
    (hub.insert panel).value.Sorted := by
  -- In both cases the old front and the old rear stay around the new panel.
  have placed := sorted.placed_insert panel
  have rises {left middle right : Panel U} (lower : compare left.name middle.name = .lt)
      (higher : compare middle.name right.name = .lt) : compare left.name right.name = .lt :=
    Std.TransCmp.lt_trans lower higher
  unfold Sorted at sorted ⊢
  generalize hub.panels = panels at placed sorted
  generalize hub.insert panel = result at placed
  cases placed with
  -- The new name fits between the two parts of panels that were in order already.
  | added lower higher =>
    obtain ⟨front, rear, _⟩ := List.pairwise_append.mp sorted
    exact pairwise_around rises front rear lower fun other member =>
      Std.OrientedCmp.lt_of_gt (higher other member)
  -- The panel that goes had the new one's name, so its neighbours fit the new one too.
  | replaced _ lower higher =>
    obtain ⟨front, rear, _⟩ := List.pairwise_append.mp sorted
    exact pairwise_around rises front (List.pairwise_cons.mp rear).2 lower fun other member =>
      Std.OrientedCmp.lt_of_gt (higher other member)

/-- Between panels of lower and panels of higher names there is none of the name itself. -/
private theorem find?_beside {before after : List (Panel U)} {tag : Name}
    (lower : ∀ other ∈ before, compare other.name tag = .lt)
    (higher : ∀ other ∈ after, compare other.name tag = .gt) :
    ((before ++ after).find? fun panel => panel.name == tag) = none := by
  -- A name compares as equal with itself.
  refine List.find?_eq_none.mpr fun other member same => ?_
  have equal : compare other.name tag = .eq := eq_of_beq same ▸ Std.ReflCmp.compare_self
  rcases List.mem_append.mp member with front | rear
  · simp [lower other front] at equal
  · simp [higher other rear] at equal

/-- Behind panels of lower names, the panel of the name is the first that has it. -/
private theorem find?_around {panel : Panel U} {before after : List (Panel U)}
    (lower : ∀ other ∈ before, compare other.name panel.name = .lt) :
    ((before ++ panel :: after).find? fun other => other.name == panel.name) = some panel := by
  have absent := @find?_beside U before [] panel.name lower (by simp)
  rw [List.append_nil] at absent
  simp [List.find?_append, absent]

/-- A lookup among panels in order is a look at all of them, with a warning if none fits. -/
theorem Sorted.lookup_eq (sorted : hub.Sorted) (tag : Name) :
    hub.lookup tag = match hub.panel? tag with
      | some panel => { value := some panel }
      | none => { value := none, notes := [.unregistered tag] } := by
  -- The search splits the panels at the name, and so only its own spot can hold the name.
  have splits := sorted.position_splits tag
  unfold lookup panel?
  cases found : hub.position tag with
  | taken index =>
    rw [found] at splits
    obtain ⟨before, panel, after, panels, width, same, lower, _⟩ := splits
    subst width
    have named : panel.name = tag := Std.LawfulEqCmp.eq_of_compare same
    subst named
    -- The panel found is the one the search stopped at.
    simp [panels, find?_around lower]
  | free index =>
    rw [found] at splits
    obtain ⟨before, after, panels, _, lower, higher⟩ := splits
    simp [panels, find?_beside lower higher]

/-- The panels of a hub in order are those found under their own names. -/
theorem Sorted.mem_panels_iff (sorted : hub.Sorted) (panel : Panel U) :
    panel ∈ hub.panels ↔ hub.panel? panel.name = some panel := by
  constructor
  · -- All panels before it have lower names, so it is the first with its own.
    intro member
    obtain ⟨before, after, panels⟩ := List.append_of_mem member
    rw [Sorted, panels] at sorted
    obtain ⟨_, _, across⟩ := List.pairwise_append.mp sorted
    rw [panel?, panels]
    exact find?_around fun other member => across other member panel List.mem_cons_self
  · exact List.mem_of_find?_eq_some

/-- After registering a panel, its name leads to it and other names lead where they did. -/
theorem Sorted.panel?_insert (sorted : hub.Sorted) (panel : Panel U) (tag : Name) :
    (hub.insert panel).value.panel? tag =
      if panel.name = tag then some panel else hub.panel? tag := by
  -- A panel that was replaced had the same name, so it answered to no other.
  have placed := sorted.placed_insert panel
  unfold panel?
  generalize hub.panels = panels at placed
  generalize hub.insert panel = result at placed
  split
  · rename_i same
    subst same
    cases placed with
    | added lower _ => exact find?_around lower
    | replaced _ lower _ => exact find?_around lower
  · rename_i different
    cases placed with
    | added => simp [List.find?_append, different]
    | replaced same =>
      rw [← same] at different
      simp [List.find?_append, different, ← same]

/-- Registering a panel warns about its name exactly when the name is in use. -/
theorem Sorted.notes_insert (sorted : hub.Sorted) (panel : Panel U) :
    (hub.insert panel).notes =
      if (hub.panel? panel.name).isSome then [.replaced panel.name] else [] := by
  -- The old panels hold the name exactly in the case of a replacement.
  have placed := sorted.placed_insert panel
  unfold panel?
  generalize hub.panels = panels at placed
  generalize hub.insert panel = result at placed
  cases placed with
  | added lower higher => simp [find?_beside lower higher]
  | replaced same => simp [same]

/-- Registering a panel makes the hub larger by one or gives one warning. -/
theorem Sorted.size_insert (sorted : hub.Sorted) (panel : Panel U) :
    (hub.insert panel).value.size + (hub.insert panel).notes.length = hub.size + 1 := by
  -- A panel that is added is not warned about, and one that is replaced is not counted again.
  have placed := sorted.placed_insert panel
  unfold size
  generalize hub.panels = panels at placed
  generalize hub.insert panel = result at placed
  cases placed with
  | added => simp; omega
  | replaced => simp

end Hub

end Switchboard
