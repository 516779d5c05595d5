import Switchboard.Proofs.Name
import Switchboard.Proofs.Path
import Switchboard.Roster

/-! A roster holds what it was made from, in an order that does not depend on the one given. -/

namespace Switchboard.Roster

/-! ### Items -/

/-- A roster holds the items it is made of, each as often as it is given. -/
theorem perm_ofItems (items : List Item) : (ofItems items).items.Perm items :=
  List.mergeSort_perm items precedes

/-- The items of a roster stand in the order of their names. -/
theorem ordered_ofItems (items : List Item) :
    (ofItems items).items.Pairwise fun first second =>
      (compare first.name second.name).isLE = true :=
  ordered_mergeSort Item.name items

/-- Items of one name keep the order they came in. -/
theorem filter_ofItems (items : List Item) (name : Name) :
    (ofItems items).items.filter (·.name = name) = items.filter (·.name = name) := by
  -- Items of one name are level with each other.
  refine filter_mergeSort Item.name (fun first second named named' => ?_) items
  have level : compare first.name second.name = .eq := Std.LawfulEqOrd.compare_eq_iff_eq.mpr
    ((of_decide_eq_true named).trans (of_decide_eq_true named').symm)
  rw [level]
  rfl

/-- One item of a roster stands before another exactly when its name is lower, or they share a name
and it came before the other. -/
theorem pair_sublist_ofItems_iff {items : List Item} {first second : Item} :
    [first, second].Sublist (ofItems items).items ↔
      compare first.name second.name = .lt ∧ first ∈ items ∧ second ∈ items ∨
        compare first.name second.name = .eq ∧ [first, second].Sublist items :=
  pair_sublist_mergeSort_iff Item.name

/-- The items of a roster make the same roster. -/
theorem ofItems_items (items : List Item) : ofItems (ofItems items).items = ofItems items :=
  congrArg (Roster.mk · []) (List.mergeSort_of_pairwise (ordered_ofItems items))

/-- Sorting items sorts their names. -/
theorem names_ofItems (items : List Item) :
    (ofItems items).names =
      (items.map Item.name).mergeSort fun first second => (compare first second).isLE :=
  List.map_mergeSort fun _ _ _ _ => rfl

/-- A roster has the names of the items it is made of, each as often as it is given. -/
theorem perm_names_ofItems (items : List Item) :
    (ofItems items).names.Perm (items.map Item.name) :=
  (perm_ofItems items).map Item.name

/-- The names of a roster stand in order. -/
theorem ordered_names_ofItems (items : List Item) :
    (ofItems items).names.Pairwise fun first second => (compare first second).isLE = true :=
  List.pairwise_map.mpr (ordered_ofItems items)

/-- The names of a roster depend on no more than the names that are given. -/
theorem names_ofItems_eq_of_perm {items others : List Item}
    (same : (items.map Item.name).Perm (others.map Item.name)) :
    (ofItems items).names = (ofItems others).names :=
  -- Both have their names in order, and sorted names do not depend on how they came.
  Name.eq_of_perm (ordered_names_ofItems items) (ordered_names_ofItems others)
    ((perm_names_ofItems items).trans (same.trans (perm_names_ofItems others).symm))

/-- With one more name, a roster has the name behind those that come before it. -/
theorem names_ofItems_eq_put {items larger : List Item} {name : Name}
    (new : name ∉ items.map Item.name)
    (joined : (larger.map Item.name).Perm (name :: items.map Item.name)) :
    let names := (ofItems items).names
    let index := names.countP fun other => compare other name = .lt
    (ofItems larger).names = names.take index ++ name :: names.drop index :=
  Name.eq_put_of_perm (ordered_names_ofItems items) (ordered_names_ofItems larger)
    (fun member => new ((perm_names_ofItems items).mem_iff.mp member))
    ((perm_names_ofItems larger).trans (joined.trans ((perm_names_ofItems items).symm.cons name)))

/-- Items of different names stand in strict order of their names. -/
theorem rises_ofItems {items : List Item} (distinct : (items.map Item.name).Nodup) :
    (ofItems items).names.Pairwise fun first second => compare first second = .lt := by
  -- Different names that are sorted rise strictly.
  rw [names_ofItems]
  exact Name.rises_mergeSort distinct

/-- Items of different names give the same roster in every order. -/
theorem ofItems_eq_of_perm {items others : List Item} (same : items.Perm others)
    (distinct : (items.map Item.name).Nodup) : ofItems items = ofItems others := by
  -- Both lists are in strict order and hold the same items.
  have rising := List.pairwise_map.mp (rises_ofItems distinct)
  have rising' := List.pairwise_map.mp
    (rises_ofItems ((same.map Item.name).nodup_iff.mp distinct))
  have members (item : Item) : item ∈ (ofItems items).items ↔ item ∈ (ofItems others).items := by
    rw [(perm_ofItems items).mem_iff, (perm_ofItems others).mem_iff, same.mem_iff]
  exact congrArg (Roster.mk · []) (Name.eq_of_mem_iff rising rising' members)

/-! ### Paths set aside -/

/-- The paths set aside are those that are given, each as often as it is given. -/
theorem perm_settingAside (roster : Roster) (paths : List Path) :
    (roster.settingAside paths).setAside.Perm paths :=
  List.mergeSort_perm paths _

/-- Paths that are set aside stand in order. -/
theorem ordered_settingAside (roster : Roster) (paths : List Path) :
    (roster.settingAside paths).setAside.Pairwise fun first second =>
      (compare first second).isLE = true :=
  ordered_mergeSort id paths

/-- Paths of the same components keep the order they came in. -/
theorem filter_settingAside (roster : Roster) (paths : List Path) (steps : List Path.Component) :
    (roster.settingAside paths).setAside.filter (·.components = steps) =
      paths.filter (·.components = steps) := by
  -- Paths of the same components are level with each other.
  refine filter_mergeSort id (fun first second spelled spelled' => ?_) paths
  have level : compare first second = .eq := Path.compare_eq_eq_iff.mpr
    ((of_decide_eq_true spelled).trans (of_decide_eq_true spelled').symm)
  rw [id, id, level]
  rfl

/-- The paths set aside of a roster are set aside as they stand. -/
theorem settingAside_setAside (roster : Roster) (paths : List Path) :
    roster.settingAside (roster.settingAside paths).setAside = roster.settingAside paths :=
  congrArg (Roster.mk roster.items ·)
    (List.mergeSort_of_pairwise (roster.ordered_settingAside paths))

/-- Paths that their order tells apart are set aside in the same way in every order. -/
theorem settingAside_eq_of_perm (roster : Roster) {paths others : List Path}
    (same : paths.Perm others)
    (apart : ∀ first ∈ paths, ∀ second ∈ paths, compare first second = .eq → first = second) :
    roster.settingAside paths = roster.settingAside others := by
  -- Both sorted lists hold the same paths, so they differ at most among paths that are level.
  have ordered := roster.ordered_settingAside paths
  have ordered' := roster.ordered_settingAside others
  have perm := (roster.perm_settingAside paths).trans
    (same.trans (roster.perm_settingAside others).symm)
  refine congrArg (Roster.mk roster.items ·) (perm.eq_of_pairwise ?_ ordered ordered')
  intro first second member member' order order'
  -- Neither comes after the other, so they are level.
  refine apart first ((roster.perm_settingAside paths).mem_iff.mp member) second ?_
    (Std.OrientedCmp.isLE_antisymm order order')
  exact same.mem_iff.mpr ((roster.perm_settingAside others).mem_iff.mp member')

end Switchboard.Roster
