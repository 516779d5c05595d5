import Mathlib.Data.List.Dedup
import Switchboard.Proofs.Hub.Order

/-!
Hubs that come about by registering panels one after another: each name leads to the panel that was
registered last under it, and each registration of a name in use is warned about.
-/

namespace Switchboard

variable {U : Universe}

/-- The last of some panels that has a name. -/
def latest (panels : List (Panel U)) (tag : Name) : Option (Panel U) :=
  panels.reverse.find? fun panel => panel.name == tag

/-- A panel in front of others is the last with its name only if none of the others has it. -/
theorem latest_cons (panel : Panel U) (rest : List (Panel U)) (tag : Name) :
    latest (panel :: rest) tag =
      (latest rest tag).or (if panel.name = tag then some panel else none) := by
  -- Looking from the end, the panel in front is the last one that is asked.
  rw [latest, List.reverse_cons, List.find?_append]
  by_cases same : panel.name = tag <;> simp [latest, same]

/-- Some panel has a name exactly when there is a last one that has it. -/
theorem latest_isSome_iff (panels : List (Panel U)) (tag : Name) :
    (latest panels tag).isSome ↔ tag ∈ panels.map Panel.name := by
  simp [latest, List.find?_isSome]

namespace Hub

/-- Registers some panels one after another, with the warnings of each step apart. -/
def insertEach (hub : Hub U) : List (Panel U) → Noted (List Warning) (Hub U)
  | [] => { value := hub }
  | panel :: rest =>
    let step := hub.insert panel
    let later := step.value.insertEach rest
    { value := later.value, notes := step.notes :: later.notes }

/-- The hub that some registrations lead to. -/
def ofPanels (panels : List (Panel U)) : Hub U :=
  (({} : Hub U).insertEach panels).value

/-- Registrations keep the panels in order. -/
theorem Sorted.insertEach {hub : Hub U} (sorted : hub.Sorted) (panels : List (Panel U)) :
    (hub.insertEach panels).value.Sorted := by
  -- Each step keeps the order, so the last one does.
  induction panels generalizing hub with
  | nil => exact sorted
  | cons panel rest ih => exact ih (sorted.insert panel)

/-- After registrations, a name leads to the last panel registered under it. -/
theorem Sorted.panel?_insertEach {hub : Hub U} (sorted : hub.Sorted) (panels : List (Panel U))
    (tag : Name) :
    (hub.insertEach panels).value.panel? tag = (latest panels tag).or (hub.panel? tag) := by
  -- The first registration is the one that any later one under its name overrides.
  induction panels generalizing hub with
  | nil => rfl
  | cons panel rest ih =>
    rw [Hub.insertEach, ih (sorted.insert panel), sorted.panel?_insert, latest_cons]
    split <;> cases latest rest tag <;> rfl

/-- The empty hub is in order. -/
theorem sorted_empty : ({} : Hub U).Sorted :=
  List.Pairwise.nil

/-- A hub that some registrations lead to is in order. -/
theorem sorted_ofPanels (panels : List (Panel U)) : (ofPanels panels).Sorted :=
  sorted_empty.insertEach panels

/-- In a hub that some registrations lead to, a name leads to its last panel. -/
theorem panel?_ofPanels (panels : List (Panel U)) (tag : Name) :
    (ofPanels panels).panel? tag = latest panels tag := by
  rw [ofPanels, sorted_empty.panel?_insertEach]
  -- The empty hub adds nothing to what was registered.
  cases latest panels tag <;> rfl

/-- Each registration warns as it does after the ones before it. -/
theorem getElem?_notes_insertEach (hub : Hub U) (panels : List (Panel U)) (step : Nat) :
    (hub.insertEach panels).notes[step]? =
      panels[step]?.map fun panel =>
        ((hub.insertEach (panels.take step)).value.insert panel).notes := by
  -- Taking one step off the front of a run leaves a run from the next hub.
  induction panels generalizing hub step with
  | nil => rfl
  | cons panel rest ih =>
    cases step with
    | zero => rfl
    | succ step => exact ih (hub.insert panel).value step

/-- Each registration makes the hub larger by one or gives one warning. -/
theorem Sorted.size_insertEach {hub : Hub U} (sorted : hub.Sorted) (panels : List (Panel U)) :
    (hub.insertEach panels).value.size + (hub.insertEach panels).notes.flatten.length =
      hub.size + panels.length := by
  -- The sums of the steps add up because each step keeps the panels in order.
  induction panels generalizing hub with
  | nil => rfl
  | cons panel rest ih =>
    have first := sorted.size_insert panel
    have later := ih (sorted.insert panel)
    simp only [Hub.insertEach, List.flatten_cons, List.length_append, List.length_cons]
    omega

/-- A hub has a name exactly when some panel is found under it. -/
theorem mem_names_iff (hub : Hub U) (tag : Name) : tag ∈ hub.names ↔ (hub.panel? tag).isSome := by
  simp [names, panel?, List.find?_isSome]

/-- The names of a hub in order rise strictly. -/
theorem Sorted.names {hub : Hub U} (sorted : hub.Sorted) :
    hub.names.Pairwise fun left right => compare left right = .lt :=
  -- The order is one of names already.
  List.pairwise_map.mpr sorted

/-- The roster of a hub in order lists its names as they stand, with no files. -/
theorem Sorted.toRoster_eq {hub : Hub U} (sorted : hub.Sorted) :
    hub.toRoster = { items := hub.names.map fun name => ⟨name, ⟨[]⟩⟩ } := by
  -- Items in order are not moved by sorting.
  have ordered : (hub.names.map fun name => (⟨name, ⟨[]⟩⟩ : Item)).Pairwise
      fun left right => Roster.precedes left right = true := by
    refine List.pairwise_map.mpr (sorted.names.imp fun {left right} order => ?_)
    simp [Roster.precedes, order]
  rw [toRoster, Roster.ofNames, Roster.ofItems, List.mergeSort_of_pairwise ordered]

/-- The roster of a hub in order has the hub's names. -/
theorem Sorted.names_toRoster {hub : Hub U} (sorted : hub.Sorted) :
    hub.toRoster.names = hub.names := by
  simp [sorted.toRoster_eq, Roster.names, Function.comp_def]

/-- The names of a hub that some registrations lead to are theirs without repetition, in order. -/
theorem names_ofPanels (panels : List (Panel U)) :
    (ofPanels panels).names =
      (panels.map Panel.name).dedup.mergeSort
        fun left right => decide (Utf8.encode left.text ≤ Utf8.encode right.text) := by
  -- Both lists rise strictly and have the registered names as members.
  simp only [← Name.isLE_compare_eq]
  have sorted := Name.rises_mergeSort (List.nodup_dedup (panels.map Panel.name))
  -- The hub's names rise because it is in order, and the others because they are sorted.
  refine @Name.eq_of_mem_iff Name id _ _ (sorted_ofPanels panels).names sorted fun tag => ?_
  rw [mem_names_iff, panel?_ofPanels, latest_isSome_iff, List.mem_mergeSort, List.mem_dedup]

/-- A hub that registrations lead to holds their names once each, in the order of their bytes, and
was warned of exactly when a name came again. -/
theorem registrations_hold_each_name_once (panels : List (Panel U)) :
    let run := ({} : Hub U).insertEach panels
    (run.value.panels.Pairwise fun left right =>
      Utf8.encode left.name.text < Utf8.encode right.name.text) ∧
    run.value.names = (panels.map Panel.name).dedup.mergeSort
      (fun left right => decide (Utf8.encode left.text ≤ Utf8.encode right.text)) ∧
    run.value.size = (panels.map Panel.name).dedup.length ∧
    (run.value.isEmpty = true ↔ panels = []) ∧
    (∀ step, run.notes[step]? = panels[step]?.map fun panel =>
      if panel.name ∈ (panels.take step).map Panel.name then [.replaced panel.name] else []) ∧
    run.value.size + run.notes.flatten.length = panels.length := by
  intro run
  have names : run.value.names = _ := names_ofPanels panels
  have size : run.value.size = (panels.map Panel.name).dedup.length := by
    -- Both counts are lengths of the list of names.
    rw [← List.length_mergeSort, ← names, Hub.names, List.length_map, Hub.size]
  refine ⟨?_, names, size, ?_, ?_, ?_⟩
  · exact (sorted_ofPanels panels).imp Name.compare_eq_lt_iff.mp
  · -- A list without repetitions is empty only if the one it came from is.
    rw [isEmpty, List.isEmpty_iff_length_eq_zero, ← Hub.size, size]
    simp [List.dedup_eq_nil]
  · -- The name of a step is in use when it was registered in one of the steps before.
    intro step
    rw [getElem?_notes_insertEach]
    congr 1
    funext panel
    have warned := (sorted_ofPanels (panels.take step)).notes_insert panel
    simp only [panel?_ofPanels, latest_isSome_iff] at warned
    exact warned
  · -- The sum starts at the empty hub, which counts nothing.
    have total := sorted_empty.size_insertEach panels
    rwa [show ({} : Hub U).size = 0 from rfl, Nat.zero_add] at total

end Hub

end Switchboard
