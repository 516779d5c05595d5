import Switchboard.Hub.Gallery
import Switchboard.Proofs.Hub.Registration
import Switchboard.Proofs.Publication

/-!
A hub and a content directory with the same names make the same module. Registering keeps the names
in order one by one and a survey sorts them all at once, but strictly rising lists with the same
members are the same.
-/

namespace Switchboard.Hub

variable {U : Universe}

/-- A survey that finds the names of a hub in order finds them in the hub's order. -/
theorem Sorted.names_eq_of_survey {hub : Hub U} (sorted : hub.Sorted) {files : FileSystem}
    {directory : Path} {suffix : String} {roster : Roster}
    (surveyed : (files.survey directory suffix).value = .ok roster)
    (same : ∀ name, name ∈ roster.names ↔ name ∈ hub.names) : roster.names = hub.names :=
  -- Both lists rise strictly, so having the same members makes them the same.
  @Name.eq_of_mem_iff Name id _ _ (FileSystem.rises_of_survey surveyed) sorted.names same

/-- However panels were registered, the roster of the hub lists its names as they stand, from no
files and with nothing set aside. The module made from it is the one drafted from any content
directory, listed in any order, in which the same names are found. -/
theorem registered_names_make_the_module_of_found_ones (panels : List (Panel U)) :
    let hub := ofPanels panels
    hub.toRoster.names = hub.names ∧
    (∀ item ∈ hub.toRoster.items, item.source = ⟨[]⟩) ∧
    hub.toRoster.setAside = [] ∧
    ∀ (files : FileSystem) (settings : Settings) (roster : Roster),
      (files.survey settings.contentDir settings.suffix).value = .ok roster →
      (∀ name, name ∈ roster.names ↔ name ∈ hub.names) →
      ∃ report, (files.draft settings).value = .ok (hub.toRoster.document settings, report) ∧
        report.names = hub.names := by
  intro hub
  have sorted : hub.Sorted := sorted_ofPanels panels
  refine ⟨sorted.names_toRoster, ?_, ?_, fun files settings roster surveyed same => ?_⟩
  · -- Every item of a hub's roster is one of its names beside an empty path.
    simp [sorted.toRoster_eq]
  · simp [sorted.toRoster_eq]
  · -- Only the names enter the module, and both have them in the same order.
    have names := sorted.names_eq_of_survey surveyed same
    have documents : roster.document settings = hub.toRoster.document settings := by
      simp only [Roster.document, names, sorted.names_toRoster]
    refine ⟨(roster.draft settings).value.2, ?_, names⟩
    rw [FileSystem.value_draft_of_survey surveyed, ← documents]
    rfl

/-- Registered in one order, once again and in part replaced, or found in another order, two names
make one module. -/
theorem registered_names_make_the_module_of_found_ones_duet :
    let hub := ofPanels [Gallery.text ⟨"A"⟩ "first", Gallery.counter ⟨"AB"⟩ "second",
      Gallery.tally ⟨"A"⟩ "third"]
    let settings : Settings := { contentDir := .ofString "." }
    FileSystem.duet.children FileSystem.duet.workDir =
        [Utf8.encode "AB.elm", Utf8.encode "A.elm"] ∧
      ∃ report, (FileSystem.duet.draft settings).value =
        .ok (hub.toRoster.document settings, report) := by
  intro hub settings
  let findings := FileSystem.duet.findings (.ofString ".") FileSystem.duet.workDir ".elm"
  let roster := Roster.ofFindings findings
  have surveyed : (FileSystem.duet.survey (.ofString ".") ".elm").value = .ok roster := by
    rw [FileSystem.value_survey (by decide :
        FileSystem.duet.contentPlace (.ofString ".") = .ok FileSystem.duet.workDir),
      (by decide +kernel : findings.findSome? Finding.illegible? = none)]
  -- Sorting is told by its laws, and what is sorted can be looked at.
  have found : (findings.filterMap Finding.item?).map Item.name = [⟨"AB"⟩, ⟨"A"⟩] := by
    decide +kernel
  have same (name : Name) : name ∈ roster.names ↔ name ∈ hub.names := by
    -- Sorting keeps the members, and a name is in the hub when it was registered.
    have members := ((Finding.perm_items_ofFindings findings).map Item.name).mem_iff (a := name)
    rw [found] at members
    refine members.trans ?_
    rw [mem_names_iff, panel?_ofPanels, latest_isSome_iff]
    simp [Gallery.text, Gallery.counter, Gallery.tally, or_comm]
  obtain ⟨-, -, -, makes⟩ := registered_names_make_the_module_of_found_ones
    [Gallery.text ⟨"A"⟩ "first", Gallery.counter ⟨"AB"⟩ "second", Gallery.tally ⟨"A"⟩ "third"]
  obtain ⟨report, drafted, -⟩ := makes FileSystem.duet settings roster surveyed same
  exact ⟨by decide, report, drafted⟩

end Switchboard.Hub
