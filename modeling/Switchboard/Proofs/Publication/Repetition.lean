import Switchboard.Proofs.Publication.Effect

/-!
Publishing over and over. The first publication may change what the next one finds, as its output
may be a new entry of the content directory or where a dangling link there leads. After that the
output is in place, and as drafts look at names and kinds alone nothing changes any more.
-/

namespace Switchboard.FileSystem

variable {files : FileSystem} {settings : Settings} {document : Document} {report : Report}
  {place : Place}

/-- What the publication after so many others comes to, each on what the one before left. -/
def publishAgain (files : FileSystem) (settings : Settings) :
    Nat → Noted Event (Except Fault Report) × FileSystem
  | 0 => files.publish settings
  | earlier + 1 => (files.publishAgain settings earlier).2.publish settings

namespace Settled

/-- Writing where a path is settled changes nothing but the contents of a file. -/
theorem sameButContents_fill {path : Path} (settled : files.Settled path place)
    (contents : Bytes) : (files.fill place contents).SameButContents files := by
  obtain ⟨below, takes⟩ := takes_of_landing settled.landing
  obtain ⟨entry, stands⟩ := Option.isSome_iff_exists.mp settled.stands
  -- Only a file or what keeps nothing takes bytes.
  cases entry with
  | file old =>
    rw [fill_eq_put (by simp [stands])]
    exact sameButContents_put below stands contents
  | special =>
    rw [FileSystem.fill, if_pos stands]
    exact ⟨rfl, fun _ => rfl, rfl⟩
  | directory => cases takes _ stands
  | link target => cases takes _ stands

/-- Where the output path is settled, publishing a draft does nothing but write. -/
theorem publish_eq (settled : files.Settled settings.outPath place)
    (drafted : (files.draft settings).value = .ok (document, report)) :
    files.publish settings =
      ({ value := .ok report
         notes := (files.draft settings).notes ++
          [.wrote settings.outPath (Utf8.encode document.contents).length] },
        files.fill place (Utf8.encode document.contents)) := by
  -- No directory is missing, so what was made is the file system itself.
  have published := publish_of_landing drafted (by rw [settled.parents])
    (by rw [settled.parents]; exact settled.landing)
  rwa [settled.parents] at published

/-- Where the output path is settled, a second publication is as the first one. -/
theorem publish_publish (settled : files.Settled settings.outPath place) :
    (files.publish settings).2.publish settings = files.publish settings := by
  rcases files.publish_cases settings with ⟨fault, -, failed⟩ | ⟨document, report, drafted, -⟩
  · -- A draft that failed fails again, as nothing was changed.
    rw [failed]
    exact failed
  · -- What is drafted the second time is the same, and it is written over itself.
    obtain ⟨below, -⟩ := takes_of_landing settled.landing
    have alike := settled.sameButContents_fill (Utf8.encode document.contents)
    rw [settled.publish_eq drafted,
      (Settled.fill settled.landing _).publish_eq (alike.draft_eq settings ▸ drafted),
      alike.draft_eq, fill_fill below]

end Settled

/-- A successful publication leaves the output path settled. -/
theorem settled_of_publish (published : (files.publish settings).1.value = .ok report) :
    ∃ place, (files.publish settings).2.Settled settings.outPath place := by
  obtain ⟨document, place, drafted, made, landed⟩ := exists_of_publish published
  rw [publish_of_landing drafted made landed]
  -- The write has settled the path that it went to.
  exact ⟨place, .fill landed _⟩

/-- Once a publication does as the one before, all later ones do. -/
theorem publishAgain_eq_of_succ_eq (start : Nat)
    (same : files.publishAgain settings (start + 1) = files.publishAgain settings start)
    (more : Nat) :
    files.publishAgain settings (start + more) = files.publishAgain settings start := by
  -- Each further publication starts where an earlier one did.
  induction more with
  | zero => rfl
  | succ more ih =>
    rw [← Nat.add_assoc, publishAgain, ih]
    exact same

/-- When a publication succeeds, all publications after it come to the same outcome and leave the
same file system as the first one after it. If the output path led to a file to begin with, they all
do as the successful one did. -/
theorem publication_settles (published : (files.publish settings).1.value = .ok report) :
    (∀ run, 1 ≤ run → files.publishAgain settings run = files.publishAgain settings 1) ∧
    ∀ place old, files.resolve settings.outPath = .ok place →
      files.entry? place = some (.file old) →
      ∀ run, files.publishAgain settings run = files.publish settings := by
  constructor
  · -- The output is in place after the first run, so the second is as all later ones.
    intro run later
    obtain ⟨place, settled⟩ := settled_of_publish published
    obtain ⟨more, rfl⟩ := Nat.exists_eq_add_of_le later
    exact publishAgain_eq_of_succ_eq 1 settled.publish_publish more
  · -- The output is in place before the first run.
    intro other old led stands run
    obtain ⟨document, place, -, -, landed⟩ := exists_of_publish published
    rw [makeParents_eq_self led] at landed
    -- A path that leads to a file needs no directories, and writing lands at that file.
    have settled : files.Settled settings.outPath place :=
      .of_resolve led landed (by rw [stands]; rfl)
    have same := publishAgain_eq_of_succ_eq 0 settled.publish_publish run
    rwa [Nat.zero_add] at same

/-- An output in the content directory whose name is no text. -/
def garbling : Settings :=
  { contentDir := .ofString ".", outPath := ⟨[0xFF] ++ Utf8.encode ".elm"⟩ }

/-- The first publication to a name that is no text is fine, and every later one fails as it finds
that name. An output that is a content module of its own is published alike over and over. -/
theorem publication_settles_garbling :
    (duet.publishAgain garbling 0).1.value.isOk = true ∧
      (duet.publishAgain garbling 7).1.value =
        .error (.invalidFileName ⟨Utf8.encode "./" ++ garbling.outPath.bytes⟩) ∧
      duet.publishAgain overwriting 7 = duet.publish overwriting := by
  obtain ⟨report, published⟩ := exists_of_isOk
    (by decide +kernel : (duet.publish garbling).1.value.isOk = true)
  obtain ⟨report', published'⟩ := exists_of_isOk
    (by decide +kernel : (duet.publish overwriting).1.value.isOk = true)
  refine ⟨by decide +kernel, ?_, ?_⟩
  · -- All later publications are as the second one, which can be looked at.
    rw [(publication_settles published).1 7 (by decide)]
    decide +kernel
  · exact (publication_settles published').2 (duet.workDir.child (Utf8.encode "A.elm")) []
      (by decide) (by decide) 7

end Switchboard.FileSystem
