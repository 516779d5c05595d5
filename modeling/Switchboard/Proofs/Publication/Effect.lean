import Switchboard.CommandLine.Run
import Switchboard.Proofs.Files.Contents
import Switchboard.Proofs.Files.Straight
import Switchboard.Proofs.Publication

/-!
What a publication does to the file system. A failed one leaves everything as it was, with some of
the missing directories made at most; a successful one leaves the drafted module where the output
path leads, whatever stood there before, and touches nothing else.
-/

namespace Switchboard

/-! ### Runs that only show the generated module -/

namespace Options

variable {files : FileSystem} {options : Options} {terminal : Terminal}

/-- A run that is told to show the generated module drafts it and leaves the file system alone. -/
theorem run_of_stdout (shows : options.stdout = true) :
    options.run files terminal =
      (options.conclude (fun drafted => { code := 0, stdout := drafted.1.contents })
        (files.draft options.settings), files) := by
  -- Showing the module is decided first, whatever else was asked for.
  simp only [run, mode, shows, if_true]

/-- A run that is told to show the generated module prints what it drafts and succeeds. -/
theorem run_of_draft (shows : options.stdout = true) {document : Document} {report : Report}
    (drafted : (files.draft options.settings).value = .ok (document, report)) :
    (options.run files terminal).1.code = 0 ∧
      (options.run files terminal).1.stdout = document.contents := by
  rw [run_of_stdout shows]
  simp only [conclude, drafted, and_self]

end Options

namespace FileSystem

variable {files other : FileSystem} {settings : Settings} {document : Document} {report : Report}
  {place : Place}

/-! ### Drafts and the contents of files -/

namespace SameButContents

variable (same : files.SameButContents other)

include same

/-- An entry of a content directory is judged by its name and by where it leads. -/
theorem examine_eq (directory : Path) (place : Place) (suffix : String) :
    Finding.examine files directory place suffix =
      Finding.examine other directory place suffix := by
  funext name
  unfold Finding.examine
  simp only [same.resolve_eq]
  rcases same.entry?_cases (place.child name) with itself | ⟨mine, yours, stands, stands'⟩
  · rw [itself]
    rcases other.entry? (place.child name) with _ | (_ | _ | target | _)
    case some.link =>
      -- A link is judged by what it leads to.
      cases other.resolve (directory.join name) with
      | error refusal => rfl
      | ok reached =>
        dsimp only
        rcases same.entry?_cases reached with alike | ⟨mine, yours, stands, stands'⟩
        · rw [alike]
        · rw [stands, stands']
    all_goals rfl
  · -- Both are files, and their contents are not looked at.
    rw [stands, stands']

/-- Drafts are made from names and from where they lead, and not from what files contain. -/
theorem draft_eq (settings : Settings) : files.draft settings = other.draft settings := by
  -- The content directory is found and listed alike, and so is every entry of it judged.
  have contentPlace_eq (directory : Path) :
      files.contentPlace directory = other.contentPlace directory := by
    simp only [contentPlace, same.resolve_eq, same.isDirectory_iff]
  have findings_eq (directory : Path) (place : Place) (suffix : String) :
      files.findings directory place suffix = other.findings directory place suffix := by
    rw [findings, findings, same.children_eq, same.examine_eq]
  simp only [draft, survey, contentPlace_eq, findings_eq]

end SameButContents

/-! ### Saving and publishing -/

/-- A module is saved where the directories above its path can be made and writing then lands. -/
theorem save_of_landing (made : (files.makeParents document.path).1 = .ok ())
    (landed : (files.makeParents document.path).2.landing document.path = .ok place) :
    files.save document =
      ({ value := .ok ()
         notes := [.wrote document.path (Utf8.encode document.contents).length] },
        (files.makeParents document.path).2.fill place (Utf8.encode document.contents)) := by
  unfold save
  generalize files.makeParents document.path = result at made landed ⊢
  obtain ⟨outcome, reached⟩ := result
  cases made
  -- Writing at the place where it lands is to fill it.
  have wrote : reached.write document.path (Utf8.encode document.contents) =
      .ok (reached.fill place (Utf8.encode document.contents)) :=
    write_eq_ok_iff.mpr ⟨place, landed, rfl⟩
  simp only [wrote]

/-- A save makes the directories above the path first. Then it either fails as unwritable and does
nothing more, or it writes the module where the path leads to. -/
theorem save_cases (files : FileSystem) (document : Document) :
    (∃ path reason, (files.save document).1.value = .error (.unwritable path reason) ∧
      (files.save document).2 = (files.makeParents document.path).2) ∨
    ∃ place, (files.makeParents document.path).1 = .ok () ∧
      (files.makeParents document.path).2.landing document.path = .ok place := by
  unfold save
  rcases files.makeParents document.path with ⟨refusal | done, reached⟩
  · -- A directory could not be made.
    exact .inl ⟨_, _, rfl, rfl⟩
  · dsimp only
    -- The directories stand, so all depends on the write.
    cases wrote : reached.write document.path (Utf8.encode document.contents) with
    | error refusal => exact .inl ⟨_, _, rfl, rfl⟩
    | ok written =>
      obtain ⟨place, landed, -⟩ := write_eq_ok_iff.mp wrote
      exact .inr ⟨place, rfl, landed⟩

/-- A publication fails with its draft and does nothing, or it saves what was drafted. -/
theorem publish_cases (files : FileSystem) (settings : Settings) :
    (∃ fault, (files.draft settings).value = .error fault ∧
      files.publish settings =
        ({ value := .error fault, notes := (files.draft settings).notes }, files)) ∨
    ∃ document report, (files.draft settings).value = .ok (document, report) ∧
      files.publish settings =
        ({ value := (files.save document).1.value.map fun _ => report
           notes := (files.draft settings).notes ++ (files.save document).1.notes },
          (files.save document).2) := by
  unfold publish
  dsimp only
  -- The draft decides which of the two happens.
  cases drafted : (files.draft settings).value with
  | error fault => exact .inl ⟨fault, rfl, rfl⟩
  | ok both => exact .inr ⟨both.1, both.2, rfl, rfl⟩

/-- A drafted module belongs at the output path. -/
theorem path_of_draft (drafted : (files.draft settings).value = .ok (document, report)) :
    document.path = settings.outPath := by
  obtain ⟨roster, -, same⟩ := exists_of_draft drafted
  cases same
  rfl

/-- A drafted module is not empty, even one of no content modules. -/
theorem encode_ne_nil_of_draft (drafted : (files.draft settings).value = .ok (document, report)) :
    Utf8.encode document.contents ≠ [] := by
  obtain ⟨roster, -, same⟩ := exists_of_draft drafted
  cases same
  -- Its first line is always the same.
  intro empty
  have size := congrArg List.length empty
  rw [Utf8.length_encode] at size
  simp [Roster.document, Switchboard.fill, template] at size

/-- What was drafted is published where the directories above the output path can be made and
writing then lands. -/
theorem publish_of_landing (drafted : (files.draft settings).value = .ok (document, report))
    (made : (files.makeParents settings.outPath).1 = .ok ())
    (landed : (files.makeParents settings.outPath).2.landing settings.outPath = .ok place) :
    files.publish settings =
      ({ value := .ok report
         notes := (files.draft settings).notes ++
          [.wrote settings.outPath (Utf8.encode document.contents).length] },
        (files.makeParents settings.outPath).2.fill place (Utf8.encode document.contents)) := by
  rcases files.publish_cases settings with ⟨fault, failed, -⟩ | ⟨document', report', same, ended⟩
  · cases drafted.symm.trans failed
  · cases drafted.symm.trans same
    -- The document is saved at its own path, which is the output.
    rw [← path_of_draft drafted] at made landed ⊢
    rw [ended, save_of_landing made landed]
    rfl

/-- Only where a draft was made and writing landed is anything published. -/
theorem exists_of_publish (published : (files.publish settings).1.value = .ok report) :
    ∃ document place, (files.draft settings).value = .ok (document, report) ∧
      (files.makeParents settings.outPath).1 = .ok () ∧
      (files.makeParents settings.outPath).2.landing settings.outPath = .ok place := by
  rcases files.publish_cases settings with ⟨fault, -, ended⟩ | ⟨document, report', drafted, ended⟩
  · -- A failed draft makes no publication succeed.
    rw [ended] at published
    cases published
  · rw [← path_of_draft drafted]
    rcases files.save_cases document with ⟨path, reason, failed, -⟩ | ⟨place, made, landed⟩
    · -- Nor does a failed save.
      rw [ended, failed] at published
      cases published
    · rw [ended, save_of_landing made landed] at published
      cases published
      exact ⟨document, place, drafted, made, landed⟩

/-! ### Failure -/

/-- A failed save or publication loses and changes nothing, and all that is new are directories that
paths above the output lead to. If it is the content directory that cannot be read or an entry of it
whose name is no text, nothing at all is new. -/
theorem failure_keeps_what_stood (files : FileSystem) :
    (∀ document fault, (files.save document).1.value = .error fault →
      files.AddsDirectories (files.save document).2 document.path.higher) ∧
    ∀ settings fault, (files.publish settings).1.value = .error fault →
      files.AddsDirectories (files.publish settings).2 settings.outPath.higher ∧
      ((∃ path reason, fault = .unreadableDirectory path reason) ∨
          (∃ path, fault = .invalidFileName path) →
        (files.publish settings).2 = files) := by
  -- A save fails at a directory or at the file, and by then it has made directories at most.
  have saved (document : Document) (fault : Fault)
      (failed : (files.save document).1.value = .error fault) :
      (∃ path reason, fault = .unwritable path reason) ∧
        files.AddsDirectories (files.save document).2 document.path.higher := by
    rcases files.save_cases document with ⟨path, reason, failed', left⟩ | ⟨place, made, landed⟩
    · cases failed.symm.trans failed'
      exact ⟨⟨path, reason, rfl⟩, left ▸ files.makeParents_adds document.path⟩
    · -- A save that lands does not fail.
      rw [save_of_landing made landed] at failed
      cases failed
  refine ⟨fun document fault failed => (saved document fault failed).2,
    fun settings fault failed => ?_⟩
  rcases files.publish_cases settings with ⟨fault', -, ended⟩ | ⟨document, report, drafted, ended⟩
  · -- Before a draft nothing is touched.
    rw [ended]
    exact ⟨.refl files _, fun _ => rfl⟩
  · -- With a draft, only the save can have failed.
    rw [ended] at failed ⊢
    rw [← path_of_draft drafted]
    cases outcome : (files.save document).1.value with
    | ok done =>
      rw [outcome] at failed
      cases failed
    | error fault' =>
      rw [outcome] at failed
      cases failed
      obtain ⟨⟨path, reason, rfl⟩, adds⟩ := saved document _ outcome
      -- Nothing is saved before the content directory was read.
      refine ⟨adds, ?_⟩
      rintro (⟨_, _, same⟩ | ⟨_, same⟩) <;> cases same

/-- An output that leads back up from directories still to be made. -/
def climbing : Settings :=
  { contentDir := .ofString ".", outPath := .ofString "new/deep/.." }

/-- Writing to a directory fails after the directories on the way to it were made, and when the
content directory is missing nothing is made. -/
theorem failure_keeps_what_stood_climbing :
    (duet.publish climbing).1.value =
        .error (.unwritable climbing.outPath OsError.isDirectory.message) ∧
      duet.AddsDirectories (duet.publish climbing).2 climbing.outPath.higher ∧
      entry? (duet.publish climbing).2 (duet.workDir.child (Utf8.encode "new")) =
        some .directory ∧
      duet.AddsDirectories (duet.save ⟨climbing.outPath, "text"⟩).2 climbing.outPath.higher ∧
      (duet.publish { climbing with contentDir := .ofString "gone" }).2 = duet := by
  obtain ⟨saves, publishes⟩ := failure_keeps_what_stood duet
  have failed : (duet.publish climbing).1.value =
      .error (.unwritable climbing.outPath OsError.isDirectory.message) := by decide +kernel
  refine ⟨failed, (publishes climbing _ failed).1, by decide +kernel, ?_, ?_⟩
  · exact saves ⟨climbing.outPath, "text"⟩
      (.unwritable climbing.outPath OsError.isDirectory.message) (by decide +kernel)
  · exact (publishes _ (.unreadableDirectory (.ofString "gone") OsError.notFound.message)
      (by decide +kernel)).2 (.inl ⟨_, _, rfl⟩)

/-! ### Success -/

/-- What a file contains before it is written to does not matter. -/
theorem publish_put (drafted : (files.draft settings).value = .ok (document, report))
    (made : (files.makeParents settings.outPath).1 = .ok ())
    (landed : (files.makeParents settings.outPath).2.landing settings.outPath = .ok place)
    {old : Bytes} (stands : files.entry? place = some (.file old)) (new : Bytes) :
    (files.put place (.file new)).publish settings = files.publish settings := by
  obtain ⟨below, -⟩ := takes_of_landing landed
  have alike := sameButContents_put below stands new
  obtain ⟨made', stays⟩ := makeParents_put new below stands settings.outPath
  -- To put the contents there is to write them, so writing still lands there and they are replaced.
  have before : (files.makeParents settings.outPath).2.put place (.file new) =
      (files.makeParents settings.outPath).2.fill place new :=
    (fill_eq_put (by simp [stays]) new).symm
  rw [before] at made'
  -- The place was filled on the way, and filling it closes no way to it.
  have landed' : ((files.put place (.file new)).makeParents settings.outPath).2.landing
      settings.outPath = .ok place := by
    rw [made']
    exact (Settled.fill landed new).landing
  rw [publish_of_landing (alike.draft_eq settings ▸ drafted) (by rw [made', made]) landed',
    publish_of_landing drafted made landed, alike.draft_eq, made', fill_fill below]

/-- What it is for an output path to name a regular file or nothing. Without two dots in it the path
is read as things stand, given that everything stands in a directory. Otherwise it is read with the
directories above it made, as two dots may lead back out of these to a pipe. -/
def NamesPlainOutput (files : FileSystem) (path : Path) : Prop :=
  files.IsTree ∧ Path.dotDot ∉ path.names ∧ files.NamesFileOrNothing path ∨
    (files.makeParents path).2.NamesFileOrNothing path

/-- Where writing lands on what the output path names, that is a regular file or nothing. -/
theorem NamesPlainOutput.made {path : Path} (plain : files.NamesPlainOutput path)
    (made : (files.makeParents path).1 = .ok ())
    (landed : (files.makeParents path).2.landing path = .ok place) :
    (files.makeParents path).2.NamesFileOrNothing path := by
  rcases plain with ⟨tree, straight, plain⟩ | plain
  · -- Without two dots, making directories does not change what the path names.
    exact namesFileOrNothing_makeParents tree straight plain made landed
  · exact plain

/-- Where the output names a regular file or nothing, a publication writes the drafted module there
and changes nothing else. -/
theorem writesFile_of_publish (drafted : (files.draft settings).value = .ok (document, report))
    (made : (files.makeParents settings.outPath).1 = .ok ())
    (landed : (files.makeParents settings.outPath).2.landing settings.outPath = .ok place)
    (plain : files.NamesPlainOutput settings.outPath) :
    files.WritesFile (files.publish settings).2 settings.outPath place
      (Utf8.encode document.contents) := by
  -- What the path names with the directories above it made is what is written to.
  rw [publish_of_landing drafted made landed]
  exact writesFile_fill_makeParents landed (plain.made made landed) _

/-- A run that only shows the generated module changes nothing. A successful publication whose
output names a regular file or nothing reports what was drafted from the file system before, with
the names of the roster in the order in which the module has them. Afterwards the output holds
exactly the drafted text, everything else is as it was or a directory above the output, and what the
output contained before makes no difference. If two dots are in the output path, what it names is
seen with the directories above it made. -/
theorem publish_writes_what_is_shown (files : FileSystem) (settings : Settings) :
    (∀ (options : Options) terminal, options.stdout = true →
      (options.run files terminal).2 = files) ∧
    (files.NamesPlainOutput settings.outPath →
      ∀ report, (files.publish settings).1.value = .ok report →
      ∃ document roster place,
        (files.draft settings).value = .ok (document, report) ∧
        (∀ (options : Options) terminal, options.stdout = true → options.settings = settings →
          (options.run files terminal).1.code = 0 ∧
          (options.run files terminal).1.stdout = document.contents) ∧
        (files.survey settings.contentDir settings.suffix).value = .ok roster ∧
        report.names = roster.names ∧
        document.contents = Switchboard.fill settings.moduleName (fun slot =>
          slot.body settings.contentNamespace report.names) ∧
        report.bytes = document.contents.utf8ByteSize ∧
        (files.publish settings).2.read? settings.outPath =
          some (Utf8.encode document.contents) ∧
        files.WritesFile (files.publish settings).2 settings.outPath place
          (Utf8.encode document.contents) ∧
        ∀ old new, files.entry? place = some (.file old) →
          (files.put place (.file new)).publish settings = files.publish settings) := by
  refine ⟨fun options terminal shows => by rw [Options.run_of_stdout shows],
    fun plain report published => ?_⟩
  obtain ⟨document, place, drafted, made, landed⟩ := exists_of_publish published
  obtain ⟨roster, surveyed, same⟩ := exists_of_draft drafted
  have writes := writesFile_of_publish drafted made landed plain
  obtain ⟨rfl, names, bytes⟩ := Roster.of_draft same
  refine ⟨_, roster, place, drafted, fun options terminal shows same => ?_, surveyed, names, ?_,
    bytes, writes.read?_eq, writes, fun old new stands =>
      publish_put drafted made landed stands new⟩
  · refine Options.run_of_draft shows (Eq.trans ?_ drafted)
    rw [same]
  · -- The document is filled from the names that the report lists.
    rw [names, Roster.document]

/-- What succeeds has a result. -/
theorem exists_of_isOk {α : Type} {outcome : Except Fault α} (succeeds : outcome.isOk = true) :
    ∃ result, outcome = .ok result := by
  -- A failure is no success.
  cases outcome with
  | ok result => exact ⟨result, rfl⟩
  | error fault => cases succeeds

/-- An output that is one of the content modules itself. -/
def overwriting : Settings :=
  { contentDir := .ofString ".", outPath := .ofString "A.elm" }

/-- Over a content module the generated one is written as over anything else: the other module is
kept, and whatever the first one contained is gone. -/
theorem publish_writes_what_is_shown_overwriting :
    ∃ document report,
      (duet.draft overwriting).value = .ok (document, report) ∧
      (duet.publish overwriting).2.read? overwriting.outPath =
        some (Utf8.encode document.contents) ∧
      entry? (duet.publish overwriting).2 (duet.workDir.child (Utf8.encode "AB.elm")) =
        some (.file []) ∧
      (duet.put (duet.workDir.child (Utf8.encode "A.elm"))
        (.file (Utf8.encode "before"))).publish overwriting = duet.publish overwriting := by
  obtain ⟨report, published⟩ := exists_of_isOk
    (by decide +kernel : (duet.publish overwriting).1.value.isOk = true)
  have leads : duet.resolve overwriting.outPath =
      .ok (duet.workDir.child (Utf8.encode "A.elm")) := by decide +kernel
  have plain : duet.NamesPlainOutput overwriting.outPath := by
    -- The output names a file as it is, and no two dots are in its path.
    refine .inl ⟨isTree_of_keys (by decide +kernel), by decide, fun place led => ?_⟩
    cases leads.symm.trans led
    exact ⟨[], by decide +kernel⟩
  obtain ⟨document, roster, place, drafted, -, -, -, -, -, reads, writes, noTrace⟩ :=
    (publish_writes_what_is_shown duet overwriting).2 plain report published
  have landed : (duet.publish overwriting).2.resolve overwriting.outPath =
      .ok (duet.workDir.child (Utf8.encode "A.elm")) := by decide +kernel
  -- The place the module was written at is the one that the path leads to afterwards.
  obtain rfl := Except.ok.inj (landed.symm.trans writes.leads)
  exact ⟨document, report, drafted, reads, writes.kept (by decide) (by decide),
    noTrace [] _ (by decide)⟩

/-- A working directory with a content module and a pipe. -/
def plumbed : FileSystem :=
  holding [("A.elm", .file []), ("pipe", .special)]

/-- An output that leads to the pipe, but only once a directory was made that it leads out of. -/
def detour : Settings :=
  { contentDir := .ofString ".", outPath := .ofString "new/../pipe" }

/-- That the output path names nothing yet is not enough: past the directory made for it a
publication may reach a pipe, and then it succeeds and leaves nothing to be read. -/
theorem publish_past_detour_leaves_nothing :
    plumbed.IsTree ∧ plumbed.resolve detour.outPath = .error .notFound ∧
      plumbed.NamesFileOrNothing detour.outPath ∧
      ∃ document report, (plumbed.draft detour).value = .ok (document, report) ∧
        (plumbed.publish detour).1.value = .ok report ∧
        (plumbed.publish detour).2.read? detour.outPath ≠
          some (Utf8.encode document.contents) := by
  have missing : plumbed.resolve detour.outPath = .error .notFound := by decide +kernel
  obtain ⟨report, published⟩ := exists_of_isOk
    (by decide +kernel : (plumbed.publish detour).1.value.isOk = true)
  -- What was published was drafted before.
  obtain ⟨document, place, drafted, -, -⟩ := exists_of_publish published
  refine ⟨isTree_of_keys (by decide +kernel), missing, fun place led => ?_,
    document, report, drafted, published, ?_⟩
  · cases missing.symm.trans led
  · -- The pipe has kept no byte, and the text has some.
    have kept : (plumbed.publish detour).2.read? detour.outPath = some [] := by decide +kernel
    rw [kept, ne_eq, Option.some.injEq]
    exact (encode_ne_nil_of_draft drafted).symm

end FileSystem

end Switchboard
