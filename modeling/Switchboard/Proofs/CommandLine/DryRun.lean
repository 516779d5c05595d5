import Switchboard.Proofs.CommandLine.Modes

/-!
Showing the generated module in place of writing it. A run that shows it changes nothing, succeeds
where the content directory can be surveyed, and prints what another run with the same settings
would write. A run that fails prints nothing, whatever it was to do.
-/

namespace Switchboard

variable {files : FileSystem} {settings : Settings} {options : Options} {report : Report}
  {terminal : Terminal}

/-! ### What a publication leaves at the output -/

namespace FileSystem

/-- What it is for some bytes to have gone to a place: a file there holds just them, or a pipe or a
device stands there, which keeps nothing. -/
def HasTaken (files : FileSystem) (place : Place) (contents : Bytes) : Prop :=
  files.entry? place = some (.file contents) ∨ files.entry? place = some .special

/-- After a publication the output path leads to where the drafted module has gone. -/
theorem leads_of_publish (published : (files.publish settings).1.value = .ok report) :
    ∃ document place, (files.draft settings).value = .ok (document, report) ∧
      (files.publish settings).2.resolve settings.outPath = .ok place ∧
      (files.publish settings).2.HasTaken place (Utf8.encode document.contents) := by
  obtain ⟨document, place, drafted, made, landed⟩ := exists_of_publish published
  refine ⟨document, place, drafted, ?_⟩
  rw [publish_of_landing drafted made landed]
  -- Writing keeps the way to where it landed, and something stands there then.
  obtain ⟨below, takes⟩ := takes_of_landing landed
  obtain ⟨entry, stands, takes'⟩ := stands_fill below takes (Utf8.encode document.contents)
  refine ⟨((grows_fill below takes _).landing landed stands takes').2, ?_⟩
  -- What takes bytes and is no pipe is a file, new or old.
  by_cases pipe : entry? (files.makeParents settings.outPath).2 place = some .special
  · right
    simp only [fill, pipe, if_true]
  · left
    rw [fill_eq_put pipe, entry?_put below, if_pos rfl]

/-- A publication to a regular file or to nothing leaves the drafted module there. -/
theorem read?_publish (plain : files.NamesPlainOutput settings.outPath)
    (published : (files.publish settings).1.value = .ok report) :
    ∃ document, (files.draft settings).value = .ok (document, report) ∧
      (files.publish settings).2.read? settings.outPath =
        some (Utf8.encode document.contents) := by
  obtain ⟨document, place, drafted, made, landed⟩ := exists_of_publish published
  exact ⟨document, drafted, (writesFile_of_publish drafted made landed plain).read?_eq⟩

end FileSystem

/-! ### Runs that show and runs that publish -/

namespace Options

/-- A run that is told to show the generated module succeeds only where the content directory can be
surveyed. -/
theorem exists_survey_of_run (shows : options.stdout = true)
    (succeeds : (options.run files terminal).1.code = 0) :
    ∃ roster, (files.survey options.settings.contentDir options.settings.suffix).value =
      .ok roster := by
  rw [run_of_stdout shows] at succeeds
  cases drafted : (files.draft options.settings).value with
  | error fault => simp [conclude, drafted, Outcome.ofFault] at succeeds
  | ok both =>
    obtain ⟨roster, surveyed, -⟩ := FileSystem.exists_of_draft drafted
    exact ⟨roster, surveyed⟩

/-- A run that publishes succeeds only after its publication. -/
theorem exists_report_of_run (publishes : options.stdout = false)
    (succeeds : (options.run files terminal).1.code = 0) :
    ∃ report, (files.publish options.settings).1.value = .ok report := by
  cases outcome : (files.publish options.settings).1.value with
  | ok report => exact ⟨report, rfl⟩
  | error fault =>
    -- A publication that failed would have failed the run.
    rw [code_run_of_error publishes outcome] at succeeds
    cases succeeds

/-- A failed run prints nothing if what shows its result prints nothing on failure. -/
theorem stdout_conclude {α : Type} {present : α → Outcome} {result : Noted Event (Except Fault α)}
    (quiet : ∀ value, (present value).code ≠ 0 → (present value).stdout = "")
    (failed : (options.conclude present result).code ≠ 0) :
    (options.conclude present result).stdout = "" := by
  unfold conclude at failed ⊢
  cases outcome : result.value with
  | error fault => rfl
  | ok value =>
    simp only [outcome] at failed ⊢
    exact quiet value failed

/-- A failed run prints nothing, in whichever way its result was to be shown. -/
theorem stdout_run (failed : (options.run files terminal).1.code ≠ 0) :
    (options.run files terminal).1.stdout = "" := by
  unfold run at failed ⊢
  -- Of the three ways only data can fail to be shown.
  cases mode : options.mode with
  | stdout =>
    simp only [mode] at failed ⊢
    exact stdout_conclude (fun _ unsuccessful => absurd rfl unsuccessful) failed
  | json =>
    simp only [mode] at failed ⊢
    refine stdout_conclude (fun report unsuccessful => ?_) failed
    -- Data is printed only once all of it is written.
    unfold Outcome.ofReportData at unsuccessful ⊢
    cases written : report.json? with
    | none => rfl
    | some json =>
      rw [written] at unsuccessful
      exact absurd rfl unsuccessful
  | summary =>
    simp only [mode] at failed ⊢
    exact stdout_conclude (fun _ unsuccessful => absurd rfl unsuccessful) failed

end Options

/-- A failed run of the command line prints nothing. -/
theorem stdout_runCommand {arguments : List Bytes}
    (failed : (runCommand arguments files terminal).1.code ≠ 0) :
    (runCommand arguments files terminal).1.stdout = "" := by
  cases understood : Options.parse arguments with
  | error declined =>
    rw [runCommand_of_error understood] at failed ⊢
    -- Help is printed, but that is no failure.
    cases declined with
    | help => exact absurd rfl failed
    | misuse misuse => rfl
  | ok options =>
    rw [runCommand_of_parse understood] at failed ⊢
    exact Options.stdout_run failed

/-- Asking in front of other arguments for the generated module to be shown is understood where they
are and ask for neither kind of printing. A run that shows the module changes nothing, succeeds
exactly where the content directory can be surveyed, and prints the module of what was found. Any
run that publishes under the same settings leaves just that text at the output, unless it succeeds
by handing it to a pipe or a device, to which an output that names a regular file or nothing does
not lead. And no run that fails prints anything. -/
theorem shown_module_is_the_one_written (files : FileSystem) (terminal : Terminal) :
    (∀ arguments options, Options.parse arguments = .ok options →
      options.stdout = false → options.json = false →
      Options.parse (Flag.stdout.argument :: arguments) =
        .ok (options.withFlag .stdout true)) ∧
    (∀ arguments options, Options.parse arguments = .ok options → options.stdout = true →
      let survey := (files.survey options.settings.contentDir options.settings.suffix).value
      let output := options.settings.outPath
      let shown := runCommand arguments files terminal
      shown.2 = files ∧
      (shown.1.code = 0 ↔ ∃ roster, survey = .ok roster) ∧
      (∀ roster, survey = .ok roster →
        shown.1.stdout = (roster.document options.settings).contents) ∧
      ∀ others options', Options.parse others = .ok options' → options'.stdout = false →
        options'.settings = options.settings →
        let written := runCommand others files terminal
        written.1.code = 0 →
        (∃ place, written.2.resolve output = .ok place ∧
          written.2.HasTaken place (Utf8.encode shown.1.stdout)) ∧
        (files.NamesPlainOutput output →
          written.2.read? output = some (Utf8.encode shown.1.stdout))) ∧
    ∀ arguments, (runCommand arguments files terminal).1.code ≠ 0 →
      (runCommand arguments files terminal).1.stdout = "" := by
  refine ⟨fun arguments options understood notShown isPlain => ?_,
    fun arguments options understood shows => ?_, fun arguments => stdout_runCommand⟩
  · refine Options.parse_cons_flag_eq_ok_iff.mpr ⟨?_, rfl, ?_⟩
    · -- The other arguments did not give the flag.
      rw [understood]
      cases options
      cases notShown
      rfl
    · simp [Options.withFlag, isPlain]
  · intro survey output shown
    -- The arguments are understood, so the command runs as these options.
    have runs : shown = options.run files terminal := runCommand_of_parse understood
    rw [runs]
    refine ⟨by rw [Options.run_of_stdout shows], ⟨Options.exists_survey_of_run shows, ?_⟩, ?_, ?_⟩
    · rintro ⟨roster, surveyed⟩
      exact (Options.run_of_draft shows (FileSystem.value_draft_of_survey surveyed)).1
    · intro roster surveyed
      exact (Options.run_of_draft shows (FileSystem.value_draft_of_survey surveyed)).2
    · intro others options' understood' publishes same written succeeds
      -- The other command shows nothing of its own, and its run publishes.
      have runs' : written = options'.run files terminal := runCommand_of_parse understood'
      rw [runs'] at succeeds ⊢
      obtain ⟨report, published⟩ := Options.exists_report_of_run publishes succeeds
      rw [same] at published
      rw [Options.files_run publishes, same]
      -- What the one run prints is what it drafts, and the other has published the same draft.
      constructor
      · obtain ⟨document, place, drafted, leads, taken⟩ := FileSystem.leads_of_publish published
        rw [(Options.run_of_draft shows drafted).2]
        exact ⟨place, leads, taken⟩
      · intro plain
        obtain ⟨document, drafted, reads⟩ := FileSystem.read?_publish plain published
        rw [(Options.run_of_draft shows drafted).2]
        exact reads

/-- Over a content module that is itself the output, the module shown first is the one written
afterwards; and where the content directory is missing nothing is printed. -/
theorem shown_module_is_the_one_written_overwriting :
    let arguments := publishingTo (Utf8.encode "A.elm")
    let shown := runCommand (Flag.stdout.argument :: arguments) .duet dull
    shown.2 = .duet ∧ shown.1.code = 0 ∧
      (runCommand arguments .duet dull).2.read? (.ofString "A.elm") =
        some (Utf8.encode shown.1.stdout) ∧
      (runCommand [Utf8.encode "--json"] .duet dull).1.stdout = "" := by
  intro arguments shown
  let options : Options :=
    { contentDir := some (.ofString "."), output := some (.ofString "A.elm") }
  -- The two options name the working directory and the module in it.
  have understood : Options.parse arguments = .ok options := by decide +kernel
  obtain ⟨shows, runs, fails⟩ := shown_module_is_the_one_written .duet dull
  obtain ⟨unchanged, succeeds, -, written⟩ := runs _ _ (shows arguments options understood rfl rfl)
    rfl
  -- The output names a file, with no directory above it to be made.
  have plain : FileSystem.duet.NamesPlainOutput options.settings.outPath := by
    refine .inr fun place led => ?_
    have leads : (FileSystem.duet.makeParents options.settings.outPath).2.resolve
        options.settings.outPath =
          .ok (FileSystem.duet.workDir.child (Utf8.encode "A.elm")) := by decide +kernel
    cases leads.symm.trans led
    exact ⟨[], by decide +kernel⟩
  refine ⟨unchanged, by decide +kernel, ?_, fails [Utf8.encode "--json"] (by decide +kernel)⟩
  exact (written arguments options understood rfl Options.settings_withFlag.symm
    (by decide +kernel)).2 plain

/-- That the output path names nothing yet is not enough: with the same arguments both runs succeed,
but past the directory made for it the path leads to a pipe, which keeps nothing of what the other
run showed. -/
theorem shown_module_is_lost_past_detour :
    let arguments := publishingTo (Utf8.encode "new/../pipe")
    let shown := runCommand (Flag.stdout.argument :: arguments) .plumbed dull
    let written := runCommand arguments .plumbed dull
    FileSystem.plumbed.IsTree ∧
      FileSystem.plumbed.NamesFileOrNothing (.ofString "new/../pipe") ∧
      shown.1.code = 0 ∧ written.1.code = 0 ∧
      written.2.read? (.ofString "new/../pipe") ≠ some (Utf8.encode shown.1.stdout) := by
  intro arguments shown written
  -- No directory is there yet to lead out of, so the path names nothing.
  have missing : FileSystem.plumbed.resolve (.ofString "new/../pipe") = .error .notFound := by
    decide +kernel
  let options : Options :=
    { contentDir := some (.ofString "."), output := some (.ofString "new/../pipe") }
  have understood : Options.parse (Flag.stdout.argument :: arguments) =
      .ok (options.withFlag .stdout true) := by decide +kernel
  have succeeds : shown.1.code = 0 := by decide +kernel
  refine ⟨FileSystem.isTree_of_keys (by decide +kernel), fun place led => ?_, succeeds,
    by decide +kernel, ?_⟩
  · cases missing.symm.trans led
  · -- What was shown is a drafted module, and no such module is empty.
    have runs : shown = (options.withFlag .stdout true).run .plumbed dull :=
      runCommand_of_parse understood
    obtain ⟨roster, surveyed⟩ := Options.exists_survey_of_run rfl (runs ▸ succeeds)
    have drafted := FileSystem.value_draft_of_survey surveyed
    have kept : written.2.read? (.ofString "new/../pipe") = some [] := by decide +kernel
    rw [kept, ne_eq, Option.some.injEq, runs, (Options.run_of_draft rfl drafted).2]
    exact (FileSystem.encode_ne_nil_of_draft drafted).symm

end Switchboard
