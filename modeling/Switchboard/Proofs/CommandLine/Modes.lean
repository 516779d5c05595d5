import Switchboard.Proofs.CommandLine.Options
import Switchboard.Proofs.Publication.Effect

/-!
The two ways to show what was published. A report is written data only if all its paths are texts,
so asking for data fails after a publication to, or past, a path that is none. Otherwise the two end
alike, and they always leave the same file system.
-/

namespace Switchboard

variable {report : Report} {options : Options} {files : FileSystem} {terminal : Terminal}

/-! ### Reports as written data -/

/-- What it is for all paths of a report to be texts: that of the output and those set aside. -/
def Report.IsText (report : Report) : Prop :=
  report.output.text?.isSome = true ∧
    ∀ path, .setAside path ∈ report.remarks → path.text?.isSome = true

/-- A remark is written data unless it is about a path that is no text. -/
theorem Remark.isSome_json?_iff {remark : Remark} :
    remark.json?.isSome = true ↔ ∀ path, remark = .setAside path → path.text?.isSome = true := by
  cases remark <;> simp [json?]

/-- A list is taken item by item if every item can be taken. -/
theorem isSome_mapM_iff {α β : Type} {take : α → Option β} {items : List α} :
    (items.mapM take).isSome = true ↔ ∀ item ∈ items, (take item).isSome = true := by
  induction items with
  | nil => simp
  | cons item rest ih =>
    rw [List.forall_mem_cons, ← ih, List.mapM_cons]
    -- The whole list is taken where its first item and its rest are.
    cases take item <;> cases rest.mapM take <;> simp

/-- A report is written data exactly if all its paths are texts. -/
theorem Report.json?_ne_none_iff : report.json? ≠ none ↔ report.IsText := by
  -- Of the remarks only those on paths set aside can be without a written form.
  have remarks : (report.remarks.mapM Remark.json?).isSome = true ↔
      ∀ path, .setAside path ∈ report.remarks → path.text?.isSome = true := by
    simp only [isSome_mapM_iff, Remark.isSome_json?_iff]
    exact ⟨fun each path member => each _ member path rfl,
      fun each remark member path same => each path (same ▸ member)⟩
  rw [IsText, ← remarks, json?]
  -- A report needs both the text of its output and its written remarks.
  cases report.output.text? <;> cases report.remarks.mapM Remark.json? <;> simp

/-! ### Runs that publish -/

/-- A run that is not told to show the generated module leaves what the publication leaves. -/
theorem Options.files_run (publishes : options.stdout = false) :
    (options.run files terminal).2 = (files.publish options.settings).2 := by
  unfold run mode
  rw [publishes]
  -- The two ways of showing the result leave the file system to the publication.
  cases options.json <;> rfl

/-- A failed publication ends a run with one, however it was to be shown. -/
theorem Options.code_run_of_error (publishes : options.stdout = false) {fault : Fault}
    (failed : (files.publish options.settings).1.value = .error fault) :
    (options.run files terminal).1.code = 1 := by
  unfold run mode
  rw [publishes]
  cases options.json <;> simp [conclude, failed, Outcome.ofFault]

/-- After a publication a run fails only if it is to write data and a path of the report is no
text. -/
theorem Options.code_run_of_ok (publishes : options.stdout = false)
    (published : (files.publish options.settings).1.value = .ok report) :
    (options.run files terminal).1.code =
      if options.json = true ∧ report.json? = none then 1 else 0 := by
  unfold run mode
  rw [publishes]
  cases options.json with
  | false => simp [conclude, published, Outcome.ofReportSummary]
  | true =>
    -- Data is shown where it can be written.
    cases written : report.json? <;>
      simp [conclude, published, Outcome.ofReportData, written]

/-- Arguments that are understood are run as what they are understood as. -/
theorem runCommand_of_parse {arguments : List Bytes}
    (understood : Options.parse arguments = .ok options) :
    runCommand arguments files terminal = options.run files terminal := by
  simp only [runCommand, understood]

/-- Arguments that are not run change nothing. -/
theorem runCommand_of_error {arguments : List Bytes} {declined : Declined}
    (dismissed : Options.parse arguments = .error declined) :
    runCommand arguments files terminal = (.ofDeclined terminal declined, files) := by
  simp only [runCommand, dismissed]

/-- A question for help in front of other arguments is answered, whatever they are. -/
theorem runCommand_cons_help (arguments : List Bytes) :
    runCommand (Flag.help.argument :: arguments) files terminal =
      ({ code := 0, stdout := Help.text terminal.coloured }, files) := by
  -- Nothing behind the question is read, and alone it is taken.
  have asks : Options.parse (Flag.help.argument :: arguments) = .error .help := by
    rw [Options.parse, occurrences_cons_help]
    exact Options.ofOccurrences_eq_help_iff.mpr ⟨⟨{}, rfl⟩, List.mem_singleton_self _⟩
  exact runCommand_of_error asks

/-- Where arguments are not run, they are not with one more flag in front of them either, and this
ends with the same code unless the flag comes before a question for help a second time. -/
theorem runCommand_cons_json_of_error {arguments : List Bytes} {declined : Declined}
    (dismissed : Options.parse arguments = .error declined)
    (once : ∀ found, occurrences arguments = .ok found → .flag .help ∈ found →
      .flag .json ∉ found) :
    (runCommand (Flag.json.argument :: arguments) files terminal).2 = files ∧
      (runCommand (Flag.json.argument :: arguments) files terminal).1.code =
        (Outcome.ofDeclined terminal declined).code := by
  have noHelp : Flag.json ≠ .help := by decide
  cases parsed : Options.parse (Flag.json.argument :: arguments) with
  | ok options =>
    -- With one more flag the arguments would be understood only if they were before.
    obtain ⟨plain, understood, -⟩ := Options.parse_cons_json_eq_ok_iff.mp parsed
    cases dismissed.symm.trans understood
  | error declined' =>
    rw [runCommand_of_error parsed]
    refine ⟨rfl, ?_⟩
    -- Both ask for help, or neither does.
    cases declined with
    | help =>
      -- What is declined as a question for help has one in it.
      have asks (found : List Occurrence) (read : occurrences arguments = .ok found) :
          .flag .help ∈ found := by
        rw [Options.parse, read] at dismissed
        exact (Options.ofOccurrences_eq_help_iff.mp dismissed).2
      have same := (Options.parse_cons_flag_eq_help_iff noHelp).mpr
        ⟨dismissed, fun found read => once found read (asks found read)⟩
      cases parsed.symm.trans same
      rfl
    | misuse misuse =>
      cases declined' with
      | help =>
        cases dismissed.symm.trans ((Options.parse_cons_flag_eq_help_iff noHelp).mp parsed).1
      | misuse misuse' => rfl

/-- Asking for the report as data in front of arguments that ask for no other way of showing it
leaves the same file system. The run also ends with the same code, unless it published something
and a path of the report is no text: then it ends with one in place of zero. Arguments that only ask
for help may not ask for data before that, as no flag is understood twice. -/
theorem json_changes_what_is_shown (arguments : List Bytes) (files : FileSystem)
    (terminal : Terminal)
    (summary : ∀ options, Options.parse arguments = .ok options →
      options.stdout = false ∧ options.json = false)
    (once : ∀ found, occurrences arguments = .ok found → .flag .help ∈ found →
      .flag .json ∉ found) :
    (runCommand (Flag.json.argument :: arguments) files terminal).2 =
        (runCommand arguments files terminal).2 ∧
    ((∀ options report, Options.parse arguments = .ok options →
        (files.publish options.settings).1.value = .ok report → report.IsText) →
      (runCommand (Flag.json.argument :: arguments) files terminal).1.code =
        (runCommand arguments files terminal).1.code) ∧
    ∀ options report, Options.parse arguments = .ok options →
      (files.publish options.settings).1.value = .ok report → ¬ report.IsText →
      (runCommand (Flag.json.argument :: arguments) files terminal).1.code = 1 ∧
        (runCommand arguments files terminal).1.code = 0 := by
  cases understood : Options.parse arguments with
  | error declined =>
    -- Nothing is published, so only the codes are to be compared.
    obtain ⟨unchanged, code⟩ := @runCommand_cons_json_of_error files terminal arguments declined
      understood once
    rw [unchanged, code, runCommand_of_error understood]
    simp
  | ok plain =>
    obtain ⟨publishes, isPlain⟩ := summary plain understood
    have publishes' : plain.withJson.stdout = false := publishes
    have understood' := Options.parse_cons_json_eq_ok_iff.mpr
      ⟨plain, understood, publishes, isPlain, rfl⟩
    rw [runCommand_of_parse understood, runCommand_of_parse understood']
    -- Both publish under the same settings, and only then do they differ.
    refine ⟨?_, fun texts => ?_, fun options report same published noText => ?_⟩
    · rw [Options.files_run publishes', Options.files_run publishes, Options.settings_withJson]
    · -- Either way the code is one if the publication failed.
      cases outcome : (files.publish plain.settings).1.value with
      | error fault =>
        rw [Options.code_run_of_error publishes' outcome,
          Options.code_run_of_error publishes outcome]
      | ok report =>
        -- All paths are texts, so the data is written.
        have writable := Report.json?_ne_none_iff.mpr (texts plain report rfl outcome)
        rw [Options.code_run_of_ok publishes' outcome, Options.code_run_of_ok publishes outcome,
          if_neg (by simp [writable]), if_neg (by simp [isPlain])]
    · cases same
      -- A path that is no text leaves the data unwritten, and the summary does not care.
      have unwritable := not_not.mp (mt Report.json?_ne_none_iff.mp noText)
      rw [Options.code_run_of_ok publishes' published, Options.code_run_of_ok publishes published,
        if_pos ⟨rfl, unwritable⟩, if_neg (by simp [isPlain])]
      exact ⟨rfl, rfl⟩

/-- A terminal without colours. -/
def dull : Terminal :=
  { milliseconds := "0" }

/-- Arguments that name the working directory and an output in it. -/
def publishingTo (output : Bytes) : List Bytes :=
  [Utf8.encode "--content-dir", Utf8.encode ".", Utf8.encode "--output", output]

/-- Published to a name that is no text, the generated module is there either way, but its report
cannot be had as data. -/
theorem json_changes_what_is_shown_garbled :
    (runCommand (Flag.json.argument :: publishingTo [0xFF]) .duet dull).2 =
        (runCommand (publishingTo [0xFF]) .duet dull).2 ∧
      (runCommand (Flag.json.argument :: publishingTo [0xFF]) .duet dull).1.code = 1 ∧
      (runCommand (publishingTo [0xFF]) .duet dull).1.code = 0 := by
  let options : Options := { contentDir := some (.ofString "."), output := some ⟨[0xFF]⟩ }
  -- The two options name the working directory and the output, and nothing else is given.
  have understood : Options.parse (publishingTo [0xFF]) = .ok options := by decide +kernel
  obtain ⟨report, published⟩ := FileSystem.exists_of_isOk
    (by decide +kernel : (FileSystem.duet.publish options.settings).1.value.isOk = true)
  have output : (FileSystem.duet.publish options.settings).1.value.toOption.map Report.output =
      some ⟨[0xFF]⟩ := by decide +kernel
  -- The output path alone is in the way.
  have noText : ¬ report.IsText := by
    rintro ⟨legible, -⟩
    rw [published] at output
    rw [Option.some.inj output] at legible
    revert legible
    decide
  obtain ⟨files, -, codes⟩ := json_changes_what_is_shown (publishingTo [0xFF]) .duet dull
    (fun other understood' => by
      cases understood.symm.trans understood'
      exact ⟨rfl, rfl⟩)
    fun found read asks => by
      cases (by decide +kernel : occurrences (publishingTo [0xFF]) =
        .ok [.value .contentDir (Utf8.encode "."), .value .output [0xFF]]).symm.trans read
      simp at asks
  exact ⟨files, codes options report understood published noText⟩

/-- The working directory of a content module and of a link to nothing whose name is no text. -/
def astray : FileSystem :=
  let files := FileSystem.holding [("A.elm", .file [])]
  files.put (files.workDir.child [0xFF]) (.link (.ofString "gone"))

/-- Past a link that is set aside a run succeeds, but with its report asked for as data it fails
after it has written the generated module. -/
theorem json_fails_past_link :
    (runCommand (publishingTo (Utf8.encode "Made.txt")) astray dull).1.code = 0 ∧
      (runCommand (Flag.json.argument :: publishingTo (Utf8.encode "Made.txt")) astray
        dull).1.code = 1 ∧
      ((runCommand (Flag.json.argument :: publishingTo (Utf8.encode "Made.txt")) astray
        dull).2.read? (.ofString "Made.txt")).isSome = true := by
  decide +kernel

end Switchboard
