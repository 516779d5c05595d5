import Switchboard.Proofs.CommandLine.Modes
import Switchboard.Proofs.Json
import Switchboard.Proofs.Text.Decoding

/-!
Reports read back from the data they are shown as. Main statement: a report with paths that are
texts is the only one that is shown as its data, and a reader finds it there.
-/

namespace Switchboard

/-! ### From data to reports -/

/-- The name that data stands for. -/
def Name.ofJson? : Json → Option Name
  | .text text => some ⟨text⟩
  | _ => none

/-- The remark that data stands for. -/
def Remark.ofJson? : Json → Option Remark
  | .record [("kind", .text "empty_registry")] => some .emptyRoster
  | .record [("kind", .text "invalid_identifier"), ("identifier", .text name)] =>
    some (.invalidName ⟨name⟩)
  | .record [("kind", .text "skipped_file"), ("path", .text path)] =>
    some (.setAside (.ofString path))
  | _ => none

/-- The report that data stands for. -/
def Report.ofJson? : Json → Option Report
  | .record [("output", .text output), ("units", .list names), ("lints", .list remarks),
      ("bytes", .number bytes)] =>
    match names.mapM Name.ofJson?, remarks.mapM Remark.ofJson? with
    | some names, some remarks => some ⟨.ofString output, names, remarks, bytes⟩
    | _, _ => none
  | _ => none

/-- The report that is shown as some text, if there is one. -/
def Report.ofData? (text : String) : Option Report :=
  -- The reader passes over what keeps values apart, so the text is compared in the end.
  ((Json.read? text).bind ofJson?).filter fun report =>
    Outcome.ofReportData report = { code := 0, stdout := text }

/-! ### Reading back -/

/-- A path that is a text is the one its text spells. -/
theorem Path.ofString_of_text? {path : Path} {text : String} (legible : path.text? = some text) :
    Path.ofString text = path := by
  -- Decoding succeeds only on the bytes that the text is encoded as.
  have stored : path.bytes = Utf8.encode text := Utf8.decode_eq_some_iff.mp legible
  rw [ofString, ← stored]

/-- A remark is read back from its data. -/
theorem Remark.ofJson?_of_json? {remark : Remark} {json : Json}
    (written : remark.json? = some json) : ofJson? json = some remark := by
  -- The kinds of remarks are told apart by the text under the first key.
  cases remark with
  | emptyRoster =>
    cases written
    rfl
  | invalidName name =>
    cases written
    rfl
  | setAside path =>
    -- This kind alone may have no written form, namely when its path is no text.
    obtain ⟨text, legible, rfl⟩ := Option.map_eq_some_iff.mp written
    rw [← Path.ofString_of_text? legible]
    rfl

/-- Items that are written one by one are read back one by one. -/
theorem mapM_of_mapM {α β : Type} {write : α → Option β} {read : β → Option α}
    (back : ∀ {item : α} {data : β}, write item = some data → read data = some item)
    {items : List α} {written : List β} (all : items.mapM write = some written) :
    written.mapM read = some items := by
  induction items generalizing written with
  | nil =>
    cases all
    rfl
  | cons item rest ih =>
    rw [List.mapM_cons] at all
    obtain ⟨data, first, all⟩ := Option.bind_eq_some_iff.mp all
    -- The first item and the others were written without a failure each.
    obtain ⟨others, later, same⟩ := Option.bind_eq_some_iff.mp all
    cases same
    rw [List.mapM_cons, back first, ih later]
    rfl

/-- A report is read back from its data. -/
theorem Report.ofJson?_of_json? {report : Report} {json : Json}
    (written : report.json? = some json) : ofJson? json = some report := by
  unfold json? at written
  -- A report is written only if its path and all its remarks are.
  split at written
  · rename_i output remarks legible data
    cases written
    -- Names are always written, and read back one by one.
    have names : (report.names.map fun name => Json.text name.text).mapM Name.ofJson? =
        some report.names := by
      rw [List.mapM_map]
      exact List.mapM_pure.trans (congrArg some (List.map_id _))
    simp only [ofJson?, names, mapM_of_mapM Remark.ofJson?_of_json? data,
      Path.ofString_of_text? legible]
  · cases written

/-- A text is read as a report exactly if the report is shown as that text. -/
theorem Report.ofData?_eq_some_iff {text : String} {report : Report} :
    ofData? text = some report ↔
      Outcome.ofReportData report = { code := 0, stdout := text } := by
  rw [ofData?, Option.filter_eq_some_iff, decide_eq_true_iff, and_iff_right_iff_imp]
  intro shown
  -- Only a report with a written form is shown without a failure.
  unfold Outcome.ofReportData at shown
  split at shown
  · rename_i json written
    cases shown
    -- What is printed for a written form is read as that form.
    rw [Json.read?_pretty, Option.bind_some, ofJson?_of_json? written]
  · cases shown

/-- A report with paths that are texts is shown without a failure. -/
theorem Report.IsText.exists_data {report : Report} (legible : report.IsText) :
    ∃ text, Outcome.ofReportData report = { code := 0, stdout := text } := by
  -- Texts are all that a written form asks for.
  obtain ⟨json, written⟩ := Option.ne_none_iff_exists'.mp (json?_ne_none_iff.mpr legible)
  refine ⟨json.pretty ++ "\n", ?_⟩
  simp only [Outcome.ofReportData, written]

/-- A text is read as a report exactly if that report is shown as the text and the run succeeds. A
report whose paths are texts is shown in this way, so what is printed is read back as the report,
and two such reports that are printed alike have the same output path, names, remarks and size. -/
theorem Report.data_reads_back :
    (∀ (text : String) (report : Report), ofData? text = some report ↔
      Outcome.ofReportData report = { code := 0, stdout := text }) ∧
    (∀ report : Report, report.IsText →
      ofData? (Outcome.ofReportData report).stdout = some report) ∧
    ∀ report other : Report, report.IsText → other.IsText →
      (Outcome.ofReportData report).stdout = (Outcome.ofReportData other).stdout →
      report.output = other.output ∧ report.names = other.names ∧
        report.remarks = other.remarks ∧ report.bytes = other.bytes := by
  have back (report : Report) (legible : report.IsText) :
      ofData? (Outcome.ofReportData report).stdout = some report := by
    obtain ⟨text, shown⟩ := legible.exists_data
    rw [shown]
    exact ofData?_eq_some_iff.mpr shown
  refine ⟨fun _ _ => ofData?_eq_some_iff, back, fun report other legible legible' same => ?_⟩
  -- One text is read as one report.
  have alike : some report = some other := by rw [← back report legible, same, back other legible']
  cases alike
  exact ⟨rfl, rfl, rfl, rfl⟩

/-- A name that looks like the written form of two names is printed differently from these. -/
theorem Report.data_reads_back_lookalikes :
    let output : Path := .ofString "a\\\x01.elm"
    let aside : Path := .ofString "é"
    let report : Report := ⟨output, [⟨"A\",\n    \"B"⟩], [.setAside aside], 9⟩
    let other : Report := ⟨output, [⟨"A"⟩, ⟨"B"⟩], [.setAside aside], 9⟩
    report.IsText ∧ other.IsText ∧
      (Outcome.ofReportData report).stdout ≠ (Outcome.ofReportData other).stdout ∧
      ofData? (Outcome.ofReportData report).stdout = some report := by
  intro output aside report other
  have first : output.text?.isSome = true := by decide +kernel
  have second : aside.text?.isSome = true := by decide +kernel
  have legible : report.IsText := ⟨first, fun path member => by
    cases List.mem_singleton.mp member
    exact second⟩
  have legible' : other.IsText := ⟨first, fun path member => by
    cases List.mem_singleton.mp member
    exact second⟩
  obtain ⟨-, back, apart⟩ := data_reads_back
  refine ⟨legible, legible', fun same => ?_, back report legible⟩
  -- Alike in print they would have the same names, but they differ in number.
  obtain ⟨-, names, -⟩ := apart report other legible legible' same
  exact absurd names (by decide)

end Switchboard
