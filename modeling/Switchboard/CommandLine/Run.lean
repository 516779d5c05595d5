import Switchboard.CommandLine.Help
import Switchboard.Publication
import Switchboard.Summary
import Switchboard.Written

/-! Runs of the command line, from arguments and a file system to an exit code and printed text. -/

namespace Switchboard

/-- How a run of the command line ends. -/
structure Outcome where
  /-- Zero for success, one for a failed run and two for arguments that are not understood. -/
  code : Nat
  /-- What is printed. -/
  stdout : String := ""
  /-- What is complained about. -/
  complaint : Option String := none
  /-- What is told about the progress of the run, if that was asked for. -/
  told : List Event := []
deriving DecidableEq, Repr

/-- How a terminal shows a run. -/
structure Terminal where
  /-- Whether it shows colours. -/
  coloured : Bool := false
  /-- How long the run took, in milliseconds. -/
  milliseconds : String

namespace Outcome

/-- A run that failed, which prints nothing. -/
def ofFault (fault : Fault) : Outcome :=
  { code := 1, complaint := some fault.message }

/-- Shows a report as written data. -/
def ofReportData (report : Report) : Outcome :=
  -- A path that is no text has no written form, and then the run fails after all.
  match report.json? with
  | some json => { code := 0, stdout := json.pretty ++ "\n" }
  | none => { code := 1, complaint := some notWritableMessage }

/-- Shows a report as a summary. -/
def ofReportSummary (terminal : Terminal) (report : Report) : Outcome :=
  { code := 0, stdout := Summary.text terminal.coloured report terminal.milliseconds }

/-- What comes of arguments that are not run. -/
def ofDeclined (terminal : Terminal) : Declined → Outcome
  | .help => { code := 0, stdout := Help.text terminal.coloured }
  | .misuse misuse => { code := 2, complaint := some misuse.message }

end Outcome

/-- The outcome of a run whose result is shown by `present`. -/
def Options.conclude {α : Type} (options : Options) (present : α → Outcome)
    (result : Noted Event (Except Fault α)) : Outcome :=
  -- Progress is told beside the outcome and only if asked for.
  let outcome := match result.value with
    | .error fault => Outcome.ofFault fault
    | .ok value => present value
  { outcome with told := if options.verbose then result.notes else [] }

/-- Runs what options ask for. -/
def Options.run (options : Options) (files : FileSystem) (terminal : Terminal) :
    Outcome × FileSystem :=
  -- Printing the generated module takes the place of writing it.
  match options.mode with
  | .stdout =>
    (options.conclude (fun drafted => { code := 0, stdout := drafted.1.contents })
      (files.draft options.settings), files)
  | .json =>
    let (result, written) := files.publish options.settings
    (options.conclude .ofReportData result, written)
  | .summary =>
    let (result, written) := files.publish options.settings
    (options.conclude (.ofReportSummary terminal) result, written)

/-- Runs a command line on a file system. -/
def runCommand (arguments : List Bytes) (files : FileSystem) (terminal : Terminal) :
    Outcome × FileSystem :=
  -- Arguments that are not run change nothing.
  match Options.parse arguments with
  | .error declined => (.ofDeclined terminal declined, files)
  | .ok options => options.run files terminal

end Switchboard
