import Switchboard.Survey
import Switchboard.Document
import Switchboard.Files.Write
import Switchboard.Report

/-! Runs from the content directory to the generated module, without and with writing it. -/

namespace Switchboard

/-- The generated module of a roster with its report, and what is told on the way. -/
def Roster.draft (roster : Roster) (settings : Settings) :
    Noted Event (Document × Report) :=
  let document := roster.document settings
  { value := (document,
      { output := document.path
        names := roster.names
        remarks := roster.remarks
        bytes := (Utf8.encode document.contents).length })
    notes := roster.remarks.map (fun remark => .remarked remark.message) ++
      [.assembling roster.size settings.moduleName] }

namespace FileSystem

/-- The generated module of a content directory and its report. Nothing is written. -/
def draft (files : FileSystem) (settings : Settings) :
    Noted Event (Except Fault (Document × Report)) :=
  -- What is told while looking comes before what is told while putting together.
  let found := files.survey settings.contentDir settings.suffix
  match found.value with
  | .error fault => { value := .error fault, notes := found.notes }
  | .ok roster =>
    let drafted := roster.draft settings
    { value := .ok drafted.value, notes := found.notes ++ drafted.notes }

/-- Writes a generated module to its path, with the directories above it made where missing. -/
def save (files : FileSystem) (document : Document) :
    Noted Event (Except Fault Unit) × FileSystem :=
  -- A failure names the path that was being made: the directory, or the file itself.
  match files.makeParents document.path with
  | (.error refusal, reached) =>
    ({ value := .error (.unwritable (document.path.parent?.getD ⟨[]⟩) refusal.message) }, reached)
  | (.ok (), reached) =>
    match reached.write document.path (Utf8.encode document.contents) with
    | .error refusal => ({ value := .error (.unwritable document.path refusal.message) }, reached)
    | .ok written =>
      ({ value := .ok ()
         notes := [.wrote document.path (Utf8.encode document.contents).length] }, written)

/-- Generates the module of a content directory and writes it. -/
def publish (files : FileSystem) (settings : Settings) :
    Noted Event (Except Fault Report) × FileSystem :=
  -- Nothing is written unless there is something to write.
  let drafted := files.draft settings
  match drafted.value with
  | .error fault => ({ value := .error fault, notes := drafted.notes }, files)
  | .ok (document, report) =>
    let (outcome, written) := files.save document
    ({ value := outcome.value.map fun _ => report
       notes := drafted.notes ++ outcome.notes }, written)

end FileSystem

end Switchboard
