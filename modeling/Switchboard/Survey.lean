import Switchboard.Event
import Switchboard.Fault
import Switchboard.Files.Walk
import Switchboard.Noted
import Switchboard.Roster

/-!
Finding the content modules of a directory. Every entry of the directory amounts to one finding, and
the roster collects the findings.
-/

namespace Switchboard

/-- Why an entry of a content directory leads nowhere. -/
inductive DeadEnd where
  /-- The system refuses to follow it. -/
  | refused (refusal : OsError)
  /-- It leads back to the content directory itself. -/
  | loop (directory : Path)
deriving DecidableEq, Repr

/-- The wording of a dead end at a path. -/
def DeadEnd.message (path : Path) : DeadEnd → String
  -- The content directory is named as it was given.
  | refused refusal =>
    "IO error for operation on " ++ path.display ++ ": " ++ refusal.message
  | loop directory =>
    "File system loop found: " ++ path.display ++ " points to an ancestor " ++ directory.display

/-- What an entry of a content directory amounts to. -/
inductive Finding where
  /-- A file whose name gives the name of a content module. -/
  | named (name : Name) (path : Path)
  /-- A file whose name does not carry the suffix behind something else. -/
  | withoutSuffix (path : Path)
  /-- A file whose name is no text. -/
  | illegible (path : Path)
  /-- An entry that leads nowhere. -/
  | deadEnd (path : Path) (cause : DeadEnd)
  /-- A directory or anything else that is no file. -/
  | notFile (path : Path)
deriving DecidableEq, Repr

namespace Finding

/-- What is left of a text when a suffix is dropped, if the text has it. -/
def dropSuffix? (suffix text : String) : Option String :=
  -- Both are compared from the end.
  if suffix.toList.isSuffixOf text.toList then
    some (String.ofList (text.toList.take (text.toList.length - suffix.toList.length)))
  else none

/-- What a file amounts to by its name. -/
def ofFile (suffix : String) (path : Path) (name : Bytes) : Finding :=
  -- A file named like the bare suffix has no name of its own.
  match Utf8.decode name with
  | none => illegible path
  | some text =>
    match dropSuffix? suffix text with
    | none | some "" => withoutSuffix path
    | some stem => named ⟨stem⟩ path

/-- What an entry of a content directory amounts to. -/
def examine (files : FileSystem) (directory : Path) (place : Place) (suffix : String)
    (name : Bytes) : Finding :=
  -- Only a link has to be followed, and it may lead back to where it stands.
  let path := directory.join name
  match files.entry? (place.child name) with
  | some (.file _) => ofFile suffix path name
  | some (.link _) =>
    match files.resolve path with
    | .error refusal => deadEnd path (.refused refusal)
    | .ok reached =>
      match files.entry? reached with
      | some (.file _) => ofFile suffix path name
      | _ => if reached = place then deadEnd path (.loop directory) else notFile path
  | _ => notFile path

/-- The item of the roster a finding gives, if it gives one. -/
def item? : Finding → Option Item
  | named name path => some ⟨name, path⟩
  | _ => none

/-- The path a finding adds to those set aside, if it adds one. -/
def setAside? : Finding → Option Path
  -- What is no file is passed over without a trace in the roster.
  | withoutSuffix path | deadEnd path _ => some path
  | named .. | illegible _ | notFile _ => none

/-- The path of a finding that stops the run, if it does. -/
def illegible? : Finding → Option Path
  | illegible path => some path
  | _ => none

/-- What is told about a finding, given the suffix looked for. -/
def event? (suffix : String) : Finding → Option Event
  -- An illegible name is told by the failure alone.
  | named name path => some (.discovered name.text path)
  | withoutSuffix path => some (.withoutSuffix path suffix)
  | illegible _ => none
  | deadEnd path cause => some (.unresolvable path (cause.message path))
  | notFile path => some (.notFile path)

end Finding

/-- The roster of some findings. -/
def Roster.ofFindings (findings : List Finding) : Roster :=
  (Roster.ofItems (findings.filterMap Finding.item?)).settingAside
    (findings.filterMap Finding.setAside?)

namespace FileSystem

/-- The place of a content directory, or why it cannot be listed. -/
def contentPlace (files : FileSystem) (directory : Path) : Except Fault Place :=
  -- A path may lead somewhere and still not to a directory.
  match files.resolve directory with
  | .error refusal => .error (.unreadableDirectory directory refusal.message)
  | .ok place =>
    if files.entry? place = some .directory then .ok place
    else .error (.unreadableDirectory directory "not a directory")

/-- What the entries of a directory amount to, in the order they are listed. -/
def findings (files : FileSystem) (directory : Path) (place : Place) (suffix : String) :
    List Finding :=
  (files.children place).map (Finding.examine files directory place suffix)

/-- The roster of the content modules in a directory. -/
def survey (files : FileSystem) (directory : Path) (suffix : String) :
    Noted Event (Except Fault Roster) :=
  -- The first illegible name ends the search, so nothing is told about later entries.
  match files.contentPlace directory with
  | .error fault => { value := .error fault }
  | .ok place =>
    let findings := files.findings directory place suffix
    { value := match findings.findSome? Finding.illegible? with
        | some path => .error (.invalidFileName path)
        | none => .ok (.ofFindings findings)
      notes := (findings.takeWhile fun finding => finding.illegible?.isNone).filterMap
        (Finding.event? suffix) }

end FileSystem

end Switchboard
