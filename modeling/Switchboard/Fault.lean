import Switchboard.Path

/-! The reasons a run fails, with their wording. -/

namespace Switchboard

/-- The reason a run fails. -/
inductive Fault where
  /-- The content directory cannot be listed. -/
  | unreadableDirectory (path : Path) (reason : String)
  /-- A content file has a name that is no text. -/
  | invalidFileName (path : Path)
  /-- A directory cannot be made or a file cannot be written. -/
  | unwritable (path : Path) (reason : String)
deriving DecidableEq, Repr

namespace Fault

/-- The wording of a failure. -/
def message : Fault → String
  -- Paths stand as they are displayed.
  | unreadableDirectory path reason =>
    "Failed to read content directory '" ++ path.display ++ "': " ++ reason
  | invalidFileName path => "Content file name is not valid UTF-8: " ++ path.display
  | unwritable path reason => "Failed to write '" ++ path.display ++ "': " ++ reason

/-- The code a failure is looked up under. -/
def code : Fault → String
  -- The middle part names the stage that fails.
  | unreadableDirectory .. => "metacontent::discover::unreadable_dir"
  | invalidFileName .. => "metacontent::discover::invalid_file_name"
  | unwritable .. => "metacontent::io::write_error"

/-- What to do about a failure, where there is advice. -/
def help? : Fault → Option String
  -- Nothing general helps against a failed write.
  | unreadableDirectory .. =>
    some "Content modules are expected one per file, e.g. src/Content/Clock.elm"
  | invalidFileName .. => some "Rename the file so its name is a valid module name"
  | unwritable .. => none

end Fault

end Switchboard
