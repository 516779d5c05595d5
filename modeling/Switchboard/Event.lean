import Switchboard.Path

/-! What a run tells about its progress. -/

namespace Switchboard

/-- Something a run tells while it goes. -/
inductive Event where
  /-- A file gives a content module. -/
  | discovered (name : String) (path : Path)
  /-- A file does not carry the suffix. -/
  | withoutSuffix (path : Path) (suffix : String)
  /-- An entry is no file. -/
  | notFile (path : Path)
  /-- An entry leads nowhere. -/
  | unresolvable (path : Path) (reason : String)
  /-- There is a remark about the roster. -/
  | remarked (remark : String)
  /-- The generated module is put together. -/
  | assembling (count : Nat) (moduleName : String)
  /-- The generated module is on disk. -/
  | wrote (path : Path) (bytes : Nat)
deriving DecidableEq, Repr

namespace Event

/-- The wording of an event. -/
def message : Event → String
  | discovered .. => "discovered content"
  | withoutSuffix .. => "skipping file without suffix"
  | notFile .. => "skipping non-file entry"
  | unresolvable .. => "skipping unresolvable entry"
  | remarked .. => "registry lint"
  | assembling .. => "assembling document"
  | wrote .. => "wrote document"

/-- The particulars of an event, each under its name. -/
def details : Event → List (String × String)
  -- Paths are given as they are displayed and numbers in decimal.
  | discovered name path => [("identifier", name), ("path", path.display)]
  | withoutSuffix path suffix => [("path", path.display), ("suffix", suffix)]
  | notFile path => [("path", path.display)]
  | unresolvable path reason => [("error", reason), ("path", path.display)]
  | remarked remark => [("lint", remark)]
  | assembling count moduleName => [("module", moduleName), ("units", toString count)]
  | wrote path bytes => [("bytes", toString bytes), ("path", path.display)]

end Event

end Switchboard
