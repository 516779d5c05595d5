import Switchboard.Roster

/-! Remarks about a roster that do not stop a run. -/

namespace Switchboard

/-- A remark about a roster. -/
inductive Remark where
  /-- There is no content module, so the generated unions and cases are empty. -/
  | emptyRoster
  /-- The name cannot be spelled as a module or a constructor. -/
  | invalidName (name : Name)
  /-- The path was seen in the content directory but gives no content module. -/
  | setAside (path : Path)
deriving DecidableEq, Repr

namespace Remark

/-- The wording of a remark. -/
def message : Remark → String
  -- Names stand as they are, and paths as they are displayed.
  | emptyRoster => "No content modules found; the generated module will not compile"
  | invalidName name =>
    "'" ++ name.text ++ "' is not a valid module name; the generated module will not compile"
  | setAside path =>
    "Skipped '" ++ path.display ++ "': not a readable file with the content suffix"

end Remark

/-- All remarks about a roster: on emptiness, then on names, then on paths set aside. -/
def Roster.remarks (roster : Roster) : List Remark :=
  -- Names and paths are remarked on in the order the roster holds them.
  (if roster.isEmpty then [.emptyRoster] else []) ++
    (roster.names.filter fun name => !name.isSpellable).map .invalidName ++
    roster.setAside.map .setAside

end Switchboard
