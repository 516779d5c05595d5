import Switchboard.Json
import Switchboard.Report

/-!
Rosters, remarks and reports as written data. Paths are written as texts, so there is no written
form of anything with a path that is no text.
-/

namespace Switchboard

/-- Why something has no written form. -/
def notWritableMessage : String :=
  "path contains invalid UTF-8 characters"

/-- An item as written data, if its path is a text. -/
def Item.json? (item : Item) : Option Json :=
  item.source.text?.map fun source =>
    .record [("identifier", .text item.name.text), ("source_path", .text source)]

/-- A roster as written data, if all its paths are texts. -/
def Roster.json? (roster : Roster) : Option Json :=
  -- The items come before the paths set aside.
  match roster.items.mapM Item.json?, roster.setAside.mapM Path.text? with
  | some items, some paths =>
    some (.record [("units", .list items), ("skipped", .list (paths.map .text))])
  | _, _ => none

/-- A remark as written data, if its path is a text. -/
def Remark.json? : Remark → Option Json
  -- The kind comes first, and what the remark is about follows.
  | .emptyRoster => some (.record [("kind", .text "empty_registry")])
  | .invalidName name =>
    some (.record [("kind", .text "invalid_identifier"), ("identifier", .text name.text)])
  | .setAside path => path.text?.map fun text =>
      .record [("kind", .text "skipped_file"), ("path", .text text)]

/-- A report as written data, if all its paths are texts. -/
def Report.json? (report : Report) : Option Json :=
  -- One path that is no text is enough for there to be no written form.
  match report.output.text?, report.remarks.mapM Remark.json? with
  | some output, some remarks =>
    some (.record [("output", .text output),
      ("units", .list (report.names.map fun name => .text name.text)),
      ("lints", .list remarks), ("bytes", .number report.bytes)])
  | _, _ => none

end Switchboard
