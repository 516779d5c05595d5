import Switchboard.Files.FileSystem
import Switchboard.Files.Walk

/-!
File systems written down as text, one entry per line: a letter for the kind, the path below the
working directory and, for a link, its target, with tabs between them.
-/

namespace Switchboard

namespace Manifest

/-- The entry a line stands for, with the path it stands at. -/
def entry? (line : String) : Option (Path × Entry) :=
  -- Any letter that is not known stands for something that is neither file, directory nor link.
  match (pieces '\t' line.toList).map String.ofList with
  | kind :: path :: rest =>
    let entry := match kind with
      | "f" => .file []
      | "d" => .directory
      | "l" => .link (.ofString (rest.headD ""))
      | _ => .special
    some (.ofString path, entry)
  | _ => none

/-- The file system with an entry put at a path below its working directory. -/
def add (files : FileSystem) (entry : Path × Entry) : FileSystem :=
  files.put (.ofNames (entry.1.names.reverse ++ files.workDir.names)) entry.2

/-- The file system that some lines stand for. -/
def read (lines : List String) : FileSystem :=
  (lines.filterMap entry?).foldl add (.bare (.ofNames [Utf8.encode "work"]))

end Manifest

/-- What is new or different below the working directory after a change. -/
def FileSystem.changes (before after : FileSystem) : List (Path × Entry) :=
  after.below.filter fun entry => !before.below.contains entry

end Switchboard
