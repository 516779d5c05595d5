import Switchboard.Files.Walk

/-! Making directories, links and other entries, writing files, and removing entries. -/

namespace Switchboard

namespace Path

/-- The path itself and the paths above it, up to a given number. -/
def lineageUpTo : Nat → Path → List Path
  -- The empty path is where relative paths start and is not counted.
  | 0, _ => []
  | limit + 1, path =>
    if path.bytes = [] then []
    else path :: match path.parent? with
      | none => []
      | some above => lineageUpTo limit above

/-- The path itself and all paths above it, the nearest first. -/
def lineage (path : Path) : List Path :=
  -- A path above is shorter, so there are no more of them than bytes.
  lineageUpTo path.bytes.length path

end Path

namespace FileSystem

/-! ### New entries -/

/-- The place a new entry of some name would take in a directory, if nothing stands there. -/
def vacancyIn (files : FileSystem) (directory : Place) (name : Bytes) : Except OsError Place :=
  -- The name is not followed, so even a link that leads nowhere is in the way.
  if files.entry? directory ≠ some .directory then .error .notDirectory
  else if name = Path.dot ∨ name = Path.dotDot then .error .alreadyExists
  else if Path.maxName < name.length then .error .nameTooLong
  else if (files.entry? (directory.child name)).isSome then .error .alreadyExists
  else .ok (directory.child name)

/-- The place a new entry at a path would take, if nothing stands there. -/
def vacancy (files : FileSystem) (path : Path) : Except OsError Place :=
  -- The root has no name, and it always stands.
  match path.refusal? with
  | some refusal => .error refusal
  | none =>
    match path.names.getLast? with
    | none => .error .alreadyExists
    | some last =>
      match files.walk maxLinks (path.start files.workDir) path.names.dropLast with
      | .error refusal => .error refusal
      | .ok directory => files.vacancyIn directory last

/-- Makes a new entry at a path. -/
def make (files : FileSystem) (path : Path) (entry : Entry) : Except OsError FileSystem :=
  (files.vacancy path).map fun place => files.put place entry

/-- The place a new entry at a path would take, given the path above it and where that one leads. -/
def vacancyBelow (files : FileSystem) (above : Path) (directory : Place) (path : Path) :
    Except OsError Place :=
  -- If one name leads on from the path above, the way to the directory need not be walked again.
  match path.names.drop above.names.length with
  | [name] => files.vacancyIn directory name
  | _ => files.vacancy path

/-- The place of a directory that is in the way of a new one, which is as good as the new one. -/
def standing (files : FileSystem) (path : Path) (refusal : OsError) : Except OsError Place :=
  -- Anything else in the way leaves the refusal as it is.
  match files.resolve path with
  | .ok place => if files.entry? place = some .directory then .ok place else .error refusal
  | .error _ => .error refusal

/-- Makes the first directory of a list after those behind it, as far as they are missing, and tells
where it stands. -/
def makeEach : List Path → FileSystem → Except OsError Place × FileSystem
  -- Directories made before a refusal stay, and relative paths start in the working directory.
  | [], files => (.ok files.workDir, files)
  | path :: above, files =>
    match files.vacancy path with
    | .ok place => (.ok place, files.put place .directory)
    | .error .notFound =>
      match makeEach above files with
      | (.error refusal, reached) => (.error refusal, reached)
      | (.ok directory, reached) =>
        match reached.vacancyBelow (above.headD ⟨[]⟩) directory path with
        | .ok place => (.ok place, reached.put place .directory)
        | .error refusal => (reached.standing path refusal, reached)
    | .error refusal => (files.standing path refusal, files)

/-- Makes a directory and all directories above it that are missing. -/
def makeDirectories (files : FileSystem) (path : Path) : Except OsError Unit × FileSystem :=
  let (outcome, reached) := makeEach path.lineage files
  (outcome.map fun _ => (), reached)

/-- Makes the directories above a path that are missing, if the path names any. -/
def makeParents (files : FileSystem) (path : Path) : Except OsError Unit × FileSystem :=
  match path.parent? with
  | some above => files.makeDirectories above
  | none => (.ok (), files)

/-! ### Writing -/

/-- Follows names to the place a file is written at, and hands over to `jump` at the first link. -/
def landTo (files : FileSystem) (jump : Place → List Bytes → Bool → Except OsError Place) :
    Place → List Bytes → Bool → Except OsError Place
  -- The last name may be missing, and a slash behind it asks for a directory, which is no file.
  | _, [], _ => .error .isDirectory
  | here, [last], slashed =>
    if files.entry? here ≠ some .directory then .error .notDirectory
    else if last = Path.dot ∨ last = Path.dotDot ∨ slashed then .error .isDirectory
    else if Path.maxName < last.length then .error .nameTooLong
    else match files.entry? (here.child last) with
      | some (.link target) => jump (target.start here) target.names target.endsInSlash
      | some .directory => .error .isDirectory
      | _ => .ok (here.child last)
  | here, name :: next :: rest, slashed =>
    match files.stride here name with
    | .error refusal => .error refusal
    | .ok (.arrive place) => files.landTo jump place (next :: rest) slashed
    | .ok (.link target) => jump (target.start here) (target.steps ++ next :: rest) slashed

/-- The place a file is written at, reached through at most as many links as given. -/
def land (files : FileSystem) : Nat → Place → List Bytes → Bool → Except OsError Place
  -- Each link uses up one of the links allowed.
  | 0 => files.landTo fun _ _ _ => .error .tooManyLinks
  | links + 1 => files.landTo (files.land links)

/-- The place that writing to a path writes at. -/
def landing (files : FileSystem) (path : Path) : Except OsError Place :=
  match path.refusal? with
  | some refusal => .error refusal
  | none => files.land maxLinks (path.start files.workDir) path.names path.endsInSlash

/-- Writes a file, in place of what it held before. -/
def write (files : FileSystem) (path : Path) (contents : Bytes) : Except OsError FileSystem :=
  -- A pipe or a device takes the bytes and keeps nothing.
  (files.landing path).map fun place =>
    if files.entry? place = some .special then files else files.put place (.file contents)

/-! ### Removing -/

/-- Removes what stands at a path, a link as such and a directory with all it holds. -/
def remove (files : FileSystem) (path : Path) : Except OsError FileSystem :=
  match path.refusal? with
  | some refusal => .error refusal
  | none =>
    (files.walk maxLinks (path.start files.workDir) path.names.dropLast).map fun above =>
      let place := path.names.getLast?.elim above above.child
      { files with table := files.table.keepKeys fun other => !other.isWithin place }

end FileSystem

end Switchboard
