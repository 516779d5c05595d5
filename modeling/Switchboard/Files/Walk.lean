import Switchboard.Files.FileSystem
import Switchboard.Files.OsError

/-!
Following a path through a file system. Links are followed, a bounded number of times, and a path
that ends in a slash is read as if a dot stood behind the slash.
-/

namespace Switchboard

namespace Path

/-- The names of a path in order, dots included. -/
def names (path : Path) : List Bytes :=
  path.spelled.filter fun piece => piece != []

/-- Whether a path starts at the root. -/
def isAbsolute (path : Path) : Bool :=
  path.bytes.head? == some slash

/-- Whether a path ends in a slash behind a name. -/
def endsInSlash (path : Path) : Bool :=
  path.bytes.getLast? == some slash && path.names != []

/-- The names to follow in order to reach what a path names. -/
def steps (path : Path) : List Bytes :=
  -- The dot behind a final slash insists on a directory.
  path.names ++ if path.endsInSlash then [dot] else []

/-- Where a path starts, seen from a directory. -/
def start (path : Path) (here : Place) : Place :=
  if path.isAbsolute then .root else here

/-- The longest path the system takes, in bytes. -/
def maxLength : Nat := 4095

/-- The longest name the system takes, in bytes. -/
def maxName : Nat := 255

/-- Why a path is refused before it is followed, if it is. -/
def refusal? (path : Path) : Option OsError :=
  -- The zero byte is found before the system sees the path.
  if 0 ∈ path.bytes then some .zeroByte
  else if path.bytes = [] then some .notFound
  else if maxLength < path.bytes.length then some .nameTooLong
  else none

end Path

/-- Where one name leads from a directory. -/
inductive Stride where
  | arrive (place : Place)
  | link (target : Path)
deriving DecidableEq, Repr

namespace FileSystem

/-- Follows one name from a place. -/
def stride (files : FileSystem) (here : Place) (name : Bytes) : Except OsError Stride :=
  -- Only directories lead on, and the root is its own parent.
  if files.entry? here ≠ some .directory then .error .notDirectory
  else if name = Path.dot then .ok (.arrive here)
  else if name = Path.dotDot then .ok (.arrive here.parent)
  else if Path.maxName < name.length then .error .nameTooLong
  else match files.entry? (here.child name) with
    | none => .error .notFound
    | some (.link target) => .ok (.link target)
    | some _ => .ok (.arrive (here.child name))

/-- Follows names up to the first link, and hands over to `jump` there. -/
def walkTo (files : FileSystem) (jump : Place → List Bytes → Except OsError Place) :
    Place → List Bytes → Except OsError Place
  -- What is left of the names goes on behind the steps of the link's target.
  | here, [] => .ok here
  | here, name :: rest =>
    match files.stride here name with
    | .error refusal => .error refusal
    | .ok (.arrive place) => files.walkTo jump place rest
    | .ok (.link target) => jump (target.start here) (target.steps ++ rest)

/-- Follows names to the place they lead to, through at most as many links as given. -/
def walk (files : FileSystem) : Nat → Place → List Bytes → Except OsError Place
  -- Each link uses up one of the links allowed.
  | 0 => files.walkTo fun _ _ => .error .tooManyLinks
  | links + 1 => files.walkTo (files.walk links)

/-- How many links one path may lead through. -/
def maxLinks : Nat := 40

/-- The place a path leads to, with all links followed. -/
def resolve (files : FileSystem) (path : Path) : Except OsError Place :=
  match path.refusal? with
  | some refusal => .error refusal
  | none => files.walk maxLinks (path.start files.workDir) path.steps

/-- What is read where a path leads to, unless that is nothing or a directory. -/
def read? (files : FileSystem) (path : Path) : Option Bytes :=
  match files.resolve path with
  | .ok place =>
    match files.entry? place with
    | some (.file contents) => some contents
    -- A pipe or a device keeps nothing that could be read.
    | some .special => some []
    | _ => none
  | .error _ => none

end FileSystem

end Switchboard
