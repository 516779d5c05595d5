import Switchboard.Path
import Switchboard.Table

/-! File systems as tables from places to entries. -/

namespace Switchboard

/-- A place in a file system, by the names that lead to it from the root, the last one first. -/
structure Place where
  names : List Bytes
  /-- How many names there are, so that places at different depths differ at a glance. -/
  depth : Nat
  depth_eq : depth = names.length

namespace Place

/-- The place that names lead to, the last one first. -/
def ofNames (names : List Bytes) : Place :=
  ⟨names, names.length, rfl⟩

/-- The place that no name leads to. -/
def root : Place :=
  ofNames []

/-- The place that one more name leads to. -/
def child (place : Place) (name : Bytes) : Place :=
  ⟨name :: place.names, place.depth + 1, by rw [place.depth_eq, List.length_cons]⟩

/-- The place one name less leads to, which for the root is the root. -/
def parent (place : Place) : Place :=
  ⟨place.names.tail, place.depth - 1, by rw [place.depth_eq, List.length_tail]⟩

/-- Places with the same names are the same. -/
theorem eq_of_names {left right : Place} (same : left.names = right.names) : left = right := by
  -- The depth is the number of names.
  obtain ⟨names, depth, counted⟩ := left
  obtain ⟨others, other, recounted⟩ := right
  subst same counted recounted
  rfl

/-- Depths are compared before names. -/
instance : BEq Place where
  beq left right := left.depth == right.depth && left.names == right.names

instance : LawfulBEq Place where
  eq_of_beq same := eq_of_names (eq_of_beq (Bool.and_eq_true_iff.mp same).2)
  rfl := Bool.and_eq_true_iff.mpr ⟨beq_self_eq_true _, beq_self_eq_true _⟩

instance : DecidableEq Place := fun _ _ =>
  decidable_of_iff _ beq_iff_eq

instance : Repr Place where
  reprPrec place := reprPrec place.names

/-- Whether a place is another one or lies somewhere below it. -/
def isWithin (place above : Place) : Bool :=
  above.names.isSuffixOf place.names

end Place

/-- What stands at a place. -/
inductive Entry where
  /-- A regular file with its contents. -/
  | file (contents : Bytes)
  | directory
  /-- A symbolic link with the path it stands for. -/
  | link (target : Path)
  /-- Anything else, such as a pipe. -/
  | special
deriving DecidableEq, Repr

/-- The entries of a file system, in the order directories list them, and the working directory. -/
structure FileSystem where
  table : Table Place Entry
  workDir : Place

namespace FileSystem

/-- What stands at a place, the root always being a directory. -/
def entry? (files : FileSystem) (place : Place) : Option Entry :=
  if place == .root then some .directory else files.table.get? place

/-- The file system with an entry put at a place. -/
def put (files : FileSystem) (place : Place) (entry : Entry) : FileSystem :=
  { files with table := files.table.put place entry }

/-- The name of a place within a directory, if the place lies directly in it. -/
def childName? (directory place : Place) : Option Bytes :=
  -- The last name comes first, and the rest leads to the place above.
  if place.parent == directory then place.names.head? else none

/-- The names in a directory, in the order the directory lists them. -/
def children (files : FileSystem) (directory : Place) : List Bytes :=
  files.table.keys.filterMap (childName? directory)

/-- The places from just below the root down to where names lead, the last name first. -/
def wayTo : List Bytes → List Place
  | [] => []
  | name :: above => wayTo above ++ [.ofNames (name :: above)]

/-- The file system that holds nothing but the null device and the way to its working directory. -/
def bare (workDir : Place) : FileSystem :=
  let devices := Place.root.child (Utf8.encode "dev")
  let device := devices.child (Utf8.encode "null")
  -- Every place above the working directory is a directory too.
  { table := (wayTo workDir.names).foldl (fun table place => table.put place .directory)
      ((Table.empty.put devices .directory).put device .special)
    workDir := workDir }

/-- Everything below the working directory, by its path from there. -/
def below (files : FileSystem) : List (Path × Entry) :=
  -- The names that lead on from the working directory come first in a place, last one first.
  files.table.entries.filterMap fun (place, entry) =>
    if place.isWithin files.workDir && place != files.workDir then
      some (.ofPieces (place.names.take (place.depth - files.workDir.depth)).reverse, entry)
    else none

end FileSystem

end Switchboard
