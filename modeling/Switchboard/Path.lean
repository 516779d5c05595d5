import Switchboard.Text.Pieces
import Switchboard.Text.Utf8

/-!
Paths as byte strings: their components and order, the path above them, their last name and their
spelling when a name is added.
-/

namespace Switchboard

/-- A path, spelled in bytes that need not be a text. -/
structure Path where
  bytes : Bytes
deriving DecidableEq, Repr, Inhabited

namespace Path

/-- The byte between two names of a path. -/
def slash : UInt8 := 0x2F

/-- The name of a directory inside itself. -/
def dot : Bytes := [0x2E]

/-- The name of the directory above. -/
def dotDot : Bytes := [0x2E, 0x2E]

/-- The path a text spells. -/
def ofString (text : String) : Path :=
  ⟨Utf8.encode text⟩

/-- The spelling of a path for display. -/
def display (path : Path) : String :=
  Utf8.lossy path.bytes

/-- The spelling of a path as a text, if it is one. -/
def text? (path : Path) : Option String :=
  Utf8.decode path.bytes

/-- What stands between the slashes of a path. -/
def spelled (path : Path) : List Bytes :=
  pieces slash path.bytes

/-! ### Components and order -/

/-- One step of a path: the root, the working directory, the directory above, or a name. -/
inductive Component where
  | root
  | here
  | up
  | name (bytes : Bytes)
deriving DecidableEq, Repr

namespace Component

/-- The place of each kind of component in the order. -/
def rank : Component → Nat
  -- The root comes first and names last.
  | root => 0
  | here => 1
  | up => 2
  | name _ => 3

/-- The bytes that order two names. -/
def key : Component → Bytes
  -- Only names differ within their kind.
  | name bytes => bytes
  | _ => []

/-- Components are ordered by kind, and names among themselves by their bytes. -/
instance : Ord Component where
  compare left right := (compare left.rank right.rank).then (compare left.key right.key)

end Component

/-- The component a piece after the first one stands for. -/
def component? (piece : Bytes) : Option Component :=
  -- Doubled slashes and inner dots say nothing.
  if piece = [] ∨ piece = dot then none
  else if piece = dotDot then some .up
  else some (.name piece)

/-- The component a path begins with, seen at its first piece. -/
def firstComponent? (path : Path) (first : Bytes) : Option Component :=
  -- An empty first piece is a leading slash unless the whole path is empty.
  if first = [] then if path.bytes = [] then none else some .root
  else if first = dot then some .here
  else component? first

/-- The steps of a path in order. -/
def components (path : Path) : List Component :=
  -- A dot counts only at the very start of a relative path.
  match path.spelled with
  | [] => []
  | first :: rest => (path.firstComponent? first).toList ++ rest.filterMap component?

/-- Paths are ordered by their components and not by their spelling. -/
instance : Ord Path where
  compare left right := compare left.components right.components

/-! ### Parts of a path -/

/-- Whether a piece is a real step, and not one that a path may drop. -/
def isStep (piece : Bytes) : Bool :=
  piece != [] && piece != dot

/-- Drops the pieces at the end that are no steps. -/
def trimEnd (spelling : List Bytes) : List Bytes :=
  -- The end of a list is the start of its reverse.
  (spelling.reverse.dropWhile fun piece => !isStep piece).reverse

/-- The pieces that stay when the last step goes, if there is a step. -/
def withoutLastStep (spelling : List Bytes) : Option (List Bytes) :=
  -- What is left is trimmed again, so it ends in the step before.
  match (trimEnd spelling).reverse with
  | [] => none
  | _ :: before => some (trimEnd before.reverse)

/-- Spells pieces with slashes between them. -/
def ofPieces (spelling : List Bytes) : Path :=
  ⟨[slash].intercalate spelling⟩

/-- The path of the directory that holds what a path names, with its own spelling kept. -/
def parent? (path : Path) : Option Path :=
  -- The start of an absolute path or a leading dot is kept as it stands.
  match path.spelled with
  | [] => none
  | first :: rest =>
    match withoutLastStep rest with
    | some before =>
      some (if first = [] && before = [] then ⟨[slash]⟩ else ofPieces (first :: before))
    | none => if first = [] then none else some ⟨[]⟩

/-- The last name of a path, if its last step is a name. -/
def fileName? (path : Path) : Option Bytes :=
  -- The root, a dot and the directory above have no name of their own.
  match path.components.getLast? with
  | some (.name bytes) => some bytes
  | _ => none

/-- The path of an entry of a directory. -/
def join (directory : Path) (name : Bytes) : Path :=
  -- A slash goes between them unless the directory already ends in one.
  match directory.bytes.getLast? with
  | none => ⟨name⟩
  | some last => ⟨directory.bytes ++ (if last = slash then [] else [slash]) ++ name⟩

end Path

end Switchboard
