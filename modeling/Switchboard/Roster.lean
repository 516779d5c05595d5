import Switchboard.Name
import Switchboard.Path

/-! The ordered list of content modules that every part of a generated module is derived from. -/

namespace Switchboard

/-- One content module: its name and the file the name was taken from. -/
structure Item where
  name : Name
  source : Path
deriving DecidableEq, Repr, Inhabited

/-- The content modules of a run, and the paths that were seen but are none. -/
structure Roster where
  items : List Item := []
  setAside : List Path := []
deriving DecidableEq, Repr, Inhabited

namespace Roster

/-- Whether an item may stand before another one. -/
def precedes (left right : Item) : Bool :=
  -- Only the names count, so items of one name keep the order they came in.
  (compare left.name right.name).isLE

/-- The roster of some items, sorted by name and stable among equal names. -/
def ofItems (items : List Item) : Roster :=
  -- Sorting makes the outcome independent of the order a directory is listed in.
  { items := items.mergeSort precedes }

/-- The roster of names that come from no file. -/
def ofNames (names : List Name) : Roster :=
  ofItems (names.map fun name => ⟨name, ⟨[]⟩⟩)

/-- Replaces the paths set aside by the given ones, sorted by components and stable among equals. -/
def settingAside (roster : Roster) (paths : List Path) : Roster :=
  -- The items are not touched.
  { roster with setAside := paths.mergeSort fun left right => (compare left right).isLE }

/-- The names of the content modules in order. -/
def names (roster : Roster) : List Name :=
  roster.items.map Item.name

/-- The number of content modules. -/
def size (roster : Roster) : Nat :=
  roster.items.length

/-- Whether there are no content modules. -/
def isEmpty (roster : Roster) : Bool :=
  roster.items.isEmpty

end Roster

end Switchboard
