import Mathlib.Data.List.Nodup
import Switchboard.Files.Walk
import Switchboard.Proofs.Table

/-!
The entries that a directory lists, and file systems that differ only in the order they list them.
-/

namespace Switchboard

namespace Place

/-- The place above a child is the place itself. -/
@[simp] theorem parent_child (place : Place) (name : Bytes) : (place.child name).parent = place :=
  eq_of_names rfl

/-- A child is not the root. -/
theorem child_ne_root (place : Place) (name : Bytes) : place.child name ≠ root := by
  -- Its names are not none.
  intro same
  cases congrArg names same

/-- A child is not the place it is in. -/
theorem child_ne_self (place : Place) (name : Bytes) : place.child name ≠ place := by
  -- It is one level further down.
  intro same
  have depths := congrArg depth same
  exact absurd depths (Nat.succ_ne_self _)

end Place

namespace FileSystem

variable {files other : FileSystem}

/-- A place lies in a directory under a name exactly if it is the child of that name. -/
theorem childName?_eq_some_iff {directory place : Place} {name : Bytes} :
    childName? directory place = some name ↔ place = directory.child name := by
  -- A place is known by the place above it and its own name.
  constructor
  · intro named
    simp only [childName?, Option.ite_none_right_eq_some, beq_iff_eq] at named
    obtain ⟨rfl, first⟩ := named
    -- The place has the same names as the child.
    refine Place.eq_of_names ?_
    cases names : place.names with
    | nil => simp [names] at first
    | cons head rest =>
      simp only [names, List.head?_cons, Option.some.injEq] at first
      simp [Place.child, Place.parent, names, first]
  · rintro rfl
    rw [childName?, Place.parent_child, if_pos (beq_self_eq_true _)]
    rfl

/-- Below the root, what stands at a place is what the table has there. -/
theorem entry?_eq_get? {place : Place} (below : place ≠ .root) :
    files.entry? place = files.table.get? place :=
  if_neg fun same => below (eq_of_beq same)

/-- A directory lists the names under which something stands in it. -/
theorem mem_children_iff {directory : Place} {name : Bytes} :
    name ∈ files.children directory ↔ (files.entry? (directory.child name)).isSome = true := by
  -- Below the root the table tells what stands where.
  rw [entry?_eq_get? (directory.child_ne_root name), Table.isSome_get?_iff, children,
    List.mem_filterMap]
  simp only [childName?_eq_some_iff, exists_eq_right]

/-- A directory lists each name once. -/
theorem nodup_children (directory : Place) : (files.children directory).Nodup := by
  -- The table has each place once, and a name belongs to one place in the directory.
  refine List.Nodup.filterMap ?_ files.table.distinct
  intro first second name named named'
  rw [childName?_eq_some_iff.mp named, childName?_eq_some_iff.mp named']

/-! ### Following a path elsewhere -/

/-- Names lead to the same places, or are refused for the same reasons, where every single name
leads on in the same way. -/
theorem walk_eq_of_stride_eq
    (strides : ∀ here name, files.stride here name = other.stride here name) (links : Nat) :
    files.walk links = other.walk links := by
  -- As long as no link is met the walks go on together.
  have walkTo_eq (jump : Place → List Bytes → Except OsError Place) (here : Place)
      (names : List Bytes) : files.walkTo jump here names = other.walkTo jump here names := by
    induction names generalizing here with
    | nil => rfl
    | cons name rest ih => simp only [walkTo, strides, ih]
  -- What is left of the way behind a link is a walk with fewer links.
  induction links with
  | zero => exact funext fun here => funext fun names => walkTo_eq _ here names
  | succ links ih =>
    refine funext fun here => funext fun names => ?_
    rw [walk, walk, ih, walkTo_eq]

/-- Then paths lead to the same places, too. -/
theorem resolve_eq_of_stride_eq
    (strides : ∀ here name, files.stride here name = other.stride here name)
    (workDir : files.workDir = other.workDir) (path : Path) :
    files.resolve path = other.resolve path := by
  -- Whether a path is refused does not depend on the file system.
  simp only [resolve, workDir, walk_eq_of_stride_eq strides]

/-! ### The order of listing -/

/-- Two file systems with the same entries, whatever the order they list them in. -/
structure Relists (files other : FileSystem) : Prop where
  entries : files.table.entries.Perm other.table.entries
  workDir : files.workDir = other.workDir

namespace Relists

variable (relists : files.Relists other)

include relists

/-- The same stands at every place. -/
theorem entry?_eq (place : Place) : files.entry? place = other.entry? place := by
  -- Looking up a place does not depend on the order of the entries.
  unfold entry?
  rw [Table.get?_eq_of_perm relists.entries]

/-- The same names are listed in every directory, perhaps in another order. -/
theorem children_perm (directory : Place) :
    (files.children directory).Perm (other.children directory) :=
  (relists.entries.map Prod.fst).filterMap _

/-- Every name leads on in the same way. -/
theorem stride_eq (here : Place) (name : Bytes) :
    files.stride here name = other.stride here name := by
  simp only [stride, relists.entry?_eq]

/-- Every path leads to the same place. -/
theorem resolve_eq (path : Path) : files.resolve path = other.resolve path :=
  resolve_eq_of_stride_eq relists.stride_eq relists.workDir path

end Relists

end FileSystem

end Switchboard
