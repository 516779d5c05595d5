import Switchboard.Files.Write
import Switchboard.Proofs.Files.Listing

/-!
Following a path in a file system that only grew: what a path led to before it still leads to, since
following looks at names, directories and links and never at the contents of a file.
-/

namespace Switchboard

namespace Entry

/-- What an entry is apart from the contents of a file. -/
def outline : Entry → Entry
  | file _ => file []
  | entry => entry

/-- Where a name leads that this entry stands under, given the entry's place. -/
def onward (place : Place) : Entry → Stride
  | link target => .link target
  | _ => .arrive place

/-- Whether an entry takes bytes that are written to it. -/
def takesBytes : Entry → Bool
  | file _ | special => true
  | directory | link _ => false

variable {entry other : Entry}

/-- Only a directory has the outline of one. -/
theorem eq_directory_of_outline (same : entry.outline = directory) : entry = directory := by
  -- The outline of anything else is of its own kind.
  cases entry <;> cases same
  rfl

/-- Entries with one outline lead onward in the same way. -/
theorem onward_eq_of_outline (same : entry.outline = other.outline) (place : Place) :
    entry.onward place = other.onward place := by
  -- The outline keeps the kind, and of a link its target.
  cases entry <;> cases other <;> cases same <;> rfl

/-- What takes bytes is no link, so a name it stands under arrives at it. -/
theorem onward_of_takesBytes (takes : entry.takesBytes = true) (place : Place) :
    entry.onward place = .arrive place := by
  cases entry with
  -- A link takes no bytes.
  | link target => cases takes
  | _ => rfl

end Entry

namespace FileSystem

variable {files later : FileSystem} {here place : Place} {name : Bytes} {names rest : List Bytes}
  {links : Nat}

/-! ### What stands where -/

/-- The root is always a directory. -/
@[simp] theorem entry?_root : files.entry? .root = some .directory :=
  if_pos (beq_self_eq_true _)

/-- An entry that is put below the root stands there, and nothing else changes. -/
theorem entry?_put (below : place ≠ .root) (other : Place) (entry : Entry) :
    entry? (files.put place entry) other =
      if other = place then some entry else files.entry? other := by
  -- The root stands whatever the table holds.
  by_cases top : other = .root
  · simp [top, below.symm]
  · rw [entry?_eq_get? top, entry?_eq_get? top, put, Table.get?_put]
    simp only [beq_iff_eq, eq_comm (a := place)]

/-- A later file system that still has every entry of an earlier one, perhaps with other contents in
files. -/
structure GrowsInto (files later : FileSystem) : Prop where
  workDir : later.workDir = files.workDir
  stands : ∀ {place entry}, files.entry? place = some entry →
    ∃ entry', later.entry? place = some entry' ∧ entry'.outline = entry.outline

namespace GrowsInto

/-- Nothing has to be put for a file system to grow into itself. -/
theorem refl (files : FileSystem) : files.GrowsInto files :=
  ⟨rfl, fun stood => ⟨_, stood, rfl⟩⟩

/-- A directory is still a directory in the file system that grew. -/
theorem directory (grows : files.GrowsInto later) (stood : files.entry? place = some .directory) :
    later.entry? place = some .directory := by
  obtain ⟨entry, stands, same⟩ := grows.stands stood
  rw [stands, Entry.eq_directory_of_outline same]

/-- Putting something at a place grows a file system if what it replaces looked the same. -/
theorem put (below : place ≠ .root) {entry : Entry}
    (fits : ∀ old, files.entry? place = some old → entry.outline = old.outline) :
    files.GrowsInto (files.put place entry) := by
  -- Only the one place is looked at anew.
  refine ⟨rfl, @fun other old stood => ?_⟩
  rw [entry?_put below]
  split
  · rename_i same
    exact ⟨entry, rfl, fits old (same ▸ stood)⟩
  · exact ⟨old, stood, rfl⟩

end GrowsInto

/-! ### Following names -/

/-- A name leads somewhere from a directory only: a dot back to it, two dots to the one above, and
any other name, if it is not too long, to what stands under it. -/
theorem stride_eq_ok_iff {stride : Stride} : files.stride here name = .ok stride ↔
    files.entry? here = some .directory ∧
      (name = Path.dot ∧ stride = .arrive here ∨
        name = Path.dotDot ∧ stride = .arrive here.parent ∨
        name ≠ Path.dot ∧ name ≠ Path.dotDot ∧ name.length ≤ Path.maxName ∧
          ∃ entry, files.entry? (here.child name) = some entry ∧
            stride = entry.onward (here.child name)) := by
  unfold FileSystem.stride
  -- The tests are made one after the other, and each of them that fails ends in a refusal.
  by_cases isDirectory : files.entry? here = some .directory
  · by_cases itself : name = Path.dot
    · have apart : Path.dot ≠ Path.dotDot := by decide
      simp [isDirectory, itself, apart, eq_comm]
    · by_cases above : name = Path.dotDot
      · have apart : Path.dotDot ≠ Path.dot := by decide
        simp [isDirectory, above, apart, eq_comm]
      · by_cases long : Path.maxName < name.length
        · simp [isDirectory, itself, above, long, Nat.not_le.mpr long]
        · -- A link leads on to its target, and anything else is where the name arrives.
          rcases stands : files.entry? (here.child name) with _ | (_ | _ | _ | _) <;>
            simp [isDirectory, itself, above, long, Nat.not_lt.mp long, Entry.onward, eq_comm]
  · -- From anything else no name leads on.
    simp [isDirectory]

/-- Whatever name leads on, it does so from a directory. -/
theorem isDirectory_of_stride {stride : Stride} (led : files.stride here name = .ok stride) :
    files.entry? here = some .directory :=
  (stride_eq_ok_iff.mp led).1

/-- A name leads on in the same way when the file system grows. -/
theorem GrowsInto.stride (grows : files.GrowsInto later) {stride : Stride}
    (led : files.stride here name = .ok stride) : later.stride here name = .ok stride := by
  -- The directory it starts from still stands, and the dots lead where they did.
  obtain ⟨isDirectory, way⟩ := stride_eq_ok_iff.mp led
  refine stride_eq_ok_iff.mpr ⟨grows.directory isDirectory, way.imp_right <| .imp_right ?_⟩
  rintro ⟨noDot, noDotDot, short, entry, stood, rfl⟩
  -- Only the contents of a file may differ, and these lead nowhere.
  obtain ⟨entry', stands, same⟩ := grows.stands stood
  exact ⟨noDot, noDotDot, short, entry', stands, (Entry.onward_eq_of_outline same _).symm⟩

/-- What it is for names to lead from one place to another through at most so many links. -/
inductive Follows (files : FileSystem) : Nat → Place → List Bytes → Place → Prop where
  | here (links : Nat) (here : Place) : Follows files links here [] here
  | arrive {links : Nat} {here next place : Place} {name : Bytes} {rest : List Bytes}
      (led : files.stride here name = .ok (.arrive next))
      (onward : Follows files links next rest place) : Follows files links here (name :: rest) place
  /-- The steps of a link's target come before the names that are left. -/
  | link {links : Nat} {here place : Place} {name : Bytes} {rest : List Bytes} {target : Path}
      (led : files.stride here name = .ok (.link target))
      (onward : Follows files links (target.start here) (target.steps ++ rest) place) :
      Follows files (links + 1) here (name :: rest) place

/-- A walk comes to a place exactly if the names lead there, given that the hand-over at a link does
with one link less. -/
theorem walkTo_eq_ok_iff {jump : Place → List Bytes → Except OsError Place}
    (jumps : ∀ start names place, jump start names = .ok place ↔
      ∃ fewer, links = fewer + 1 ∧ files.Follows fewer start names place) :
    files.walkTo jump here names = .ok place ↔ files.Follows links here names place := by
  -- The induction takes one name after another, up to the first link.
  induction names generalizing here with
  | nil => exact ⟨fun same => Except.ok.inj same ▸ .here links here, fun | .here .. => rfl⟩
  | cons name rest ih =>
    rw [walkTo]
    constructor
    · intro walked
      -- A walk goes on behind a place it arrives at, and at a link it hands over.
      split at walked
      · cases walked
      · rename_i next led
        exact .arrive led (ih.mp walked)
      · rename_i target led
        obtain ⟨fewer, rfl, onward⟩ := (jumps _ _ _).mp walked
        exact .link led onward
    · -- The other way round, each rule of following is a step of the walk.
      rintro (_ | ⟨led, onward⟩ | ⟨led, onward⟩)
      · rw [led]
        exact ih.mpr onward
      · rw [led]
        exact (jumps _ _ _).mpr ⟨_, rfl, onward⟩

/-- A walk comes to a place exactly if the names lead there. -/
theorem walk_eq_ok_iff :
    files.walk links here names = .ok place ↔ files.Follows links here names place := by
  -- Each link that is followed is one link less for the rest.
  induction links generalizing here names place with
  | zero =>
    apply walkTo_eq_ok_iff
    simp
  | succ links ih =>
    apply walkTo_eq_ok_iff
    simp [ih]

namespace Follows

/-- Names lead to the same place when the file system grows. -/
theorem grown (follows : files.Follows links here names place) (grows : files.GrowsInto later) :
    later.Follows links here names place := by
  -- Each step is still a step.
  induction follows with
  | here links here => exact .here links here
  | arrive led _ ih => exact .arrive (grows.stride led) ih
  | link led _ ih => exact .link (grows.stride led) ih

/-- Only from a directory does any name lead on. -/
theorem isDirectory (follows : files.Follows links here (name :: rest) place) :
    files.entry? here = some .directory := by
  -- Whether it arrives or meets a link, the first name is a stride.
  cases follows with
  | arrive led => exact isDirectory_of_stride led
  | link led => exact isDirectory_of_stride led

/-- Where the first names of a list lead, the others lead on. -/
theorem of_append {more : List Bytes} (follows : files.Follows links here (names ++ more) place) :
    ∃ middle left, files.Follows links here names middle ∧
      files.Follows left middle more place := by
  -- The induction is on the whole way, of which the names in question are the first part.
  generalize whole : names ++ more = all at follows
  induction follows generalizing names with
  | here links here =>
    -- No names are left, so both parts are empty.
    obtain ⟨rfl, rfl⟩ := List.append_eq_nil_iff.mp whole
    exact ⟨here, links, .here links here, .here links here⟩
  | @arrive links here next place name rest led onward ih =>
    cases names with
    -- The first part is empty, and the whole way is the second one.
    | nil =>
      rw [List.nil_append] at whole
      subst whole
      exact ⟨here, links, .here links here, .arrive led onward⟩
    | cons first names =>
      -- The first name belongs to the first part.
      obtain ⟨rfl, rfl⟩ := List.cons.inj whole
      obtain ⟨middle, left, start, finish⟩ := ih rfl
      exact ⟨middle, left, .arrive led start, finish⟩
  | @link links here place name rest target led onward ih =>
    cases names with
    | nil =>
      rw [List.nil_append] at whole
      subst whole
      exact ⟨here, links + 1, .here _ here, .link led onward⟩
    | cons first names =>
      -- The steps of the link's target go in front of the rest of the first part.
      obtain ⟨rfl, rfl⟩ := List.cons.inj whole
      obtain ⟨middle, left, start, finish⟩ := ih (List.append_assoc ..)
      exact ⟨middle, left, .link led start, finish⟩

/-- Names that lead on without a link can be followed after any others. -/
theorem append {middle : Place} {more : List Bytes}
    (start : files.Follows links here names middle)
    (finish : ∀ left, files.Follows left middle more place) :
    files.Follows links here (names ++ more) place := by
  -- The induction follows the first names, and behind the last of them the others start.
  induction start with
  | here links here => exact finish links
  | arrive led _ ih => exact .arrive led (ih finish)
  | link led _ ih =>
    -- The steps of the target come first, so the names to append stay behind all others.
    have onward := ih finish
    rw [List.append_assoc] at onward
    exact .link led onward

end Follows

/-- A dot leads from a directory to itself. -/
theorem stride_dot (isDirectory : files.entry? here = some .directory) :
    files.stride here Path.dot = .ok (.arrive here) :=
  stride_eq_ok_iff.mpr ⟨isDirectory, .inl ⟨rfl, rfl⟩⟩

end FileSystem

end Switchboard
