import Switchboard.Proofs.Files.Making

/-!
File systems that differ only in the contents of files: the same names lead to the same places in
them, and making directories does the same to them.
-/

namespace Switchboard.FileSystem

/-- Two file systems with the same entries in the same order, apart from the contents of files. -/
structure SameButContents (files other : FileSystem) : Prop where
  keys : files.table.keys = other.table.keys
  outlines : ∀ place,
    (files.entry? place).map Entry.outline = (other.entry? place).map Entry.outline
  workDir : files.workDir = other.workDir

variable {files other : FileSystem} {place : Place}

/-- Putting other contents into a file changes nothing else. -/
theorem sameButContents_put (below : place ≠ .root) {old : Bytes}
    (stands : files.entry? place = some (.file old)) (new : Bytes) :
    (files.put place (.file new)).SameButContents files where
  keys := by
    -- The name is in the table already, so it keeps its position.
    apply Table.keys_put_of_isSome
    rw [entry?_eq_get? below] at stands
    rw [stands]
    rfl
  outlines other := by
    rw [entry?_put below]
    split
    · -- At the place itself a file stands before and after, and everywhere else nothing changed.
      rename_i same
      rw [same, stands]
      rfl
    · rfl
  workDir := rfl

namespace SameButContents

variable (same : files.SameButContents other)

include same

/-- Each list the same names in the same order. -/
theorem children_eq (directory : Place) : files.children directory = other.children directory := by
  rw [children, children, same.keys]

/-- What stands at a place in one stands there in the other, if it is a file with other contents. -/
theorem entry?_cases (place : Place) :
    files.entry? place = other.entry? place ∨ ∃ mine yours,
      files.entry? place = some (.file mine) ∧ other.entry? place = some (.file yours) := by
  -- An outline forgets the contents of a file and nothing else.
  have outlines := same.outlines place
  rcases mine : files.entry? place with _ | (_ | _ | _ | _) <;>
    rcases yours : other.entry? place with _ | (_ | _ | _ | _) <;>
    simp_all [Entry.outline]

/-- A directory in one is a directory in the other. -/
theorem isDirectory_iff (place : Place) :
    files.entry? place = some .directory ↔ other.entry? place = some .directory := by
  rcases same.entry?_cases place with same | ⟨mine, yours, stands, stands'⟩
  · rw [same]
  · simp [stands, stands']

/-- One step along a name leads to the same place, or meets the same link. -/
theorem stride_eq (here : Place) (name : Bytes) :
    files.stride here name = other.stride here name := by
  unfold stride
  simp only [ne_eq, same.isDirectory_iff]
  rcases same.entry?_cases (here.child name) with same | ⟨mine, yours, stands, stands'⟩
  · rw [same]
  · -- As a place to arrive at, a file counts without its contents.
    rw [stands, stands']

/-- Every path leads to the same place, or is refused for the same reason. -/
theorem resolve_eq (path : Path) : files.resolve path = other.resolve path :=
  resolve_eq_of_stride_eq same.stride_eq same.workDir path

/-- A name is free for a new directory in one exactly where it is in the other. -/
theorem vacancyIn_eq (directory : Place) (name : Bytes) :
    files.vacancyIn directory name = other.vacancyIn directory name := by
  unfold vacancyIn
  simp only [ne_eq, same.isDirectory_iff]
  rcases same.entry?_cases (directory.child name) with same | ⟨mine, yours, stands, stands'⟩
  · rw [same]
  · -- A file is in the way of a directory, whatever it holds.
    rw [stands, stands']
    rfl

/-- The place at which a path's last directory is missing is the same. -/
theorem vacancy_eq (path : Path) : files.vacancy path = other.vacancy path := by
  -- The way to it only strides, and strides are the same.
  simp only [vacancy, same.workDir, walk_eq_of_stride_eq same.stride_eq, same.vacancyIn_eq]

/-- The place for a directory below one that was just made is the same. -/
theorem vacancyBelow_eq (above : Path) (directory : Place) (path : Path) :
    files.vacancyBelow above directory path = other.vacancyBelow above directory path := by
  simp only [vacancyBelow, same.vacancyIn_eq, same.vacancy_eq]

/-- Where a path leads to a directory that stands, it does so in both. -/
theorem standing_eq (path : Path) (refusal : OsError) :
    files.standing path refusal = other.standing path refusal := by
  simp only [standing, same.resolve_eq, same.isDirectory_iff]

end SameButContents

/-! ### Making directories -/

section Making

variable {old : Bytes} (new : Bytes) (below : place ≠ .root)
  (stands : files.entry? place = some (.file old))

include below stands

/-- Whether other contents come into a file before or after a new directory does not matter. -/
theorem put_put_directory {free : Place} (vacant : free ≠ .root ∧ files.entry? free = none) :
    (files.put place (.file new)).put free .directory =
        (files.put free .directory).put place (.file new) ∧
      entry? (files.put free .directory) place = some (.file old) := by
  -- The file stands where it stood, and the directory is new.
  have apart : free ≠ place := by
    rintro rfl
    simp [vacant.2] at stands
  have held : (files.table.get? place).isSome = true := by
    rw [entry?_eq_get? below] at stands
    rw [stands]
    rfl
  constructor
  · simp only [put, Table.put_comm apart _ _ held]
  · rw [entry?_put vacant.1, if_neg apart.symm, stands]

/-- Making directories does the same with other contents in a file, and leaves these there. -/
theorem makeEach_put (paths : List Path) :
    makeEach paths (files.put place (.file new)) =
        ((makeEach paths files).1, (makeEach paths files).2.put place (.file new)) ∧
      entry? (makeEach paths files).2 place = some (.file old) := by
  -- The paths above come first, so the induction runs from the topmost one down.
  induction paths with
  | nil => exact ⟨rfl, stands⟩
  | cons path above ih =>
    obtain ⟨made, stayed⟩ := ih
    have alike := sameButContents_put below stands new
    simp only [makeEach, alike.vacancy_eq, alike.standing_eq, made]
    split
    · -- Nothing above had to be made: the directory goes into the place that is free in both.
      rename_i free vacant
      obtain ⟨same, stays⟩ := put_put_directory new below stands (vacant_of_vacancy vacant)
      exact ⟨by rw [same], stays⟩
    · -- The directories above were made before, and these are the same in both.
      generalize makeEach above files = result at stayed ⊢
      obtain ⟨refusal | directory, reached⟩ := result
      · exact ⟨rfl, stayed⟩
      · have alike := sameButContents_put below stayed new
        simp only [alike.vacancyBelow_eq, alike.standing_eq]
        split
        · rename_i free vacant
          obtain ⟨same, stays⟩ :=
            put_put_directory new below stayed (vacant_of_vacancyBelow vacant)
          exact ⟨by rw [same], stays⟩
        · exact ⟨rfl, stayed⟩
    · -- A refusal other than a missing directory ends it with nothing made.
      exact ⟨rfl, stands⟩

/-- Making the directories above a path does the same with other contents in a file. -/
theorem makeParents_put (path : Path) :
    (files.put place (.file new)).makeParents path =
        ((files.makeParents path).1, (files.makeParents path).2.put place (.file new)) ∧
      entry? (files.makeParents path).2 place = some (.file old) := by
  unfold makeParents
  cases path.parent? with
  -- Nothing is above the root or an empty path, and then nothing is made.
  | none => exact ⟨rfl, stands⟩
  | some above =>
    obtain ⟨made, stays⟩ := makeEach_put new below stands above.lineage
    exact ⟨by simp only [makeDirectories, made], stays⟩

end Making

end Switchboard.FileSystem
