import Switchboard.Proofs.Files.Writing

/-!
Paths without two dots, in file systems in which everything stands in a directory. Once a directory
on the way had to be made, such a path leads to nothing that stood before, so making directories
does not change what it names.
-/

namespace Switchboard.FileSystem

variable {files reached : FileSystem} {path : Path} {directory place : Place}

/-- What it is for everything in a file system to stand in a directory. -/
def IsTree (files : FileSystem) : Prop :=
  ∀ place, (files.entry? place).isSome = true → files.entry? place.parent = some .directory

/-- Only the places in the table need to be looked at, as the root is above itself. -/
theorem isTree_of_keys (each : ∀ place ∈ files.table.keys,
    files.entry? place.parent = some .directory) : files.IsTree := by
  intro place stands
  by_cases top : place = .root
  · rw [top]
    exact entry?_root
  · refine each place (Table.isSome_get?_iff.mp ?_)
    unfold entry? at stands
    rwa [if_neg (by simpa using top)] at stands

/-- In a missing directory nothing stands. -/
theorem IsTree.missing_child (tree : files.IsTree) (missing : files.entry? directory = none)
    -- A child stands in its parent, and the parent is missing.
    (name : Bytes) : files.entry? (directory.child name) = none := by
  cases stands : files.entry? (directory.child name) with
  | none => rfl
  | some entry =>
    have above := tree (directory.child name) (by rw [stands]; rfl)
    rw [Place.parent_child, missing] at above
    cases above

/-- From a directory that was missing, names other than two dots lead to nothing but directories
that were missing. -/
theorem AddsDirectories.missing_of_follows {paths : List Path}
    -- The induction is on how the names lead on: each stop is missing before and a directory after.
    (adds : files.AddsDirectories reached paths) (tree : files.IsTree) {links : Nat}
    {names : List Bytes} (follows : reached.Follows links directory names place)
    (straight : Path.dotDot ∉ names) (missing : files.entry? directory = none)
    (stands : reached.entry? directory = some .directory) :
    files.entry? place = none ∧ reached.entry? place = some .directory := by
  induction follows with
  | here => exact ⟨missing, stands⟩
  | @arrive _ here next place name rest led _ ih =>
    obtain ⟨notUp, straight⟩ := not_or.mp (mt List.mem_cons.mpr straight)
    obtain ⟨-, ⟨-, same⟩ | ⟨up, -⟩ | ⟨-, -, -, entry, found, same⟩⟩ := stride_eq_ok_iff.mp led
    · cases same
      exact ih straight missing stands
    · exact absurd up.symm notUp
    -- Following names is a function, so both ways are the same walk.
    · -- What stands in a directory that was missing is new, and so it is a directory.
      have empty := tree.missing_child missing name
      obtain ⟨rfl, -⟩ := adds.added empty found
      cases same
      exact ih straight empty found
  | link led =>
    -- What is new is no link.
    obtain ⟨-, -, -, found⟩ := ne_dot_of_stride_link led
    cases (adds.added (tree.missing_child missing _) found).1

/-- Names lead to one place only. -/
theorem Follows.unique {links : Nat} {here other : Place} {names : List Bytes}
    (follows : files.Follows links here names place)
    (follows' : files.Follows links here names other) : place = other :=
  Except.ok.inj ((walk_eq_ok_iff.mpr follows).symm.trans (walk_eq_ok_iff.mpr follows'))

section Above

variable {above : Path} (up : path.parent? = some above) (straight : Path.dotDot ∉ path.names)

include up straight

/-- Without two dots in a path there are none above it. -/
theorem dotDot_notMem_of_parent? : Path.dotDot ∉ above.names := by
  obtain ⟨more, -, named⟩ := Path.exists_names_of_parent? up
  exact fun member => straight (named ▸ List.mem_append_left _ member)

/-- Where making the path above did nothing or came to a directory that was missing, it did nothing
or the path leads to nothing but directories that were missing. -/
theorem missing_of_makeEach (tree : files.IsTree)
    (made : (makeEach above.lineage files).1 = .ok directory)
    (outcome : (makeEach above.lineage files).2 = files ∨ files.entry? directory = none ∧
      entry? (makeEach above.lineage files).2 directory = some .directory) :
    (makeEach above.lineage files).2 = files ∨
      ∀ other, (makeEach above.lineage files).2.resolve path = .ok other →
        files.entry? other = none ∧
          entry? (makeEach above.lineage files).2 other = some .directory := by
  refine outcome.imp_right ?_
  rintro ⟨missing, stands⟩ other led
  obtain ⟨adds, upward⟩ := makeEach_lineage above files
  obtain ⟨more, -, named⟩ := Path.exists_names_of_parent? up
  -- The path leads to the directory first and then on from there.
  have follows := (resolve_eq_ok_iff.mp led).2.names.1
  rw [named, ← Path.start_of_parent? up] at follows
  obtain ⟨middle, left, start, finish⟩ := follows.of_append
  obtain rfl := start.unique (upward directory made).1
  exact adds.missing_of_follows tree finish
    (fun member => straight (named ▸ List.mem_append_right _ member)) missing stands

end Above

/-- Making a path without two dots and those above it does nothing, or the place it leads to was
missing and has a directory now. -/
theorem makeEach_lineage_cases (tree : files.IsTree) (path : Path)
    (straight : Path.dotDot ∉ path.names) (made : (makeEach path.lineage files).1 = .ok place) :
    (makeEach path.lineage files).2 = files ∨
      files.entry? place = none ∧
        entry? (makeEach path.lineage files).2 place = some .directory := by
  -- The path above is shorter.
  induction size : path.bytes.length using Nat.strong_induction_on generalizing path place with
  | _ size ih =>
    by_cases filled : path.bytes = []
    · left
      rw [Path.lineage, filled]
      -- A stop at the path itself leaves the case in which something was made above it.
      rfl
    have stands := ((makeEach_lineage path files).2 place made).2 filled
    suffices (makeEach path.lineage files).2 = files ∨ files.entry? place = none from
      this.imp_right fun missing => ⟨missing, stands.2⟩
    have adds := makeEach_higher path files
    -- Where a directory above had to be made, the path leads to nothing that stood before.
    have earlier (directory : Place) (higher : (makeEach path.higher files).1 = .ok directory) :
        (makeEach path.higher files).2 = files ∨
          ∀ other, (makeEach path.higher files).2.resolve path = .ok other →
            files.entry? other = none := by
      unfold Path.higher at higher ⊢
      cases up : path.parent? with
      | none => exact .inl rfl
      | some above =>
        simp only [up, Option.map_some, Option.getD_some] at higher ⊢
        have outcome := ih _ (size ▸ Path.length_of_parent? up) above
          (dotDot_notMem_of_parent? up straight) higher rfl
        exact (missing_of_makeEach up straight tree higher outcome).imp_right
          fun missing other led => (missing other led).1
    rw [Path.lineage_eq filled] at made ⊢
    rcases makeEach_cons_cases path path.higher files with
      ⟨free, vacant, made'⟩ | ⟨refusal, stays⟩ | ⟨-, ⟨refusal, failed⟩ | ⟨directory, higher, way⟩⟩
    · -- The directories above stood, so the first attempt made the directory.
      rw [made'] at made
      cases made
      exact .inr (vacant_of_vacancy vacant).2
    · -- The path stood already.
      exact .inl (congrArg Prod.snd stays)
    · rw [failed] at made
      cases made
    · rcases way with ⟨free, vacant, made'⟩ | ⟨refusal, stays⟩
      · -- The directory was made after those above it.
        rw [made'] at made
        cases made
        exact .inr (adds.missing (vacant_of_vacancyBelow vacant).2)
      · -- The path came to stand while those above it were made, or stood before.
        rw [stays] at made ⊢
        exact (earlier directory higher).imp_right fun missing =>
          missing place (standing_eq_ok_iff.mp made).1

/-- With the directories above it made, a path without two dots that named a regular file or nothing
still does, if it can be written to. -/
theorem namesFileOrNothing_makeParents (tree : files.IsTree) (straight : Path.dotDot ∉ path.names)
    (plain : files.NamesFileOrNothing path) (made : (files.makeParents path).1 = .ok ())
    (landed : (files.makeParents path).2.landing path = .ok place) :
    (files.makeParents path).2.NamesFileOrNothing path := by
  unfold makeParents at made landed ⊢
  cases up : path.parent? with
  | none => exact plain
  | some above =>
    simp only [up, makeDirectories] at made landed ⊢
    cases outcome : (makeEach above.lineage files).1 with
    | error refusal =>
      rw [outcome] at made
      cases made
    | ok directory =>
      have earlier := missing_of_makeEach up straight tree outcome
        (makeEach_lineage_cases tree above (dotDot_notMem_of_parent? up straight) outcome)
      -- Making directories did nothing, so the path names what it named.
      rcases earlier with same | missing
      · rwa [same]
      · -- What the path leads to now was missing, so writing would land at a new directory.
        intro other led
        -- Nothing is written to a directory.
        obtain rfl := eq_of_resolve_of_landing led landed
        cases (takes_of_landing landed).2 _ (missing other led).2

end Switchboard.FileSystem
