import Switchboard.Proofs.Files.Growth
import Switchboard.Proofs.Files.Lineage

/-!
Making the directories above a path: nothing is lost or changed, what is new are directories that
lead to the path, and where all of them stand nothing happens.
-/

namespace Switchboard.FileSystem

variable {files reached : FileSystem} {path above : Path} {directory place : Place} {name : Bytes}

/-! ### Where a path leads -/

/-- A path leads to a place exactly if it is accepted and its steps lead there. -/
theorem resolve_eq_ok_iff : files.resolve path = .ok place ↔
    path.refusal? = none ∧
      files.Follows maxLinks (path.start files.workDir) path.steps place := by
  -- A path that is refused is not walked.
  unfold resolve
  cases path.refusal? <;> simp [walk_eq_ok_iff]

/-- What a path leads to it still leads to when the file system grows. -/
theorem GrowsInto.resolve (grows : files.GrowsInto reached)
    (led : files.resolve path = .ok place) : reached.resolve path = .ok place := by
  -- The names are the same, and each of them leads on as before.
  obtain ⟨accepted, follows⟩ := resolve_eq_ok_iff.mp led
  rw [resolve_eq_ok_iff, grows.workDir]
  exact ⟨accepted, follows.grown grows⟩

/-- To insist on a directory changes nothing where the names lead to one. -/
theorem Follows.steps {links : Nat} {here : Place}
    (follows : files.Follows links here path.names place)
    (isDirectory : files.entry? place = some .directory) :
    files.Follows links here path.steps place := by
  -- The dot behind a final slash stays where it is.
  refine follows.append fun left => ?_
  split
  · exact .arrive (stride_dot isDirectory) (.here left place)
  · exact .here left place

/-- Where the steps of a path lead, its names lead. -/
theorem Follows.names {links : Nat} {here : Place}
    (follows : files.Follows links here path.steps place) :
    files.Follows links here path.names place ∧
      (path.endsInSlash = true → files.entry? place = some .directory) := by
  -- The steps are the names and, behind a final slash, the dot.
  obtain ⟨middle, left, start, finish⟩ := follows.of_append
  cases slashed : path.endsInSlash with
  -- Without a slash at the end there is nothing behind the names.
  | false =>
    rw [slashed] at finish
    cases finish
    exact ⟨start, by simp⟩
  | true =>
    -- The dot leads nowhere else.
    rw [slashed] at finish
    have isDirectory := finish.isDirectory
    cases finish with
    | arrive led onward =>
      rw [stride_dot isDirectory] at led
      cases led
      cases onward
      exact ⟨start, fun _ => isDirectory⟩
    | link led =>
      rw [stride_dot isDirectory] at led
      cases led

/-! ### The place for a new entry -/

/-- There is a place in a directory for a new entry exactly if its name is no dot, not too long and
free. -/
theorem vacancyIn_eq_ok_iff : files.vacancyIn directory name = .ok place ↔
    files.entry? directory = some .directory ∧ name ≠ Path.dot ∧ name ≠ Path.dotDot ∧
      name.length ≤ Path.maxName ∧ files.entry? (directory.child name) = none ∧
      place = directory.child name := by
  unfold vacancyIn
  -- The tests are made one after the other, and the last is whether something stands there.
  by_cases isDirectory : files.entry? directory = some .directory
  · by_cases dots : name = Path.dot ∨ name = Path.dotDot
    · rcases dots with same | same <;> simp [isDirectory, same]
    · obtain ⟨noDot, noDotDot⟩ := not_or.mp dots
      by_cases long : Path.maxName < name.length
      · simp [isDirectory, noDot, noDotDot, long, Nat.not_le.mpr long]
      · cases files.entry? (directory.child name) <;>
          simp [isDirectory, noDot, noDotDot, long, Nat.not_lt.mp long, eq_comm]
  · simp [isDirectory]

/-- There is a place for a new entry where all names but the last lead to a directory in which the
last one is free. -/
theorem vacancy_eq_ok_iff : files.vacancy path = .ok place ↔
    path.refusal? = none ∧ ∃ before last directory, path.names = before ++ [last] ∧
      files.Follows maxLinks (path.start files.workDir) before directory ∧
      files.vacancyIn directory last = .ok place := by
  unfold vacancy
  cases path.refusal? with
  | some refusal => simp
  | none =>
    cases ends : path.names.getLast? with
    -- A path without names is the root, which stands.
    | none => simp [List.getLast?_eq_none_iff.mp ends]
    | some last =>
      -- The path is cut before its last name.
      obtain ⟨before, named⟩ := List.getLast?_eq_some_iff.mp ends
      simp only [named, List.dropLast_concat, true_and]
      constructor
      · -- All names but the last are walked, and then the last one is tried.
        intro free
        split at free
        · cases free
        · rename_i directory walked
          exact ⟨before, last, directory, rfl, walk_eq_ok_iff.mp walked, free⟩
      · rintro ⟨before', last', directory, same, follows, free⟩
        obtain ⟨rfl, ends⟩ := List.append_inj' same rfl
        cases ends
        rw [walk_eq_ok_iff.mpr follows]
        exact free

/-- What was free is below the root, and nothing stood there. -/
theorem vacant_of_vacancyIn (free : files.vacancyIn directory name = .ok place) :
    place ≠ .root ∧ files.entry? place = none := by
  obtain ⟨-, -, -, -, empty, rfl⟩ := vacancyIn_eq_ok_iff.mp free
  exact ⟨directory.child_ne_root name, empty⟩

/-- A place that is free for a path is below the root, and nothing stood there. -/
theorem vacant_of_vacancy (free : files.vacancy path = .ok place) :
    place ≠ .root ∧ files.entry? place = none := by
  obtain ⟨-, -, last, directory, -, -, vacant⟩ := vacancy_eq_ok_iff.mp free
  exact vacant_of_vacancyIn vacant

/-- A place that is found from the path above is below the root, and nothing stood there. -/
theorem vacant_of_vacancyBelow (free : files.vacancyBelow above directory path = .ok place) :
    place ≠ .root ∧ files.entry? place = none := by
  unfold vacancyBelow at free
  -- One name behind the path above is tried at once, and anything else is walked again.
  split at free
  · exact vacant_of_vacancyIn free
  · exact vacant_of_vacancy free

/-- A path leads to the directory that was made for it. -/
theorem resolve_put_directory (free : files.vacancy path = .ok place) :
    (files.put place .directory).resolve path = .ok place ∧
      entry? (files.put place .directory) place = some .directory := by
  obtain ⟨below, empty⟩ := vacant_of_vacancy free
  have grows : files.GrowsInto (files.put place .directory) :=
    .put below fun old stood => by simp [empty] at stood
  have stands : entry? (files.put place .directory) place = some .directory := by
    rw [entry?_put below, if_pos rfl]
  obtain ⟨accepted, before, last, directory, named, follows, vacant⟩ := vacancy_eq_ok_iff.mp free
  obtain ⟨isDirectory, noDot, noDotDot, short, -, rfl⟩ := vacancyIn_eq_ok_iff.mp vacant
  -- The last name now leads to the new directory.
  have last : (files.put (directory.child last) .directory).stride directory last =
      .ok (.arrive (directory.child last)) :=
    stride_eq_ok_iff.mpr ⟨grows.directory isDirectory,
      .inr (.inr ⟨noDot, noDotDot, short, .directory, stands, rfl⟩)⟩
  have names := (follows.grown grows).append fun left => .arrive last (.here left _)
  rw [← named] at names
  exact ⟨resolve_eq_ok_iff.mpr ⟨accepted, names.steps stands⟩, stands⟩

/-- Where a path leads somewhere, there is no place for a new entry. -/
theorem vacancy_of_resolve (led : files.resolve path = .ok place) :
    files.vacancy path = .error .alreadyExists := by
  obtain ⟨accepted, follows⟩ := resolve_eq_ok_iff.mp led
  have follows := follows.names.1
  unfold vacancy
  rw [accepted]
  cases ends : path.names.getLast? with
  -- A path without names is the root, which always stands.
  | none => rfl
  | some last =>
    obtain ⟨before, named⟩ := List.getLast?_eq_some_iff.mp ends
    rw [named] at follows
    obtain ⟨directory, left, start, finish⟩ := follows.of_append
    simp only [named, List.dropLast_concat, walk_eq_ok_iff.mpr start]
    -- The last name leads on from the directory, by a dot or to what stands there.
    have taken {stride : Stride} (led : files.stride directory last = .ok stride) :
        files.vacancyIn directory last = .error .alreadyExists := by
      obtain ⟨isDirectory, way⟩ := stride_eq_ok_iff.mp led
      unfold vacancyIn
      rcases way with ⟨rfl, -⟩ | ⟨rfl, -⟩ | ⟨noDot, noDotDot, short, entry, stands, -⟩
      · -- A dot is in the way by itself.
        simp [isDirectory]
      · simp [isDirectory]
      · simp [isDirectory, noDot, noDotDot, Nat.not_lt.mpr short, stands]
    cases finish with
    | arrive led => exact taken led
    | link led => exact taken led

/-- A directory that is in the way will do, and nothing else does. -/
theorem standing_eq_ok_iff {refusal : OsError} : files.standing path refusal = .ok place ↔
    files.resolve path = .ok place ∧ files.entry? place = some .directory := by
  unfold standing
  -- What the path leads to decides.
  cases led : files.resolve path with
  | error refusal => simp
  | ok other =>
    by_cases isDirectory : files.entry? other = some .directory
    · simp only [if_pos isDirectory, Except.ok.injEq]
      exact ⟨fun same => ⟨same, same ▸ isDirectory⟩, fun both => both.1⟩
    · simp only [if_neg isDirectory, reduceCtorEq, Except.ok.injEq, false_iff, not_and]
      rintro rfl
      exact isDirectory

/-- A path that is not empty is missed only after it was accepted. -/
theorem accepted_of_notFound (filled : path.bytes ≠ [])
    (missed : files.vacancy path = .error .notFound) : path.refusal? = none := by
  unfold vacancy at missed
  -- An accepted path has nothing to show.
  cases refused : path.refusal? with
  | none => rfl
  | some refusal =>
    simp only [refused, Except.error.injEq] at missed
    subst missed
    -- Only the empty path is refused as missing.
    unfold Path.refusal? at refused
    simp only [filled, if_false] at refused
    split at refused
    · cases refused
    · split at refused <;> cases refused

/-- With the way to the path above known, the place for a new entry is the same. -/
theorem vacancy_of_vacancyBelow (accepted : path.refusal? = none)
    (up : path.parent? = some above)
    (follows : files.Follows maxLinks (above.start files.workDir) above.names directory)
    (free : files.vacancyBelow above directory path = .ok place) :
    files.vacancy path = .ok place := by
  -- The names behind the path above are those to be tried.
  obtain ⟨more, -, named⟩ := Path.exists_names_of_parent? up
  unfold vacancyBelow at free
  rw [named, List.drop_left] at free
  split at free
  · -- There is one more name, which is tried in the directory that is known.
    rename_i name
    rw [Path.start_of_parent? up] at follows
    exact vacancy_eq_ok_iff.mpr ⟨accepted, above.names, name, directory, named, follows, free⟩
  · exact free

/-- Where there is no path above, the one name can only be a dot, for which there is no place. -/
theorem vacancy_of_vacancyBelow_empty (highest : path.parent? = none)
    (free : files.vacancyBelow ⟨[]⟩ directory path = .ok place) :
    files.vacancy path = .ok place := by
  -- The one name is tried where relative paths start.
  unfold vacancyBelow at free
  split at free
  · rename_i name alone
    have named : path.names = [name] := alone
    -- Without a path above there are no names but dots.
    have isDot : name = Path.dot :=
      Path.eq_dot_of_parent?_eq_none highest (named ▸ List.mem_singleton_self name)
    exact absurd isDot (vacancyIn_eq_ok_iff.mp free).2.1
  · exact free

/-! ### Making directories -/

/-- What it is for a file system to have nothing over an earlier one but directories that some paths
lead to. -/
structure AddsDirectories (files reached : FileSystem) (paths : List Path) : Prop where
  workDir : reached.workDir = files.workDir
  kept : ∀ {place entry}, files.entry? place = some entry → reached.entry? place = some entry
  added : ∀ {place entry}, files.entry? place = none → reached.entry? place = some entry →
    entry = .directory ∧ ∃ path ∈ paths, reached.resolve path = .ok place

namespace AddsDirectories

variable {paths : List Path}

/-- A file system adds nothing to itself. -/
theorem refl (files : FileSystem) (paths : List Path) : files.AddsDirectories files paths :=
  ⟨rfl, id, fun missing stands => by simp [missing] at stands⟩

/-- What is missing in the end was missing before. -/
theorem missing (adds : files.AddsDirectories reached paths)
    (absent : reached.entry? place = none) : files.entry? place = none := by
  -- What stood would still stand.
  cases stood : files.entry? place with
  | none => rfl
  | some entry => cases absent.symm.trans (adds.kept stood)

/-- Allowing for one more path changes nothing. -/
theorem cons (adds : files.AddsDirectories reached paths) (path : Path) :
    files.AddsDirectories reached (path :: paths) where
  workDir := adds.workDir
  kept := adds.kept
  added missing stands := by
    obtain ⟨isDirectory, path, member, led⟩ := adds.added missing stands
    exact ⟨isDirectory, path, List.mem_cons_of_mem _ member, led⟩

/-- One more directory is added where there was a place for it. -/
theorem put (adds : files.AddsDirectories reached paths) (free : reached.vacancy path = .ok place) :
    files.AddsDirectories (reached.put place .directory) (path :: paths) := by
  obtain ⟨below, empty⟩ := vacant_of_vacancy free
  have grows : reached.GrowsInto (reached.put place .directory) :=
    .put below fun old stood => by simp [empty] at stood
  refine ⟨adds.workDir, @fun other entry stood => ?_, @fun other entry missing stands => ?_⟩
  · -- Nothing stood at the new place.
    have apart : other ≠ place := by
      rintro rfl
      simp [adds.kept stood] at empty
    rw [entry?_put below, if_neg apart, adds.kept stood]
  · -- What is new is the new directory or was new already.
    rw [entry?_put below] at stands
    split at stands
    · rename_i same
      cases stands
      exact ⟨rfl, path, List.mem_cons_self, same ▸ (resolve_put_directory free).1⟩
    · obtain ⟨isDirectory, path, member, led⟩ := adds.added missing stands
      exact ⟨isDirectory, path, List.mem_cons_of_mem _ member, grows.resolve led⟩

end AddsDirectories

/-- What making one directory after those above it comes to. There is a place for it at once, or
something else is in the way. Or it is missed with those above it, and then making these fails, or
there is a place for it below them, or something is in the way there. -/
theorem makeEach_cons_cases (path : Path) (higher : List Path) (files : FileSystem) :
    (∃ place, files.vacancy path = .ok place ∧
      makeEach (path :: higher) files = (.ok place, files.put place .directory)) ∨
    (∃ refusal, makeEach (path :: higher) files = (files.standing path refusal, files)) ∨
    files.vacancy path = .error .notFound ∧
      ((∃ refusal, makeEach (path :: higher) files = (.error refusal, (makeEach higher files).2)) ∨
        ∃ directory, (makeEach higher files).1 = .ok directory ∧
          ((∃ place, vacancyBelow (makeEach higher files).2 (higher.headD ⟨[]⟩) directory path =
                .ok place ∧
              makeEach (path :: higher) files =
                (.ok place, (makeEach higher files).2.put place .directory)) ∨
            ∃ refusal, makeEach (path :: higher) files =
              ((makeEach higher files).2.standing path refusal, (makeEach higher files).2))) := by
  -- The cases are those of the definition, with what the recursive call gives named.
  rw [makeEach]
  split
  · exact .inl ⟨_, ‹_›, rfl⟩
  · refine .inr (.inr ⟨‹_›, ?_⟩)
    rcases makeEach higher files with ⟨refusal | directory, reached⟩
    · exact .inl ⟨refusal, rfl⟩
    · refine .inr ⟨directory, rfl, ?_⟩
      dsimp only
      split
      · exact .inl ⟨_, ‹_›, rfl⟩
      · exact .inr ⟨_, rfl⟩
  · exact .inr (.inl ⟨_, rfl⟩)

/-- One directory after those above it: if these only add directories and the way to the place for
the new one is as found, then nothing but directories is added, and a success leaves the path
leading to a directory. -/
theorem makeEach_cons {higher : List Path}
    (adds : files.AddsDirectories (makeEach higher files).2 higher)
    (found : ∀ directory place, files.vacancy path = .error .notFound →
      (makeEach higher files).1 = .ok directory →
      (makeEach higher files).2.vacancyBelow (higher.headD ⟨[]⟩) directory path = .ok place →
      (makeEach higher files).2.vacancy path = .ok place) :
    files.AddsDirectories (makeEach (path :: higher) files).2 (path :: higher) ∧
      ∀ place, (makeEach (path :: higher) files).1 = .ok place →
        (makeEach (path :: higher) files).2.resolve path = .ok place ∧
        entry? (makeEach (path :: higher) files).2 place = some .directory := by
  rcases makeEach_cons_cases path higher files with
    ⟨free, vacant, made⟩ | ⟨refusal, stays⟩ | ⟨missed, ⟨refusal, failed⟩ | ⟨directory, above, way⟩⟩
  · -- There was a place for it at once.
    rw [made]
    refine ⟨(AddsDirectories.refl files higher).put vacant, fun place same => ?_⟩
    cases same
    exact resolve_put_directory vacant
  · -- Something was in the way at once, and it is a directory or the run failed.
    rw [stays]
    exact ⟨.refl files _, fun place same => standing_eq_ok_iff.mp same⟩
  · -- Those above it could not be made.
    rw [failed]
    exact ⟨adds.cons path, fun place same => by cases same⟩
  · rcases way with ⟨free, vacant, made⟩ | ⟨refusal, stays⟩
    · -- There was a place for it below the last one made.
      have vacant := found directory free missed above vacant
      rw [made]
      refine ⟨adds.put vacant, fun place same => ?_⟩
      cases same
      exact resolve_put_directory vacant
    · -- Something is in the way there.
      rw [stays]
      exact ⟨adds.cons path, fun place same => standing_eq_ok_iff.mp same⟩

/-- Making a path and those above it adds nothing but directories they lead to, and after a success
the names of the path lead to the place told, which for a nonempty path is a directory. -/
theorem makeEach_lineage (path : Path) (files : FileSystem) :
    files.AddsDirectories (makeEach path.lineage files).2 path.lineage ∧
      ∀ place, (makeEach path.lineage files).1 = .ok place →
        (makeEach path.lineage files).2.Follows maxLinks
          (path.start (makeEach path.lineage files).2.workDir) path.names place ∧
        (path.bytes ≠ [] → (makeEach path.lineage files).2.resolve path = .ok place ∧
          entry? (makeEach path.lineage files).2 place = some .directory) := by
  -- The path above is shorter.
  induction size : path.bytes.length using Nat.strong_induction_on generalizing path with
  | _ size ih =>
    by_cases filled : path.bytes = []
    · -- The empty path is where relative paths start, and nothing is made for it.
      obtain rfl : path = ⟨[]⟩ := by
        cases path
        exact congrArg Path.mk filled
      refine ⟨.refl files _, fun place same => ⟨?_, fun filled => absurd rfl filled⟩⟩
      cases same
      exact .here _ _
    · rw [Path.lineage_eq filled]
      -- What holds of the paths above is known from the induction.
      have step := @makeEach_cons files path path.higher ?_ ?_
      · refine ⟨step.1, fun place same => ?_⟩
        obtain ⟨led, isDirectory⟩ := step.2 place same
        exact ⟨(resolve_eq_ok_iff.mp led).2.names.1, fun _ => ⟨led, isDirectory⟩⟩
      · -- Nothing but directories is added for the paths above.
        unfold Path.higher
        cases up : path.parent? with
        | none => exact .refl files _
        | some above => exact (ih _ (size ▸ Path.length_of_parent? up) above rfl).1
      · intro directory place missed made free
        unfold Path.higher at made free ⊢
        cases up : path.parent? with
        -- Without a path above the only name is tried where relative paths start.
        | none =>
          rw [up] at free
          exact vacancy_of_vacancyBelow_empty up free
        | some above =>
          -- With one, its own directory is where the last name is tried.
          simp only [up, Option.map_some, Option.getD_some, Path.headD_lineage] at made free ⊢
          obtain ⟨-, made'⟩ := ih _ (size ▸ Path.length_of_parent? up) above rfl
          exact vacancy_of_vacancyBelow (accepted_of_notFound filled missed) up
            (made' directory made).1 free

/-- Making the paths above a path adds nothing but directories that they lead to. -/
theorem makeEach_higher (path : Path) (files : FileSystem) :
    files.AddsDirectories (makeEach path.higher files).2 path.higher := by
  -- Without a path above nothing is made.
  unfold Path.higher
  cases path.parent? with
  | none => exact .refl files _
  | some above => exact (makeEach_lineage above files).1

/-- Making the directories above a path adds nothing but directories that paths above it lead to. -/
theorem makeParents_adds (files : FileSystem) (path : Path) :
    files.AddsDirectories (files.makeParents path).2 path.higher := by
  -- The paths above are those that the nearest of them leads up to.
  unfold makeParents Path.higher
  cases path.parent? with
  | none => exact .refl files _
  | some above => exact (makeEach_lineage above files).1

/-! ### Directories that stand already -/

/-- Where a path leads to a directory, making it does nothing. -/
theorem makeDirectories_eq_self (led : files.resolve path = .ok place)
    (isDirectory : files.entry? place = some .directory) :
    files.makeDirectories path = (.ok (), files) := by
  -- A path that leads anywhere is not empty.
  have filled := (Path.refusal?_eq_none_iff.mp (resolve_eq_ok_iff.mp led).1).2.1
  have made : makeEach (path :: path.higher) files = (.ok place, files) := by
    simp only [makeEach, vacancy_of_resolve led, standing_eq_ok_iff.mpr ⟨led, isDirectory⟩]
  rw [makeDirectories, Path.lineage_eq filled, made]
  rfl

/-- Where a path leads anywhere, the path above it leads to a directory unless it is empty. -/
theorem exists_resolve_of_parent? (up : path.parent? = some above) (filled : above.bytes ≠ [])
    (led : files.resolve path = .ok place) :
    ∃ directory, files.resolve above = .ok directory ∧
      files.entry? directory = some .directory := by
  -- The names of the path above are the first names of the path.
  obtain ⟨accepted, follows⟩ := resolve_eq_ok_iff.mp led
  obtain ⟨more, further, named⟩ := Path.exists_names_of_parent? up
  have follows := follows.names.1
  rw [named, ← Path.start_of_parent? up] at follows
  obtain ⟨directory, left, start, finish⟩ := follows.of_append
  -- At least one more name leads on from there.
  obtain ⟨name, rest, rfl⟩ := List.exists_cons_of_ne_nil further
  have isDirectory := finish.isDirectory
  refine ⟨directory, resolve_eq_ok_iff.mpr ⟨?_, start.steps isDirectory⟩, isDirectory⟩
  exact Path.refusal?_of_parent? up filled accepted

/-- Where a path leads anywhere, the directories above it need not be made. -/
theorem makeParents_eq_self (led : files.resolve path = .ok place) :
    files.makeParents path = (.ok (), files) := by
  unfold makeParents
  cases up : path.parent? with
  | none => rfl
  | some above =>
    by_cases filled : above.bytes = []
    · -- The empty path stands for the working directory, which is never made.
      cases above
      cases filled
      rfl
    · obtain ⟨directory, led, isDirectory⟩ := exists_resolve_of_parent? up filled led
      exact makeDirectories_eq_self led isDirectory

end Switchboard.FileSystem
