import Switchboard.Proofs.Roster
import Switchboard.Proofs.Survey.Finding

/-!
A survey accounts for every entry of the content directory, and in the same way in whatever order
the entries are listed.
-/

namespace Switchboard

/-- What a roster holds under a path: its items from there, and the path as often as it is set
aside. -/
def Roster.share (roster : Roster) (path : Path) : List Item × List Path :=
  (roster.items.filter fun item => item.source == path,
    roster.setAside.filter fun other => other == path)

/-- What it is for a roster to account for the entries of a directory, each exactly once. -/
structure Roster.Accounts (roster : Roster) (files : FileSystem) (directory : Path) (place : Place)
    (suffix : String) : Prop where
  /-- A file whose name has the suffix behind something gives one item. -/
  content : ∀ name stem, files.LeadsToFile directory place name → stem ≠ "" →
    name = Utf8.encode (stem ++ suffix) →
    roster.share (directory.join name) = ([⟨⟨stem⟩, directory.join name⟩], [])
  /-- Any other file is set aside once. -/
  otherFile : ∀ name text, files.LeadsToFile directory place name → name = Utf8.encode text →
    (∀ stem, text = stem ++ suffix → stem = "") →
    roster.share (directory.join name) = ([], [directory.join name])
  /-- What leads nowhere is set aside once. -/
  nowhere : ∀ name refusal, files.follow directory place name = .error refusal →
    roster.share (directory.join name) = ([], [directory.join name])
  /-- What leads back to the directory is set aside once. -/
  back : ∀ name, files.follow directory place name = .ok place →
    roster.share (directory.join name) = ([], [directory.join name])
  /-- What leads to anything else is passed over. -/
  passed : ∀ name ∈ files.children place, ∀ reached,
    files.follow directory place name = .ok reached → reached ≠ place →
    ¬ files.LeadsToFile directory place name → roster.share (directory.join name) = ([], [])
  /-- Nothing but entries of the directory is accounted for. -/
  sources : ∀ item ∈ roster.items, ∃ name ∈ files.children place, item.source = directory.join name
  aside : ∀ path ∈ roster.setAside, ∃ name ∈ files.children place, path = directory.join name
  /-- The names are not empty and strictly increasing, and the paths set aside are sorted. -/
  nonempty : ∀ name ∈ roster.names, name.text ≠ ""
  rising : roster.names.Pairwise fun first second => compare first second = .lt
  ordered : roster.setAside.Pairwise fun first second => (compare first second).isLE = true

/-- A list with the members of an option is that option. -/
private theorem eq_toList_of_perm {α : Type} {list : List α} {option : Option α}
    (same : list.Perm option.toList) : list = option.toList := by
  -- Up to order there is only one list of so few members.
  cases option with
  | none => exact same.eq_nil
  | some _ => exact List.perm_singleton.mp same

namespace Finding

open FileSystem

variable {files : FileSystem} {directory : Path} {place : Place} {suffix : String}

/-- What findings give under a path is what the findings about that path give. -/
theorem filter_filterMap {α : Type} {give : Finding → Option α} {source : α → Path}
    (sourced : ∀ finding given, give finding = some given → source given = finding.path)
    (findings : List Finding) (path : Path) :
    (findings.filterMap give).filter (fun given => source given == path) =
      (findings.filter fun finding => finding.path == path).filterMap give := by
  -- A finding that gives something gives it under its own path.
  induction findings with
  | nil => rfl
  | cons finding rest ih =>
    cases given : give finding with
    | none => by_cases own : finding.path = path <;> simp [given, own, ih]
    | some value =>
      have same := sourced finding value given
      by_cases own : finding.path = path <;> simp [given, same, own, ih]

/-- What the findings give under the path of an entry is what the finding about it gives. -/
theorem filter_given {α : Type} {give : Finding → Option α} (source : α → Path)
    (sourced : ∀ finding given, give finding = some given → source given = finding.path)
    {name : Bytes} (listed : name ∈ files.children place) :
    ((files.findings directory place suffix).filterMap give).filter
        (fun given => source given == directory.join name) =
      (give (examine files directory place suffix name)).toList := by
  -- A name is listed once, so there is one finding about its path.
  have own : ((fun finding => finding.path == directory.join name) ∘
      examine files directory place suffix) = fun other => other == name := by
    funext other
    simp
  rw [filter_filterMap sourced, FileSystem.findings, List.filter_map, own, List.filter_beq,
    (files.nodup_children place).count, if_pos listed]
  -- The finding gives something under its path or nothing.
  cases given : give (examine files directory place suffix name) <;> simp [given]

/-! ### The roster of the findings -/

/-- The items of the roster are what the findings give, in some order. -/
theorem perm_items_ofFindings (findings : List Finding) :
    (Roster.ofFindings findings).items.Perm (findings.filterMap item?) :=
  Roster.perm_ofItems _

/-- The paths set aside are what the findings set aside, in some order. -/
theorem perm_setAside_ofFindings (findings : List Finding) :
    (Roster.ofFindings findings).setAside.Perm (findings.filterMap setAside?) :=
  Roster.perm_settingAside _ _

/-- The roster holds under the path of an entry what the finding about it gives. -/
theorem share_ofFindings {name : Bytes} (listed : name ∈ files.children place) :
    (Roster.ofFindings (files.findings directory place suffix)).share (directory.join name) =
      ((examine files directory place suffix name).item?.toList,
        (examine files directory place suffix name).setAside?.toList) := by
  -- Sorting does not change how often something occurs, and here it occurs once at most.
  have items := ((perm_items_ofFindings (files.findings directory place suffix)).filter _).trans
    (.of_eq (filter_given Item.source (fun _ _ => source_of_item?) listed))
  have aside := ((perm_setAside_ofFindings (files.findings directory place suffix)).filter _).trans
    (.of_eq (filter_given id (fun _ _ => path_of_setAside?) listed))
  exact Prod.ext (eq_toList_of_perm items) (eq_toList_of_perm aside)

/-- What the findings give is given by the finding about some entry. -/
theorem exists_given {α : Type} {give : Finding → Option α} {given : α}
    (member : given ∈ (files.findings directory place suffix).filterMap give) :
    ∃ name ∈ files.children place,
      give (examine files directory place suffix name) = some given := by
  simpa [FileSystem.findings] using member

/-- No two findings give items of one name. -/
theorem nodup_names_findings :
    (((files.findings directory place suffix).filterMap item?).map Item.name).Nodup := by
  rw [FileSystem.findings, List.filterMap_map, List.map_filterMap]
  refine (files.nodup_children place).filterMap ?_
  -- The name of an item and the suffix are the name of the entry.
  intro first second name given given'
  obtain ⟨item, found, rfl⟩ := Option.map_eq_some_iff.mp given
  obtain ⟨item', found', same⟩ := Option.map_eq_some_iff.mp given'
  rw [(eq_encode_of_item?_examine found).2, (eq_encode_of_item?_examine found').2, same]

/-- The roster of what the entries of a directory amount to accounts for each of them. -/
theorem accounts_ofFindings (isDirectory : files.entry? place = some .directory) :
    (Roster.ofFindings (files.findings directory place suffix)).Accounts files directory place
      suffix where
  content name stem leads filled spelling := by
    -- In each of these cases the entry is listed and so has one finding, which tells what is held.
    rw [share_ofFindings (mem_children_of_leadsToFile leads), examine_of_leadsToFile leads,
      spelling, ofFile_encode_append filled]
    rfl
  otherFile name text leads spelling bare := by
    rw [share_ofFindings (mem_children_of_leadsToFile leads), examine_of_leadsToFile leads,
      spelling, ofFile_encode_of_bare bare]
    rfl
  nowhere name refusal refused := by
    rw [share_ofFindings (mem_children_of_follow refused (by simp)), examine_of_refused refused]
    rfl
  back name back := by
    -- What leads back does not lead to itself.
    have away : (Except.ok place : Except OsError Place) ≠ .ok (place.child name) := fun same =>
      place.child_ne_self name (Except.ok.inj same).symm
    rw [share_ofFindings (mem_children_of_follow back away), examine_of_back isDirectory back]
    rfl
  passed name listed reached led away noFile := by
    -- Only here the entry has to be given as listed, as nothing else tells that it is there.
    rw [share_ofFindings listed, examine_of_passed led away noFile]
    rfl
  sources item member := by
    -- What is held was given by a finding, and a finding has the path of its entry.
    obtain ⟨name, listed, given⟩ := exists_given ((perm_items_ofFindings _).mem_iff.mp member)
    exact ⟨name, listed, by rw [source_of_item? given, path_examine]⟩
  aside path member := by
    obtain ⟨name, listed, given⟩ := exists_given ((perm_setAside_ofFindings _).mem_iff.mp member)
    exact ⟨name, listed, by rw [path_of_setAside? given, path_examine]⟩
  nonempty name member := by
    obtain ⟨item, held, rfl⟩ := List.mem_map.mp member
    -- The name of an item is what stands before the suffix of a file.
    obtain ⟨entry, -, given⟩ := exists_given ((perm_items_ofFindings _).mem_iff.mp held)
    exact (eq_encode_of_item?_examine given).1
  rising := Roster.rises_ofItems nodup_names_findings
  ordered := Roster.ordered_settingAside _ _

end Finding

namespace FileSystem

variable {files other : FileSystem} {directory : Path} {place : Place} {suffix : String}

/-! ### The outcome of a survey -/

/-- A content directory is a path that leads to a directory. -/
theorem contentPlace_eq_ok_iff :
    files.contentPlace directory = .ok place ↔
      files.resolve directory = .ok place ∧ files.entry? place = some .directory := by
  unfold contentPlace
  constructor
  · intro found
    split at found
    · cases found
    · -- The path leads somewhere, and there is a directory or something else.
      split at found
      · cases found
        exact ⟨by assumption, by assumption⟩
      · cases found
  · rintro ⟨led, isDirectory⟩
    simp [led, isDirectory]

/-- Any other path is reported as unreadable. -/
theorem contentPlace_eq_error {fault : Fault}
    (failed : files.contentPlace directory = .error fault) :
    ∃ reason, fault = .unreadableDirectory directory reason := by
  unfold contentPlace at failed
  split at failed
  · exact ⟨_, (Except.error.inj failed).symm⟩
  · split at failed
    · cases failed
    · exact ⟨_, (Except.error.inj failed).symm⟩

/-- A survey of a directory fails at the first illegible entry or gives the roster of all
entries. -/
theorem value_survey (found : files.contentPlace directory = .ok place) :
    (files.survey directory suffix).value =
      match (files.findings directory place suffix).findSome? Finding.illegible? with
      | some path => .error (.invalidFileName path)
      | none => .ok (.ofFindings (files.findings directory place suffix)) := by
  -- Once the directory is found, the illegible findings decide.
  -- Without an illegible finding the search ends with the roster.
  cases stopped : (files.findings directory place suffix).findSome? Finding.illegible? <;>
    simp [survey, found, stopped]

/-- A survey that gives a roster has found the directory, and the roster is that of its entries. -/
theorem exists_of_survey {roster : Roster}
    (surveyed : (files.survey directory suffix).value = .ok roster) :
    ∃ place, files.contentPlace directory = .ok place ∧
      roster = .ofFindings (files.findings directory place suffix) := by
  cases found : files.contentPlace directory with
  | error fault => simp [survey, found] at surveyed
  | ok place =>
    rw [value_survey found] at surveyed
    split at surveyed
    · cases surveyed
    · exact ⟨place, rfl, (Except.ok.inj surveyed).symm⟩

/-- The names a survey finds rise strictly, as no two files of a directory give the same. -/
theorem rises_of_survey {roster : Roster}
    (surveyed : (files.survey directory suffix).value = .ok roster) :
    roster.names.Pairwise fun first second => compare first second = .lt := by
  obtain ⟨place, -, rfl⟩ := exists_of_survey surveyed
  exact Roster.rises_ofItems Finding.nodup_names_findings

/-- The search is stopped only by an illegible entry. -/
theorem exists_of_findSome? {path : Path}
    (stopped : (files.findings directory place suffix).findSome? Finding.illegible? = some path) :
    ∃ name, files.IsIllegible directory place name ∧ directory.join name = path := by
  obtain ⟨finding, member, given⟩ := List.exists_of_findSome?_eq_some stopped
  obtain ⟨name, -, rfl⟩ := List.mem_map.mp member
  exact ⟨name, Finding.illegible?_examine_eq_some_iff.mp given⟩

/-- The search is stopped by any illegible entry. -/
theorem findSome?_eq_none_iff (suffix : String) :
    (files.findings directory place suffix).findSome? Finding.illegible? = none ↔
      ∀ name, ¬ files.IsIllegible directory place name := by
  rw [List.findSome?_eq_none_iff]
  constructor
  · intro legible name illegible
    have listed := mem_children_of_leadsToFile illegible.1
    -- An illegible entry leads to a file, so it is listed and has a finding.
    have quiet := legible _ (List.mem_map.mpr ⟨name, listed, rfl⟩)
    rw [Finding.illegible?_examine_eq_some_iff.mpr ⟨illegible, rfl⟩] at quiet
    cases quiet
  · rintro legible finding member
    obtain ⟨name, -, rfl⟩ := List.mem_map.mp member
    refine Option.eq_none_iff_forall_ne_some.mpr fun path given => ?_
    exact legible name (Finding.illegible?_examine_eq_some_iff.mp given).1

/-! ### The order of listing -/

/-- Whether everything in a file system stands under names that entries of a directory can have. -/
def HasProperNames (files : FileSystem) : Prop :=
  ∀ place ∈ files.table.keys, ∀ name ∈ place.names, Path.isName name

instance : Decidable files.HasProperNames :=
  inferInstanceAs (Decidable (∀ place ∈ files.table.keys, ∀ name ∈ place.names, Path.isName name))

/-- Then the names a directory lists are such names. -/
theorem HasProperNames.isName (proper : files.HasProperNames) {name : Bytes}
    (listed : name ∈ files.children place) : Path.isName name := by
  obtain ⟨key, member, named⟩ := List.mem_filterMap.mp listed
  rw [childName?_eq_some_iff.mp named] at member
  exact proper _ member name List.mem_cons_self

namespace Relists

variable (relists : files.Relists other)

include relists

/-- A content directory is found alike however its entries are listed. -/
theorem contentPlace_eq (directory : Path) :
    files.contentPlace directory = other.contentPlace directory := by
  simp only [contentPlace, relists.resolve_eq, relists.entry?_eq]

/-- The same entries amount to the same findings. -/
theorem findings_perm (directory : Path) (place : Place) (suffix : String) :
    (files.findings directory place suffix).Perm (other.findings directory place suffix) := by
  -- An entry is examined by where it leads, which does not depend on the order.
  have same : Finding.examine other directory place suffix =
      Finding.examine files directory place suffix := by
    funext name
    simp only [Finding.examine, relists.resolve_eq, relists.entry?_eq]
  rw [findings, findings, same]
  exact (relists.children_perm place).map _

/-- The findings give the same roster. -/
theorem ofFindings_eq (proper : files.HasProperNames) (directory : Path) (place : Place)
    (suffix : String) :
    Roster.ofFindings (files.findings directory place suffix) =
      Roster.ofFindings (other.findings directory place suffix) := by
  have perm := relists.findings_perm directory place suffix
  unfold Roster.ofFindings
  -- No name occurs twice, so sorting leaves no choice among the items.
  rw [Roster.ofItems_eq_of_perm (perm.filterMap _) Finding.nodup_names_findings]
  refine Roster.settingAside_eq_of_perm _ (perm.filterMap _)
    fun first member second member' level => ?_
  -- Both paths are those of entries of one directory.
  obtain ⟨name, listed, given⟩ := Finding.exists_given member
  obtain ⟨name', listed', given'⟩ := Finding.exists_given member'
  rw [Finding.path_of_setAside? given, Finding.path_of_setAside? given', Finding.path_examine,
    Finding.path_examine] at level ⊢
  rw [Path.eq_of_compare_join (proper.isName listed) (proper.isName listed') level]

/-- A survey has the same outcome, except that it may be stopped by another illegible name. -/
theorem value_survey_eq (proper : files.HasProperNames) (directory : Path) (suffix : String) :
    (files.survey directory suffix).value = (other.survey directory suffix).value ∨
      ∃ path path', (files.survey directory suffix).value = .error (.invalidFileName path) ∧
        (other.survey directory suffix).value = .error (.invalidFileName path') := by
  cases found : files.contentPlace directory with
  | error fault =>
    left
    simp only [survey, found, ← relists.contentPlace_eq]
  | ok place =>
    have found' := (relists.contentPlace_eq directory).symm.trans found
    have perm := relists.findings_perm directory place suffix
    rw [value_survey found, value_survey found', relists.ofFindings_eq proper]
    cases stopped : (files.findings directory place suffix).findSome? Finding.illegible? with
    | none =>
      left
      -- Findings that are the same up to order stop no search that they did not stop before.
      have stopped' : (other.findings directory place suffix).findSome? Finding.illegible? = none :=
        List.findSome?_eq_none_iff.mpr fun finding member =>
          List.findSome?_eq_none_iff.mp stopped finding (perm.mem_iff.mpr member)
      rw [stopped']
    | some path =>
      right
      cases stopped' : (other.findings directory place suffix).findSome? Finding.illegible? with
      | none =>
        -- The name that stops the one search is listed in the other one, too.
        obtain ⟨finding, member, given⟩ := List.exists_of_findSome?_eq_some stopped
        rw [List.findSome?_eq_none_iff.mp stopped' finding (perm.mem_iff.mp member)] at given
        cases given
      | some path' => exact ⟨path, path', rfl, rfl⟩

end Relists

/-! ### What a survey accounts for -/

/-- A survey fails as unreadable exactly if the path leads to no directory. Otherwise it fails at an
illegible entry exactly if there is one, and without any it gives a roster that accounts for every
entry. All this does not depend on the order of listing, save which illegible entry is named. -/
theorem survey_accounts_for_each_entry (files : FileSystem) (directory : Path) (suffix : String) :
    ((∃ reason, (files.survey directory suffix).value =
        .error (.unreadableDirectory directory reason)) ↔
      ∀ place, files.resolve directory = .ok place → files.entry? place ≠ some .directory) ∧
    (∀ place, files.resolve directory = .ok place → files.entry? place = some .directory →
      ((∃ path, (files.survey directory suffix).value = .error (.invalidFileName path)) ↔
        ∃ name, files.IsIllegible directory place name) ∧
      (∀ path, (files.survey directory suffix).value = .error (.invalidFileName path) →
        ∃ name, files.IsIllegible directory place name ∧ directory.join name = path) ∧
      ((∀ name, ¬ files.IsIllegible directory place name) →
        ∃ roster, (files.survey directory suffix).value = .ok roster ∧
          roster.Accounts files directory place suffix)) ∧
    ∀ other, files.Relists other → files.HasProperNames →
      (files.survey directory suffix).value = (other.survey directory suffix).value ∨
        ∃ path path', (files.survey directory suffix).value = .error (.invalidFileName path) ∧
          (other.survey directory suffix).value = .error (.invalidFileName path') := by
  -- Whether the directory is found decides the first part, and the findings decide the second.
  refine ⟨?_, fun place led isDirectory => ?_, fun other relists proper =>
    relists.value_survey_eq proper directory suffix⟩
  · cases found : files.contentPlace directory with
    | error fault =>
      obtain ⟨reason, rfl⟩ := contentPlace_eq_error found
      -- What is found as a directory would not have failed.
      have unreadable (place : Place) (led : files.resolve directory = .ok place)
          (isDirectory : files.entry? place = some .directory) : False := by
        rw [contentPlace_eq_ok_iff.mpr ⟨led, isDirectory⟩] at found
        cases found
      simp only [survey, found]
      exact ⟨fun _ => unreadable, fun _ => ⟨reason, rfl⟩⟩
    | ok place =>
      obtain ⟨led, isDirectory⟩ := contentPlace_eq_ok_iff.mp found
      rw [value_survey found]
      refine ⟨fun ⟨reason, failed⟩ => ?_,
        fun unreadable => absurd isDirectory (unreadable place led)⟩
      -- Once the directory is found, a survey fails at a name or not at all.
      split at failed <;> cases failed
  · have found := contentPlace_eq_ok_iff.mpr ⟨led, isDirectory⟩
    rw [value_survey found]
    cases stopped : (files.findings directory place suffix).findSome? Finding.illegible? with
    | none =>
      -- No search was stopped, so no entry is illegible and the roster holds all of them.
      have legible := (findSome?_eq_none_iff suffix).mp stopped
      simp [legible, Finding.accounts_ofFindings isDirectory]
    | some path =>
      obtain ⟨name, illegible, joined⟩ := exists_of_findSome? stopped
      refine ⟨⟨fun _ => ⟨name, illegible⟩, fun _ => ⟨path, rfl⟩⟩, ?_, fun legible => ?_⟩
      · rintro other same
        cases same
        exact ⟨name, illegible, joined⟩
      · exact absurd illegible (legible name)

/-- The file system that lists its entries in the opposite order. -/
def backwards (files : FileSystem) : FileSystem :=
  { files with table := ⟨files.table.entries.reverse, by
      rw [List.map_reverse, List.nodup_reverse]
      exact files.table.distinct⟩ }

/-- The opposite order lists the same entries. -/
theorem relists_backwards (files : FileSystem) : files.Relists files.backwards :=
  ⟨(List.reverse_perm _).symm, rfl⟩

/-- The file system with some entries in its working directory. -/
def holding (entries : List (String × Entry)) : FileSystem :=
  let here := Place.ofNames [Utf8.encode "content"]
  entries.foldl (fun files (name, entry) => files.put (here.child (Utf8.encode name)) entry)
    (.bare here)

/-- A working directory with an entry of every kind that a survey tells apart. -/
def workshop : FileSystem :=
  holding [("A.elm", .file []), (".elm", .file []), ("B.elm", .link (.ofString "nowhere")),
    ("C.elm", .link (.ofString ".")), ("D.elm", .directory)]

/-- Of a file, a bare suffix, a link to nothing, a link back and a directory, the first gives an
item, the next three are set aside and the last is passed over. -/
theorem survey_accounts_for_each_entry_workshop :
    ∃ roster, (workshop.survey (.ofString ".") ".elm").value = .ok roster ∧
      (workshop.backwards.survey (.ofString ".") ".elm").value = .ok roster ∧
      roster.share (.ofString "./A.elm") = ([⟨⟨"A"⟩, .ofString "./A.elm"⟩], []) ∧
      roster.share (.ofString "./.elm") = ([], [.ofString "./.elm"]) ∧
      roster.share (.ofString "./B.elm") = ([], [.ofString "./B.elm"]) ∧
      roster.share (.ofString "./C.elm") = ([], [.ofString "./C.elm"]) ∧
      roster.share (.ofString "./D.elm") = ([], []) := by
  obtain ⟨-, readable, relisted⟩ := survey_accounts_for_each_entry workshop (.ofString ".") ".elm"
  have legible : ∀ name, ¬ workshop.IsIllegible (.ofString ".") workshop.workDir name :=
    (findSome?_eq_none_iff ".elm").mp (by decide +kernel)
  obtain ⟨-, -, accounted⟩ := readable workshop.workDir (by decide) (by decide)
  obtain ⟨roster, outcome, accounts⟩ := accounted legible
  have outcome' : (workshop.backwards.survey (.ofString ".") ".elm").value = .ok roster := by
    rcases relisted _ (relists_backwards workshop) (by decide) with same | ⟨_, _, failed, -⟩
    · rw [← same, outcome]
    · -- The first survey did not fail.
      rw [outcome] at failed
      cases failed
  have first : workshop.LeadsToFile (.ofString ".") workshop.workDir (Utf8.encode "A.elm") :=
    ⟨workshop.workDir.child (Utf8.encode "A.elm"), [], by decide, by decide⟩
  have bare : workshop.LeadsToFile (.ofString ".") workshop.workDir (Utf8.encode ".elm") :=
    ⟨workshop.workDir.child (Utf8.encode ".elm"), [], by decide, by decide⟩
  -- The directory leads to itself, and a directory is no file.
  have itself : workshop.follow (.ofString ".") workshop.workDir (Utf8.encode "D.elm") =
      .ok (workshop.workDir.child (Utf8.encode "D.elm")) := by decide
  have noFile : ¬ workshop.LeadsToFile (.ofString ".") workshop.workDir (Utf8.encode "D.elm") := by
    rintro ⟨reached, contents, led, stands⟩
    obtain rfl := Except.ok.inj (itself.symm.trans led)
    rw [show workshop.entry? (workshop.workDir.child (Utf8.encode "D.elm")) = some .directory by
      decide] at stands
    cases stands
  refine ⟨roster, outcome, outcome', ?_, ?_, ?_, ?_, ?_⟩
  · exact accounts.content (Utf8.encode "A.elm") "A" first (by decide) rfl
  · refine accounts.otherFile (Utf8.encode ".elm") ".elm" bare rfl fun stem same => ?_
    exact Option.some.inj ((Finding.dropSuffix?_eq_some_iff.mpr same).symm.trans (by decide))
  · exact accounts.nowhere (Utf8.encode "B.elm") .notFound (by decide)
  · exact accounts.back (Utf8.encode "C.elm") (by decide)
  · exact accounts.passed (Utf8.encode "D.elm") (by decide) _ itself (by decide) noFile

end FileSystem

end Switchboard
