import Switchboard.Proofs.Files.Listing
import Switchboard.Proofs.Text.Decoding
import Switchboard.Survey

/-!
What an entry of a content directory amounts to, by where it leads and how it is named.
-/

namespace Switchboard

namespace FileSystem

variable (files : FileSystem) (directory : Path) (place : Place) (name : Bytes)

/-- Where an entry of a directory leads, with links followed. -/
def follow : Except OsError Place :=
  -- Only a link leads anywhere else than to itself.
  match files.entry? (place.child name) with
  | some (.link _) => files.resolve (directory.join name)
  | _ => .ok (place.child name)

/-- Whether an entry of a directory is a file or a link that leads to one. -/
def LeadsToFile : Prop :=
  ∃ reached contents,
    files.follow directory place name = .ok reached ∧ files.entry? reached = some (.file contents)

/-- Whether an entry of a directory leads to a file under a name that is no text. -/
def IsIllegible : Prop :=
  files.LeadsToFile directory place name ∧ ∀ text, name ≠ Utf8.encode text

variable {files directory place name}

/-- What leads anywhere but to itself stands in its directory. -/
theorem mem_children_of_follow {outcome : Except OsError Place}
    (led : files.follow directory place name = outcome) (away : outcome ≠ .ok (place.child name)) :
    name ∈ files.children place := by
  rw [mem_children_iff]
  cases entry : files.entry? (place.child name) with
  -- What is not there is no link, so it leads to itself.
  | none => exact absurd (led.symm.trans (by simp [follow, entry])) away
  | some _ => rfl

/-- What leads to a file stands in its directory. -/
theorem mem_children_of_leadsToFile (leads : files.LeadsToFile directory place name) :
    name ∈ files.children place := by
  -- Either the file stands there itself, or a link does that leads on to it.
  obtain ⟨reached, contents, led, stands⟩ := leads
  by_cases itself : reached = place.child name
  · rw [mem_children_iff, ← itself, stands]
    rfl
  · exact mem_children_of_follow led fun same => itself (Except.ok.inj same)

end FileSystem

namespace Finding

open FileSystem

variable {files : FileSystem} {directory : Path} {place : Place} {suffix : String} {name : Bytes}

/-! ### The path of a finding -/

/-- The path of the entry a finding is about. -/
def path : Finding → Path
  | named _ path | withoutSuffix path | illegible path | deadEnd path _ | notFile path => path

/-- An item comes from the path of the finding that gives it. -/
theorem source_of_item? {finding : Finding} {item : Item} (given : finding.item? = some item) :
    item.source = finding.path := by
  cases finding <;> cases given
  rfl

/-- The path that a finding sets aside is its own. -/
theorem path_of_setAside? {finding : Finding} {path : Path}
    (aside : finding.setAside? = some path) : path = finding.path := by
  cases finding <;> cases aside <;> rfl

/-- Whatever a file amounts to, the finding about it has its path. -/
theorem path_ofFile (path : Path) : (ofFile suffix path name).path = path := by
  unfold ofFile
  split
  · rfl
  · split <;> rfl

/-- The finding about an entry has the path of the entry. -/
@[simp] theorem path_examine :
    (examine files directory place suffix name).path = directory.join name := by
  unfold examine
  dsimp only
  -- Each kind of finding is made with the path that was looked at.
  split
  · exact path_ofFile _
  · split
    · rfl
    · split
      · exact path_ofFile _
      · split <;> rfl
  · rfl

/-! ### Names of files -/

/-- A text has a suffix exactly if it is something followed by it. -/
theorem dropSuffix?_eq_some_iff {text stem : String} :
    dropSuffix? suffix text = some stem ↔ text = stem ++ suffix := by
  -- What is taken off the front is as long as the text without the suffix.
  unfold dropSuffix?
  constructor
  · intro dropped
    split at dropped
    · rename_i ends
      -- What stands before the suffix is what is left after it is dropped.
      obtain ⟨front, spelling⟩ := List.isSuffixOf_iff_suffix.mp ends
      rw [← spelling] at dropped
      rw [← String.toList_inj, String.toList_append, ← spelling, ← Option.some.inj dropped]
      simp
    · cases dropped
  · rintro rfl
    simp

/-- A name that is no text is told as such. -/
theorem ofFile_of_no_text {path : Path} (noText : ∀ text, name ≠ Utf8.encode text) :
    ofFile suffix path name = illegible path := by
  unfold ofFile
  cases read : Utf8.decode name with
  | none => rfl
  | some text => exact absurd (Utf8.decode_eq_some_iff.mp read) (noText text)

/-- A name that is something followed by the suffix is that of a module. -/
theorem ofFile_encode_append {path : Path} {stem : String} (filled : stem ≠ "") :
    ofFile suffix path (Utf8.encode (stem ++ suffix)) = named ⟨stem⟩ path := by
  unfold ofFile
  rw [Utf8.decode_eq_some_iff.mpr rfl]
  -- Dropping the suffix leaves the stem, which is not empty.
  simp only [dropSuffix?_eq_some_iff.mpr (rfl : stem ++ suffix = stem ++ suffix)]

/-- A text that is nothing but the suffix, or does not end in it, is told as such. -/
theorem ofFile_encode_of_bare {path : Path} {text : String}
    (bare : ∀ stem, text = stem ++ suffix → stem = "") :
    ofFile suffix path (Utf8.encode text) = withoutSuffix path := by
  -- A text that does have the suffix is bare before it, so nothing is left for a name.
  unfold ofFile
  rw [Utf8.decode_eq_some_iff.mpr rfl]
  cases dropped : dropSuffix? suffix text with
  | none => simp only [dropped]
  | some stem =>
    obtain rfl := bare stem (dropSuffix?_eq_some_iff.mp dropped)
    simp only [dropped]

/-- Only something followed by the suffix gives an item, and the name with it. -/
theorem eq_encode_of_item?_ofFile {path : Path} {item : Item}
    (given : (ofFile suffix path name).item? = some item) :
    item.name.text ≠ "" ∧ name = Utf8.encode (item.name.text ++ suffix) := by
  unfold ofFile at given
  cases read : Utf8.decode name with
  | none => simp [read, item?] at given
  | some text =>
    simp only [read] at given
    split at given
    · cases given
    · cases given
    · -- Two of the three outcomes give no item.
      rename_i stem noStem dropped
      cases given
      refine ⟨noStem, ?_⟩
      rw [← dropSuffix?_eq_some_iff.mp dropped, Utf8.decode_eq_some_iff.mp read]

/-- Only a name that is no text stops the search. -/
theorem illegible?_ofFile_eq_some_iff {path other : Path} :
    (ofFile suffix path name).illegible? = some other ↔
      (∀ text, name ≠ Utf8.encode text) ∧ path = other := by
  by_cases noText : ∀ text, name ≠ Utf8.encode text
  · simp [ofFile_of_no_text noText, illegible?, noText]
  · -- A text is told in one of the two other ways.
    simp only [noText, false_and, iff_false]
    obtain ⟨text, spelling⟩ := not_forall_not.mp noText
    unfold ofFile
    rw [Utf8.decode_eq_some_iff.mpr spelling]
    dsimp only
    split <;> simp [illegible?]

/-! ### Entries -/

/-- An entry is judged by what stands where it leads. -/
theorem examine_eq : examine files directory place suffix name =
    match files.follow directory place name with
    | .error refusal => .deadEnd (directory.join name) (.refused refusal)
    | .ok reached =>
      match files.entry? reached with
      | some (.file _) => ofFile suffix (directory.join name) name
      | _ =>
        if reached = place then .deadEnd (directory.join name) (.loop directory)
        else .notFile (directory.join name) := by
  -- An entry that is no link never leads back to the directory it is in.
  have away := place.child_ne_self name
  unfold examine follow
  dsimp only
  cases entry : files.entry? (place.child name) with
  | none => simp [entry, away]
  | some kind =>
    cases kind with
    | link target =>
      -- Behind a link both sides look at the same place.
      cases files.resolve (directory.join name) with
      | error refusal => rfl
      | ok reached => rcases files.entry? reached with _ | (_ | _ | _ | _) <;> rfl
    | _ => simp [entry, away]

/-- An entry that leads to a file is judged by its name. -/
theorem examine_of_leadsToFile (leads : files.LeadsToFile directory place name) :
    examine files directory place suffix name = ofFile suffix (directory.join name) name := by
  obtain ⟨reached, contents, led, stands⟩ := leads
  simp [examine_eq, led, stands]

/-- An entry that leads nowhere is a dead end, for the reason it was refused for. -/
theorem examine_of_refused {refusal : OsError}
    (refused : files.follow directory place name = .error refusal) :
    examine files directory place suffix name =
      deadEnd (directory.join name) (.refused refusal) := by
  simp [examine_eq, refused]

/-- An entry that leads back to its directory is a dead end as a loop. -/
theorem examine_of_back (isDirectory : files.entry? place = some .directory)
    (back : files.follow directory place name = .ok place) :
    examine files directory place suffix name =
      deadEnd (directory.join name) (.loop directory) := by
  simp [examine_eq, back, isDirectory]

/-- An entry that leads to anything else but a file is told as no file. -/
theorem examine_of_passed {reached : Place} (led : files.follow directory place name = .ok reached)
    (away : reached ≠ place) (noFile : ¬ files.LeadsToFile directory place name) :
    examine files directory place suffix name = notFile (directory.join name) := by
  rw [examine_eq, led]
  dsimp only
  split
  · rename_i contents stands
    exact absurd ⟨reached, contents, led, stands⟩ noFile
  · exact if_neg away

/-- What leads to no file neither gives an item nor stops the search. -/
theorem examine_of_noFile (noFile : ¬ files.LeadsToFile directory place name) :
    (examine files directory place suffix name).item? = none ∧
      (examine files directory place suffix name).illegible? = none := by
  -- The name of an entry is looked at only where it leads to a file.
  rw [examine_eq]
  split
  · exact ⟨rfl, rfl⟩
  · rename_i reached led
    split
    · rename_i contents stands
      exact absurd ⟨reached, contents, led, stands⟩ noFile
    · split <;> exact ⟨rfl, rfl⟩

/-- Only a file whose name is something followed by the suffix gives an item. -/
theorem eq_encode_of_item?_examine {item : Item}
    (given : (examine files directory place suffix name).item? = some item) :
    item.name.text ≠ "" ∧ name = Utf8.encode (item.name.text ++ suffix) := by
  by_cases leads : files.LeadsToFile directory place name
  · rw [examine_of_leadsToFile leads] at given
    exact eq_encode_of_item?_ofFile given
  · -- What leads to no file gives no item at all.
    simp [(examine_of_noFile leads).1] at given

/-- An entry stops the search exactly if it leads to a file under a name that is no text. -/
theorem illegible?_examine_eq_some_iff {path : Path} :
    (examine files directory place suffix name).illegible? = some path ↔
      files.IsIllegible directory place name ∧ directory.join name = path := by
  unfold IsIllegible
  -- Names are looked at only where there is a file.
  by_cases leads : files.LeadsToFile directory place name
  · rw [examine_of_leadsToFile leads, illegible?_ofFile_eq_some_iff]
    simp only [leads, true_and]
  · simp [(examine_of_noFile leads).2, leads]

end Finding

end Switchboard
