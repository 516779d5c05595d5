import Switchboard.Proofs.Files.Making

/-!
Writing a file: where the written bytes come to stand, that the path leads there afterwards, and
that writing again needs no more directories and lands at the same place.
-/

namespace Switchboard.FileSystem

variable {files later : FileSystem} {path : Path} {here place other : Place} {name : Bytes}
  {names : List Bytes} {links : Nat}

/-! ### The place a file is written at -/

/-- What it is for writing along some names to land at a place through at most so many links. The
last name must not insist on a directory, and may be free. -/
inductive Lands (files : FileSystem) : Nat → Place → List Bytes → Place → Prop where
  | here {links : Nat} {here : Place} {name : Bytes}
      (isDirectory : files.entry? here = some .directory) (noDot : name ≠ Path.dot)
      (noDotDot : name ≠ Path.dotDot) (short : name.length ≤ Path.maxName)
      (takes : ∀ entry, files.entry? (here.child name) = some entry → entry.takesBytes = true) :
      Lands files links here [name] (here.child name)
  | arrive {links : Nat} {here next place : Place} {name second : Bytes} {rest : List Bytes}
      (led : files.stride here name = .ok (.arrive next))
      (onward : Lands files links next (second :: rest) place) :
      Lands files links here (name :: second :: rest) place
  | link {links : Nat} {here place : Place} {name : Bytes} {rest : List Bytes} {target : Path}
      (led : files.stride here name = .ok (.link target))
      (onward : Lands files links (target.start here) (target.steps ++ rest) place) :
      Lands files (links + 1) here (name :: rest) place

/-- No dot leads to a link. -/
theorem ne_dot_of_stride_link {target : Path} (led : files.stride here name = .ok (.link target)) :
    name ≠ Path.dot ∧ name ≠ Path.dotDot ∧ name.length ≤ Path.maxName ∧
      files.entry? (here.child name) = some (.link target) := by
  obtain ⟨-, ⟨-, same⟩ | ⟨-, same⟩ | ⟨noDot, noDotDot, short, entry, stands, same⟩⟩ :=
    stride_eq_ok_iff.mp led
  · cases same
  · cases same
  · -- Only a link leads onward as one.
    refine ⟨noDot, noDotDot, short, ?_⟩
    cases entry <;> cases same
    exact stands

namespace Lands

/-- The last name is no dot. -/
theorem getLast?_ne (lands : files.Lands links here names place) :
    names.getLast? ≠ some Path.dot := by
  induction lands with
  | here _ noDot => simpa using noDot
  | arrive _ _ ih => simpa [List.getLast?_cons_cons] using ih
  | @link _ _ _ name rest _ led _ ih =>
    -- The last name is the one the link stands for, or one of those after it.
    cases rest with
    | nil => simpa using (ne_dot_of_stride_link led).1
    | cons second rest => simpa [List.getLast?_append] using ih

/-- Writing lands below the root, at nothing or at something that takes bytes. -/
theorem takes (lands : files.Lands links here names place) :
    place ≠ .root ∧ ∀ entry, files.entry? place = some entry → entry.takesBytes = true := by
  induction lands with
  | here _ _ _ _ takes => exact ⟨Place.child_ne_root _ _, takes⟩
  | arrive _ _ ih => exact ih
  | link _ _ ih => exact ih

/-- Writing still lands at the same place when the file system grows, unless a directory or a link
comes to stand there. -/
theorem grown (lands : files.Lands links here names place) (grows : files.GrowsInto later)
    (takes : ∀ entry, later.entry? place = some entry → entry.takesBytes = true) :
    later.Lands links here names place := by
  induction lands with
  | here isDirectory noDot noDotDot short _ =>
    exact .here (grows.directory isDirectory) noDot noDotDot short takes
  | arrive led _ ih => exact .arrive (grows.stride led) (ih takes)
  | link led _ ih => exact .link (grows.stride led) (ih takes)

/-- Names lead to where writing along them lands, once something stands there. -/
theorem follows (lands : files.Lands links here names place) {entry : Entry}
    (stands : files.entry? place = some entry) : files.Follows links here names place := by
  induction lands with
  | @here _ here name isDirectory noDot noDotDot short takes =>
    -- What takes bytes is no link, so a step to it arrives.
    have arrives := Entry.onward_of_takesBytes (takes entry stands) (here.child name)
    refine .arrive (stride_eq_ok_iff.mpr ⟨isDirectory, .inr (.inr ?_)⟩) (.here _ _)
    exact ⟨noDot, noDotDot, short, entry, stands, arrives.symm⟩
  | arrive led _ ih => exact .arrive led (ih stands)
  | link led _ ih => exact .link led (ih stands)

/-- Names that lead somewhere lead to where writing along them lands. -/
theorem eq_of_follows (lands : files.Lands links here names place)
    (follows : files.Follows links here names other) : other = place := by
  induction lands generalizing other with
  | @here _ here name _ noDot noDotDot _ takes =>
    cases follows with
    | arrive led onward =>
      cases onward
      -- Of the three kinds of step, only one down to an entry is left.
      obtain ⟨-, ⟨same, -⟩ | ⟨same, -⟩ | ⟨-, -, -, entry, stands, same⟩⟩ := stride_eq_ok_iff.mp led
      · exact absurd same noDot
      · exact absurd same noDotDot
      · rw [Entry.onward_of_takesBytes (takes entry stands)] at same
        cases same
        rfl
    | link led =>
      -- What stands there takes bytes, so it is no link to follow.
      have takesLink := takes _ (ne_dot_of_stride_link led).2.2.2
      cases takesLink
  | arrive led _ ih =>
    -- Both ways take the same first step.
    cases follows with
    | arrive led' onward =>
      cases led.symm.trans led'
      exact ih onward
    | link led' => cases led.symm.trans led'
  | link led _ ih =>
    cases follows with
    | arrive led' => cases led.symm.trans led'
    | link led' onward =>
      cases led.symm.trans led'
      exact ih onward

end Lands

/-- Where the search for the place to write at ends with a name: in a directory, at what the name
stands for if that is a link, and else at the name itself unless a directory stands there. -/
theorem landTo_last_eq_ok_iff {jump : Place → List Bytes → Bool → Except OsError Place}
    {slashed : Bool} : files.landTo jump here [name] slashed = .ok place ↔
      slashed = false ∧ files.entry? here = some .directory ∧ name ≠ Path.dot ∧
        name ≠ Path.dotDot ∧ name.length ≤ Path.maxName ∧
        ((∃ target, files.entry? (here.child name) = some (.link target) ∧
            jump (target.start here) target.names target.endsInSlash = .ok place) ∨
          place = here.child name ∧
            ∀ entry, files.entry? (here.child name) = some entry → entry.takesBytes = true) := by
  rw [landTo]
  by_cases isDirectory : files.entry? here = some .directory
  · -- The guards refuse first, and what stands at the name decides after them.
    by_cases refused : name = Path.dot ∨ name = Path.dotDot ∨ slashed = true
    · rcases refused with same | same | same <;> simp [isDirectory, same]
    · simp only [not_or, Bool.not_eq_true] at refused
      obtain ⟨noDot, noDotDot, noSlash⟩ := refused
      by_cases long : Path.maxName < name.length
      · simp [isDirectory, noDot, noDotDot, noSlash, long, Nat.not_le.mpr long]
      · rcases stands : files.entry? (here.child name) with _ | (_ | _ | _ | _) <;>
          simp [isDirectory, noDot, noDotDot, noSlash, long, Nat.not_lt.mp long,
            Entry.takesBytes, eq_comm (a := place)]
  · simp [isDirectory]

/-- The steps of a link's target are its names where no slash insists on a directory. -/
theorem steps_eq_names {target : Path} (noSlash : target.endsInSlash = false) :
    target.steps = target.names := by
  simp [Path.steps, noSlash]

/-- Writing along one name lands in a directory, through what the name stands for if that is a link
without a slash at its end, and else at the name itself. -/
theorem lands_last_iff : files.Lands links here [name] place ↔
    files.entry? here = some .directory ∧ name ≠ Path.dot ∧ name ≠ Path.dotDot ∧
      name.length ≤ Path.maxName ∧
      ((∃ target, files.entry? (here.child name) = some (.link target) ∧
          target.endsInSlash = false ∧
          ∃ fewer, links = fewer + 1 ∧
            files.Lands fewer (target.start here) target.names place) ∨
        place = here.child name ∧
          ∀ entry, files.entry? (here.child name) = some entry → entry.takesBytes = true) := by
  constructor
  · intro lands
    cases lands with
    | here isDirectory noDot noDotDot short takes =>
      exact ⟨isDirectory, noDot, noDotDot, short, .inr ⟨rfl, takes⟩⟩
    | @link fewer _ _ _ _ target led onward =>
      obtain ⟨noDot, noDotDot, short, stands⟩ := ne_dot_of_stride_link led
      rw [List.append_nil] at onward
      -- A slash would have put a dot at the end of the steps.
      have unslashed : target.endsInSlash = false := by
        cases slash : target.endsInSlash with
        | false => rfl
        | true => exact absurd (by simp [Path.steps, slash]) onward.getLast?_ne
      exact ⟨isDirectory_of_stride led, noDot, noDotDot, short,
        .inl ⟨target, stands, unslashed, fewer, rfl, steps_eq_names unslashed ▸ onward⟩⟩
  · rintro ⟨isDirectory, noDot, noDotDot, short, ⟨target, stands, unslashed, fewer, rfl, onward⟩ |
      ⟨rfl, takes⟩⟩
    · have led : files.stride here name = .ok (.link target) :=
        stride_eq_ok_iff.mpr ⟨isDirectory,
          .inr (.inr ⟨noDot, noDotDot, short, .link target, stands, rfl⟩)⟩
      refine .link led ?_
      rwa [steps_eq_names unslashed, List.append_nil]
    · exact .here isDirectory noDot noDotDot short takes

/-- The search for the place to write at succeeds exactly where writing lands and no slash insists
on a directory, given that the hand-over at a link does so with one link less. -/
theorem landTo_eq_ok_iff {jump : Place → List Bytes → Bool → Except OsError Place}
    (jumps : ∀ start names slashed place, jump start names slashed = .ok place ↔
      slashed = false ∧ ∃ fewer, links = fewer + 1 ∧ files.Lands fewer start names place)
    {slashed : Bool} : files.landTo jump here names slashed = .ok place ↔
      slashed = false ∧ files.Lands links here names place := by
  -- The induction is on the names, of which the last one is looked at in its own way.
  induction names generalizing here with
  | nil =>
    rw [landTo]
    constructor
    · intro landed
      cases landed
    · rintro ⟨-, lands⟩
      cases lands
  | cons name rest ih =>
    cases rest with
    | nil =>
      -- A link in the last place hands over to its target, which is what `jumps` is about.
      rw [landTo_last_eq_ok_iff, lands_last_iff]
      simp only [jumps]
    | cons second rest =>
      rw [landTo]
      constructor
      · intro landed
        split at landed
        · cases landed
        · rename_i next led
          obtain ⟨noSlash, onward⟩ := ih.mp landed
          exact ⟨noSlash, .arrive led onward⟩
        · rename_i target led
          obtain ⟨noSlash, fewer, rfl, onward⟩ := (jumps _ _ _ _).mp landed
          exact ⟨noSlash, .link led onward⟩
      · rintro ⟨noSlash, lands⟩
        cases lands with
        | arrive led onward =>
          rw [led]
          exact ih.mpr ⟨noSlash, onward⟩
        | link led onward =>
          rw [led]
          exact (jumps _ _ _ _).mpr ⟨noSlash, _, rfl, onward⟩

/-- The search for the place to write at succeeds exactly where writing lands, for a path without a
slash at its end. -/
theorem land_eq_ok_iff {slashed : Bool} : files.land links here names slashed = .ok place ↔
    slashed = false ∧ files.Lands links here names place := by
  -- The induction is on the links that are left, since each hand-over at a link uses one up.
  induction links generalizing here names place slashed with
  | zero =>
    apply landTo_eq_ok_iff
    simp
  | succ links ih =>
    apply landTo_eq_ok_iff
    simp [ih]

/-- A path has a place to write at exactly where its text is accepted, it ends without a slash and
writing along its names lands there. -/
theorem landing_eq_ok_iff : files.landing path = .ok place ↔
    path.refusal? = none ∧ path.endsInSlash = false ∧
      files.Lands maxLinks (path.start files.workDir) path.names place := by
  unfold landing
  cases path.refusal? <;> simp [land_eq_ok_iff]

/-! ### Writing -/

/-- Writing lands at nothing or at something that takes bytes. -/
theorem takes_of_landing (landed : files.landing path = .ok place) :
    place ≠ .root ∧ ∀ entry, files.entry? place = some entry → entry.takesBytes = true :=
  (landing_eq_ok_iff.mp landed).2.2.takes

/-- Writing lands where it did when the file system has grown and has something there that takes
bytes, and then the path leads there. -/
theorem GrowsInto.landing (grows : files.GrowsInto later) (landed : files.landing path = .ok place)
    {entry : Entry} (stands : later.entry? place = some entry) (takes : entry.takesBytes = true) :
    later.landing path = .ok place ∧ later.resolve path = .ok place := by
  obtain ⟨accepted, noSlash, lands⟩ := landing_eq_ok_iff.mp landed
  -- The way there is as it was, so only what stands at its end could refuse the bytes.
  have lands := lands.grown grows fun other stands' => by
    rw [stands] at stands'
    cases stands'
    exact takes
  rw [landing_eq_ok_iff, resolve_eq_ok_iff, grows.workDir, steps_eq_names noSlash]
  exact ⟨⟨accepted, noSlash, lands⟩, accepted, lands.follows stands⟩

/-- A path that leads somewhere leads to where writing to it lands. -/
theorem eq_of_resolve_of_landing (led : files.resolve path = .ok other)
    (landed : files.landing path = .ok place) : other = place := by
  obtain ⟨-, noSlash, lands⟩ := landing_eq_ok_iff.mp landed
  obtain ⟨-, follows⟩ := resolve_eq_ok_iff.mp led
  rw [steps_eq_names noSlash] at follows
  exact lands.eq_of_follows follows

/-- The file system after some bytes were written at a place. -/
def fill (files : FileSystem) (place : Place) (contents : Bytes) : FileSystem :=
  -- A pipe or a device keeps nothing.
  if files.entry? place = some .special then files else files.put place (.file contents)

/-- Writing succeeds exactly where it lands somewhere, and what it does is to fill that place. -/
theorem write_eq_ok_iff {contents : Bytes} : files.write path contents = .ok later ↔
    ∃ place, files.landing path = .ok place ∧ later = files.fill place contents := by
  unfold write
  cases files.landing path with
  | error refusal => simp [Except.map]
  | ok place => simp [Except.map, fill, eq_comm (a := later)]

section Fill

variable (below : place ≠ .root)
  (takes : ∀ entry, files.entry? place = some entry → entry.takesBytes = true)

include below takes

/-- Writing keeps everything there is, apart from the contents of a file. -/
theorem grows_fill (contents : Bytes) : files.GrowsInto (files.fill place contents) := by
  unfold fill
  split
  · exact .refl files
  · -- A file may change its contents, and nothing may stand in the place of another kind of entry.
    rename_i noPipe
    refine .put below fun old stood => ?_
    cases old with
    | file contents => rfl
    | special => exact absurd stood noPipe
    | directory => cases takes _ stood
    | link target => cases takes _ stood

/-- After writing something stands at the place, and it takes bytes. -/
theorem stands_fill (contents : Bytes) :
    ∃ entry, entry? (files.fill place contents) place = some entry ∧ entry.takesBytes = true := by
  unfold fill
  split
  · rename_i pipe
    exact ⟨_, pipe, takes _ pipe⟩
  · exact ⟨.file contents, by rw [entry?_put below, if_pos rfl], rfl⟩

end Fill

/-- What is no pipe or device keeps what is written to it. -/
theorem fill_eq_put (noPipe : files.entry? place ≠ some .special) (contents : Bytes) :
    files.fill place contents = files.put place (.file contents) :=
  if_neg noPipe

/-- Of two contents written at one place, only the second count. -/
theorem fill_fill (below : place ≠ .root) (first second : Bytes) :
    (files.fill place first).fill place second = files.fill place second := by
  by_cases pipe : files.entry? place = some .special
  · simp only [fill, pipe, if_true]
  · -- A pipe stays what it is, and a file takes the second contents after the first.
    have stands : entry? (files.put place (.file first)) place ≠ some .special := by
      rw [entry?_put below, if_pos rfl]
      simp
    rw [fill_eq_put pipe, fill_eq_put pipe, fill_eq_put stands]
    simp only [put, Table.put_put]

/-- What it is for a path to need nothing more before it is written to: the directories above it
stand, and so does what is written at. -/
structure Settled (files : FileSystem) (path : Path) (place : Place) : Prop where
  parents : files.makeParents path = (.ok (), files)
  landing : files.landing path = .ok place
  stands : (files.entry? place).isSome = true

namespace Settled

/-- A path that leads somewhere is settled if it can be written to. -/
theorem of_resolve (led : files.resolve path = .ok other)
    (landed : files.landing path = .ok place) (stands : (files.entry? other).isSome = true) :
    files.Settled path place where
  parents := makeParents_eq_self led
  landing := landed
  -- Where the path leads is where writing lands, so what stands there is what is written to.
  stands := eq_of_resolve_of_landing led landed ▸ stands

/-- Writing settles a path. -/
theorem fill (landed : files.landing path = .ok place) (contents : Bytes) :
    (files.fill place contents).Settled path place := by
  obtain ⟨below, takes⟩ := takes_of_landing landed
  -- Something stands there now, and it did not close the way to itself.
  obtain ⟨entry, stands, open'⟩ := stands_fill below takes contents
  obtain ⟨landed, led⟩ := (grows_fill below takes contents).landing landed stands open'
  exact .of_resolve led landed (by rw [stands]; rfl)

end Settled

/-! ### What writing changes -/

/-- What it is for a path to lead to a regular file, if it leads anywhere. -/
def NamesFileOrNothing (files : FileSystem) (path : Path) : Prop :=
  ∀ place, files.resolve path = .ok place → ∃ old, files.entry? place = some (.file old)

/-- What it is for a file system to have some contents in the file a path leads to, and nothing else
over an earlier one but directories that paths above it lead to. -/
structure WritesFile (files later : FileSystem) (path : Path) (place : Place) (contents : Bytes) :
    Prop where
  workDir : later.workDir = files.workDir
  leads : later.resolve path = .ok place
  written : later.entry? place = some (.file contents)
  /-- Nothing was replaced but the contents of a file. -/
  replaced : ∀ {entry}, files.entry? place = some entry → ∃ old, entry = .file old
  kept : ∀ {other entry}, other ≠ place → files.entry? other = some entry →
    later.entry? other = some entry
  added : ∀ {other entry}, other ≠ place → files.entry? other = none →
    later.entry? other = some entry →
    entry = .directory ∧ ∃ above ∈ path.higher, later.resolve above = .ok other

/-- A file that was written is read back through the path it was written at. -/
theorem WritesFile.read?_eq {contents : Bytes}
    (writes : files.WritesFile later path place contents) :
    later.read? path = some contents := by
  simp only [read?, writes.leads, writes.written]

/-- Making the directories above a path and writing the file adds and changes nothing else. -/
theorem writesFile_fill_makeParents (landed : (files.makeParents path).2.landing path = .ok place)
    (plain : (files.makeParents path).2.NamesFileOrNothing path) (contents : Bytes) :
    files.WritesFile ((files.makeParents path).2.fill place contents) path place contents := by
  have adds := files.makeParents_adds path
  generalize (files.makeParents path).2 = reached at landed plain adds ⊢
  obtain ⟨below, takes⟩ := takes_of_landing landed
  -- The path leads to what is written at, so that is no pipe.
  have isFile {entry : Entry} (stands : reached.entry? place = some entry) :
      ∃ old, entry = .file old := by
    obtain ⟨-, led⟩ := (GrowsInto.refl reached).landing landed stands (takes entry stands)
    obtain ⟨old, stands'⟩ := plain place led
    exact ⟨old, Option.some.inj (stands.symm.trans stands')⟩
  have filled : reached.fill place contents = reached.put place (.file contents) := by
    refine fill_eq_put (fun pipe => ?_) contents
    obtain ⟨old, same⟩ := isFile pipe
    cases same
  have grows := grows_fill below takes contents
  rw [filled] at grows ⊢
  have written : entry? (reached.put place (.file contents)) place = some (.file contents) := by
    rw [entry?_put below, if_pos rfl]
  have elsewhere {other : Place} (apart : other ≠ place) :
      entry? (reached.put place (.file contents)) other = reached.entry? other := by
    rw [entry?_put below, if_neg apart]
  -- At the place itself a file was written, and everywhere else only directories were added.
  exact {
    workDir := adds.workDir
    leads := (grows.landing landed written rfl).2
    written := written
    replaced := fun stood => isFile (adds.kept stood)
    kept := fun apart stood => (elsewhere apart).trans (adds.kept stood)
    added := fun apart missing stands => by
      rw [elsewhere apart] at stands
      obtain ⟨isDirectory, above, member, led⟩ := adds.added missing stands
      exact ⟨isDirectory, above, member, grows.resolve led⟩ }

end Switchboard.FileSystem
