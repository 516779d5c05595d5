import Switchboard.CommandLine.Help

/-!
What arguments are understood as, and what one more flag in front of them changes. A question for
help is answered once everything before it is understood.
-/

namespace Switchboard

/-- The argument that gives a flag by its long name. -/
def Flag.argument (flag : Flag) : Bytes :=
  Word.dash :: Word.dash :: Utf8.encode flag.longName

/-- A flag's long name is read as the flag. -/
theorem Word.ofArgument_argument (flag : Flag) :
    Word.ofArgument flag.argument = .ok (.complete [.flag flag]) := by
  cases flag <;> rfl

/-- A flag in front of other arguments is found before what they give. -/
theorem occurrences_cons_argument {flag : Flag} (noHelp : flag ≠ .help) (arguments : List Bytes) :
    occurrences (flag.argument :: arguments) = (occurrences arguments).map (.flag flag :: ·) := by
  -- Reading goes on behind an argument unless it asks for help.
  have silent : Occurrence.flag .help ∉ [Occurrence.flag flag] := by simp [noHelp.symm]
  rw [occurrences.eq_def]
  simp only [Word.ofArgument_argument, if_neg silent]
  rfl

/-- Behind a question for help nothing is read. -/
theorem occurrences_cons_help (arguments : List Bytes) :
    occurrences (Flag.help.argument :: arguments) = .ok [.flag .help] := by
  rw [occurrences.eq_def]
  simp only [Word.ofArgument_argument, if_pos (List.mem_singleton_self _)]

/-- Two steps succeed where both do. -/
theorem bind_eq_ok_iff {ε α β : Type} {first : Except ε α} {next : α → Except ε β} {result : β} :
    (first >>= next) = .ok result ↔ ∃ middle, first = .ok middle ∧ next middle = .ok result := by
  cases first with
  | error misuse => simp [bind, Except.bind]
  | ok middle => simp [bind, Except.bind]

namespace Options

variable {flag other : Flag} {field : Field} {found : List Occurrence} {options : Options}

/-! ### Taking options -/

/-- A flag gives no value. -/
@[simp] theorem takeValue_cons_flag :
    takeValue field (.flag flag :: found) = takeValue field found := by
  have valueless : valueOf? field (.flag flag) = none := rfl
  rw [takeValue, takeValue, List.filterMap_cons_none valueless]

/-- A flag gives no path. -/
@[simp] theorem takePath_cons_flag :
    takePath field (.flag flag :: found) = takePath field found := by
  simp [takePath]

/-- A flag gives no text. -/
@[simp] theorem takeText_cons_flag :
    takeText field (.flag flag :: found) = takeText field found := by
  simp [takeText]

/-- A flag counts for no other one. -/
theorem takeFlag_cons_of_ne (apart : other ≠ flag) :
    takeFlag flag (.flag other :: found) = takeFlag flag found := by
  simp [takeFlag, apart]

/-- A flag may be given again only if it was not given. -/
theorem takeFlag_cons_self_eq_ok_iff {given : Bool} :
    takeFlag flag (.flag flag :: found) = .ok given ↔
      takeFlag flag found = .ok false ∧ given = true := by
  unfold takeFlag
  rw [List.filter_cons_of_pos (by simp)]
  -- With this one it is given once if there is no other one.
  generalize found.filter (fun occurrence => decide (occurrence = .flag flag)) = others
  rcases others with _ | ⟨first, _ | ⟨second, rest⟩⟩ <;> cases given <;> simp

/-- A flag is taken as given if it is among the occurrences. -/
theorem mem_iff_of_takeFlag {given : Bool} (taken : takeFlag flag found = .ok given) :
    .flag flag ∈ found ↔ given = true := by
  -- Being listed is to be left by the filter for the flag.
  have listed : Occurrence.flag flag ∈ found ↔
      found.filter (fun occurrence => decide (occurrence = .flag flag)) ≠ [] := by
    simp [List.filter_eq_nil_iff]
  rw [listed]
  unfold takeFlag at taken
  -- More than one of them are not taken.
  split at taken
  · rename_i nowhere
    cases taken
    simp [nowhere]
  · rename_i once
    cases taken
    simp [once]
  · cases taken

/-- All options are taken where each of them is. -/
theorem takeAll_eq_ok_iff : takeAll found = .ok options ↔
    takePath .contentDir found = .ok options.contentDir ∧
    takePath .output found = .ok options.output ∧
    takeText .suffix found = .ok options.suffix ∧
    takeText .contentNamespace found = .ok options.contentNamespace ∧
    takeText .moduleName found = .ok options.moduleName ∧
    takeFlag .stdout found = .ok options.stdout ∧
    takeFlag .json found = .ok options.json ∧
    takeFlag .verbose found = .ok options.verbose := by
  unfold takeAll
  -- They are taken one after the other, so a later one is reached only past all before it.
  simp only [bind_eq_ok_iff]
  constructor
  · rintro ⟨contentDir, dir, output, out, suffix, suf, space, spaced, name, named, stdout, shown,
      json, written, verbose, told, outcome⟩
    cases outcome
    exact ⟨dir, out, suf, spaced, named, shown, written, told⟩
  · rintro ⟨dir, out, suf, spaced, named, shown, written, told⟩
    exact ⟨_, dir, _, out, _, suf, _, spaced, _, named, _, shown, _, written, _, told, rfl⟩

/-- What is taken is run, unless help is asked for or both modes of printing are. -/
theorem ofOccurrences_of_takeAll (taken : takeAll found = .ok options) :
    ofOccurrences found =
      if .flag .help ∈ found then .error .help
      else if options.stdout && options.json then .error (.misuse .conflict)
      else .ok options := by
  simp only [ofOccurrences, taken]

/-- Occurrences add up to options where each is taken, help is not asked for and neither are the two
modes of printing at once. -/
theorem ofOccurrences_eq_ok_iff : ofOccurrences found = .ok options ↔
    takeAll found = .ok options ∧ .flag .help ∉ found ∧
      (options.stdout && options.json) = false := by
  cases taken : takeAll found with
  | error misuse => simp [ofOccurrences, taken]
  | ok all =>
    rw [ofOccurrences_of_takeAll taken]
    -- Neither objection is raised against options that are run.
    by_cases asks : Occurrence.flag .help ∈ found
    · simp [asks]
    · cases both : all.stdout && all.json with
      | true => grind
      | false => grind

/-- Help is what occurrences ask for where each of them is taken and one asks for it. -/
theorem ofOccurrences_eq_help_iff : ofOccurrences found = .error .help ↔
    (∃ options, takeAll found = .ok options) ∧ .flag .help ∈ found := by
  cases taken : takeAll found with
  | error misuse => simp [ofOccurrences, taken]
  | ok all =>
    rw [ofOccurrences_of_takeAll taken]
    by_cases asks : Occurrence.flag .help ∈ found
    · simp [asks]
    · -- Without the question the other objection may be raised, but it is another one.
      rw [if_neg asks]
      split <;> simp [asks]

/-! ### One more flag -/

/-- Whether options give a flag. -/
def gives (options : Options) : Flag → Bool
  | .stdout => options.stdout
  | .json => options.json
  | .verbose => options.verbose
  -- What asks for help is not run with any options.
  | .help => false

/-- The same options with a flag given or not. -/
def withFlag (options : Options) (flag : Flag) (given : Bool) : Options :=
  match flag with
  | .stdout => { options with stdout := given }
  | .json => { options with json := given }
  | .verbose => { options with verbose := given }
  | .help => options

/-- No flag changes the settings of a run. -/
@[simp] theorem settings_withFlag {given : Bool} :
    (options.withFlag flag given).settings = options.settings := by
  cases flag <;> rfl

/-- Options give just the flags that are among the occurrences. -/
theorem gives_iff_of_takeAll (noHelp : flag ≠ .help) (taken : takeAll found = .ok options) :
    options.gives flag = true ↔ .flag flag ∈ found := by
  obtain ⟨-, -, -, -, -, shown, written, told⟩ := takeAll_eq_ok_iff.mp taken
  -- Each flag has an option of its own, apart from the one for help.
  cases flag with
  | help => exact absurd rfl noHelp
  | stdout => exact (mem_iff_of_takeFlag shown).symm
  | json => exact (mem_iff_of_takeFlag written).symm
  | verbose => exact (mem_iff_of_takeFlag told).symm

/-- To give a flag and take it back changes nothing where it was not given. -/
theorem withFlag_withFlag (notGiven : options.gives flag = false) :
    (options.withFlag flag true).withFlag flag false = options := by
  cases options
  cases flag <;> cases notGiven <;> rfl

/-- A flag in front of others adds to what they give and may not be among them. -/
theorem takeAll_cons_flag_eq_ok_iff (noHelp : flag ≠ .help) :
    takeAll (.flag flag :: found) = .ok options ↔
      takeAll found = .ok (options.withFlag flag false) ∧ options.gives flag = true := by
  -- All options but this one are taken from the other occurrences alone.
  simp only [takeAll_eq_ok_iff, takePath_cons_flag, takeText_cons_flag]
  cases flag with
  | help => exact absurd rfl noHelp
  | stdout | json | verbose =>
    simp only [takeFlag_cons_self_eq_ok_iff, takeFlag_cons_of_ne, withFlag, gives, ne_eq,
      reduceCtorEq, not_false_eq_true]
    -- What is left differs in the option of this flag alone.
    grind

/-- A flag in front of other arguments is understood where they are without it, and where the two
modes of printing are not both asked for then. It changes no other option. -/
theorem parse_cons_flag_eq_ok_iff {arguments : List Bytes} :
    parse (flag.argument :: arguments) = .ok options ↔
      parse arguments = .ok (options.withFlag flag false) ∧ options.gives flag = true ∧
        (options.stdout && options.json) = false := by
  unfold parse
  by_cases asks : flag = .help
  · -- A question for help is never run.
    subst asks
    simp [occurrences_cons_help, ofOccurrences_eq_ok_iff, gives]
  rw [occurrences_cons_argument asks]
  cases occurrences arguments with
  | error misuse => simp [Except.map]
  | ok found =>
    -- Without the flag the two modes are not both asked for either.
    have apart : (options.stdout && options.json) = false →
        ((options.withFlag flag false).stdout && (options.withFlag flag false).json) = false := by
      cases flag <;> simp +contextual [withFlag]
    -- The flag in front is another one than that for help.
    have silent : Occurrence.flag .help ∉ Occurrence.flag flag :: found ↔
        Occurrence.flag .help ∉ found := by
      simp [Ne.symm asks]
    simp only [Except.map, ofOccurrences_eq_ok_iff, takeAll_cons_flag_eq_ok_iff asks, silent]
    constructor
    · rintro ⟨⟨taken, gives⟩, silent, both⟩
      exact ⟨⟨taken, silent, apart both⟩, gives, both⟩
    · rintro ⟨⟨taken, silent, -⟩, gives, both⟩
      exact ⟨⟨taken, gives⟩, silent, both⟩

/-- A flag in front of arguments that ask for help is no matter, unless they give it themselves. -/
theorem parse_cons_flag_eq_help_iff (noHelp : flag ≠ .help) {arguments : List Bytes} :
    parse (flag.argument :: arguments) = .error .help ↔
      parse arguments = .error .help ∧
        ∀ found, occurrences arguments = .ok found → .flag flag ∉ found := by
  unfold parse
  rw [occurrences_cons_argument noHelp]
  cases occurrences arguments with
  | error misuse => simp [Except.map]
  | ok found =>
    have asked : Occurrence.flag .help ∈ Occurrence.flag flag :: found ↔
        Occurrence.flag .help ∈ found := by
      simp [noHelp.symm]
    simp only [Except.map, ofOccurrences_eq_help_iff, takeAll_cons_flag_eq_ok_iff noHelp, asked,
      Except.ok.injEq, forall_eq']
    constructor
    · rintro ⟨⟨options, taken, -⟩, asks⟩
      -- The other arguments add up to options without the flag.
      refine ⟨⟨⟨_, taken⟩, asks⟩, fun member => ?_⟩
      have given := (gives_iff_of_takeAll noHelp taken).mpr member
      cases flag <;> cases given
    · rintro ⟨⟨⟨options, taken⟩, asks⟩, notGiven⟩
      -- The flag was not among the others, so it can be given with them.
      have free : options.gives flag = false :=
        Bool.eq_false_iff.mpr (mt (gives_iff_of_takeAll noHelp taken).mp notGiven)
      refine ⟨⟨options.withFlag flag true, by rw [withFlag_withFlag free, taken], ?_⟩, asks⟩
      cases flag with
      | help => exact absurd rfl noHelp
      | stdout | json | verbose => rfl

/-! ### Asking for data -/

/-- The same options with the report asked for as data. -/
def withJson (options : Options) : Options :=
  { options with json := true }

/-- To ask for data changes no setting of a run. -/
@[simp] theorem settings_withJson : options.withJson.settings = options.settings :=
  rfl

/-- Asking for the report as data is understood where the other arguments are and ask for neither
kind of printing, and changes no other option. -/
theorem parse_cons_json_eq_ok_iff {arguments : List Bytes} :
    parse (Flag.json.argument :: arguments) = .ok options ↔
      ∃ plain, parse arguments = .ok plain ∧ plain.stdout = false ∧ plain.json = false ∧
        options = plain.withJson := by
  rw [parse_cons_flag_eq_ok_iff]
  constructor
  · rintro ⟨understood, written, apart⟩
    -- Data is asked for, so the other mode of printing is not.
    have notShown : options.stdout = false := by
      rw [show options.json = true from written, Bool.and_true] at apart
      exact apart
    refine ⟨_, understood, notShown, rfl, ?_⟩
    cases options
    cases written
    rfl
  · rintro ⟨plain, understood, notShown, isPlain, rfl⟩
    have same : plain.withJson.withFlag .json false = plain := by
      cases plain
      cases isPlain
      rfl
    exact ⟨same ▸ understood, rfl, by simp [withJson, notShown]⟩

end Options

/-! ### The help text -/

/-- The letter that the help text lists for a flag is read as the flag, as its long name is. -/
theorem Flag.ofArgument_letter {flag : Flag} {letter : Char} (listed : flag.letter? = some letter) :
    Word.ofArgument (Word.dash :: Utf8.encode letter.toString) =
      Word.ofArgument flag.argument := by
  cases flag with
  | stdout | json => cases listed
  | verbose | help =>
    cases listed
    rfl

/-- An option with a value is read under the long name and the letter that the help text lists. -/
theorem Field.ofArgument_listed (field : Field) :
    Word.ofArgument (Word.dash :: Word.dash :: Utf8.encode field.longName) =
        .ok (.awaiting [] field) ∧
      ∀ letter, field.letter? = some letter →
        Word.ofArgument (Word.dash :: Utf8.encode letter.toString) = .ok (.awaiting [] field) := by
  refine ⟨by cases field <;> rfl, fun letter listed => ?_⟩
  cases field with
  | contentDir | suffix | contentNamespace | moduleName => cases listed
  | output =>
    cases listed
    rfl

/-- What a setting is displayed as. -/
def Settings.shown (settings : Settings) : Field → String
  | .contentDir => settings.contentDir.display
  | .output => settings.outPath.display
  | .suffix => settings.suffix
  | .contentNamespace => settings.contentNamespace
  | .moduleName => settings.moduleName

/-- The default that the help text tells for an option is the one a run without options takes. -/
theorem Field.about_tells_default (field : Field) :
    (" [default: " ++ ({} : Options).settings.shown field ++ "]").toList <:+
      field.about.toList := by
  -- The defaults are few, and each text ends in its own.
  cases field <;> decide +kernel

end Switchboard
