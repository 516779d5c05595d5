import Switchboard.Settings

/-! The options of the command line, read from arguments that are bytes and need not be texts. -/

namespace Switchboard

/-- An option that is either given or not. -/
inductive Flag where
  | stdout
  | json
  | verbose
  | help
deriving DecidableEq, Repr

/-- An option that takes a value. -/
inductive Field where
  | contentDir
  | output
  | suffix
  | contentNamespace
  | moduleName
deriving DecidableEq, Repr

/-- The long name of a flag. -/
def Flag.longName : Flag → String
  | stdout => "stdout"
  | json => "json"
  | verbose => "verbose"
  | help => "help"

/-- All flags, in the order they are listed. -/
def Flag.all : List Flag :=
  [stdout, json, verbose, help]

/-- The long name of an option with a value. -/
def Field.longName : Field → String
  | contentDir => "content-dir"
  | output => "output"
  | suffix => "suffix"
  | contentNamespace => "namespace"
  | moduleName => "module"

/-- All options with a value, in the order they are listed. -/
def Field.all : List Field :=
  [contentDir, output, suffix, contentNamespace, moduleName]

/-- Why arguments are not understood. -/
inductive UsageError where
  | unknown (argument : Bytes)
  | stray (argument : Bytes)
  | missingValue (field : Field)
  | needlessValue (flag : Flag)
  | repeatedFlag (flag : Flag)
  | repeatedField (field : Field)
  | emptyPath (field : Field)
  | notText (field : Field)
  /-- The report and the generated module cannot both be printed. -/
  | conflict
deriving DecidableEq, Repr

/-- The wording of a misunderstanding. -/
def UsageError.message : UsageError → String
  | unknown argument => "unknown option '" ++ Utf8.lossy argument ++ "'"
  | stray argument => "unexpected argument '" ++ Utf8.lossy argument ++ "'"
  | missingValue field => "'--" ++ field.longName ++ "' needs a value"
  | needlessValue flag => "'--" ++ flag.longName ++ "' takes no value"
  | repeatedFlag flag => "'--" ++ flag.longName ++ "' is given more than once"
  | repeatedField field => "'--" ++ field.longName ++ "' is given more than once"
  | emptyPath field => "the path of '--" ++ field.longName ++ "' is empty"
  | notText field => "the value of '--" ++ field.longName ++ "' is not valid UTF-8"
  | conflict => "'--json' and '--stdout' exclude each other"

/-- Why arguments are not run. -/
inductive Declined where
  /-- They ask for help instead. -/
  | help
  | misuse (misuse : UsageError)
deriving DecidableEq, Repr

/-! ### Reading arguments -/

/-- An option found among the arguments. -/
inductive Occurrence where
  | flag (flag : Flag)
  | value (field : Field) (bytes : Bytes)
deriving DecidableEq, Repr

/-- What one argument says. -/
inductive Word where
  /-- No options follow. -/
  | last
  /-- These options are given. -/
  | complete (found : List Occurrence)
  /-- These options are given, and the next argument is the value of another. -/
  | awaiting (found : List Occurrence) (field : Field)
deriving DecidableEq, Repr

namespace Word

/-- The byte that options begin with. -/
def dash : UInt8 := 0x2D

/-- The byte between an option and its value. -/
def equals : UInt8 := 0x3D

/-- The flag of a long name. -/
def flag? (name : Bytes) : Option Flag :=
  Flag.all.find? fun flag => Utf8.encode flag.longName == name

/-- The option with a value of a long name. -/
def field? (name : Bytes) : Option Field :=
  Field.all.find? fun field => Utf8.encode field.longName == name

/-- Reads an argument behind its two dashes. -/
def ofLong (body : Bytes) : Except UsageError Word :=
  -- Names are spelled in full, and only the first equals sign ends a name.
  let name := body.takeWhile (· != equals)
  let value := body.drop name.length
  match field? name, flag? name, value with
  | some field, _, [] => .ok (awaiting [] field)
  | some field, _, _ :: bytes => .ok (complete [.value field bytes])
  | none, some flag, [] => .ok (complete [.flag flag])
  | none, some flag, _ :: _ => .error (.needlessValue flag)
  | none, none, _ => .error (.unknown (dash :: dash :: body))

/-- Adds an option before those a word already gives. -/
def after (found : Occurrence) : Word → Word
  | last => complete [found]
  | complete more => complete (found :: more)
  | awaiting more field => awaiting (found :: more) field

/-- Reads the letters behind a single dash. -/
def ofShort : Bytes → Except UsageError Word
  -- A `v` is a flag, an `h` leaves the rest unread, and an `o` takes the rest as its value.
  | [] => .ok (complete [])
  | 0x76 :: rest => (ofShort rest).map (after (.flag .verbose))
  | 0x68 :: _ => .ok (complete [.flag .help])
  | [0x6F] => .ok (awaiting [] .output)
  | 0x6F :: 0x3D :: bytes => .ok (complete [.value .output bytes])
  | 0x6F :: bytes => .ok (complete [.value .output bytes])
  | letter :: _ => .error (.unknown [dash, letter])

/-- Reads one argument. -/
def ofArgument (argument : Bytes) : Except UsageError Word :=
  -- A lone dash is no option, and nothing but options is expected.
  if argument = [dash, dash] then .ok last
  else match argument with
    | 0x2D :: 0x2D :: body => ofLong body
    | 0x2D :: letter :: rest => ofShort (letter :: rest)
    | _ => .error (.stray argument)

/-- Whether an argument can only be an option, so that it is no value. -/
def isOption (argument : Bytes) : Bool :=
  argument.head? == some dash && argument != [dash]

end Word

/-- All options among some arguments, in order and up to the first that asks for help. -/
def occurrences : List Bytes → Except UsageError (List Occurrence)
  -- A value may stand in an argument of its own, and nothing may follow the last word.
  | [] => .ok []
  | argument :: rest =>
    match Word.ofArgument argument with
    | .error misuse => .error misuse
    | .ok .last =>
      match rest with
      | [] => .ok []
      | stray :: _ => .error (.stray stray)
    | .ok (.complete found) =>
      if .flag .help ∈ found then .ok found else (occurrences rest).map (found ++ ·)
    | .ok (.awaiting found field) =>
      match rest with
      | [] => .error (.missingValue field)
      | value :: more =>
        if Word.isOption value then .error (.missingValue field)
        else (occurrences more).map fun later => found ++ .value field value :: later

/-! ### Options -/

/-- What the command line asks for. -/
structure Options where
  contentDir : Option Path := none
  output : Option Path := none
  suffix : Option String := none
  contentNamespace : Option String := none
  moduleName : Option String := none
  stdout : Bool := false
  json : Bool := false
  verbose : Bool := false
deriving DecidableEq, Repr

/-- How the result of a run is shown. -/
inductive Mode where
  /-- A summary for a reader. -/
  | summary
  /-- The report as written data. -/
  | json
  /-- The generated module itself, which is then not written. -/
  | stdout
deriving DecidableEq, Repr

namespace Options

/-- Whether a flag is given, if it is given at most once. -/
def takeFlag (flag : Flag) (found : List Occurrence) : Except UsageError Bool :=
  match found.filter (· = .flag flag) with
  | [] => .ok false
  | [_] => .ok true
  | _ => .error (.repeatedFlag flag)

/-- The value an occurrence gives to an option. -/
def valueOf? (field : Field) : Occurrence → Option Bytes
  | .value other bytes => if other = field then some bytes else none
  | .flag _ => none

/-- The value of an option, if it is given at most once. -/
def takeValue (field : Field) (found : List Occurrence) : Except UsageError (Option Bytes) :=
  match found.filterMap (valueOf? field) with
  | [] => .ok none
  | [bytes] => .ok (some bytes)
  | _ => .error (.repeatedField field)

/-- The path an option gives, if it is given. -/
def takePath (field : Field) (found : List Occurrence) : Except UsageError (Option Path) :=
  match takeValue field found with
  | .error misuse => .error misuse
  | .ok none => .ok none
  | .ok (some []) => .error (.emptyPath field)
  | .ok (some bytes) => .ok (some ⟨bytes⟩)

/-- The text an option gives, if it is given. -/
def takeText (field : Field) (found : List Occurrence) : Except UsageError (Option String) :=
  match takeValue field found with
  | .error misuse => .error misuse
  | .ok none => .ok none
  | .ok (some bytes) =>
    match Utf8.decode bytes with
    | none => .error (.notText field)
    | some text => .ok (some text)

/-- What occurrences give to each option, every one at most once. -/
def takeAll (found : List Occurrence) : Except UsageError Options := do
  return {
    contentDir := ← takePath .contentDir found
    output := ← takePath .output found
    suffix := ← takeText .suffix found
    contentNamespace := ← takeText .contentNamespace found
    moduleName := ← takeText .moduleName found
    stdout := ← takeFlag .stdout found
    json := ← takeFlag .json found
    verbose := ← takeFlag .verbose found }

/-- The options that occurrences add up to. -/
def ofOccurrences (found : List Occurrence) : Except Declined Options :=
  -- The two modes of printing exclude each other, but with a question for help that is no matter.
  match takeAll found with
  | .error misuse => .error (.misuse misuse)
  | .ok options =>
    if .flag .help ∈ found then .error .help
    else if options.stdout && options.json then .error (.misuse .conflict)
    else .ok options

/-- Reads the arguments of a command line. -/
def parse (arguments : List Bytes) : Except Declined Options :=
  match occurrences arguments with
  | .error misuse => .error (.misuse misuse)
  | .ok found => ofOccurrences found

/-- The settings that options ask for, with defaults for the rest. -/
def settings (options : Options) : Settings :=
  let defaults : Settings := {}
  { contentDir := options.contentDir.getD defaults.contentDir
    outPath := options.output.getD defaults.outPath
    suffix := options.suffix.getD defaults.suffix
    contentNamespace := options.contentNamespace.getD defaults.contentNamespace
    moduleName := options.moduleName.getD defaults.moduleName }

/-- How the options ask for the result to be shown. -/
def mode (options : Options) : Mode :=
  if options.stdout then .stdout else if options.json then .json else .summary

end Options

end Switchboard
