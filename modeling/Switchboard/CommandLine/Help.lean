import Switchboard.CommandLine.Options
import Switchboard.Summary

/-! The help text of the command line, with one line per option. -/

namespace Switchboard

/-- The letter that gives a flag behind a single dash, if there is one. -/
def Flag.letter? : Flag → Option Char
  | stdout | json => none
  | verbose => some 'v'
  | help => some 'h'

/-- The letter that gives an option with a value, if there is one. -/
def Field.letter? : Field → Option Char
  | output => some 'o'
  | contentDir | suffix | contentNamespace | moduleName => none

/-- What a flag is for. -/
def Flag.about : Flag → String
  | stdout => "Print the generated module instead of writing it"
  | json => "Print a JSON summary instead of the styled one"
  | verbose => "Log discovery and generation steps to stderr"
  | help => "Print help"

/-- What an option with a value is for, and what it is without one. -/
def Field.about : Field → String
  | contentDir => "Directory holding one file per content module [default: src/Content]"
  | output => "Path of the generated module [default: src/MetaContent.elm]"
  | suffix => "File suffix stripped to form module names [default: .elm]"
  | contentNamespace => "Namespace the content modules are imported from [default: Content]"
  | moduleName => "Name of the generated module [default: MetaContent]"

/-- What stands for the value of an option. -/
def Field.placeholder (field : Field) : String :=
  -- The option's own name, spelled as constants are.
  String.ofList (field.longName.toList.map fun c => if c = '-' then '_' else c.toUpper)

namespace Help

/-- An option as the help text lists it. -/
structure Entry where
  letter? : Option Char
  longName : String
  /-- What stands for the value, if the option takes one. -/
  placeholder? : Option String
  about : String
deriving DecidableEq, Repr

/-- The entry of an option with a value. -/
def ofField (field : Field) : Entry :=
  ⟨field.letter?, field.longName, some field.placeholder, field.about⟩

/-- The entry of a flag. -/
def ofFlag (flag : Flag) : Entry :=
  ⟨flag.letter?, flag.longName, none, flag.about⟩

/-- All entries, from top to bottom. -/
def entries : List Entry :=
  Field.all.map ofField ++ Flag.all.map ofFlag

/-- A word to be typed as it is, in bold if the terminal shows colours. -/
def literal (coloured : Bool) (word : String) : String :=
  if coloured then "\x1b[1m" ++ word ++ "\x1b[0m" else word

/-- A heading, in bold and underlined if the terminal shows colours. -/
def heading (coloured : Bool) (title : String) : String :=
  if coloured then "\x1b[1m\x1b[4m" ++ title ++ "\x1b[0m" else title

/-- What is to be typed for an option. -/
def Entry.typed (coloured : Bool) (entry : Entry) : String :=
  -- Long names stand below each other, behind a letter or not.
  let letter := match entry.letter? with
    | some letter => literal coloured ("-" ++ letter.toString) ++ ", "
    | none => "    "
  let value := match entry.placeholder? with
    | some placeholder => " <" ++ placeholder ++ ">"
    | none => ""
  "  " ++ letter ++ literal coloured ("--" ++ entry.longName) ++ value

/-- The column at which it is told what the options are for. -/
def column : Nat :=
  -- Two spaces stand behind the longest of them.
  (entries.map fun entry => (entry.typed false).length).foldr max 0 + 2

/-- The line of an option. -/
def Entry.line (coloured : Bool) (entry : Entry) : String :=
  -- Only what is seen counts for the column.
  entry.typed coloured ++ Summary.repeated (column - (entry.typed false).length) ' ' ++ entry.about

/-- The whole help text as a terminal takes it. -/
def text (coloured : Bool) : String :=
  "Generates the aggregate MetaContent module from the content modules\n\n" ++
    heading coloured "Usage:" ++ " " ++ literal coloured "metacontent" ++ " [OPTIONS]\n\n" ++
    heading coloured "Options:" ++ "\n" ++
    String.join (entries.map fun entry => entry.line coloured ++ "\n")

end Help

end Switchboard
