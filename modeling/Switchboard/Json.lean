/-!
Written data: texts, whole numbers, lists and records, laid out with one item or field per line and
two spaces per level.
-/

namespace Switchboard

/-- A value that can be written. -/
inductive Json where
  | text (value : String)
  | number (value : Nat)
  | list (items : List Json)
  | record (fields : List (String × Json))
deriving Repr

namespace Json

/-- A hexadecimal digit. -/
def hexDigit (value : Nat) : Char :=
  Nat.digitChar value

/-- How a character stands between quotes. -/
def escape (c : Char) : List Char :=
  -- Only quotes, backslashes and control characters cannot stand for themselves.
  match c with
  | '"' => ['\\', '"']
  | '\\' => ['\\', '\\']
  | '\x08' => ['\\', 'b']
  | '\x0C' => ['\\', 'f']
  | '\n' => ['\\', 'n']
  | '\r' => ['\\', 'r']
  | '\t' => ['\\', 't']
  | _ =>
    if c.toNat < 32 then
      ['\\', 'u', '0', '0', hexDigit (c.toNat / 16), hexDigit (c.toNat % 16)]
    else [c]

/-- A text between quotes. -/
def quote (text : String) : String :=
  "\"" ++ String.ofList (text.toList.flatMap escape) ++ "\""

/-- The start of a new line at a level. -/
def newLine (level : Nat) : String :=
  "\n" ++ String.ofList (List.replicate (2 * level) ' ')

mutual

/-- A value as it is laid out at a level. -/
def layOut (level : Nat) : Json → String
  -- Empty lists and records stay on one line.
  | .text value => quote value
  | .number value => toString value
  | .list [] => "[]"
  | .list (item :: rest) =>
    "[" ++ newLine (level + 1) ++ layOut (level + 1) item ++ layOutItems (level + 1) rest ++
      newLine level ++ "]"
  | .record [] => "\x7b\x7d"
  | .record ((key, value) :: rest) =>
    "\x7b" ++ newLine (level + 1) ++ quote key ++ ": " ++ layOut (level + 1) value ++
      layOutFields (level + 1) rest ++ newLine level ++ "\x7d"

/-- The items after the first one. -/
def layOutItems (level : Nat) : List Json → String
  -- A comma ends the line before.
  | [] => ""
  | item :: rest => "," ++ newLine level ++ layOut level item ++ layOutItems level rest

/-- The fields after the first one. -/
def layOutFields (level : Nat) : List (String × Json) → String
  -- A comma ends the line before.
  | [] => ""
  | (key, value) :: rest =>
    "," ++ newLine level ++ quote key ++ ": " ++ layOut level value ++ layOutFields level rest

end

/-- A value laid out from the margin. -/
def pretty (json : Json) : String :=
  layOut 0 json

end Json

end Switchboard
