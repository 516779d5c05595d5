import Switchboard.Text.Pieces

/-! Lines of a text, and indentation that leaves blank lines blank. -/

namespace Switchboard.Lines

/-- Drops one carriage return at the end of a line. -/
def dropReturn (line : List Char) : List Char :=
  -- Only the last one goes, so doubled returns leave one behind.
  if line.getLast? = some '\r' then line.dropLast else line

/-- The lines that pieces cut at line feeds stand for. -/
def ofPieces : List (List Char) → List (List Char)
  -- The last piece has no line feed after it: it keeps its return, and counts only if not empty.
  | [] => []
  | [last] => if last = [] then [] else [last]
  | line :: next :: rest => dropReturn line :: ofPieces (next :: rest)

/-- The lines of a text, each without its line feed and the carriage return before that. -/
def read (text : String) : List String :=
  (ofPieces (pieces '\n' text.toList)).map String.ofList

/-- A line moved right by some spaces, unless it is empty. -/
def pad (width : Nat) (line : String) : String :=
  if line = "" then "" else String.ofList (List.replicate width ' ') ++ line

/-- A text with every line that is not empty moved right by some spaces. -/
def indent (width : Nat) (text : String) : String :=
  -- Joining puts line feeds between lines only, so a final line end is gone.
  "\n".intercalate ((read text).map (pad width))

end Switchboard.Lines
