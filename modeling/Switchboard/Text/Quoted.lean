import Switchboard.Text.Hidden

/-! Texts in quotes, with everything escaped that would not show. -/

namespace Switchboard.Quoted

/-- A character by its number, in the fewest lowercase hexadecimal digits. -/
def byNumber (c : Char) : List Char :=
  "\\u\x7b".toList ++ Nat.toDigits 16 c.toNat ++ "\x7d".toList

/-- How a character stands between the quotes. -/
def character (c : Char) : List Char :=
  -- Short escapes come first, and any other hidden character is given by number.
  match c with
  | '\x00' => ['\\', '0']
  | '\t' => ['\\', 't']
  | '\r' => ['\\', 'r']
  | '\n' => ['\\', 'n']
  | '\\' => ['\\', '\\']
  | '"' => ['\\', '"']
  | _ => if isHidden c then byNumber c else [c]

/-- A text in quotes. -/
def quote (text : String) : String :=
  "\"" ++ String.ofList (text.toList.flatMap character) ++ "\""

end Switchboard.Quoted
