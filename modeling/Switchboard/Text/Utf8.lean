/-!
Texts as bytes. Reading a byte string gives one character or one fault after another, and the strict
and the forgiving decoder both rest on that reading.
-/

namespace Switchboard

/-- A string of bytes. -/
abbrev Bytes := List UInt8

namespace Utf8

/-- The bytes a text is stored as. -/
def encode (text : String) : Bytes :=
  -- Each character has its own one to four bytes.
  text.toList.flatMap String.utf8EncodeChar

/-- Whether a byte continues a character. -/
def isContinuation (byte : UInt8) : Bool :=
  -- Continuation bytes carry six bits under the marker 10.
  0x80 ≤ byte && byte ≤ 0xBF

/-- Whether a byte may stand second after the given first byte of a longer character. -/
def isSecond (first second : UInt8) : Bool :=
  -- The narrowed ranges rule out overlong forms, surrogates and numbers past the last character.
  isContinuation second &&
    (first != 0xE0 || 0xA0 ≤ second) && (first != 0xED || second ≤ 0x9F) &&
    (first != 0xF0 || 0x90 ≤ second) && (first != 0xF4 || second ≤ 0x8F)

/-- The six bits a continuation byte carries. -/
def payload (byte : UInt8) : Nat :=
  byte.toNat % 64

/-- Reads on after a first byte: the character, or no character where the bytes break off, and how
many of the following bytes were used up. -/
def next (first : UInt8) (rest : Bytes) : Option Char × Nat :=
  -- The first byte fixes the length, and a fault ends before the first byte that does not fit.
  if first < 0x80 then (some (Char.ofNat first.toNat), 0)
  else if 0xC2 ≤ first && first ≤ 0xDF then
    match rest with
    | second :: _ =>
      if isSecond first second then
        (some (Char.ofNat (first.toNat % 32 * 64 + payload second)), 1)
      else (none, 0)
    | [] => (none, 0)
  else if 0xE0 ≤ first && first ≤ 0xEF then
    match rest with
    | second :: third :: _ =>
      if isSecond first second then
        if isContinuation third then
          (some (Char.ofNat ((first.toNat % 16 * 64 + payload second) * 64 + payload third)), 2)
        else (none, 1)
      else (none, 0)
    | [second] => (none, if isSecond first second then 1 else 0)
    | [] => (none, 0)
  else if 0xF0 ≤ first && first ≤ 0xF4 then
    match rest with
    | second :: third :: fourth :: _ =>
      if isSecond first second then
        if isContinuation third then
          if isContinuation fourth then
            (some (Char.ofNat (((first.toNat % 8 * 64 + payload second) * 64 + payload third) * 64
              + payload fourth)), 3)
          else (none, 2)
        else (none, 1)
      else (none, 0)
    | [second, third] =>
      (none, if isSecond first second then if isContinuation third then 2 else 1 else 0)
    | [second] => (none, if isSecond first second then 1 else 0)
    | [] => (none, 0)
  else (none, 0)

/-- Reads on behind bytes that are already used up. -/
def scanBehind : Nat → Bytes → List (Option Char)
  -- A used byte is passed over, and any other one is the first of a character or of a broken run.
  | _, [] => []
  | 0, first :: rest => (next first rest).1 :: scanBehind (next first rest).2 rest
  | used + 1, _ :: rest => scanBehind used rest

/-- Reads a byte string: every character in turn, and `none` for every longest broken run. -/
def scan (bytes : Bytes) : List (Option Char) :=
  scanBehind 0 bytes

/-- Reading on behind used bytes is reading the bytes that are left. -/
theorem scanBehind_eq_scan_drop (used : Nat) (bytes : Bytes) :
    scanBehind used bytes = scan (bytes.drop used) := by
  -- Every used byte is one that dropping takes away.
  induction used generalizing bytes with
  | zero => rfl
  | succ used ih =>
    cases bytes with
    | nil => simp [scan, scanBehind]
    | cons first rest => simpa [scanBehind] using ih rest

/-- The text a byte string stores, or nothing if some run of it is broken. -/
def decode (bytes : Bytes) : Option String :=
  -- One fault is enough to refuse the whole string.
  ((scan bytes).mapM id).map String.ofList

/-- The text of a byte string for display, with one replacement character per broken run. -/
def lossy (bytes : Bytes) : String :=
  -- U+FFFD stands for what cannot be read.
  String.ofList ((scan bytes).map fun read => read.getD '\uFFFD')

end Utf8

end Switchboard
