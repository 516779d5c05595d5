import Mathlib.Tactic.SplitIfs
import Switchboard.Text.Utf8

/-!
Reading bytes back as a text. Main statement: a byte string is decoded exactly if it is the encoding
of a text, and then as that text.
-/

namespace Switchboard.Utf8

/-- A byte continues a character exactly if its number is in the middle quarter. -/
theorem isContinuation_iff {byte : UInt8} :
    isContinuation byte = true ↔ 0x80 ≤ byte.toNat ∧ byte.toNat ≤ 0xBF := by
  -- Bytes are ordered as their numbers.
  simp [isContinuation, UInt8.le_iff_toNat_le]

/-- A second byte is in the range that the first one leaves, so that no number is written too long,
is a surrogate or is past the last one. -/
theorem isSecond_iff {first second : UInt8} :
    isSecond first second = true ↔
      (0x80 ≤ second.toNat ∧ second.toNat ≤ 0xBF) ∧
        (first.toNat = 0xE0 → 0xA0 ≤ second.toNat) ∧
        (first.toNat = 0xED → second.toNat ≤ 0x9F) ∧
        (first.toNat = 0xF0 → 0x90 ≤ second.toNat) ∧
        (first.toNat = 0xF4 → second.toNat ≤ 0x8F) := by
  -- Four first bytes narrow the range down, and any other leaves it as it is.
  have narrowed (number : UInt8) (bound : Prop) [Decidable bound] :
      (first != number || decide bound) = true ↔ (first.toNat = number.toNat → bound) := by
    rw [UInt8.toNat_inj]
    by_cases same : first = number <;> simp [same]
  simp only [isSecond, Bool.and_eq_true, isContinuation_iff, narrowed, UInt8.le_iff_toNat_le,
    and_assoc]
  rfl

/-- A number is that of a character if it is no surrogate and not past the last character. -/
theorem toNat_ofNat_of_lt {number : Nat}
    (valid : number < 0xD800 ∨ 0xDFFF < number ∧ number < 0x110000) :
    (Char.ofNat number).val.toNat = number := by
  -- The number is kept as it is if it is that of a character.
  rw [Char.ofNat, dif_pos valid]
  rfl

/-- A byte is made from its number. -/
private theorem ofNat_eq {number : Nat} {byte : UInt8} (same : number = byte.toNat) :
    UInt8.ofNat number = byte := by
  rw [same, UInt8.ofNat_toNat]

/-! ### What is stored in some bytes -/

section

variable {first second third fourth : UInt8}

/-- An ASCII byte is what its character is stored as. -/
theorem utf8EncodeChar_one (short : first.toNat < 0x80) :
    String.utf8EncodeChar (Char.ofNat first.toNat) = [first] := by
  -- The number is below all surrogates.
  have number := toNat_ofNat_of_lt (Or.inl (by omega : first.toNat < 0xD800))
  unfold String.utf8EncodeChar
  simp only [number]
  rw [if_pos (by omega), ofNat_eq rfl]

/-- Two bytes that go together are what the character of their payloads is stored as. -/
theorem utf8EncodeChar_two (long : 0xC2 ≤ first.toNat ∧ first.toNat ≤ 0xDF)
    (goesOn : isSecond first second = true) :
    String.utf8EncodeChar (Char.ofNat (first.toNat % 32 * 64 + payload second)) =
      [first, second] := by
  rw [isSecond_iff] at goesOn
  unfold payload
  -- What the bytes are is known from the number alone, by its digits to the base 64.
  generalize written : first.toNat % 32 * 64 + second.toNat % 64 = code
  have number := toNat_ofNat_of_lt (Or.inl (by omega : code < 0xD800))
  unfold String.utf8EncodeChar
  simp only [number]
  rw [if_neg (by omega), if_pos (by omega)]
  simp only [List.cons.injEq, and_true]
  exact ⟨ofNat_eq (by omega), ofNat_eq (by omega)⟩

/-- Three bytes that go together are what the character of their payloads is stored as. -/
theorem utf8EncodeChar_three (long : 0xE0 ≤ first.toNat ∧ first.toNat ≤ 0xEF)
    (goesOn : isSecond first second = true) (ends : isContinuation third = true) :
    String.utf8EncodeChar
        (Char.ofNat ((first.toNat % 16 * 64 + payload second) * 64 + payload third)) =
      [first, second, third] := by
  rw [isSecond_iff] at goesOn
  rw [isContinuation_iff] at ends
  unfold payload
  -- The second byte keeps the number off the surrogates.
  generalize written :
    (first.toNat % 16 * 64 + second.toNat % 64) * 64 + third.toNat % 64 = code
  have number := toNat_ofNat_of_lt
    (by omega : code < 0xD800 ∨ 0xDFFF < code ∧ code < 0x110000)
  unfold String.utf8EncodeChar
  simp only [number]
  rw [if_neg (by omega), if_neg (by omega), if_pos (by omega)]
  simp only [List.cons.injEq, and_true]
  exact ⟨ofNat_eq (by omega), ofNat_eq (by omega), ofNat_eq (by omega)⟩

/-- Four bytes that go together are what the character of their payloads is stored as. -/
theorem utf8EncodeChar_four (long : 0xF0 ≤ first.toNat ∧ first.toNat ≤ 0xF4)
    (goesOn : isSecond first second = true) (inside : isContinuation third = true)
    (ends : isContinuation fourth = true) :
    String.utf8EncodeChar (Char.ofNat (((first.toNat % 8 * 64 + payload second) * 64 +
        payload third) * 64 + payload fourth)) = [first, second, third, fourth] := by
  rw [isSecond_iff] at goesOn
  rw [isContinuation_iff] at inside ends
  unfold payload
  -- The second byte keeps the number long enough and within the last one.
  generalize written : ((first.toNat % 8 * 64 + second.toNat % 64) * 64 + third.toNat % 64) * 64 +
    fourth.toNat % 64 = code
  have number := toNat_ofNat_of_lt
    (by omega : code < 0xD800 ∨ 0xDFFF < code ∧ code < 0x110000)
  unfold String.utf8EncodeChar
  simp only [number]
  rw [if_neg (by omega), if_neg (by omega), if_neg (by omega)]
  simp only [List.cons.injEq, and_true]
  exact ⟨ofNat_eq (by omega), ofNat_eq (by omega), ofNat_eq (by omega), ofNat_eq (by omega)⟩

end

/-- What is read from some bytes as a character is what that character is stored as. -/
theorem eq_encode_of_next {first : UInt8} {rest : Bytes} {c : Char} {used : Nat}
    (read : next first rest = (some c, used)) :
    first :: rest = String.utf8EncodeChar c ++ rest.drop used := by
  have refused (passed : Nat) : (none, passed) ≠ (some c, used) := by simp
  unfold next at read
  simp only [UInt8.lt_iff_toNat_lt, UInt8.le_iff_toNat_le, Bool.and_eq_true, decide_eq_true_iff]
    at read
  -- The first byte fixes the length, and all bytes of that length must be there and go on.
  split_ifs at read with one two three four
  · -- An ASCII byte is a character by itself.
    cases read
    rw [utf8EncodeChar_one one]
    rfl
  · -- Of two bytes the second has to be one that may follow.
    rcases rest with _ | ⟨second, rest⟩
    · exact absurd read (refused _)
    dsimp only at read
    split_ifs at read with goesOn
    · cases read
      rw [utf8EncodeChar_two two goesOn]
      rfl
    · exact absurd read (refused _)
  · -- Of three bytes the last has to continue the character.
    rcases rest with _ | ⟨second, _ | ⟨third, rest⟩⟩
    · exact absurd read (refused _)
    · exact absurd read (refused _)
    dsimp only at read
    split_ifs at read with goesOn ends
    · cases read
      rw [utf8EncodeChar_three three goesOn ends]
      rfl
    · exact absurd read (refused _)
    · exact absurd read (refused _)
  · -- Of four bytes the last two have to continue the character.
    rcases rest with _ | ⟨second, _ | ⟨third, _ | ⟨fourth, rest⟩⟩⟩
    · exact absurd read (refused _)
    · exact absurd read (refused _)
    · exact absurd read (refused _)
    dsimp only at read
    split_ifs at read with goesOn inside ends
    · cases read
      rw [utf8EncodeChar_four four goesOn inside ends]
      rfl
    · exact absurd read (refused _)
    · exact absurd read (refused _)
    · exact absurd read (refused _)
  · -- No other byte starts a character.
    exact absurd read (refused _)

section

variable {first second third fourth : UInt8} {rest : Bytes}

/-- An ASCII byte is read as its character, and nothing behind it is passed over. -/
theorem next_one (short : first.toNat < 0x80) :
    next first rest = (some (Char.ofNat first.toNat), 0) :=
  if_pos (UInt8.lt_iff_toNat_lt.mpr short)

/-- Two bytes that go together are read as one character. -/
theorem next_two (long : 0xC2 ≤ first.toNat ∧ first.toNat ≤ 0xDF)
    (goesOn : isSecond first second = true) :
    next first (second :: rest) =
      (some (Char.ofNat (first.toNat % 32 * 64 + payload second)), 1) := by
  -- The tests are made in order, and the first that holds is that for two bytes.
  simp only [next, UInt8.lt_iff_toNat_lt, UInt8.le_iff_toNat_le, Bool.and_eq_true,
    decide_eq_true_iff, UInt8.reduceToNat]
  rw [if_neg (by omega), if_pos long, if_pos goesOn]

/-- Three bytes that go together are read as one character. -/
theorem next_three (long : 0xE0 ≤ first.toNat ∧ first.toNat ≤ 0xEF)
    (goesOn : isSecond first second = true) (ends : isContinuation third = true) :
    next first (second :: third :: rest) =
      (some (Char.ofNat ((first.toNat % 16 * 64 + payload second) * 64 + payload third)), 2) := by
  -- The tests are made in order, and the first that holds is that for three bytes.
  simp only [next, UInt8.lt_iff_toNat_lt, UInt8.le_iff_toNat_le, Bool.and_eq_true,
    decide_eq_true_iff, UInt8.reduceToNat]
  rw [if_neg (by omega), if_neg (by omega), if_pos long, if_pos goesOn, if_pos ends]

/-- Four bytes that go together are read as one character. -/
theorem next_four (long : 0xF0 ≤ first.toNat ∧ first.toNat ≤ 0xF4)
    (goesOn : isSecond first second = true) (inside : isContinuation third = true)
    (ends : isContinuation fourth = true) :
    next first (second :: third :: fourth :: rest) =
      (some (Char.ofNat (((first.toNat % 8 * 64 + payload second) * 64 + payload third) * 64 +
        payload fourth)), 3) := by
  -- The tests are made in order, and the first that holds is that for four bytes.
  simp only [next, UInt8.lt_iff_toNat_lt, UInt8.le_iff_toNat_le, Bool.and_eq_true,
    decide_eq_true_iff, UInt8.reduceToNat]
  rw [if_neg (by omega), if_neg (by omega), if_neg (by omega), if_pos long, if_pos goesOn,
    if_pos inside, if_pos ends]

end

/-- What a character is stored as is read as that character, whatever stands behind it. -/
theorem exists_next_of_encode (c : Char) (rest : Bytes) :
    ∃ first others, String.utf8EncodeChar c = first :: others ∧
      next first (others ++ rest) = (some c, others.length) := by
  have valid : c.val.toNat < 0xD800 ∨ 0xDFFF < c.val.toNat ∧ c.val.toNat < 0x110000 := c.valid
  have known : Char.ofNat c.val.toNat = c := Char.ofNat_toNat c
  unfold String.utf8EncodeChar
  generalize c.val.toNat = code at valid known
  subst known
  have byte {number : Nat} (small : number < 256) : (UInt8.ofNat number).toNat = number :=
    UInt8.toNat_ofNat_of_lt' small
  dsimp only
  -- The bytes are in the ranges of their length, and their bits make up the number again.
  split_ifs with one two three
  · -- A number below 128 is its own byte.
    have first := @byte code (by omega)
    refine ⟨_, _, rfl, ?_⟩
    rw [next_one (by omega), first]
    rfl
  · have first := @byte (code / 64 % 32 + 192) (by omega)
    have second := @byte (code % 64 + 128) (by omega)
    refine ⟨_, _, rfl, ?_⟩
    generalize UInt8.ofNat (code / 64 % 32 + 192) = head at first ⊢
    generalize UInt8.ofNat (code % 64 + 128) = last at second ⊢
    -- The payloads are the digits of the number, the marker of each byte taken off.
    have number : head.toNat % 32 * 64 + payload last = code := by
      rw [payload]
      omega
    have read := @next_two head last rest (by omega) (isSecond_iff.mpr (by omega))
    rw [number] at read
    exact read
  · have first := @byte (code / 4096 % 16 + 224) (by omega)
    have second := @byte (code / 64 % 64 + 128) (by omega)
    have third := @byte (code % 64 + 128) (by omega)
    refine ⟨_, _, rfl, ?_⟩
    generalize UInt8.ofNat (code / 4096 % 16 + 224) = head at first ⊢
    generalize UInt8.ofNat (code / 64 % 64 + 128) = inner at second ⊢
    generalize UInt8.ofNat (code % 64 + 128) = last at third ⊢
    -- Again the payloads are the digits of the number.
    have number : (head.toNat % 16 * 64 + payload inner) * 64 + payload last = code := by
      rw [payload, payload]
      omega
    have read := @next_three head inner last rest (by omega) (isSecond_iff.mpr (by omega))
      (isContinuation_iff.mpr (by omega))
    rw [number] at read
    exact read
  · have first := @byte (code / 262144 % 8 + 240) (by omega)
    have second := @byte (code / 4096 % 64 + 128) (by omega)
    have third := @byte (code / 64 % 64 + 128) (by omega)
    have fourth := @byte (code % 64 + 128) (by omega)
    refine ⟨_, _, rfl, ?_⟩
    generalize UInt8.ofNat (code / 262144 % 8 + 240) = head at first ⊢
    generalize UInt8.ofNat (code / 4096 % 64 + 128) = inner at second ⊢
    generalize UInt8.ofNat (code / 64 % 64 + 128) = inner' at third ⊢
    generalize UInt8.ofNat (code % 64 + 128) = last at fourth ⊢
    -- There is one digit more here.
    have number : ((head.toNat % 8 * 64 + payload inner) * 64 + payload inner') * 64 +
        payload last = code := by
      rw [payload, payload, payload]
      omega
    have read := @next_four head inner inner' last rest (by omega) (isSecond_iff.mpr (by omega))
      (isContinuation_iff.mpr (by omega)) (isContinuation_iff.mpr (by omega))
    rw [number] at read
    exact read

/-! ### Whole texts -/

/-- Behind a character, the rest is read by itself. -/
theorem scan_utf8EncodeChar_append (c : Char) (rest : Bytes) :
    scan (String.utf8EncodeChar c ++ rest) = some c :: scan rest := by
  -- The bytes of the character are passed over, so the rest is read from its start.
  obtain ⟨first, others, stored, read⟩ := exists_next_of_encode c rest
  rw [stored, List.cons_append, scan, scanBehind, read, scanBehind_eq_scan_drop, List.drop_left]

/-- Every text is read back character by character. -/
theorem scan_encode (text : String) : scan (encode text) = text.toList.map some := by
  unfold encode
  -- Each character is read off the front.
  induction text.toList with
  | nil => rfl
  | cons c rest ih => rw [List.flatMap_cons, scan_utf8EncodeChar_append, ih, List.map_cons]

/-- Bytes that are read without a fault are those of the characters read. -/
theorem eq_flatMap_of_scan {bytes : Bytes} {chars : List Char}
    (read : scan bytes = chars.map some) : bytes = chars.flatMap String.utf8EncodeChar := by
  -- The induction is on the characters, each of which takes its own bytes off the front.
  induction chars generalizing bytes with
  | nil =>
    -- No characters are read from no bytes only.
    cases bytes with
    | nil => rfl
    | cons first rest => simp [scan, scanBehind] at read
  | cons c rest ih =>
    cases bytes with
    -- Without a byte no character is read.
    | nil => simp [scan, scanBehind] at read
    | cons first others =>
      rw [scan, scanBehind, scanBehind_eq_scan_drop, List.map_cons, List.cons.injEq] at read
      obtain ⟨found, later⟩ := read
      -- The first character takes its bytes, and the others are read behind them.
      rw [List.flatMap_cons, ← ih later]
      exact eq_encode_of_next (Prod.ext found rfl)

/-- What is read has no fault exactly where all of it is found. -/
private theorem eq_map_some_of_mapM {α : Type} {read : List (Option α)} {found : List α}
    (faultless : read.mapM id = some found) : read = found.map some := by
  -- Each thing read is found, and so are those behind it.
  induction read generalizing found with
  | nil =>
    cases faultless
    rfl
  | cons head rest ih =>
    rw [List.mapM_cons] at faultless
    obtain ⟨first, here, faultless⟩ := Option.bind_eq_some_iff.mp faultless
    obtain ⟨others, later, all⟩ := Option.bind_eq_some_iff.mp faultless
    cases all
    rw [ih later, List.map_cons, ← here]
    rfl

/-- A byte string is decoded exactly if it is what a text is stored as, and then as that text. -/
theorem decode_eq_some_iff {bytes : Bytes} {text : String} :
    decode bytes = some text ↔ bytes = encode text := by
  constructor
  · -- Bytes without a fault are the characters that were read.
    intro read
    obtain ⟨chars, faultless, rfl⟩ := Option.map_eq_some_iff.mp read
    rw [encode, String.toList_ofList]
    exact eq_flatMap_of_scan (eq_map_some_of_mapM faultless)
  · rintro rfl
    -- What was stored is read character by character, and none of them is a fault.
    have faultless : (text.toList.map some).mapM id = some text.toList := by
      rw [List.mapM_map]
      exact List.mapM_pure.trans (congrArg some (List.map_id _))
    rw [decode, scan_encode, faultless, Option.map_some, String.ofList_toList]

/-! ### Displayed bytes -/

/-- The bytes of a character that is read are among the bytes it is read from. -/
theorem encode_subset_of_mem_scanBehind {used : Nat} {bytes : Bytes} {c : Char}
    (read : some c ∈ scanBehind used bytes) : String.utf8EncodeChar c ⊆ bytes := by
  -- Each byte is the first of a character or passed over, and no byte is added.
  fun_induction scanBehind used bytes with
  | case1 => cases read
  | case2 first rest ih =>
    -- The bytes of the first character are at the front.
    rcases List.mem_cons.mp read with here | later
    · rw [eq_encode_of_next (Prod.ext here.symm rfl)]
      exact List.subset_append_left _ _
    · exact List.subset_cons_of_subset _ (ih later)
  | case3 first rest used ih => exact List.subset_cons_of_subset _ (ih read)

/-- A displayed byte string has a line feed only where a byte is one. -/
theorem notMem_lossy {bytes : Bytes} (absent : 0x0A ∉ bytes) :
    '\n' ∉ (lossy bytes).toList := by
  -- The line feed was shown for something that was read.
  intro shown
  rw [lossy, String.toList_ofList] at shown
  obtain ⟨read, member, same⟩ := List.mem_map.mp shown
  cases read with
  -- What stands for a fault is no line feed.
  | none => exact absurd same (by decide)
  | some c =>
    -- A line feed is read from its own byte only.
    have feed : c = '\n' := same
    subst feed
    exact absent (encode_subset_of_mem_scanBehind member (by decide))

end Switchboard.Utf8
