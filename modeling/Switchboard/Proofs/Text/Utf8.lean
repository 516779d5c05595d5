import Mathlib.Tactic.SplitIfs
import Switchboard.Proofs.Sorting
import Switchboard.Text.Utf8

/-! The bytes a text is stored as stand in the order of its characters. -/

namespace Switchboard.Utf8

/-- A text is stored in as many bytes as it counts. -/
theorem length_encode (text : String) : (encode text).length = text.utf8ByteSize := by
  -- Both count the bytes of the characters.
  rw [← String.size_toByteArray, ← String.utf8Encode_toList, List.utf8Encode, List.size_toByteArray]
  rfl

/-- Byte strings that start with given numbers are ordered by these, and then by what follows. -/
theorem ofNat_cons_lt_ofNat_cons {left right : Nat} {rest others : Bytes} (small : left < 256)
    (small' : right < 256) :
    UInt8.ofNat left :: rest < UInt8.ofNat right :: others ↔
      left < right ∨ left = right ∧ rest < others := by
  -- Below 256 a byte has the number it was made from.
  rw [List.cons_lt_cons_iff, UInt8.lt_iff_toNat_lt, ← UInt8.toNat_inj,
    UInt8.toNat_ofNat_of_lt' small, UInt8.toNat_ofNat_of_lt' small']

/-- The bytes of a character come before those of a greater one, whatever follows either. -/
theorem utf8EncodeChar_append_lt {left right : Char} (smaller : left < right)
    (rest others : Bytes) :
    String.utf8EncodeChar left ++ rest < String.utf8EncodeChar right ++ others := by
  -- A longer form starts with a greater byte, and forms of one length are numbers in base 64.
  have below : left.val.toNat < right.val.toNat := smaller
  -- No character has a number beyond the last one of Unicode.
  have bound : right.val.toNat < 0x110000 := by
    have valid := right.valid
    grind
  unfold String.utf8EncodeChar
  generalize left.val.toNat = low at *
  generalize right.val.toNat = high at *
  -- Dividing by a power of 64 is dividing by 64 several times.
  have nested (number : Nat) :
      number / 4096 = number / 64 / 64 ∧ number / 262144 = number / 64 / 64 / 64 := by omega
  simp only [(nested _).1, (nested _).2]
  -- Sixteen pairs of lengths, of which the six with a longer left form cannot occur.
  split_ifs <;>
    simp (disch := omega) only [List.cons_append, List.nil_append, ofNat_cons_lt_ofNat_cons] <;>
    omega

/-- The bytes of a text come before those of a greater one. -/
theorem encode_lt_of_lt {left right : String} (smaller : left < right) :
    encode left < encode right := by
  -- The induction follows the comparison of the texts, character by character.
  have general : ∀ {xs ys : List Char}, xs < ys →
      xs.flatMap String.utf8EncodeChar < ys.flatMap String.utf8EncodeChar := by
    intro xs ys order
    induction order with
    | @nil head rest =>
      -- A text that goes on comes behind one that ends, as no character is stored as nothing.
      cases form : String.utf8EncodeChar head with
      | nil => exact absurd form String.utf8EncodeChar_ne_nil
      | cons byte more => simp [form]
    -- At the first difference the bytes are ordered whatever follows.
    | rel order => exact utf8EncodeChar_append_lt order _ _
    -- Up to there both have the same bytes.
    | cons order ih => exact List.append_left_lt ih
  exact general smaller

/-- Byte strings compare as they are ordered. -/
theorem compare_bytes_eq_lt_iff {left right : Bytes} : compare left right = .lt ↔ left < right :=
  compare_eq_lt_iff_lt fun _ _ => compareOfLessAndEq_eq_lt

/-- Texts compare as they are ordered. -/
theorem compare_texts_eq_lt_iff {left right : String} :
    compare left right = .lt ↔ left < right :=
  compareOfLessAndEq_eq_lt

/-- Texts compare as the bytes they are stored as. -/
theorem compare_encode (left right : String) :
    compare (encode left) (encode right) = compare left right := by
  -- Storing keeps the order, so it keeps comparisons.
  refine compare_key_eq encode (fun order => ?_) left right
  exact compare_bytes_eq_lt_iff.mpr (encode_lt_of_lt (compare_texts_eq_lt_iff.mp order))

/-- Comparing the bytes of two texts is comparing the texts. -/
theorem encode_lt_encode_iff {left right : String} : encode left < encode right ↔ left < right := by
  -- Bytes and texts are both ordered as they compare.
  rw [← compare_bytes_eq_lt_iff, compare_encode, compare_texts_eq_lt_iff]

/-- Texts compare as the numbers of their characters. -/
theorem compare_codePoints (left right : String) :
    compare (left.toList.map Char.toNat) (right.toList.map Char.toNat) = compare left right := by
  refine compare_key_eq (fun text : String => text.toList.map Char.toNat) (fun order => ?_) left
    right
  -- Texts are ordered as their characters are, and these as their numbers.
  exact (compare_eq_lt_iff_lt fun _ _ => Nat.compare_eq_lt).mpr
    (List.map_lt (fun _ _ lower => lower) (compare_texts_eq_lt_iff.mp order))

end Switchboard.Utf8
