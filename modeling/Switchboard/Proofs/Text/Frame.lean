import Mathlib.Algebra.Ring.Nat

/-!
Texts with gaps that all hold the same text. However often the text occurs and whatever it is made
of, the frame around it determines it.
-/

namespace Switchboard

/-- The text around one gap or several gaps that hold the same text. -/
structure Frame where
  /-- What stands before the first gap. -/
  before : String
  /-- What stands between one gap and the next. -/
  between : List String := []
  /-- What stands behind the last gap. -/
  after : String
deriving DecidableEq, Repr

namespace Frame

/-- A frame with its gaps filled. -/
def fill (frame : Frame) (text : String) : String :=
  frame.before ++ text ++ String.join (frame.between.map (· ++ text)) ++ frame.after

/-- The number of characters of a frame. -/
def width (frame : Frame) : Nat :=
  frame.before.length + (frame.between.map String.length).sum + frame.after.length

/-- The text that fills a frame up to a line, if there is one. -/
def gap? (frame : Frame) (line : String) : Option String :=
  -- The gaps are equally wide, so the length of the line tells where the first one ends.
  let size := (line.length - frame.width) / (frame.between.length + 1)
  let text := String.ofList ((line.toList.drop frame.before.length).take size)
  if frame.fill text = line then some text else none

/-- Texts that are joined have all their characters. -/
private theorem length_join (parts : List String) :
    (String.join parts).length = (parts.map String.length).sum := by
  induction parts with
  | nil => rfl
  | cons part rest ih => simp [String.join_cons, ih]

/-- Each gap adds the length of the text to that of the frame. -/
theorem length_fill (frame : Frame) (text : String) :
    (frame.fill text).length = frame.width + (frame.between.length + 1) * text.length := by
  -- The text stands once behind each part between two gaps.
  have between : ((frame.between.map (· ++ text)).map String.length).sum =
      (frame.between.map String.length).sum + frame.between.length * text.length := by
    induction frame.between with
    | nil => simp
    | cons part rest ih =>
      simp only [List.map_cons, List.sum_cons, List.length_cons, Nat.succ_mul, ih,
        String.length_append]
      omega
  rw [fill, String.length_append, String.length_append, String.length_append, length_join, between,
    width, Nat.succ_mul]
  omega

/-- A filled frame ends in what stands behind its last gap. -/
theorem after_suffix_fill (frame : Frame) (text : String) :
    frame.after.toList <:+ (frame.fill text).toList := by
  -- What stands behind the last gap is put there last.
  rw [fill, String.toList_append]
  exact List.suffix_append _ _

/-- A frame is read as the text that fills it, and nothing else is read. -/
theorem gap?_eq_some_iff {frame : Frame} {line text : String} :
    frame.gap? line = some text ↔ line = frame.fill text := by
  constructor
  · intro found
    -- A gap is only told where filling it gives the line.
    simp only [gap?, Option.ite_none_right_eq_some, Option.some.injEq] at found
    obtain ⟨same, rfl⟩ := found
    exact same.symm
  · rintro rfl
    -- The length tells the size of the gap, and the first gap starts behind the text before it.
    have size : ((frame.fill text).length - frame.width) / (frame.between.length + 1) =
        text.length := by
      rw [length_fill, Nat.add_sub_cancel_left, Nat.mul_div_cancel_left _ (Nat.succ_pos _)]
    have first : ((frame.fill text).toList.drop frame.before.length).take text.length =
        text.toList := by
      rw [fill, String.toList_append, String.toList_append, String.toList_append, List.append_assoc,
        List.append_assoc, List.drop_left' String.length_toList,
        List.take_left' String.length_toList]
    simp only [gap?, size, first, String.ofList_toList, if_pos]

end Frame

end Switchboard
