import Switchboard.Text.Lines

/-! Texts that are put together from lines: cutting them gives the lines back. -/

namespace Switchboard

variable {α : Type} [DecidableEq α]

/-- A separator in the middle cuts a list into the pieces before it and the pieces after it. -/
theorem pieces_append (separator : α) (front rest : List α) :
    pieces separator (front ++ separator :: rest) =
      pieces separator front ++ pieces separator rest := by
  -- The front is cut element by element, and its last piece is closed by the separator.
  induction front with
  | nil => simp [pieces]
  | cons head front ih =>
    rw [List.cons_append, pieces, pieces, ih]
    -- The element is a separator itself and starts another piece.
    split
    · rfl
    · -- Any other element joins the piece in front.
      cases cut : pieces separator front with
      | nil => exact absurd cut (pieces_ne_nil separator front)
      | cons first others => rfl

/-- A list without the separator is its own only piece. -/
theorem pieces_of_notMem {separator : α} {list : List α} (absent : separator ∉ list) :
    pieces separator list = [list] := by
  -- No element closes the piece, so all of them join it.
  induction list with
  | nil => rfl
  | cons head rest ih =>
    obtain ⟨different, later⟩ := List.ne_and_not_mem_of_not_mem_cons absent
    rw [pieces, if_neg (Ne.symm different), ih later]
    rfl

/-- Two lists without the separator, joined by it, are cut in two. -/
theorem pieces_pair {separator : α} {front rest : List α} (inFront : separator ∉ front)
    (inRest : separator ∉ rest) :
    pieces separator (front ++ separator :: rest) = [front, rest] := by
  -- The separator between the two is the only one.
  rw [pieces_append, pieces_of_notMem inFront, pieces_of_notMem inRest]
  rfl

/-- Cutting joined lists gives the lists back if none holds the separator. -/
theorem pieces_intercalate {separator : α} {lists : List (List α)} (filled : lists ≠ [])
    (absent : ∀ list ∈ lists, separator ∉ list) :
    pieces separator ([separator].intercalate lists) = lists := by
  -- The induction takes one list after another.
  induction lists with
  | nil => exact absurd rfl filled
  | cons first rest ih =>
    have alone := pieces_of_notMem (absent first List.mem_cons_self)
    cases rest with
    | nil => simpa using alone
    | cons second more =>
      -- The first list ends at the separator that joins it to the others.
      have others := ih (by simp) fun list member => absent list (List.mem_cons_of_mem _ member)
      rw [List.intercalate_cons_cons, List.append_assoc, List.singleton_append, pieces_append,
        alone, others]
      rfl

namespace Lines

/-- Joined lines without line feeds are cut into the same lines, and no lines into a blank one. -/
theorem pieces_join {lines : List String} (absent : ∀ line ∈ lines, '\n' ∉ line.toList) :
    pieces '\n' ("\n".intercalate lines).toList =
      if lines = [] then [[]] else lines.map String.toList := by
  -- Joining no lines gives the empty text, which is cut into one blank piece all the same.
  rw [String.toList_intercalate, show "\n".toList = ['\n'] from rfl]
  split
  · rename_i empty
    rw [empty]
    rfl
  · rename_i filled
    refine pieces_intercalate (by simpa using filled) fun list member => ?_
    -- The lists that are joined are the characters of the lines.
    obtain ⟨line, inside, rfl⟩ := List.mem_map.mp member
    exact absent line inside

/-- Pieces without a carriage return at an end, of which the last one is not empty, are lines as
they stand. -/
private theorem ofPieces_eq {lines : List (List Char)}
    (plain : ∀ line ∈ lines, line.getLast? ≠ some '\r') (closed : lines.getLast? ≠ some []) :
    ofPieces lines = lines := by
  -- The induction follows the lines, of which only the last is treated apart.
  induction lines with
  | nil => rfl
  | cons line rest ih =>
    cases rest with
    | nil =>
      -- The last line counts because it is not blank.
      have filled : line ≠ [] := by simpa using closed
      simp [ofPieces, filled]
    | cons next more =>
      -- A line before the last loses its return, but it has none.
      have kept : dropReturn line = line := if_neg (plain line List.mem_cons_self)
      have later := ih (fun line member => plain line (List.mem_cons_of_mem _ member)) closed
      rw [ofPieces, kept, later]

/-- Joined lines are read as the same lines, given that none ends in a return and the last is not
blank. -/
theorem read_join {lines : List String} (absent : ∀ line ∈ lines, '\n' ∉ line.toList)
    (plain : ∀ line ∈ lines, line.toList.getLast? ≠ some '\r')
    (closed : lines.getLast? ≠ some "") : read ("\n".intercalate lines) = lines := by
  rw [read, pieces_join absent]
  split
  · rename_i empty
    rw [empty]
    rfl
  · -- The pieces are the lines themselves, and a line that is not blank ends them.
    have closed' : (lines.map String.toList).getLast? ≠ some [] := by
      rw [List.getLast?_map, Ne, Option.map_eq_some_iff]
      rintro ⟨line, last, blank⟩
      exact closed (String.toList_eq_nil_iff.mp blank ▸ last)
    rw [ofPieces_eq (by simpa using plain) closed', List.map_map]
    simp [Function.comp_def]

/-- Indenting joined lines indents each of them. -/
theorem indent_join (width : Nat) {lines : List String}
    (absent : ∀ line ∈ lines, '\n' ∉ line.toList)
    (plain : ∀ line ∈ lines, line.toList.getLast? ≠ some '\r')
    (closed : lines.getLast? ≠ some "") :
    indent width ("\n".intercalate lines) = "\n".intercalate (lines.map (pad width)) := by
  rw [indent, read_join absent plain closed]

/-- The lines of a text between its line feeds, as texts. -/
def split (text : String) : List String :=
  (pieces '\n' text.toList).map String.ofList

/-- A text without line feeds is one line. -/
theorem split_of_notMem {text : String} (absent : '\n' ∉ text.toList) : split text = [text] := by
  rw [split, pieces_of_notMem absent]
  simp

/-- Joined lines without line feeds are split into the same lines, and no lines into a blank one. -/
theorem split_join {lines : List String} (absent : ∀ line ∈ lines, '\n' ∉ line.toList) :
    split ("\n".intercalate lines) = if lines = [] then [""] else lines := by
  -- Cutting gives the lines back as characters, and they are made texts again.
  rw [split, pieces_join absent]
  split
  · -- The one blank piece is the blank text.
    rfl
  · simp [Function.comp_def]

/-- Lines that each end in a line feed are split into the same lines, with a blank one behind. -/
theorem split_ended {lines : List String} (absent : ∀ line ∈ lines, '\n' ∉ line.toList) :
    split (String.join (lines.map (· ++ "\n"))) = lines ++ [""] := by
  -- Each line is cut off at its own line feed.
  induction lines with
  | nil => rfl
  | cons line rest ih =>
    have later := ih fun other member => absent other (List.mem_cons_of_mem _ member)
    unfold split at later ⊢
    rw [List.map_cons, String.join_cons, String.toList_append, String.toList_append,
      List.append_assoc, show "\n".toList = ['\n'] from rfl, List.singleton_append, pieces_append,
      pieces_of_notMem (absent line List.mem_cons_self), List.map_append, later]
    simp

/-- Moving a line by no spaces leaves it as it is. -/
@[simp] theorem pad_zero (line : String) : pad 0 line = line := by
  -- A blank line is not moved anyway.
  by_cases blank : line = "" <;> simp [pad, blank]

/-- A line moved left by some characters. -/
def unpad (width : Nat) (line : String) : String :=
  String.ofList (line.toList.drop width)

/-- Moving a line right and left again leaves it as it is. -/
@[simp] theorem unpad_pad (width : Nat) (line : String) : unpad width (pad width line) = line := by
  -- A blank line is moved in neither direction.
  unfold pad unpad
  split
  · rename_i blank
    simp [blank]
  · simp

/-- A line without the spaces in front of it. -/
def trim (line : String) : String :=
  String.ofList (line.toList.dropWhile (· == ' '))

/-- The characters of a trimmed line are those of the line from the first that is no space. -/
theorem toList_trim (line : String) : (trim line).toList = line.toList.dropWhile (· == ' ') :=
  String.toList_ofList

/-- Spaces in front of a line do not count. -/
theorem trim_spaces (width : Nat) (line : String) :
    trim (String.ofList (List.replicate width ' ') ++ line) = trim line := by
  -- One space after the other is dropped.
  unfold trim
  congr 1
  induction width with
  | zero => simp
  | succ width ih => simp [List.replicate_succ]

/-- A line that was moved right is trimmed like the line itself. -/
@[simp] theorem trim_pad (width : Nat) (line : String) : trim (pad width line) = trim line := by
  -- Only a line that is not blank has spaces put in front of it.
  unfold pad
  split
  · rename_i blank
    rw [blank]
  · exact trim_spaces width line

/-- A line without a space in front stays as it is. -/
theorem trim_of_head {line : String} (margin : line.toList.head? ≠ some ' ') :
    trim line = line := by
  unfold trim
  cases chars : line.toList with
  | nil => simpa using chars.symm
  | cons first rest =>
    -- The first character already stops the dropping.
    have other : first ≠ ' ' := by simpa [chars] using margin
    rw [List.dropWhile_cons, if_neg (by simpa using other), ← chars, String.ofList_toList]

/-- Indenting a line brings in no line feed. -/
theorem notMem_pad (width : Nat) {line : String} (absent : '\n' ∉ line.toList) :
    '\n' ∉ (pad width line).toList := by
  -- Neither a blank line nor the spaces in front of another have a line feed.
  unfold pad
  split
  · simp
  · simp [absent]

end Lines

end Switchboard
