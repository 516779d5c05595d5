import Mathlib.Data.Nat.Digits.Lemmas
import Switchboard.Proofs.Path.Components
import Switchboard.Proofs.Text.Decoding
import Switchboard.Summary

/-!
The plain summary as it is seen: a headline, a box with a line for each content module, and remarks.
Main statement: without line feeds in names, remarks and the path, these are its lines, and the box
is rectangular exactly if no number with its two aliases is too wide for it.
-/

namespace Switchboard.Summary

/-! ### Labels and numbers -/

/-- A file label has no line feed unless the path has one. -/
theorem notMem_fileLabel {output : Path} (absent : 0x0A ∉ output.bytes) :
    '\n' ∉ (fileLabel output).toList := by
  unfold fileLabel Path.fileName?
  -- The label is the last name of the path, and a path without one is shown in full.
  cases last : output.components.getLast? with
  | none => exact Utf8.notMem_lossy absent
  | some component =>
    cases component with
    | root | here | up => exact Utf8.notMem_lossy absent
    | name bytes =>
      -- The bytes of a name are bytes of the path.
      have within := Path.subset_of_name_mem_components (List.mem_of_getLast? last)
      exact Utf8.notMem_lossy fun inside => absent (within inside)

/-- A written number has no line feed. -/
theorem notMem_toString (number : Nat) : '\n' ∉ (toString number).toList := by
  rw [Nat.toString_eq_ofList_toDigits, String.toList_ofList]
  -- What is written are digits, and a line feed is none.
  intro member
  exact absurd (Nat.isDigit_of_mem_toDigits (by decide) (by decide) member) (by decide)

/-- A number is written with one character for each digit. -/
theorem length_toString {number : Nat} (positive : 0 < number) :
    (toString number).length = (Nat.digits 10 number).length := by
  -- Zero aside, both lengths are told by the powers of ten that the number is below.
  have written : Nat.digits 10 number ≠ [] := Nat.digits_ne_nil_iff_ne_zero.mpr (by omega)
  refine eq_of_forall_ge_iff fun bound => ?_
  -- No bound of zero characters holds, as a number has at least one digit.
  rcases Nat.eq_zero_or_pos bound with rfl | bounded
  · simp [written]
  · rw [Nat.toString_eq_repr, Nat.length_repr_le_iff bounded,
      Nat.digits_length_le_iff (by decide)]

/-! ### The picture -/

/-- A line that repeats one character between its ends. -/
def ruled (front : String) (count : Nat) (c : Char) (back : String) : String :=
  front ++ repeated count c ++ back

/-- The upper edge of the box, as it is seen. -/
def upperEdge : String := ruled "  ╭─ CONTENT " 43 '─' "╮"

/-- The lower edge of the box. -/
def lowerEdge : String := ruled "  ╰" 53 '─' "╯"

/-- A line of the box with nothing in it. -/
def blankLine : String := ruled "  │" 53 ' ' "│"

/-- The line of the box that stands in for content modules. -/
def noneLine : String := ruled "  │    (none)" 43 ' ' "│"

/-- How many characters a content module takes up in the box: its number, with one space in front if
there is just one digit, and its name in two aliases. -/
def extent (number : Nat) (name : Name) : Nat :=
  max 2 (Nat.digits 10 number).length + 2 * name.text.length

/-- The line of a content module, with the right edge of the box behind both aliases. -/
def entry (number : Nat) (name : Name) : String :=
  "  │  ▸ " ++ repeated (2 - (Nat.digits 10 number).length) ' ' ++ toString number ++
    "  Mdl" ++ name.text ++ " / Msg" ++ name.text ++ repeated (38 - extent number name) ' ' ++ "│"

/-- The lines between the edges, for content modules in this order. -/
def rows (names : List Name) : List String :=
  if names = [] then [noneLine] else names.mapIdx fun index name => entry (index + 1) name

/-- A box around some lines. -/
def boxed (rows : List String) : List String :=
  [upperEdge, blankLine] ++ rows ++ [blankLine, lowerEdge]

/-- Whether lines are all equally long. -/
def IsRectangular (lines : List String) : Prop :=
  ∀ line ∈ lines, ∀ other ∈ lines, line.length = other.length

/-- Repeating a character so often makes so many characters. -/
@[simp] theorem length_repeated (count : Nat) (c : Char) : (repeated count c).length = count := by
  simp [repeated]

/-- A ruled line is as long as its ends and what it repeats between them. -/
theorem length_ruled (front : String) (count : Nat) (c : Char) (back : String) :
    (ruled front count c back).length = front.length + count + back.length := by
  simp [ruled]

/-- The upper edge of the box has 57 characters. -/
theorem length_upperEdge : upperEdge.length = 57 := length_ruled ..

/-- The lower edge of the box has 57 characters. -/
theorem length_lowerEdge : lowerEdge.length = 57 := length_ruled ..

/-- A blank line of the box has 57 characters. -/
theorem length_blankLine : blankLine.length = 57 := length_ruled ..

/-- The line in place of content modules has 57 characters. -/
theorem length_noneLine : noneLine.length = 57 := length_ruled ..

/-- The line of a content module is longer than the edges by what does not fit between them. -/
theorem length_entry {number : Nat} (positive : 0 < number) (name : Name) :
    (entry number name).length = 57 + (extent number name - 38) := by
  -- What is fixed in the line has 19 characters, and 38 remain between the edges.
  have literals : "  │  ▸ ".length = 7 ∧ "  Mdl".length = 5 ∧ " / Msg".length = 6 ∧
      "│".length = 1 := by decide
  unfold entry extent
  simp only [String.length_append, length_repeated, length_toString positive, literals]
  omega

/-- The line of a content module is not the one that stands in for content modules. -/
theorem entry_ne_noneLine (number : Nat) (name : Name) : entry number name ≠ noneLine := by
  -- Where the former has its mark, the latter has a space.
  intro same
  have mark : (entry number name).toList[5]? = noneLine.toList[5]? := by rw [same]
  unfold entry noneLine ruled at mark
  simp only [String.append_assoc, String.toList_append] at mark
  exact absurd (show some '▸' = some ' ' from mark) (by decide)

/-- Each content module has the line at its index, with the number that follows that index. -/
theorem getElem?_rows {names : List Name} {index : Nat} {name : Name}
    (found : names[index]? = some name) :
    (rows names)[index]? = some (entry (index + 1) name) := by
  -- There is a name at the index, so the box is not the one for none.
  have filled : names ≠ [] := List.ne_nil_of_mem (List.mem_of_getElem? found)
  rw [rows, if_neg filled, List.getElem?_mapIdx, found]
  rfl

/-- A line between the edges is that of a content module, or stands in for all if there are none. -/
theorem eq_of_mem_rows {names : List Name} {line : String} (member : line ∈ rows names) :
    names = [] ∧ line = noneLine ∨
      ∃ index name, names[index]? = some name ∧ line = entry (index + 1) name := by
  unfold rows at member
  split at member
  · rename_i empty
    exact Or.inl ⟨empty, List.mem_singleton.mp member⟩
  · obtain ⟨index, inside, same⟩ := List.mem_mapIdx.mp member
    exact Or.inr ⟨index, names[index], List.getElem?_eq_getElem inside, same.symm⟩

/-- One line stands in for content modules exactly if there are none. -/
theorem noneLine_mem_rows_iff {names : List Name} : noneLine ∈ rows names ↔ names = [] := by
  constructor
  · intro member
    rcases eq_of_mem_rows member with ⟨empty, -⟩ | ⟨index, name, -, same⟩
    · exact empty
    · -- No entry is the line that stands in for entries.
      exact absurd same.symm (entry_ne_noneLine _ name)
  · rintro rfl
    exact List.mem_singleton_self noneLine

/-- A box is rectangular exactly if the lines in it are as long as its edges. -/
theorem isRectangular_boxed_iff {inner : List String} :
    IsRectangular (boxed inner) ↔ ∀ row ∈ inner, row.length = 57 := by
  constructor
  · intro rectangular row member
    -- The upper edge is one of the lines of the box, so all lines are as long as it.
    rw [← length_upperEdge]
    exact rectangular row (by simp [boxed, member]) upperEdge (by simp [boxed])
  · intro level
    -- All that is in the box but the rows has the length of the edge anyway.
    have all : ∀ line ∈ boxed inner, line.length = 57 := by
      intro line member
      simp only [boxed, List.mem_append, List.mem_cons, List.not_mem_nil, or_false] at member
      rcases member with ((rfl | rfl) | inside) | rfl | rfl
      · exact length_upperEdge
      · exact length_blankLine
      · exact level line inside
      · exact length_blankLine
      · exact length_lowerEdge
    exact fun line member other member' => (all line member).trans (all other member').symm

/-- A box is rectangular exactly if no content module takes up more than 38 characters. -/
theorem isRectangular_boxed_rows_iff {names : List Name} :
    IsRectangular (boxed (rows names)) ↔
      ∀ index name, names[index]? = some name → extent (index + 1) name ≤ 38 := by
  rw [isRectangular_boxed_iff]
  constructor
  · intro level index name found
    -- The row of each content module has its length from what it takes up.
    have length := level _ (List.mem_of_getElem? (getElem?_rows found))
    rw [length_entry index.add_one_pos] at length
    omega
  · intro fits line member
    rcases eq_of_mem_rows member with ⟨-, rfl⟩ | ⟨index, name, found, rfl⟩
    · exact length_noneLine
    · -- What fits leaves the row as long as the edges.
      have room := fits index name found
      rw [length_entry index.add_one_pos]
      omega

/-! ### Plain lines -/

/-- Off a terminal, a span is shown as its text. -/
theorem onTerminal_false (span : Span) : span.onTerminal false = span.text := by
  unfold Span.onTerminal
  split <;> rfl

/-- Off a terminal, a line is shown as the texts of its spans. -/
theorem showLine_false (line : List Span) :
    showLine false line = String.join (line.map Span.text) := by
  rw [showLine, List.map_congr_left fun span _ => onTerminal_false span]

/-- The headline is seen as its mark and its text. -/
theorem showLine_headline (label : String) :
    showLine false [⟨"  ", none⟩, ⟨"◉", some .green⟩,
      ⟨" Successfully generated " ++ label ++ "!", none⟩] =
        "  ◉ Successfully generated " ++ label ++ "!" := by
  simp [showLine_false, ← String.append_assoc]

/-- The header of the box is seen as its upper edge. -/
theorem showLine_header : showLine false (header "CONTENT") = upperEdge := rfl

/-- An empty row is seen as a blank line of the box. -/
theorem showLine_row_blank : showLine false (row "") = blankLine := rfl

/-- The row for no content modules is seen as the line in their place. -/
theorem showLine_row_none : showLine false (row "   (none)") = noneLine := rfl

/-- The line of a content module is seen as the entry under its number. -/
theorem showLine_nameLine {number : Nat} (positive : 0 < number) (name : Name) :
    showLine false (nameLine number name) = entry number name := by
  -- The room that is left in the row is what the name and its number leave of the 38 characters.
  have left : 52 - (" ▸ " ++ fillBefore 2 (toString number) ++ "  Mdl" ++ name.text ++ " / Msg" ++
      name.text).length = 38 - extent number name := by
    have literals : " ▸ ".length = 3 ∧ "  Mdl".length = 5 ∧ " / Msg".length = 6 := by decide
    unfold fillBefore extent
    simp only [String.length_append, length_repeated, length_toString positive, literals]
    omega
  simp only [nameLine, row, showLine_false, fillAfter, show frameWidth - 3 = 52 from rfl, left]
  unfold entry fillBefore
  -- Both fill the number up to two digits, the one by its characters and the other by its digits.
  rw [length_toString positive]
  simp [← String.append_assoc]

/-- The footer of the box is seen as its lower edge. -/
theorem showLine_footer : showLine false footer = lowerEdge := rfl

/-- A remark is seen as its mark and its message. -/
theorem showLine_remark (message : String) :
    showLine false [⟨"  ", none⟩, ⟨"◆", some .amber⟩, ⟨" ", none⟩, ⟨message, some .amber⟩] =
      "  ◆ " ++ message := by
  simp [showLine_false, ← String.append_assoc]

/-- The line about the output is seen as the path and the size. -/
theorem showLine_size (path size : String) :
    showLine false [⟨"  ", none⟩, ⟨path ++ " (" ++ size ++ " bytes)", some .dim⟩] =
      "  " ++ path ++ " (" ++ size ++ " bytes)" := by
  simp [showLine_false, ← String.append_assoc]

/-- The last line is seen as its mark and the time. -/
theorem showLine_timing (milliseconds : String) :
    showLine false [⟨"  ", none⟩, ⟨"◇", some .cyan⟩,
      ⟨" Done in " ++ milliseconds ++ "ms", none⟩] = "  ◇ Done in " ++ milliseconds ++ "ms" := by
  simp [showLine_false, ← String.append_assoc]

/-- The lines of content modules are numbered on from a number. -/
theorem map_showLine_nameLines (first : Nat) (names : List Name) :
    (nameLines (first + 1) names).map (showLine false) =
      names.mapIdx fun index name => entry (first + index + 1) name := by
  -- The number goes up with each line, so the induction is over every first number.
  induction names generalizing first with
  | nil => rfl
  | cons name rest ih =>
    rw [nameLines, List.map_cons, showLine_nameLine (by omega), ih, List.mapIdx_cons]
    simp [Nat.add_comm, Nat.add_left_comm]

/-- Between the blank lines of the box stand the content modules, or the line in their place. -/
theorem map_showLine_rows (names : List Name) :
    (nameLines 1 names ++ if names = [] then [row "   (none)"] else []).map (showLine false) =
      rows names := by
  unfold rows
  split
  · rename_i empty
    rw [empty, nameLines, List.nil_append, List.map_singleton, showLine_row_none]
  · -- The count starts at one where an index starts at zero.
    rw [List.append_nil, map_showLine_nameLines 0]
    simp

/-- The lines of a plain summary, as they are seen. -/
theorem map_showLine_lines (report : Report) (milliseconds : String) :
    (lines report milliseconds).map (showLine false) =
      ["  ◉ Successfully generated " ++ fileLabel report.output ++ "!", ""] ++
        boxed (rows report.names) ++ [""] ++
        report.remarks.map (fun remark => "  ◆ " ++ remark.message) ++
        ["  " ++ report.output.display ++ " (" ++ toString report.bytes ++ " bytes)",
          "  ◇ Done in " ++ milliseconds ++ "ms"] := by
  have inner := map_showLine_rows report.names
  rw [List.map_append] at inner
  have blank : showLine false [] = "" := rfl
  -- Each line of the summary is one of the kinds above.
  simp only [lines, boxed, List.map_append, List.map_cons, List.map_nil, List.map_map,
    Function.comp_def, ← inner, showLine_headline, showLine_header, showLine_row_blank,
    showLine_footer, showLine_remark, showLine_size, showLine_timing, blank, List.append_assoc,
    List.cons_append, List.nil_append]

/-! ### Line feeds -/

/-- Repeating another character makes no line feed. -/
theorem notMem_repeated (count : Nat) {c : Char} (other : '\n' ≠ c) :
    '\n' ∉ (repeated count c).toList := by
  simp [repeated, other]

/-- A ruled line has no line feed if its ends have none and it repeats another character. -/
theorem notMem_ruled {front back : String} {c : Char} (count : Nat)
    (absent : '\n' ∉ front.toList ++ c :: back.toList) :
    '\n' ∉ (ruled front count c back).toList := by
  simp only [List.mem_append, List.mem_cons, not_or] at absent
  simp [ruled, absent, notMem_repeated count absent.2.1]

/-- The entry of a name without a line feed has none. -/
theorem notMem_entry (number : Nat) {name : Name} (absent : '\n' ∉ name.text.toList) :
    '\n' ∉ (entry number name).toList := by
  have space (count : Nat) := notMem_repeated count (by decide : '\n' ≠ ' ')
  have digits := notMem_toString number
  -- Beside the name and the number there are only spaces and fixed texts.
  unfold entry
  simp only [String.toList_append, List.mem_append, not_or, space, digits, absent,
    not_false_eq_true, and_true]
  decide

/-- A box of names without line feeds has none in its lines. -/
theorem notMem_of_mem_boxed_rows {names : List Name} {line : String}
    (absent : ∀ name ∈ names, '\n' ∉ name.text.toList) (member : line ∈ boxed (rows names)) :
    '\n' ∉ line.toList := by
  simp only [boxed, List.mem_append, List.mem_cons, List.not_mem_nil, or_false] at member
  -- The edges and the blank lines are fixed, so only the rows depend on names.
  rcases member with ((rfl | rfl) | inside) | rfl | rfl
  · exact notMem_ruled _ (by decide)
  · exact notMem_ruled _ (by decide)
  · rcases eq_of_mem_rows inside with ⟨-, rfl⟩ | ⟨index, name, found, rfl⟩
    · exact notMem_ruled _ (by decide)
    · exact notMem_entry _ (absent name (List.mem_of_getElem? found))
  · exact notMem_ruled _ (by decide)
  · exact notMem_ruled _ (by decide)

/-- Without line feeds in names, remarks and the path, a plain summary is split into its lines. -/
theorem split_text {report : Report} {milliseconds : String}
    (inNames : ∀ name ∈ report.names, '\n' ∉ name.text.toList)
    (inRemarks : ∀ remark ∈ report.remarks, '\n' ∉ remark.message.toList)
    (inPath : 0x0A ∉ report.output.bytes) (inTime : '\n' ∉ milliseconds.toList) :
    Lines.split (text false report milliseconds) =
      (lines report milliseconds).map (showLine false) ++ [""] := by
  -- The text is its lines with a line feed after each, so it splits where they end.
  have ended : text false report milliseconds =
      String.join (((lines report milliseconds).map (showLine false)).map (· ++ "\n")) := by
    rw [text, List.map_map]
    rfl
  rw [ended]
  refine Lines.split_ended fun line member => ?_
  -- It remains to see that no line has a line feed of its own.
  rw [map_showLine_lines] at member
  have label := notMem_fileLabel inPath
  have path : '\n' ∉ report.output.display.toList := Utf8.notMem_lossy inPath
  have bytes := notMem_toString report.bytes
  simp only [List.mem_append, List.mem_cons, List.not_mem_nil, or_false] at member
  -- One case for each kind of line: headline, box, remarks, size and time.
  rcases member with ((((rfl | rfl) | inBox) | rfl) | remarked) | rfl | rfl
  · simp [label]
  · simp
  · exact notMem_of_mem_boxed_rows inNames inBox
  · simp
  · obtain ⟨remark, told, rfl⟩ := List.mem_map.mp remarked
    simp [inRemarks remark told]
  · simp only [String.toList_append, List.mem_append, not_or]
    exact ⟨⟨⟨⟨by decide, path⟩, by decide⟩, bytes⟩, by decide⟩
  · simp [inTime]

/-- A plain summary without line feeds in names, remarks and the path is a headline, the box and a
line for each remark. In the box the content modules are numbered in their order, each in a line of
its own, or one line stands in for them if there are none. The edges and blank lines of the box have
57 characters, and the line of a content module is longer by what its number and its aliases take
up beyond 38. So the box is rectangular exactly if none takes up more. -/
theorem text_boxes_every_name (report : Report) (milliseconds : Nat)
    (inNames : ∀ name ∈ report.names, '\n' ∉ name.text.toList)
    (inRemarks : ∀ remark ∈ report.remarks, '\n' ∉ remark.message.toList)
    (inPath : 0x0A ∉ report.output.bytes) :
    Lines.split (text false report (toString milliseconds)) =
        ["  ◉ Successfully generated " ++ fileLabel report.output ++ "!", ""] ++
          boxed (rows report.names) ++ [""] ++
          report.remarks.map (fun remark => "  ◆ " ++ remark.message) ++
          ["  " ++ report.output.display ++ " (" ++ toString report.bytes ++ " bytes)",
            "  ◇ Done in " ++ toString milliseconds ++ "ms", ""] ∧
      (noneLine ∈ rows report.names ↔ report.names = []) ∧
      (∀ line ∈ [upperEdge, blankLine, lowerEdge], line.length = 57) ∧
      (∀ index name, report.names[index]? = some name →
        (rows report.names)[index]? = some (entry (index + 1) name) ∧
          (entry (index + 1) name).length = 57 + (extent (index + 1) name - 38)) ∧
      (IsRectangular (boxed (rows report.names)) ↔
        ∀ index name, report.names[index]? = some name → extent (index + 1) name ≤ 38) := by
  refine ⟨?_, noneLine_mem_rows_iff, ?_, fun index name found => ⟨getElem?_rows found,
    length_entry index.add_one_pos name⟩, isRectangular_boxed_rows_iff⟩
  · rw [split_text inNames inRemarks inPath (notMem_toString milliseconds), map_showLine_lines]
    -- The text ends with a line feed, so an empty piece follows the last line.
    simp
  · simp [length_upperEdge, length_blankLine, length_lowerEdge]

/-- A name of fourteen characters, not all ASCII, fits into the box, and one of nineteen makes its
line longer by two. -/
theorem text_boxes_every_name_too_wide :
    let report : Report :=
      { output := ⟨[0x2F, 0xFF]⟩, names := [⟨"Größenänderung"⟩, ⟨"ConnectionDirectory"⟩],
        remarks := [.invalidName ⟨"Größenänderung"⟩], bytes := 1024 }
    (∀ name ∈ report.names, '\n' ∉ name.text.toList) ∧
      (∀ remark ∈ report.remarks, '\n' ∉ remark.message.toList) ∧
      0x0A ∉ report.output.bytes ∧
      (∃ line, (Lines.split (text false report "7"))[5]? = some line ∧ line.length = 59) ∧
      ¬ IsRectangular (boxed (rows report.names)) := by
  intro report
  have inNames : ∀ name ∈ report.names, '\n' ∉ name.text.toList := by decide
  have inRemarks : ∀ remark ∈ report.remarks, '\n' ∉ remark.message.toList := by decide
  have inPath : 0x0A ∉ report.output.bytes := by decide
  obtain ⟨lines, -, -, each, fits⟩ :=
    text_boxes_every_name report 7 inNames inRemarks inPath
  -- One digit with its space and two aliases of nineteen characters.
  have wide : extent (1 + 1) ⟨"ConnectionDirectory"⟩ = 40 := by
    rw [extent, show "ConnectionDirectory".length = 19 by decide]
    simp
  obtain ⟨found, length⟩ := each 1 ⟨"ConnectionDirectory"⟩ rfl
  refine ⟨inNames, inRemarks, inPath, ⟨_, ?_, length.trans (by rw [wide])⟩, fun rectangular => ?_⟩
  · rw [show "7" = toString 7 from rfl, lines]
    rfl
  · have room := fits.mp rectangular 1 _ rfl
    rw [wide] at room
    omega

end Switchboard.Summary
