import Switchboard.Proofs.Text.Lines

/-!
Indenting a text changes nothing but its line ends and the spaces in front of its lines. Main
statement: moved left again, an indented text is the one it was made from, with plain line feeds and
without a line feed at the end.
-/

namespace Switchboard.Lines

/-! ### Line ends -/

/-- A text without the returns that stand in front of a line feed. -/
def plainFeeds : List Char → List Char
  -- One pass from the front, so of doubled returns the first one stays.
  | '\r' :: '\n' :: rest => '\n' :: plainFeeds rest
  | head :: rest => head :: plainFeeds rest
  | [] => []

/-- A text without the line feed at its end, of which no more than one goes. -/
def dropFeed (text : List Char) : List Char :=
  -- A text that ends in several keeps all but the last.
  if text.getLast? = some '\n' then text.dropLast else text

/-- Only an empty text has no character left. -/
@[simp] theorem plainFeeds_eq_nil_iff {text : List Char} : plainFeeds text = [] ↔ text = [] := by
  -- Whatever goes, the line feed behind it stays.
  fun_cases plainFeeds text <;> simp

/-- A character stays unless it is a return in front of a line feed. -/
theorem plainFeeds_cons {head : Char} {rest : List Char}
    (stays : ¬ ['\r', '\n'] <+: head :: rest) :
    plainFeeds (head :: rest) = head :: plainFeeds rest := by
  -- The first rule would need both characters in front.
  rw [plainFeeds]
  rintro after rfl rfl
  exact stays ⟨after, rfl⟩

/-- A text where no return stands in front of a line feed stays as it is. -/
theorem plainFeeds_of_not_infix {text : List Char} (plain : ¬ ['\r', '\n'] <:+: text) :
    plainFeeds text = text := by
  -- Where the whole text has no such pair, neither has any end of it.
  induction text with
  | nil => rfl
  | cons head rest ih =>
    obtain ⟨here, later⟩ := not_or.mp (mt List.infix_cons_iff.mpr plain)
    rw [plainFeeds_cons here, ih later]

/-- Up to a line feed, only the return in front of it goes. -/
theorem plainFeeds_append {line : List Char} (absent : '\n' ∉ line) (rest : List Char) :
    plainFeeds (line ++ '\n' :: rest) = dropReturn line ++ '\n' :: plainFeeds rest := by
  -- Only the last character of the line has the line feed next to it.
  induction line with
  | nil => simp [plainFeeds, dropReturn]
  | cons head line ih =>
    obtain ⟨-, later⟩ := List.ne_and_not_mem_of_not_mem_cons absent
    cases line with
    | nil =>
      -- The line feed follows at once, and a return in front of it is the only one that goes.
      by_cases closes : head = '\r' <;> simp [plainFeeds, dropReturn, closes]
    | cons next more =>
      -- What follows is no line feed, so the first character stays.
      have inner : '\n' ≠ next := List.ne_of_not_mem_cons later
      rw [List.cons_append, plainFeeds_cons (by simp [List.cons_prefix_cons, inner]), ih later]
      unfold dropReturn
      rw [List.getLast?_cons_cons]
      split <;> rfl

/-- A line feed at the end goes with what stands in front of it kept. -/
theorem dropFeed_append {rest : List Char} (filled : rest ≠ []) (front : List Char) :
    dropFeed (front ++ rest) = front ++ dropFeed rest := by
  -- Whether the last character is a line feed is seen from what stands behind alone.
  unfold dropFeed
  rw [List.getLast?_append, List.dropLast_append_of_ne_nil filled,
    List.getLast?_eq_some_getLast filled, Option.some_or]
  split <;> rfl

/-- Only a blank text has no lines. -/
theorem ofPieces_eq_nil_iff {line : List Char} {rest : List (List Char)} :
    ofPieces (line :: rest) = [] ↔ ['\n'].intercalate (line :: rest) = [] := by
  -- A last piece is a line unless it is blank, and what others follow makes more than one line.
  cases rest <;> simp [ofPieces]

/-- The lines of a text, joined again, are the text with plain line feeds and without a line feed at
the end. -/
theorem intercalate_ofPieces {cut : List (List Char)} (absent : ∀ piece ∈ cut, '\n' ∉ piece) :
    ['\n'].intercalate (ofPieces cut) = dropFeed (plainFeeds (['\n'].intercalate cut)) := by
  -- The induction follows the pieces, each closed by a line feed but the last one.
  induction cut with
  | nil => rfl
  | cons line rest ih =>
    have inLine := absent line List.mem_cons_self
    cases rest with
    | nil =>
      -- The last piece has no line feed behind it, so nothing in it changes.
      have plain : ¬ ['\r', '\n'] <:+: line := fun within => inLine (within.subset (by simp))
      have unclosed : line.getLast? ≠ some '\n' := fun last => inLine (List.mem_of_getLast? last)
      rw [List.intercalate_singleton, plainFeeds_of_not_infix plain, dropFeed, if_neg unclosed,
        ofPieces]
      split
      · rename_i blank
        rw [blank]
        rfl
      · rw [List.intercalate_singleton]
    | cons next more =>
      -- Up to the line feed behind it the line only loses its return.
      have later := ih fun piece member => absent piece (List.mem_cons_of_mem _ member)
      rw [List.intercalate_cons_cons, List.append_assoc, List.singleton_append,
        plainFeeds_append inLine, ofPieces]
      by_cases ended : ofPieces (next :: more) = []
      · -- The line feed behind the line is the last character.
        rw [ended, ofPieces_eq_nil_iff.mp ended, List.intercalate_singleton]
        simp [plainFeeds, dropFeed]
      · -- Something is left behind the line feed, so that one stays.
        have filled : plainFeeds (['\n'].intercalate (next :: more)) ≠ [] :=
          fun blank => ended (ofPieces_eq_nil_iff.mpr (plainFeeds_eq_nil_iff.mp blank))
        rw [List.intercalate_cons_of_ne_nil ended, later,
          List.append_cons (dropReturn line) '\n' (plainFeeds _), dropFeed_append filled]

/-! ### Indentation -/

/-- Reading pieces without a line feed brings none in. -/
theorem notMem_of_mem_ofPieces {cut : List (List Char)} (absent : ∀ piece ∈ cut, '\n' ∉ piece)
    {line : List Char} (member : line ∈ ofPieces cut) : '\n' ∉ line := by
  -- The cases are those of reading: no piece, a blank last one, another last one, and one before
  -- others.
  fun_induction ofPieces cut with
  | case1 => cases member
  | case2 => cases member
  | case3 last filled => exact absent line member
  | case4 first next rest ih =>
    rcases List.mem_cons.mp member with rfl | behind
    · -- What is left of the piece without its return is part of it.
      have part : dropReturn first ⊆ first := by
        unfold dropReturn
        split
        · exact List.dropLast_subset first
        · exact List.Subset.refl first
      exact fun within => absent first List.mem_cons_self (part within)
    · exact ih (fun piece inside => absent piece (List.mem_cons_of_mem _ inside)) behind

/-- The lines of a text have no line feed. -/
theorem notMem_of_mem_read {text line : String} (member : line ∈ read text) :
    '\n' ∉ line.toList := by
  -- A line is one of the pieces without its return at most.
  obtain ⟨piece, inside, rfl⟩ := List.mem_map.mp member
  rw [String.toList_ofList]
  exact notMem_of_mem_ofPieces (fun _ => separator_notMem_of_mem_pieces) inside

/-- The lines of a text moved left by some characters. -/
def outdent (width : Nat) (text : String) : String :=
  -- A blank line has no characters to lose.
  "\n".intercalate ((split text).map (unpad width))

/-- The lines of an indented text are those of the text, moved right, or a blank one. -/
theorem split_indent (width : Nat) (text : String) :
    split (indent width text) =
      if read text = [] then [""] else (read text).map (pad width) := by
  -- What is joined has no line feeds but those it is joined by.
  rw [indent, split_join]
  · simp only [List.map_eq_nil_iff]
  · intro line member
    obtain ⟨inner, inside, rfl⟩ := List.mem_map.mp member
    exact notMem_pad width (notMem_of_mem_read inside)

/-- What is moved right and left again has its lines joined by plain line feeds. -/
theorem outdent_indent (width : Nat) (text : String) :
    (outdent width (indent width text)).toList = dropFeed (plainFeeds text.toList) := by
  -- Moving left undoes moving right line by line, so what is left is reading and joining.
  have lines : (outdent width (indent width text)) = "\n".intercalate (read text) := by
    rw [outdent, split_indent]
    split
    · rename_i empty
      rw [empty]
      simp [unpad]
    · simp [Function.comp_def]
  rw [lines, String.toList_intercalate, read, List.map_map,
    show "\n".toList = ['\n'] from rfl]
  simp only [Function.comp_def, String.toList_ofList, List.map_id']
  rw [intercalate_ofPieces fun _ => separator_notMem_of_mem_pieces, intercalate_pieces]

/-- Every line of an indented text that is not blank starts with the spaces it was moved by, and
without them the lines are the text with plain line feeds and without a line feed at the end. A text
that ends in no line feed and has no return in front of one comes back unchanged. -/
theorem indent_only_moves_lines (width : Nat) (text : String) :
    (∀ line ∈ split (indent width text), line ≠ "" →
      List.replicate width ' ' <+: line.toList) ∧
    (outdent width (indent width text)).toList = dropFeed (plainFeeds text.toList) ∧
    (¬ ['\r', '\n'] <:+: text.toList → text.toList.getLast? ≠ some '\n' →
      outdent width (indent width text) = text) := by
  refine ⟨fun line member filled => ?_, outdent_indent width text, fun plain unclosed => ?_⟩
  · -- A line that is not blank is some line of the text with the spaces in front.
    rw [split_indent] at member
    split at member
    · exact absurd (List.mem_singleton.mp member) filled
    · obtain ⟨inner, -, rfl⟩ := List.mem_map.mp member
      unfold pad at filled ⊢
      split
      · rename_i blank
        simp [blank] at filled
      · simp
  · -- Nothing goes from a text with plain line feeds and no line feed at the end.
    rw [← String.toList_inj, outdent_indent, plainFeeds_of_not_infix plain, dropFeed,
      if_neg unclosed]

/-- A return inside a line, a blank line and the spaces in front of a line come back. -/
theorem indent_only_moves_lines_with_return :
    let text := "  a\rb\n\nc"
    ¬ ['\r', '\n'] <:+: text.toList ∧ text.toList.getLast? ≠ some '\n' ∧
      "      a\rb" ∈ split (indent 4 text) ∧ List.replicate 4 ' ' <+: "      a\rb".toList ∧
      outdent 4 (indent 4 text) = text := by
  intro text
  have moved : "      a\rb" ∈ split (indent 4 text) := by decide +kernel
  have plain : ¬ ['\r', '\n'] <:+: text.toList := by decide +kernel
  have unclosed : text.toList.getLast? ≠ some '\n' := by decide
  obtain ⟨spaced, -, back⟩ := indent_only_moves_lines 4 text
  exact ⟨plain, unclosed, moved, spaced _ moved (by decide), back plain unclosed⟩

-- Of doubled returns one stays, and of two line feeds at the end one goes.
example : outdent 2 (indent 2 "a\r\r\n\r\n") = "a\r\n" := by decide

end Switchboard.Lines
