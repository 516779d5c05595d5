import Mathlib.Data.List.Basic

/-!
Code read by its indentation: each line at the margin heads a section, and the indented lines below
it are the section's body, moved to the margin.
-/

namespace Switchboard

/-- A line at the margin with the lines indented below it, which are kept without that indent. -/
structure Section where
  head : List Char
  body : List (List Char) := []
deriving DecidableEq, Repr

/-- The rest of a line that is indented by four spaces. -/
def dedent? : List Char → Option (List Char)
  | ' ' :: ' ' :: ' ' :: ' ' :: rest => some rest
  | _ => none

/-- A line indented by four more spaces. -/
def shift (line : List Char) : List Char :=
  ' ' :: ' ' :: ' ' :: ' ' :: line

namespace Section

/-- The lines of a section. -/
def lines (part : Section) : List (List Char) :=
  part.head :: part.body.map shift

/-- Puts one more line in front of the indented lines that wait for a head and the sections. -/
def gather (line : List Char) (below : List (List Char) × List Section) :
    List (List Char) × List Section :=
  -- A line at the margin takes all that wait as its body.
  match dedent? line with
  | some rest => (rest :: below.1, below.2)
  | none => ([], ⟨line, below.1⟩ :: below.2)

/-- The sections of some lines, without the indented lines above the first head. -/
def outline (lines : List (List Char)) : List Section :=
  (lines.foldr gather ([], [])).2

/-- Some lines start with a head, or there are none. -/
def AtMargin (lines : List (List Char)) : Prop :=
  ∀ line ∈ lines.head?, dedent? line = none

/-- Indented lines all wait for a head above them. -/
private theorem foldr_gather_shift (body : List (List Char))
    (below : List (List Char) × List Section) :
    (body.map shift).foldr gather below = (body ++ below.1, below.2) := by
  -- Each line loses its indentation and waits in front of the others.
  induction body with
  | nil => rfl
  | cons line body ih =>
    rw [List.map_cons, List.foldr_cons, ih]
    rfl

/-- The sections below some lines stay as they are when those lines are gathered. -/
theorem foldr_gather_sections (lines : List (List Char)) (sections : List Section) :
    (lines.foldr gather ([], sections)).1 = (lines.foldr gather ([], [])).1 ∧
      (lines.foldr gather ([], sections)).2 = outline lines ++ sections := by
  -- Both runs meet the same heads, so they differ only in the sections at the end.
  induction lines with
  | nil => exact ⟨rfl, rfl⟩
  | cons line rest ih =>
    obtain ⟨waiting, above⟩ := ih
    simp only [outline, List.foldr_cons, gather] at above ⊢
    cases dedent? line with
    -- An indented line joins those that wait, in both runs.
    | some rest => exact ⟨by rw [waiting], above⟩
    -- A head takes those that wait, which are the same in both runs.
    | none => exact ⟨rfl, by rw [waiting, above, List.cons_append]⟩

/-- Above a head, or above nothing, no line waits. -/
private theorem AtMargin.waiting {lines : List (List Char)} (margin : AtMargin lines) :
    (lines.foldr gather ([], [])).1 = [] := by
  cases lines with
  | nil => rfl
  -- The head has taken everything below it.
  | cons line rest =>
    have head : dedent? line = none := margin line rfl
    simp [gather, head]

/-- Where a head starts the rest, lines are read apart from it. -/
theorem outline_append (front : List (List Char)) {rest : List (List Char)}
    (margin : AtMargin rest) : outline (front ++ rest) = outline front ++ outline rest := by
  -- The rest leaves nothing waiting, so it only adds its sections at the end.
  rw [outline, List.foldr_append]
  generalize gathered : rest.foldr gather ([], []) = below
  have waiting : below.1 = [] := gathered ▸ margin.waiting
  have sections : outline rest = below.2 := congrArg Prod.snd gathered
  obtain ⟨waits, found⟩ := below
  subst waiting
  rw [(foldr_gather_sections front found).2, sections]

/-- The lines of a section are read as that section. -/
theorem outline_lines {part : Section} (margin : dedent? part.head = none) :
    outline part.lines = [part] := by
  -- The head takes the lines of the body, which are all that wait.
  rw [outline, lines, List.foldr_cons, foldr_gather_shift]
  simp [gather, margin]

/-- The lines of a section start with its head. -/
theorem atMargin_lines {part : Section} (margin : dedent? part.head = none)
    (rest : List (List Char)) : AtMargin (part.lines ++ rest) := by
  -- The first line is the head itself.
  intro line first
  cases first
  exact margin

/-- The lines of some sections are read as those sections. -/
theorem outline_flatMap_lines {sections : List Section}
    (margin : ∀ part ∈ sections, dedent? part.head = none) :
    outline (sections.flatMap lines) = sections := by
  -- Each section is followed by the head of the next one, or by nothing.
  induction sections with
  | nil => rfl
  | cons part rest ih =>
    have later := ih fun other member => margin other (List.mem_cons_of_mem _ member)
    have start : AtMargin (rest.flatMap lines) := by
      cases rest with
      -- Behind the last section nothing follows.
      | nil => simp [AtMargin]
      | cons next more => exact atMargin_lines (margin next (by simp)) _
    rw [List.flatMap_cons, outline_append _ start, outline_lines (margin part (by simp)), later]
    rfl

/-- The heads of sections are lines at the margin. -/
theorem head_of_mem_outline {lines : List (List Char)} {part : Section}
    (member : part ∈ outline lines) : part.head ∈ lines ∧ dedent? part.head = none := by
  -- A section is made when its head is met, and is kept as it is from then on.
  induction lines with
  | nil => simp [outline] at member
  | cons line rest ih =>
    simp only [outline, List.foldr_cons, gather] at member
    cases inside : dedent? line with
    -- An indented line makes no section.
    | some inner =>
      rw [inside] at member
      obtain ⟨below, margin⟩ := ih member
      exact ⟨List.mem_cons_of_mem _ below, margin⟩
    | none =>
      rw [inside] at member
      -- A line at the margin makes the first section, and the others come from below.
      rcases List.mem_cons.mp member with first | later
      · exact ⟨by simp [first], by rw [first]; exact inside⟩
      · obtain ⟨below, margin⟩ := ih later
        exact ⟨List.mem_cons_of_mem _ below, margin⟩

end Section

end Switchboard
