import Mathlib.Data.List.DropRight
import Switchboard.Files.Write
import Switchboard.Proofs.Text.Lines

/-!
The paths above a path: they start where the path starts, their names are the first names of the
path, and they get shorter until there is none.
-/

namespace Switchboard.Path

variable {path above : Path}

/-! ### The path above -/

/-- Trimming takes off a run at the end that is no step. -/
theorem trimEnd_eq (spelling : List Bytes) :
    trimEnd spelling = spelling.rdropWhile fun piece => !isStep piece :=
  rfl

/-- Without a last step there is no step at all. -/
theorem withoutLastStep_eq_none {spelling : List Bytes}
    (stepless : withoutLastStep spelling = none) : ∀ piece ∈ spelling, isStep piece = false := by
  have trimmed : trimEnd spelling = [] := by
    -- Only where trimming leaves nothing is there no last piece to take off.
    unfold withoutLastStep at stepless
    split at stepless
    · rename_i empty
      exact List.reverse_eq_nil_iff.mp empty
    · cases stepless
  simpa [trimEnd_eq, List.rdropWhile_eq_nil_iff] using trimmed

/-- What stays without the last step is the start of a list that has another step behind it. -/
theorem withoutLastStep_eq_some {spelling before : List Bytes}
    (cut : withoutLastStep spelling = some before) :
    ∃ rest, spelling = before ++ rest ∧ ∃ piece ∈ rest, isStep piece = true := by
  unfold withoutLastStep at cut
  split at cut
  · -- D0
    cases cut
  · rename_i last earlier ends
    cases cut
    have trimmed : trimEnd spelling = earlier.reverse ++ [last] := by
      rw [← List.reverse_cons, ← ends, List.reverse_reverse]
    -- The last piece that is left after trimming is a step.
    have isLast : isStep last = true := by
      have stopped := List.rdropWhile_last_not (fun piece => !isStep piece) spelling
        (by rw [← trimEnd_eq, trimmed]; simp)
      simpa [← trimEnd_eq, trimmed] using stopped
    obtain ⟨junk, spelled⟩ : trimEnd spelling <+: spelling := List.rdropWhile_prefix _ _
    obtain ⟨gap, inner⟩ : trimEnd earlier.reverse <+: earlier.reverse := List.rdropWhile_prefix _ _
    refine ⟨gap ++ last :: junk, ?_, last, by simp, isLast⟩
    calc spelling
        = earlier.reverse ++ [last] ++ junk := by rw [← trimmed, spelled]
      _ = trimEnd earlier.reverse ++ gap ++ [last] ++ junk := by rw [inner]
      _ = trimEnd earlier.reverse ++ (gap ++ last :: junk) := by simp

/-- The ways a path above another one is spelled. -/
inductive IsAbove (path : Path) : Path → Prop where
  /-- A relative path of one step lies where relative paths start. -/
  | start {first : Bytes} {rest : List Bytes} (spelling : path.spelled = first :: rest)
      (filled : first ≠ []) : IsAbove path ⟨[]⟩
  /-- An absolute path of one step lies in the root. -/
  | root {rest : List Bytes} (spelling : path.spelled = [] :: rest)
      (step : ∃ piece ∈ rest, isStep piece = true) : IsAbove path ⟨[slash]⟩
  /-- Any other path is cut before its last step. -/
  | inner {first : Bytes} {before rest : List Bytes}
      (spelling : path.spelled = first :: (before ++ rest))
      (step : ∃ piece ∈ rest, isStep piece = true) (filled : first ≠ [] ∨ before ≠ []) :
      IsAbove path (ofPieces (first :: before))

/-- The path above is spelled in one of these ways. -/
theorem isAbove_of_parent? (up : path.parent? = some above) : path.IsAbove above := by
  unfold parent? at up
  -- The cases are those of how the path above is cut off.
  split at up
  · cases up
  · rename_i first rest spelling
    split at up
    · rename_i before cut
      obtain ⟨junk, rfl, step⟩ := withoutLastStep_eq_some cut
      split at up
      · rename_i top
        obtain ⟨rfl, rfl⟩ : first = [] ∧ before = [] := by simpa using top
        cases up
        exact .root spelling step
      · -- Some piece in front of the cut is left, the first one at least.
        rename_i inner
        cases up
        refine .inner spelling step ?_
        simpa [Decidable.or_iff_not_imp_left] using inner
    · split at up
      · cases up
      · -- Nothing is cut off, and the path above is where relative paths start.
        rename_i filled
        cases up
        exact .start spelling filled

/-- A path with none above it has no names but dots. -/
theorem eq_dot_of_parent?_eq_none (highest : path.parent? = none) {name : Bytes}
    (member : name ∈ path.names) : name = dot := by
  obtain ⟨first, rest, spelling⟩ := List.exists_cons_of_ne_nil (pieces_ne_nil slash path.bytes)
  simp only [parent?, spelled, spelling] at highest
  split at highest
  · cases highest
  · rename_i uncut
    split at highest
    · -- The empty first piece is no name, and what comes behind it is no step.
      rename_i empty
      simp only [names, spelled, spelling, empty, List.mem_filter, List.mem_cons] at member
      obtain ⟨rfl | inside, filled⟩ := member
      · simp at filled
      · have still := withoutLastStep_eq_none uncut name inside
        simpa [isStep, (by simpa using filled : name ≠ [])] using still
    · cases highest

/-! ### Bytes and names -/

/-- A path is spelled as its pieces with slashes between them. -/
private theorem bytes_eq (path : Path) : path.bytes = [slash].intercalate path.spelled :=
  (intercalate_pieces slash path.bytes).symm

/-- No piece of a path has a slash in it. -/
private theorem slash_notMem {piece : Bytes} (member : piece ∈ path.spelled) : slash ∉ piece :=
  separator_notMem_of_mem_pieces member

/-- Pieces without slashes are the spelling of the path that they make up. -/
private theorem spelled_ofPieces {spelling : List Bytes} (filled : spelling ≠ [])
    (absent : ∀ piece ∈ spelling, slash ∉ piece) : (ofPieces spelling).spelled = spelling :=
  pieces_intercalate filled absent

/-- Nothing but one empty piece makes up the empty path. -/
private theorem eq_singleton_of_bytes_eq_nil {spelling : List Bytes} (filled : spelling ≠ [])
    (absent : ∀ piece ∈ spelling, slash ∉ piece) (empty : (ofPieces spelling).bytes = []) :
    spelling = [[]] := by
  -- Cutting the spelling gives the pieces back, and the empty spelling has just one, which is
  -- empty.
  rw [← spelled_ofPieces filled absent, spelled, empty]
  rfl

/-- A list of pieces with more behind it is spelled as itself, a slash and more. -/
private theorem intercalate_append {first second : List Bytes} (filled : first ≠ [])
    (filled' : second ≠ []) :
    [slash].intercalate (first ++ second) =
      [slash].intercalate first ++ slash :: [slash].intercalate second := by
  induction first with
  | nil => exact absurd rfl filled
  | cons piece first ih =>
    -- The induction moves one piece after another to the front.
    cases first with
    | nil =>
      obtain ⟨next, more, rfl⟩ := List.exists_cons_of_ne_nil filled'
      simp
    | cons next more =>
      have later := ih (by simp)
      simp only [List.cons_append, List.intercalate_cons_cons] at later ⊢
      rw [later]
      simp

/-- A path is spelled as the path above it and something more. -/
theorem exists_bytes_of_parent? (up : path.parent? = some above) :
    ∃ more, more ≠ [] ∧ path.bytes = above.bytes ++ more := by
  cases isAbove_of_parent? up with
  | start spelling filled =>
    -- All bytes of the path are more, and there are some because its first piece is not empty.
    refine ⟨path.bytes, ?_, rfl⟩
    intro empty
    simp only [spelled, empty, pieces, List.cons.injEq] at spelling
    exact filled spelling.1.symm
  | @root rest spelling step =>
    -- The root is a slash, and the pieces behind it have a step among them.
    obtain ⟨piece, member, isOne⟩ := step
    have filled : rest ≠ [] := List.ne_nil_of_mem member
    refine ⟨(ofPieces rest).bytes, ?_, ?_⟩
    · -- The step among the pieces is not empty.
      intro empty
      have alone := eq_singleton_of_bytes_eq_nil filled
        (fun other inside => slash_notMem (spelling ▸ List.mem_cons_of_mem _ inside)) empty
      rw [alone, List.mem_singleton] at member
      simp [isStep, member] at isOne
    · rw [bytes_eq, spelling]
      exact intercalate_append (List.cons_ne_nil [] []) filled
  | @inner first before rest spelling step filled =>
    -- What is cut off starts with the slash in front of the last step.
    obtain ⟨piece, member, -⟩ := step
    refine ⟨slash :: [slash].intercalate rest, by simp, ?_⟩
    rw [bytes_eq, spelling, ← List.cons_append]
    exact intercalate_append (by simp) (List.ne_nil_of_mem member)

/-- The pieces of a path that is cut before its last step are those before the cut. -/
private theorem spelled_inner {first : Bytes} {before rest : List Bytes}
    (spelling : path.spelled = first :: (before ++ rest)) :
    (ofPieces (first :: before)).spelled = first :: before := by
  refine spelled_ofPieces (by simp) fun piece member => ?_
  have spelled : piece ∈ path.spelled := by
    -- The pieces before the cut are pieces of the path.
    rw [spelling, ← List.cons_append]
    exact List.mem_append_left _ member
  exact slash_notMem spelled

/-- The names of a path are those of the path above it and at least one more. -/
theorem exists_names_of_parent? (up : path.parent? = some above) :
    ∃ more, more ≠ [] ∧ path.names = above.names ++ more := by
  have named {rest : List Bytes} (step : ∃ piece ∈ rest, isStep piece = true) :
      -- A step is not empty, so it is a name.
      rest.filter (fun piece => piece != []) ≠ [] := by
    obtain ⟨piece, member, isOne⟩ := step
    have filled : piece ≠ [] := by
      rintro rfl
      simp [isStep] at isOne
    exact List.ne_nil_of_mem (List.mem_filter.mpr ⟨member, by simpa using filled⟩)
  cases isAbove_of_parent? up with
  | @start first rest spelling filled =>
    -- The path above has no names.
    refine ⟨path.names, ?_, rfl⟩
    simp [names, spelling, filled]
  | root spelling step =>
    -- The root has no names either, and the step behind it is one.
    refine ⟨_, named step, ?_⟩
    rw [names, spelling]
    rfl
  | inner spelling step filled =>
    -- The names are those of the pieces before and behind the cut.
    refine ⟨_, named step, ?_⟩
    rw [names, names, spelling, spelled_inner spelling, ← List.cons_append, List.filter_append]

/-- A path starts at the root exactly if the path above it does. -/
theorem isAbsolute_of_parent? (up : path.parent? = some above) :
    above.isAbsolute = path.isAbsolute := by
  obtain ⟨more, -, bytes⟩ := exists_bytes_of_parent? up
  cases isAbove_of_parent? up with
  | @start first rest spelling filled =>
    -- With a slash in front the first piece would be empty.
    cases chars : path.bytes with
    | nil => simp [isAbsolute, chars]
    | cons head tail =>
      have other : head ≠ slash := by
        rintro rfl
        simp only [spelled, chars, pieces, if_true, List.cons.injEq] at spelling
        exact filled spelling.1.symm
      simp [isAbsolute, chars, other]
  | root spelling step => simp [isAbsolute, bytes]
  | @inner first before rest spelling step either =>
    -- What is left of the path in front of the cut is not empty, and it starts as the path does.
    have filled : (ofPieces (first :: before)).bytes ≠ [] := by
      intro empty
      have cut := spelled_inner spelling
      simp only [spelled, empty, pieces, List.cons.injEq] at cut
      exact either.elim (· cut.1.symm) (· cut.2.symm)
    simp [isAbsolute, bytes, List.head?_append_of_ne_nil _ filled]

/-- Both paths start from the same place. -/
theorem start_of_parent? (up : path.parent? = some above) (here : Place) :
    above.start here = path.start here := by
  rw [start, start, isAbsolute_of_parent? up]

/-- A path is accepted if it holds no zero byte, is not empty and not too long. -/
theorem refusal?_eq_none_iff : path.refusal? = none ↔
    0 ∉ path.bytes ∧ path.bytes ≠ [] ∧ path.bytes.length ≤ maxLength := by
  unfold refusal?
  by_cases zero : 0 ∈ path.bytes
  · -- Each test is made only if those before it do not apply.
    simp [zero]
  · by_cases empty : path.bytes = []
    · simp [empty]
    · simp [zero, empty]

/-- Where a path is accepted, every path above it is, except for the empty one. -/
theorem refusal?_of_parent? (up : path.parent? = some above) (filled : above.bytes ≠ [])
    (accepted : path.refusal? = none) : above.refusal? = none := by
  obtain ⟨more, -, bytes⟩ := exists_bytes_of_parent? up
  -- Whatever is wrong with the path above is wrong with the path.
  obtain ⟨noZero, -, short⟩ := refusal?_eq_none_iff.mp accepted
  rw [bytes] at noZero short
  refine refusal?_eq_none_iff.mpr ⟨fun zero => noZero (List.mem_append_left _ zero), filled, ?_⟩
  rw [List.length_append] at short
  omega

/-! ### All paths above -/

/-- The path above is shorter. -/
theorem length_of_parent? (up : path.parent? = some above) :
    above.bytes.length < path.bytes.length := by
  obtain ⟨more, filled, bytes⟩ := exists_bytes_of_parent? up
  -- What is added is at least one byte.
  have longer := List.length_pos_of_ne_nil filled
  rw [bytes, List.length_append]
  omega

/-- Any limit that is not below the number of bytes gives all paths above. -/
theorem lineageUpTo_eq {limit limit' : Nat} (enough : path.bytes.length ≤ limit)
    (enough' : path.bytes.length ≤ limit') : lineageUpTo limit path = lineageUpTo limit' path := by
  induction limit generalizing path limit' with
  | zero =>
    -- Only the empty path has no bytes, and it has nothing above it.
    have empty : path.bytes = [] := by simpa using enough
    cases limit' <;> simp [lineageUpTo, empty]
  | succ limit ih =>
    cases limit' with
    | zero =>
      have empty : path.bytes = [] := by simpa using enough'
      simp [lineageUpTo, empty]
    | succ limit' =>
      unfold lineageUpTo
      split
      · -- The path is empty, so nothing is above it.
        rfl
      · congr 1
        -- There is a path above or there is none.
        split
        · rfl
        · rename_i above up
          have shorter := length_of_parent? up
          exact ih (by omega) (by omega)

/-- All paths above a path, the nearest first. -/
def higher (path : Path) : List Path :=
  (path.parent?.map lineage).getD []

/-- The paths up from a path are the path itself and those above it. -/
theorem lineage_eq (filled : path.bytes ≠ []) : path.lineage = path :: path.higher := by
  have counted : path.bytes.length = path.bytes.length - 1 + 1 := by
    have := List.length_pos_of_ne_nil filled
    omega
  -- One path is taken off the limit, and what is left is enough for the shorter path above.
  rw [lineage, counted, lineageUpTo, if_neg filled]
  congr 1
  unfold higher
  cases up : path.parent? with
  | none => rfl
  | some above =>
    have shorter := length_of_parent? up
    exact lineageUpTo_eq (by omega) le_rfl

/-- The nearest of the paths up from a path is the path itself. -/
@[simp] theorem headD_lineage (path : Path) : path.lineage.headD ⟨[]⟩ = path := by
  by_cases filled : path.bytes = []
  · -- The empty path stands for itself where nothing is above it.
    cases path
    cases filled
    rfl
  · rw [lineage_eq filled]
    rfl

end Switchboard.Path
