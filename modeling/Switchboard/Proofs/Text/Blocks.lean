/-!
Lines in blocks. A block starts at a line that is not blank and not indented, and goes on to the
next such line.
-/

namespace Switchboard.Blocks

/-- Whether a line starts a block. -/
def opens (line : String) : Bool :=
  line.toList.head?.any (· ≠ ' ')

/-- Puts one more line in front of lines without a start and of the blocks below them. -/
def gather (line : String) (below : List String × List (List String)) :
    List String × List (List String) :=
  if opens line then ([], (line :: below.1) :: below.2) else (line :: below.1, below.2)

/-- The lines above the first start, and the blocks. -/
def cut (lines : List String) : List String × List (List String) :=
  lines.foldr gather ([], [])

/-- Whether lines start a block and do not start another one. -/
def IsBlock : List String → Prop
  | [] => False
  | head :: rest => opens head = true ∧ ∀ line ∈ rest, opens line = false

/-- Lines that start no block all wait for the start above them. -/
private theorem foldr_gather_tail {lines : List String}
    (closed : ∀ line ∈ lines, opens line = false) (below : List String × List (List String)) :
    lines.foldr gather below = (lines ++ below.1, below.2) := by
  -- One line after another is put in front of those that wait.
  induction lines with
  | nil => rfl
  | cons line rest ih =>
    have first : opens line = false := closed line List.mem_cons_self
    rw [List.foldr_cons, ih fun other member => closed other (List.mem_cons_of_mem _ member)]
    simp [gather, first]

/-- Blocks one after another are cut into the same blocks. -/
theorem cut_flatten {blocks : List (List String)} (each : ∀ lines ∈ blocks, IsBlock lines) :
    cut blocks.flatten = ([], blocks) := by
  -- Below a block nothing waits for a start, so it takes up just its own lines.
  induction blocks with
  | nil => rfl
  | cons lines rest ih =>
    have later := ih fun other member => each other (List.mem_cons_of_mem _ member)
    cases lines with
    -- No lines at all are no block.
    | nil => exact (each [] List.mem_cons_self).elim
    | cons head tail =>
      obtain ⟨starts, closed⟩ := each _ List.mem_cons_self
      unfold cut at later ⊢
      rw [List.flatten_cons, List.foldr_append, later, List.foldr_cons, foldr_gather_tail closed]
      simp [gather, starts]

end Switchboard.Blocks
