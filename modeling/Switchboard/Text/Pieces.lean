/-! Cutting a list at a separator, and the law that joining the pieces gives the list back. -/

namespace Switchboard

variable {α : Type} [DecidableEq α]

/-- Puts one more element in front of the first piece. -/
def extendFirst (head : α) : List (List α) → List (List α)
  -- A cut always has a first piece, so the empty case only closes the definition.
  | [] => [[head]]
  | piece :: rest => (head :: piece) :: rest

/-- The pieces between the separators, one more than there are separators. -/
def pieces (separator : α) : List α → List (List α)
  -- A separator closes the piece before it and is itself dropped.
  | [] => [[]]
  | head :: rest =>
    if head = separator then [] :: pieces separator rest
    else extendFirst head (pieces separator rest)

/-- A cut has at least one piece. -/
theorem pieces_ne_nil (separator : α) (list : List α) : pieces separator list ≠ [] := by
  -- Every branch of the cut puts a piece in front.
  cases list with
  | nil => simp [pieces]
  | cons head rest =>
    unfold pieces
    split
    · simp
    · cases pieces separator rest <;> simp [extendFirst]

/-- Joining the pieces with the separator gives the list back. -/
theorem intercalate_pieces (separator : α) (list : List α) :
    [separator].intercalate (pieces separator list) = list := by
  -- Each step either reopens a piece or lengthens the first one.
  induction list with
  | nil => simp [pieces]
  | cons head rest ih =>
    unfold pieces
    cases cut : pieces separator rest with
    | nil => exact absurd cut (pieces_ne_nil separator rest)
    | cons first others =>
      rw [cut] at ih
      split
      · rename_i same
        subst head
        simp [ih]
      · cases others with
        | nil => simpa [extendFirst] using ih
        | cons second more => simpa [extendFirst] using ih

/-- No piece holds the separator. -/
theorem separator_notMem_of_mem_pieces {separator : α} {list piece : List α}
    (member : piece ∈ pieces separator list) : separator ∉ piece := by
  -- An element enters a piece only after it was compared with the separator.
  induction list generalizing piece with
  | nil =>
    simp only [pieces, List.mem_singleton] at member
    simp [member]
  | cons head rest ih =>
    unfold pieces at member
    cases cut : pieces separator rest with
    | nil => exact absurd cut (pieces_ne_nil separator rest)
    | cons first others =>
      rw [cut] at member ih
      split at member
      · rcases List.mem_cons.mp member with same | member
        · simp [same]
        · exact ih member
      · rename_i different
        simp only [extendFirst, List.mem_cons] at member
        rcases member with same | member
        · subst same
          simp only [List.mem_cons, not_or]
          exact ⟨fun same => different same.symm, ih (by simp)⟩
        · exact ih (by simp [member])

end Switchboard
