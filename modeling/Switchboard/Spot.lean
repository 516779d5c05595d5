/-! Search by halving in a list that stands in order, for a place that holds or would take. -/

namespace Switchboard

/-- The outcome of a search for a place in an ordered list. -/
inductive Spot where
  /-- An element that is looked for stands at the index. -/
  | taken (index : Nat)
  /-- There is none, and one would have to go in at the index. -/
  | free (index : Nat)
deriving DecidableEq, Repr

namespace Spot

variable {α : Type}

/-- Whether the element at an index, compared with what is looked for, does not come after it. -/
def reaches (probe : α → Ordering) (items : List α) (index : Nat) : Bool :=
  -- No element stands at an index past the end.
  match items[index]? with
  | some item => probe item != .gt
  | none => false

/-- The last index of a window to which the search gets by halving it. -/
def narrow (probe : α → Ordering) (items : List α) (start size : Nat) : Nat :=
  -- A hit does not end the halving, which goes on until the window holds one element.
  if 1 < size then
    let half := size / 2
    narrow probe items (if reaches probe items (start + half) then start + half else start)
      (size - half)
  else start
termination_by size

/-- Looks for an element in a list that rises with the outcomes of a comparison. -/
def search (probe : α → Ordering) (items : List α) : Spot :=
  -- Only the element where the halving ends is still to be compared.
  let index := narrow probe items 0 items.length
  match items[index]?.map probe with
  | some .eq => taken index
  | some .lt => free (index + 1)
  | some .gt | none => free index

end Spot

end Switchboard
