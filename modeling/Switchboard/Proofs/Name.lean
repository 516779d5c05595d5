import Switchboard.Name
import Switchboard.Proofs.Sorting
import Switchboard.Proofs.Text.Utf8

/-! Names are totally ordered, by the bytes they are stored as. -/

namespace Switchboard

namespace Name

instance : Std.TransOrd Name where
  eq_swap := Std.OrientedOrd.eq_swap (α := String)
  isLE_trans := Std.TransOrd.isLE_trans (α := String)

instance : Std.LawfulEqOrd Name where
  compare_self := Std.ReflOrd.compare_self (α := String)
  eq_of_compare outcome := by
    rename_i left right
    cases left
    cases right
    -- A name is nothing but its text.
    congr
    exact Std.LawfulEqOrd.eq_of_compare outcome

/-- A name comes before another exactly when its bytes do. -/
theorem compare_eq_lt_iff {left right : Name} :
    compare left right = .lt ↔ Utf8.encode left.text < Utf8.encode right.text := by
  -- Texts compare as the bytes they are stored as.
  rw [Utf8.encode_lt_encode_iff]
  exact Utf8.compare_texts_eq_lt_iff

/-- A name does not come after another exactly when its bytes do not. -/
theorem isLE_compare_eq (left right : Name) :
    (compare left right).isLE = decide (Utf8.encode left.text ≤ Utf8.encode right.text) := by
  -- On both sides the order fails only if the right name comes first.
  have reversed : Utf8.encode left.text ≤ Utf8.encode right.text ↔ compare right left ≠ .lt := by
    rw [Ne, compare_eq_lt_iff]
    rfl
  rw [Bool.eq_iff_iff, decide_eq_true_iff, reversed, Std.OrientedOrd.eq_swap (a := left)]
  cases compare right left <;> simp

/-- A list in strict order of the names of its items has no repetition. -/
theorem nodup_of_rises {α : Type} {key : α → Name} {items : List α}
    (rising : items.Pairwise fun first second => compare (key first) (key second) = .lt) :
    items.Nodup :=
  -- No name comes strictly before itself.
  rising.imp fun order same => by simp [same, Std.ReflCmp.compare_self] at order

/-- Lists in strict order of the names of their items, with the same items, are the same. -/
theorem eq_of_mem_iff {α : Type} {key : α → Name} {left right : List α}
    (rising : left.Pairwise fun first second => compare (key first) (key second) = .lt)
    (rising' : right.Pairwise fun first second => compare (key first) (key second) = .lt)
    (members : ∀ item, item ∈ left ↔ item ∈ right) : left = right := by
  -- Two items cannot each come strictly before the other.
  refine List.Perm.eq_of_pairwise (fun first second _ _ order order' => ?_) rising rising'
    ((List.perm_ext_iff_of_nodup (nodup_of_rises rising) (nodup_of_rises rising')).mpr members)
  exact absurd order' (Std.OrientedCmp.not_lt_of_lt order)

/-- Sorted names stand in the one order they have, repetitions and all. -/
theorem eq_of_perm {names others : List Name}
    (sorted : names.Pairwise fun first second => (compare first second).isLE = true)
    (sorted' : others.Pairwise fun first second => (compare first second).isLE = true)
    (same : names.Perm others) : names = others := by
  -- Names that are level are equal, so which of them comes first does not show.
  refine same.eq_of_pairwise (fun first second _ _ order order' => ?_) sorted sorted'
  exact Std.LawfulEqCmp.eq_of_compare (Std.OrientedCmp.isLE_antisymm order order')

/-- Among sorted names a new one belongs behind those that come before it, which are as many as the
index where it goes. -/
theorem lower_and_higher {names : List Name} {name : Name}
    (sorted : names.Pairwise fun first second => (compare first second).isLE = true)
    (new : name ∉ names) :
    let index := names.countP fun other => compare other name = .lt
    (∀ other ∈ names.take index, compare other name = .lt) ∧
      ∀ other ∈ names.drop index, compare other name = .gt := by
  -- The induction follows the list, in which the lower names come first.
  induction names with
  | nil => simp
  | cons first rest ih =>
    obtain ⟨behind, sorted⟩ := List.pairwise_cons.mp sorted
    obtain ⟨different, absent⟩ := List.ne_and_not_mem_of_not_mem_cons new
    cases outcome : compare first name with
    | lt => simpa [outcome] using ih sorted absent
    | eq => exact absurd (Std.LawfulEqCmp.eq_of_compare outcome).symm different
    | gt =>
      -- Nothing behind a name that is too high comes before the new one.
      have higher : ∀ other ∈ first :: rest, compare other name = .gt := by
        intro other member
        rcases List.mem_cons.mp member with rfl | later
        · exact outcome
        · exact Std.OrientedCmp.gt_of_lt (Std.TransCmp.lt_of_lt_of_isLE
            (Std.OrientedCmp.lt_of_gt outcome) (behind other later))
      have uncounted : (first :: rest).countP (fun other => compare other name = .lt) = 0 :=
        List.countP_eq_zero.mpr fun other member => by simp [higher other member]
      simpa [uncounted] using higher

/-- Sorted with one more name, names are the same with the new one put where it belongs. -/
theorem eq_put_of_perm {names larger : List Name} {name : Name}
    (sorted : names.Pairwise fun first second => (compare first second).isLE = true)
    (sorted' : larger.Pairwise fun first second => (compare first second).isLE = true)
    (new : name ∉ names) (joined : larger.Perm (name :: names)) :
    let index := names.countP fun other => compare other name = .lt
    larger = names.take index ++ name :: names.drop index := by
  intro index
  obtain ⟨lower, higher⟩ := lower_and_higher sorted new
  have parts : names.take index ++ names.drop index = names := List.take_append_drop index names
  -- The new name stands between the two parts, and each part stays in order.
  have around : (names.take index ++ name :: names.drop index).Pairwise
      fun first second => (compare first second).isLE = true := by
    refine pairwise_around Std.TransCmp.isLE_trans (sorted.sublist (List.take_sublist index names))
      (sorted.sublist (List.drop_sublist index names)) (fun other member => ?_)
      fun other member => ?_
    · rw [lower other member]
      rfl
    · rw [Std.OrientedCmp.lt_of_gt (higher other member)]
      rfl
  have middle : (names.take index ++ name :: names.drop index).Perm
      (name :: (names.take index ++ names.drop index)) := List.perm_middle
  -- The larger list has the same names, and in order there is only one such list.
  rw [parts] at middle
  exact eq_of_perm sorted' around (joined.trans middle.symm)

/-- Sorting names without repetition puts them in strict order. -/
theorem rises_mergeSort {names : List Name} (distinct : names.Nodup) :
    (names.mergeSort fun first second => (compare first second).isLE).Pairwise
      fun first second => compare first second = .lt := by
  -- Neighbours that do not fall and are not equal rise.
  have ordered : (names.mergeSort fun first second => (compare first second).isLE).Pairwise
      fun first second => (compare first second).isLE = true := ordered_mergeSort id names
  have apart := (List.mergeSort_perm names
    fun first second => (compare first second).isLE).nodup_iff.mpr distinct
  refine (ordered.and apart).imp fun {first second} ⟨order, different⟩ => ?_
  cases outcome : compare first second with
  | lt => rfl
  | eq => exact absurd (Std.LawfulEqCmp.eq_of_compare outcome) different
  | gt => simp [outcome] at order

end Name

end Switchboard
