/-!
Comparing by a key and lists in its order: what sorting does to them, which of two items it puts
first, and one more item between two parts.
-/

namespace Switchboard

variable {α β : Type} [Ord β]

/-! ### Comparisons -/

/-- Of two things under a total comparison, one does not come after the other. -/
theorem isLE_compare_or [Std.OrientedOrd β] (left right : β) :
    ((compare left right).isLE || (compare right left).isLE) = true := by
  -- Swapped sides turn the outcome round, and not both it and its opposite are above.
  rw [Std.OrientedOrd.eq_swap (a := right)]
  cases compare left right <;> rfl

/-- A key that rises wherever its argument does compares as its argument. -/
theorem compare_key_eq [Ord α] [Std.OrientedOrd α] [Std.LawfulEqOrd α] [Std.OrientedOrd β]
    (key : α → β)
    (rises : ∀ {first second}, compare first second = .lt →
      compare (key first) (key second) = .lt) (left right : α) :
    compare (key left) (key right) = compare left right := by
  -- The other two outcomes follow from the one that is given, by symmetry.
  cases outcome : compare left right with
  | lt => exact rises outcome
  | eq =>
    rw [Std.LawfulEqOrd.eq_of_compare outcome]
    exact Std.ReflCmp.compare_self
  | gt => exact Std.OrientedCmp.gt_of_lt (rises (Std.OrientedCmp.lt_of_gt outcome))

/-- Comparing lists is looking for the first place where they differ, and a list comes before its
extensions. -/
theorem compare_eq_lt_iff_lex [Std.LawfulEqOrd β] {left right : List β} :
    compare left right = .lt ↔
      List.Lex (fun first second => compare first second = .lt) left right := by
  -- Both sides go on to the rest only where the first elements are equal.
  induction left generalizing right with
  | nil => cases right <;> simp
  | cons first left ih =>
    cases right with
    | nil => simp
    | cons second right =>
      rw [List.compare_cons_cons, Ordering.then_eq_lt, ih, List.cons_lex_cons_iff,
        Std.LawfulEqOrd.compare_eq_iff_eq]

/-- Lists compare as they are ordered if their elements do. -/
theorem compare_eq_lt_iff_lt [LT β] [Std.LawfulEqOrd β]
    (single : ∀ first second : β, compare first second = .lt ↔ first < second)
    {left right : List β} : compare left right = .lt ↔ left < right := by
  -- The order of lists is lexicographic too.
  rw [compare_eq_lt_iff_lex]
  simp only [single]
  rfl

/-! ### Sorting -/

/-- Sorting by a key puts a list in the order of the key. -/
theorem ordered_mergeSort [Std.TransOrd β] (key : α → β) (list : List α) :
    (list.mergeSort fun first second => (compare (key first) (key second)).isLE).Pairwise
      fun first second => (compare (key first) (key second)).isLE = true :=
  List.pairwise_mergeSort (fun _ _ _ => Std.TransCmp.isLE_trans) (fun _ _ => isLE_compare_or _ _)
    list

/-- Sorting by a key keeps what is level with each other in the order it came in. -/
theorem filter_mergeSort [Std.TransOrd β] (key : α → β) {kept : α → Bool}
    (level : ∀ first second, kept first = true → kept second = true →
      (compare (key first) (key second)).isLE = true) (list : List α) :
    (list.mergeSort fun first second => (compare (key first) (key second)).isLE).filter kept =
      list.filter kept := by
  -- What is kept is in order already, so sorting leaves it in the list as it is.
  have inOrder : (list.filter kept).Pairwise fun first second =>
      (compare (key first) (key second)).isLE = true := by
    refine List.pairwise_iff_forall_sublist.mpr fun pair => ?_
    exact level _ _ (List.mem_filter.mp (pair.subset (by simp))).2
      (List.mem_filter.mp (pair.subset (by simp))).2
  have within := (List.sublist_mergeSort (fun _ _ _ => Std.TransCmp.isLE_trans)
    (fun _ _ => isLE_compare_or _ _) inOrder List.filter_sublist).filter kept
  rw [List.filter_filter, funext fun item => Bool.and_self (kept item)] at within
  -- Sorting does not change how many there are.
  exact (within.eq_of_length ((List.mergeSort_perm list _).filter kept).length_eq.symm).symm

/-- Of two different members of a list, one stands before the other. -/
theorem pair_sublist_or {list : List α} {first second : α} (member : first ∈ list)
    (member' : second ∈ list) (different : first ≠ second) :
    [first, second].Sublist list ∨ [second, first].Sublist list := by
  -- The list is cut at the first item, and the second one is in one of the two parts.
  obtain ⟨before, after, rfl⟩ := List.append_of_mem member
  rcases List.mem_append.mp member' with front | rear
  · exact .inr ((List.singleton_sublist.mpr front).append
      (List.singleton_sublist.mpr List.mem_cons_self))
  · have behind : second ∈ after := List.mem_of_ne_of_mem different.symm rear
    exact .inl (((List.singleton_sublist.mpr behind).cons_cons first).trans
      (List.sublist_append_right before (first :: after)))

/-- Sorting by a key puts one item before another exactly when its key is lower, or the keys are
level and it came before the other. -/
theorem pair_sublist_mergeSort_iff [Std.TransOrd β] (key : α → β) {list : List α}
    {first second : α} :
    [first, second].Sublist
        (list.mergeSort fun left right => (compare (key left) (key right)).isLE) ↔
      compare (key first) (key second) = .lt ∧ first ∈ list ∧ second ∈ list ∨
        compare (key first) (key second) = .eq ∧ [first, second].Sublist list := by
  -- Sorting keeps the members and puts every pair of them in order.
  let sorted := list.mergeSort fun left right => (compare (key left) (key right)).isLE
  have member_iff (item : α) : item ∈ sorted ↔ item ∈ list := List.mem_mergeSort
  have ordered {left right : α} (pair : [left, right].Sublist sorted) :
      (compare (key left) (key right)).isLE = true :=
    List.pairwise_iff_forall_sublist.mp (ordered_mergeSort key list) pair
  constructor
  · intro pair
    cases outcome : compare (key first) (key second) with
    | lt =>
      exact .inl ⟨rfl, (member_iff first).mp (pair.subset (by simp)),
        (member_iff second).mp (pair.subset (by simp))⟩
    | eq =>
      -- Sorting does not move what is level with the second item, and the first one is.
      have both : [first, second].filter (fun item => compare (key item) (key second) = .eq) =
          [first, second] := by
        simp [outcome, Std.ReflCmp.compare_self]
      have kept := pair.filter fun item => compare (key item) (key second) = .eq
      rw [both, filter_mergeSort key] at kept
      · exact .inr ⟨rfl, kept.trans List.filter_sublist⟩
      · intro left right level level'
        have across := Std.TransCmp.eq_trans (of_decide_eq_true level)
          (Std.OrientedCmp.eq_symm (of_decide_eq_true level'))
        rw [across]
        rfl
    | gt =>
      -- A sorted list never falls.
      have order := ordered pair
      simp [outcome] at order
  · rintro (⟨lower, member, member'⟩ | ⟨level, pair⟩)
    · -- They stand in one of the two orders, and the other one would fall.
      have different : first ≠ second := fun same => by
        simp [same, Std.ReflCmp.compare_self] at lower
      refine (pair_sublist_or ((member_iff first).mpr member) ((member_iff second).mpr member')
        different).resolve_right fun reversed => ?_
      have order := ordered reversed
      simp [Std.OrientedCmp.gt_of_lt lower] at order
    · -- What is level keeps the order it came in.
      refine List.pair_sublist_mergeSort (fun _ _ _ => Std.TransCmp.isLE_trans)
        (fun _ _ => isLE_compare_or _ _) ?_ pair
      simp [level]

/-- What stands between two ordered parts of a list keeps the order. -/
theorem pairwise_around {order : α → α → Prop} {before after : List α} {item : α}
    (trans : ∀ {first second third : α}, order first second → order second third →
      order first third)
    (front : before.Pairwise order) (rear : after.Pairwise order)
    (lower : ∀ other ∈ before, order other item) (higher : ∀ other ∈ after, order item other) :
    (before ++ item :: after).Pairwise order := by
  -- Every pair across the item is ordered because the item stands between the two.
  refine List.pairwise_append.mpr ⟨front, List.pairwise_cons.mpr ⟨higher, rear⟩, ?_⟩
  intro left member right member'
  rcases List.mem_cons.mp member' with same | behind
  · exact same ▸ lower left member
  · exact trans (lower left member) (higher right behind)

end Switchboard
