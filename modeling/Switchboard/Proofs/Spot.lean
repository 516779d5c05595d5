import Switchboard.Spot

/-! Halving finds the one place where an ordered list holds an element or would take it. -/

namespace Switchboard.Spot

variable {α : Type} {probe : α → Ordering} {items : List α}

/-- A comparison that puts each earlier element below the target or each later one above it. -/
def Rises (probe : α → Ordering) (items : List α) : Prop :=
  -- No two elements can both be hits, since neither of them is below or above.
  items.Pairwise fun left right => probe left = .lt ∨ probe right = .gt

/-- What a spot says about a list: lower elements before it and higher ones behind it. -/
def Splits (probe : α → Ordering) (items : List α) : Spot → Prop
  | taken index => ∃ before item after, items = before ++ item :: after ∧ before.length = index ∧
      probe item = .eq ∧ (∀ other ∈ before, probe other = .lt) ∧ ∀ other ∈ after, probe other = .gt
  | free index => ∃ before after, items = before ++ after ∧ before.length = index ∧
      (∀ other ∈ before, probe other = .lt) ∧ ∀ other ∈ after, probe other = .gt

/-- What a spot says about the element at an index: whether it is below the target, is the target or
is above it. -/
def verdict : Spot → Nat → Ordering
  | taken place, index => compare index place
  -- The target would go in front of what stands at the place.
  | free place, index => if index < place then .lt else .gt

/-- Where the halving ends, an element stands that was reached, and all behind it is higher. -/
structure Settles (probe : α → Ordering) (items : List α) (index : Nat) : Prop where
  inside : index < items.length
  reached : index = 0 ∨ reaches probe items index = true
  above : ∀ later item, index < later → items[later]? = some item → probe item = .gt

/-- An element that the test does not reach is above the target. -/
private theorem gt_of_not_reaches {index : Nat} {item : α}
    (missed : reaches probe items index = false) (found : items[index]? = some item) :
    probe item = .gt := by
  -- The test looks at exactly this element.
  simpa [reaches, found] using missed

/-- Behind an element above the target everything is above it. -/
private theorem Rises.gt_of_lt (rises : Rises probe items) {index later : Nat} {item other : α}
    (found : items[index]? = some item) (behind : items[later]? = some other)
    (order : index < later) (above : probe item = .gt) : probe other = .gt := by
  -- The earlier element is not below the target, so the later one has to be above.
  obtain ⟨inside, rfl⟩ := List.getElem?_eq_some_iff.mp found
  obtain ⟨inside', rfl⟩ := List.getElem?_eq_some_iff.mp behind
  have pair := List.pairwise_iff_getElem.mp rises index later inside inside' order
  simpa [above] using pair

/-- Before an element that is not above the target everything is below it. -/
private theorem Rises.lt_of_lt (rises : Rises probe items) {index earlier : Nat} {item other : α}
    (found : items[index]? = some item) (before : items[earlier]? = some other)
    (order : earlier < index) (reached : probe item ≠ .gt) : probe other = .lt := by
  -- The later element is not above the target, so the earlier one has to be below.
  obtain ⟨inside, rfl⟩ := List.getElem?_eq_some_iff.mp found
  obtain ⟨inside', rfl⟩ := List.getElem?_eq_some_iff.mp before
  have pair := List.pairwise_iff_getElem.mp rises earlier index inside' inside order
  simpa [reached] using pair

/-- Halving keeps a window that starts at a reached index and has only higher elements behind. -/
theorem narrow_settles (rises : Rises probe items) (start size : Nat) (nonempty : 0 < size)
    (inside : start + size ≤ items.length)
    (reached : start = 0 ∨ reaches probe items start = true)
    (above : ∀ later item, start + size ≤ later → items[later]? = some item → probe item = .gt) :
    Settles probe items (narrow probe items start size) := by
  -- The induction follows the halving, whose window keeps the three facts.
  induction start, size using narrow.induct probe items with
  | case1 start size wide half ih =>
    rw [narrow, if_pos wide]
    refine ih (by omega) (by split <;> omega) ?_ ?_
    · -- The start of the window moves to the middle only if the middle is reached.
      split
      · exact Or.inr ‹_›
      · exact reached
    · intro later item behind found
      split at behind
      · exact above later item (by omega) found
      · -- The middle is above the target, and with it everything from the middle on.
        rename_i missed
        have within : start + half < items.length := by omega
        have middle := List.getElem?_eq_getElem within
        have higher := gt_of_not_reaches (by simpa using missed) middle
        -- Behind the middle everything is above the target because the middle is.
        rcases Nat.lt_or_ge (start + half) later with beyond | here
        · exact rises.gt_of_lt middle found beyond higher
        · have same : later = start + half := by omega
          rw [same, middle, Option.some.injEq] at found
          rwa [found] at higher
  | case2 start size narrowed =>
    rw [narrow, if_neg narrowed]
    exact ⟨by omega, reached, fun later item behind found => above later item (by omega) found⟩

/-- Behind the index where the halving ends there are only higher elements. -/
theorem Settles.gt_of_mem_drop {index : Nat} (settled : Settles probe items index) {other : α}
    (member : other ∈ items.drop (index + 1)) : probe other = .gt := by
  -- A member of the rest stands at some later index.
  obtain ⟨offset, found⟩ := List.mem_iff_getElem?.mp member
  rw [List.getElem?_drop] at found
  exact settled.above (index + 1 + offset) other (by omega) found

/-- Before an element that is not above the target there are only lower elements. -/
theorem Rises.lt_of_mem_take (rises : Rises probe items) {index : Nat} {item other : α}
    (found : items[index]? = some item) (reached : probe item ≠ .gt)
    (member : other ∈ items.take index) : probe other = .lt := by
  -- A member of the front stands at some earlier index.
  obtain ⟨earlier, before⟩ := List.mem_iff_getElem?.mp member
  rw [List.getElem?_take] at before
  split at before
  · exact rises.lt_of_lt found before (by omega) reached
  · cases before

/-- The search in a rising list tells where the target stands or would go. -/
theorem search_splits (rises : Rises probe items) :
    (search probe items).Splits probe items := by
  -- The element where the halving ends decides between a hit and the gap on either side of it.
  rcases items.length.eq_zero_or_pos with empty | nonempty
  · -- In an empty list the target would go to the front.
    rw [List.eq_nil_of_length_eq_zero empty]
    exact ⟨[], [], by simp [narrow]⟩
  -- The whole list is the window to begin with, and nothing stands behind it.
  have settled := narrow_settles rises 0 items.length nonempty (by omega) (Or.inl rfl)
    (fun later item behind found => by
      rw [List.getElem?_eq_none (by omega)] at found
      cases found)
  unfold search
  -- What follows uses of the index only that it settles.
  generalize narrow probe items 0 items.length = index at settled
  have inside := settled.inside
  obtain ⟨item, found⟩ : ∃ item, items[index]? = some item := ⟨_, List.getElem?_eq_getElem inside⟩
  have cut : items = items.take index ++ item :: items.drop (index + 1) := by
    obtain ⟨_, rfl⟩ := List.getElem?_eq_some_iff.mp found
    simp
  simp only [found, Option.map_some]
  cases outcome : probe item with
  | eq =>
    -- The element is the target, so it takes the place.
    exact ⟨_, _, _, cut, List.length_take_of_le (by omega), outcome,
      fun _ member => rises.lt_of_mem_take found (by simp [outcome]) member,
      fun _ member => settled.gt_of_mem_drop member⟩
  | lt =>
    -- The element is below the target, which belongs right behind it.
    refine ⟨items.take (index + 1), items.drop (index + 1), by simp,
      List.length_take_of_le (by omega), ?_, fun _ member => settled.gt_of_mem_drop member⟩
    intro other member
    rw [List.take_add_one, found, List.mem_append, Option.toList_some, List.mem_singleton] at member
    rcases member with earlier | here
    · exact rises.lt_of_mem_take found (by simp [outcome]) earlier
    · rw [here, outcome]
  | gt =>
    -- A reached element is not above the target, so the halving never left the front.
    have first : index = 0 := by
      rcases settled.reached with first | reached
      · exact first
      · simp [reaches, found, outcome] at reached
    subst first
    refine ⟨[], items, by simp, rfl, by simp, ?_⟩
    intro other member
    rw [cut, List.take_zero, List.nil_append, List.mem_cons] at member
    rcases member with here | behind
    · rw [here, outcome]
    · exact settled.gt_of_mem_drop behind

/-- A spot that splits a list says about every element what comparing it says. -/
theorem Splits.verdict_eq {spot : Spot} (splits : spot.Splits probe items) {index : Nat} {item : α}
    (found : items[index]? = some item) : spot.verdict index = probe item := by
  -- The index is in the lower part, in the higher part or at the target itself.
  cases spot with
  | taken place =>
    obtain ⟨before, target, after, rfl, rfl, hit, lower, higher⟩ := splits
    rcases Nat.lt_trichotomy index before.length with front | here | rear
    · -- Everything before the taken place is lower.
      rw [List.getElem?_append_left front] at found
      rw [lower item (List.mem_of_getElem? found)]
      exact Nat.compare_eq_lt.mpr front
    · subst here
      have same : target = item := by simpa using found
      rw [← same, hit]
      exact Nat.compare_eq_eq.mpr rfl
    · -- Everything behind the taken place is higher.
      rw [List.getElem?_append_right (by omega), List.getElem?_cons, if_neg (by omega)] at found
      rw [higher item (List.mem_of_getElem? found)]
      exact Nat.compare_eq_gt.mpr rear
  | free place =>
    obtain ⟨before, after, rfl, rfl, lower, higher⟩ := splits
    by_cases front : index < before.length
    · rw [List.getElem?_append_left front] at found
      rw [lower item (List.mem_of_getElem? found), verdict, if_pos front]
    · rw [List.getElem?_append_right (by omega)] at found
      rw [higher item (List.mem_of_getElem? found), verdict, if_neg front]

end Switchboard.Spot
