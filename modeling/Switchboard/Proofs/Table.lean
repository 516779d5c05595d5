import Switchboard.Table

/-!
What a table holds does not depend on the order its keys came in, and putting a value under a key
again replaces the value and nothing else.
-/

namespace Switchboard.Table

variable {κ ν : Type} [BEq κ] [LawfulBEq κ]

/-- Among pairs with distinct keys, a value is found under a key exactly if they are a pair. -/
theorem find_eq_some_iff {pairs : List (κ × ν)} (distinct : (pairs.map Prod.fst).Nodup) {key : κ}
    {value : ν} : find key pairs = some value ↔ (key, value) ∈ pairs := by
  -- Each step looks at one pair more, and no later pair has its key.
  induction pairs with
  | nil => simp [find]
  | cons pair rest ih =>
    obtain ⟨head, first⟩ := pair
    obtain ⟨fresh, distinct⟩ := List.nodup_cons.mp distinct
    unfold find
    split
    · -- The key is taken by the first pair, so it stands in no later one.
      rename_i same
      rw [eq_of_beq same] at fresh ⊢
      have later : (key, value) ∉ rest := fun member =>
        fresh (List.mem_map.mpr ⟨(key, value), member, rfl⟩)
      simp [later, eq_comm]
    · -- A key that differs is looked for among the rest.
      rename_i different
      have other : key ≠ head := fun same => different (beq_iff_eq.mpr same.symm)
      simp [ih distinct, other]

/-- A key leads to a value exactly if the table has them as a pair. -/
theorem get?_eq_some_iff {table : Table κ ν} {key : κ} {value : ν} :
    table.get? key = some value ↔ (key, value) ∈ table.entries :=
  find_eq_some_iff table.distinct

/-- A key leads to some value exactly if it is a key of the table. -/
theorem isSome_get?_iff {table : Table κ ν} {key : κ} :
    (table.get? key).isSome = true ↔ key ∈ table.keys := by
  -- Both sides say that some pair has the key.
  rw [Option.isSome_iff_exists, keys, List.mem_map]
  simp only [get?_eq_some_iff]
  exact ⟨fun ⟨value, held⟩ => ⟨_, held, rfl⟩,
    fun ⟨⟨_, value⟩, held, same⟩ => ⟨value, same ▸ held⟩⟩

/-- Tables with the same pairs in any order lead to the same values. -/
theorem get?_eq_of_perm {left right : Table κ ν} (same : left.entries.Perm right.entries)
    (key : κ) : left.get? key = right.get? key := by
  refine Option.ext fun value => ?_
  -- Which pairs there are does not depend on their order.
  rw [get?_eq_some_iff, get?_eq_some_iff, same.mem_iff]

/-! ### Putting a value again -/

/-- Storing under a key that is there keeps all keys in their order. -/
theorem map_fst_store_of_mem {key : κ} {value : ν} {pairs : List (κ × ν)}
    (member : key ∈ pairs.map Prod.fst) :
    (store key value pairs).map Prod.fst = pairs.map Prod.fst := by
  -- The walk goes on until it meets the key, which is there.
  induction pairs with
  | nil => cases member
  | cons pair rest ih =>
    obtain ⟨head, old⟩ := pair
    unfold store
    split
    · -- The key is met here, and only its value changes.
      rename_i same
      rw [← eq_of_beq same]
      rfl
    · rename_i different
      -- The key stands further behind.
      have later : key ∈ rest.map Prod.fst := by
        rcases List.mem_cons.mp member with same | later
        · exact absurd (beq_iff_eq.mpr same.symm) different
        · exact later
      rw [List.map_cons, List.map_cons, ih later]

/-- Of two values stored under one key, only the second counts. -/
theorem store_store {key : κ} {first second : ν} {pairs : List (κ × ν)} :
    store key second (store key first pairs) = store key second pairs := by
  -- Both walks stop at the same pair.
  induction pairs with
  | nil => simp [store]
  | cons pair rest ih =>
    obtain ⟨head, old⟩ := pair
    by_cases same : head = key
    · simp [store, same]
    · simp [store, same, ih]

/-- Storing under two keys of which one is there already can be done in either order. -/
theorem store_comm {key other : κ} (apart : other ≠ key) {value second : ν} {pairs : List (κ × ν)}
    (member : key ∈ pairs.map Prod.fst) :
    store other second (store key value pairs) = store key value (store other second pairs) := by
  -- Only the key that is new could be put in front of the other one.
  induction pairs with
  | nil => cases member
  | cons pair rest ih =>
    obtain ⟨head, old⟩ := pair
    by_cases same : head = key
    · -- The value is replaced in the first pair on either side.
      subst same
      simp [store, Ne.symm apart]
    · have later : key ∈ rest.map Prod.fst := by
        simpa [Ne.symm same] using member
      by_cases same' : head = other
      · -- The other key takes the first pair on either side.
        subst same'
        simp [store, apart]
      · simp [store, same, same', ih later]

/-- Putting a value under a key that is there keeps all keys in their order. -/
theorem keys_put_of_isSome {table : Table κ ν} {key : κ} {value : ν}
    (held : (table.get? key).isSome = true) : (table.put key value).keys = table.keys :=
  map_fst_store_of_mem (isSome_get?_iff.mp held)

/-- Of two values put under one key, only the second counts. -/
theorem put_put (table : Table κ ν) (key : κ) (first second : ν) :
    (table.put key first).put key second = table.put key second := by
  simp only [put, store_store]

/-- Values can be put under two keys of which one is there already in either order. -/
theorem put_comm {table : Table κ ν} {key other : κ} (apart : other ≠ key) (value second : ν)
    (held : (table.get? key).isSome = true) :
    (table.put key value).put other second = (table.put other second).put key value := by
  simp only [put, store_comm apart (isSome_get?_iff.mp held)]

end Switchboard.Table
