/-! Tables that hold each key once, in the order the keys came in. -/

namespace Switchboard

/-- A table of values under keys, each key once. -/
structure Table (κ ν : Type) where
  entries : List (κ × ν)
  distinct : (entries.map Prod.fst).Nodup

namespace Table

variable {κ ν : Type} [BEq κ] [LawfulBEq κ]

/-- The table with nothing in it. -/
def empty : Table κ ν :=
  ⟨[], List.nodup_nil⟩

instance : Inhabited (Table κ ν) := ⟨empty⟩

/-- The keys of a table. -/
def keys (table : Table κ ν) : List κ :=
  table.entries.map Prod.fst

/-- The value among some pairs that stands under a key. -/
def find (key : κ) : List (κ × ν) → Option ν
  -- The first pair under the key counts.
  | [] => none
  | (other, value) :: rest => if other == key then some value else find key rest

/-- Pairs with the value under a key replaced, or put last if the key is new. -/
def store (key : κ) (value : ν) : List (κ × ν) → List (κ × ν)
  -- Pairs under other keys keep their places.
  | [] => [(key, value)]
  | (other, old) :: rest =>
    if other == key then (key, value) :: rest else (other, old) :: store key value rest

/-- Storing adds at most its own key. -/
theorem mem_keys_store {key other : κ} {value : ν} {pairs : List (κ × ν)} :
    other ∈ (store key value pairs).map Prod.fst ↔
      other = key ∨ other ∈ pairs.map Prod.fst := by
  -- Each step keeps the head's key, and the key itself is put in where the walk ends.
  induction pairs with
  | nil => simp [store]
  | cons pair rest ih =>
    obtain ⟨head, old⟩ := pair
    unfold store
    split
    · rename_i same
      rw [eq_of_beq same]
      simp
    · simp only [List.map_cons, List.mem_cons, ih]
      constructor
      · rintro (same | same | member)
        · exact Or.inr (Or.inl same)
        · exact Or.inl same
        · exact Or.inr (Or.inr member)
      · rintro (same | same | member)
        · exact Or.inr (Or.inl same)
        · exact Or.inl same
        · exact Or.inr (Or.inr member)

/-- Storing keeps the keys distinct. -/
theorem nodup_store {key : κ} {value : ν} {pairs : List (κ × ν)}
    (distinct : (pairs.map Prod.fst).Nodup) : ((store key value pairs).map Prod.fst).Nodup := by
  -- A key is put in only after it was compared with every key before it.
  induction pairs with
  | nil => simp [store]
  | cons pair rest ih =>
    obtain ⟨head, old⟩ := pair
    simp only [List.map_cons, List.nodup_cons] at distinct
    unfold store
    split
    · rename_i same
      rw [← eq_of_beq same]
      simpa using distinct
    · rename_i different
      simp only [List.map_cons, List.nodup_cons, mem_keys_store, not_or]
      exact ⟨⟨fun same => different (beq_iff_eq.mpr same), distinct.1⟩, ih distinct.2⟩

/-- The value under a key, if there is one. -/
def get? (table : Table κ ν) (key : κ) : Option ν :=
  find key table.entries

/-- The table with a value put under a key. -/
def put (table : Table κ ν) (key : κ) (value : ν) : Table κ ν :=
  ⟨store key value table.entries, nodup_store table.distinct⟩

/-- The table without the keys that a test drops. -/
def keepKeys (table : Table κ ν) (keep : κ → Bool) : Table κ ν :=
  -- A part of a list without repetitions has none either.
  ⟨table.entries.filter fun entry => keep entry.1,
    (List.filter_sublist.map Prod.fst).nodup table.distinct⟩

/-- A key that was just stored leads to what was stored, and other keys are unaffected. -/
theorem find_store (key other : κ) (value : ν) (pairs : List (κ × ν)) :
    find other (store key value pairs) = if key == other then some value else find other pairs := by
  -- The walk meets the same keys as before, with the new value at its own key.
  induction pairs with
  | nil => simp [store, find]
  | cons pair rest ih =>
    obtain ⟨head, old⟩ := pair
    unfold store
    by_cases same : head = key
    · subst head
      by_cases asked : key = other <;> simp [find, asked]
    · by_cases asked : head = other
      · subst head
        simp [same, find, Ne.symm same]
      · simp [same, asked, find, ih]

/-- A stored value is found under its key, and other keys keep their values. -/
theorem get?_put (table : Table κ ν) (key other : κ) (value : ν) :
    (table.put key value).get? other = if key == other then some value else table.get? other :=
  find_store key other value table.entries

end Table

end Switchboard
