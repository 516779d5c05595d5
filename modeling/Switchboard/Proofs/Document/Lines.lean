import Switchboard.Document
import Switchboard.Proofs.Text.Lines

/-! The lines of a generated module: those of its parts, and in each slot those of the blocks. -/

namespace Switchboard

/-- A name that does not break a line. -/
def Name.Unbroken (name : Name) : Prop :=
  '\n' ∉ name.text.toList ∧ '\r' ∉ name.text.toList

namespace Slot

/-- No line of a block has a break that is not in the name or, for an import, in the namespace. -/
theorem notMem_block {c : Char} (ends : c = '\n' ∨ c = '\r') {space : String} {slot : Slot}
    {first : Bool} {name : Name} (inSpace : slot = imports → c ∉ space.toList)
    (inName : c ∉ name.text.toList) {line : String} (member : line ∈ block space slot first name) :
    c ∉ line.toList := by
  -- An import has the namespace and the name around fixed text.
  have import' (given : c ∉ space.toList) : c ∉ (importLine space name).toList := by
    unfold importLine
    split <;> rcases ends with rfl | rfl <;> simp [given, inName]
  have token : c ∉ (unionToken first).toList := by
    cases first <;> rcases ends with rfl | rfl <;> simp [unionToken]
  -- Apart from the token, the name and the namespace, the lines are made of fixed text.
  cases slot with
  | imports => exact List.mem_singleton.mp member ▸ import' (inSpace rfl)
  | models | messages =>
    rw [List.mem_singleton.mp member]
    rcases ends with rfl | rfl <;> simp [modelConstructor, messageConstructor, token, inName]
  | _ =>
    revert line
    rcases ends with rfl | rfl <;>
      simp [block, updateArm, queryArm, modelConstructor, messageConstructor, inName]

/-- No block ends in a blank line. -/
private theorem getLast?_block (space : String) (slot : Slot) (first : Bool) (name : Name) :
    (block space slot first name).getLast? ≠ some "" := by
  -- The last line of each block has fixed text in it.
  cases slot with
  | imports =>
    simp only [block, importLine]
    split <;> simp
  | models | messages => cases first <;> simp [block, unionToken]
  | _ => simp [block, updateArm, queryArm]

/-- Every block of a slot is the block of one of its names. -/
theorem exists_of_mem_blocks {space : String} {slot : Slot} {names : List Name}
    {lines : List String} (member : lines ∈ blocks space slot names) :
    ∃ first, ∃ name ∈ names, lines = block space slot first name := by
  cases names with
  | nil => cases member
  | cons name rest =>
    -- The first name alone opens the slot.
    rcases List.mem_cons.mp member with head | later
    · exact ⟨true, name, List.mem_cons_self, head⟩
    · obtain ⟨other, inside, rfl⟩ := List.mem_map.mp later
      exact ⟨false, other, List.mem_cons_of_mem _ inside, rfl⟩

/-- A slot has no lines exactly when there are no names. -/
theorem flatten_blocks_eq_nil_iff (space : String) (slot : Slot) (names : List Name) :
    (blocks space slot names).flatten = [] ↔ names = [] := by
  cases names with
  | nil => simp [blocks]
  -- Each block has a line at least.
  | cons name rest => cases slot <;> simp [blocks, block, updateArm, queryArm]

/-- No line of a slot has a break that is not in a name or, for imports, in the namespace. -/
theorem notMem_blocks {c : Char} (ends : c = '\n' ∨ c = '\r') {space : String} {slot : Slot}
    {names : List Name} (inSpace : slot = imports → c ∉ space.toList)
    (inNames : ∀ name ∈ names, c ∉ name.text.toList) {line : String}
    (member : line ∈ (blocks space slot names).flatten) : c ∉ line.toList := by
  obtain ⟨lines, inside, within⟩ := List.mem_flatten.mp member
  obtain ⟨first, name, named, rfl⟩ := exists_of_mem_blocks inside
  exact notMem_block ends inSpace (inNames name named) within

/-- No slot ends in a blank line. -/
theorem getLast?_blocks (space : String) (slot : Slot) (names : List Name) :
    (blocks space slot names).flatten.getLast? ≠ some "" := by
  -- The last line of all is the last line of some block.
  have closed : ∀ lines ∈ blocks space slot names, lines.getLast? ≠ some "" := by
    intro lines member
    obtain ⟨first, name, -, rfl⟩ := exists_of_mem_blocks member
    exact getLast?_block space slot first name
  generalize blocks space slot names = all at closed
  induction all with
  | nil => simp
  | cons lines rest ih =>
    have later := ih fun other member => closed other (List.mem_cons_of_mem _ member)
    rw [List.flatten_cons, List.getLast?_append]
    -- The last line is one of the blocks behind, or else of the block in front.
    cases last : rest.flatten.getLast? with
    | none => exact closed lines List.mem_cons_self
    | some line =>
      rw [last] at later
      exact later

/-- Moved to its margin, a slot is the lines of its blocks moved one by one, given that no line is
broken or ends in a return. -/
theorem indent_body {space : String} {slot : Slot} {names : List Name}
    (absent : ∀ line ∈ (blocks space slot names).flatten, '\n' ∉ line.toList)
    (plain : ∀ line ∈ (blocks space slot names).flatten, line.toList.getLast? ≠ some '\r') :
    Lines.indent slot.margin (body space slot names) =
      "\n".intercalate ((blocks space slot names).flatten.map (Lines.pad slot.margin)) :=
  Lines.indent_join _ absent plain (getLast?_blocks space slot names)

/-- The lines of a slot moved to its margin are those of its blocks, or one blank line. -/
theorem pieces_indent_body {space : String} {slot : Slot} {names : List Name}
    (fixed : slot ≠ imports) (unbroken : ∀ name ∈ names, name.Unbroken) :
    pieces '\n' (Lines.indent slot.margin (body space slot names)).toList =
      if names = [] then [[]] else (blocks space slot names).flatten.map fun line =>
        (Lines.pad slot.margin line).toList := by
  -- The namespace stands in the imports only.
  have space' (c : Char) : slot = imports → c ∉ space.toList := fun same => absurd same fixed
  have absent : ∀ line ∈ (blocks space slot names).flatten, '\n' ∉ line.toList := fun _ =>
    notMem_blocks (Or.inl rfl) (space' _) fun name inside => (unbroken name inside).1
  -- A return at the end of a line would be dropped on the way, but a slot has none.
  have plain : ∀ line ∈ (blocks space slot names).flatten, line.toList.getLast? ≠ some '\r' :=
    fun _ member last => notMem_blocks (Or.inr rfl) (space' _)
      (fun name inside => (unbroken name inside).2) member (List.mem_of_getLast? last)
  rw [indent_body absent plain, Lines.pieces_join, List.map_map]
  · simp only [List.map_eq_nil_iff, flatten_blocks_eq_nil_iff]
    rfl
  · intro line member
    obtain ⟨inner, inside, rfl⟩ := List.mem_map.mp member
    exact Lines.notMem_pad _ (absent inner inside)

end Slot

/-- The lines of the generated module are those of its parts, before the end of the last line. -/
theorem pieces_fill (moduleName : String) (body : Slot → String) :
    pieces '\n' (fill moduleName body).toList =
      (template.flatMap fun part => pieces '\n' (part.text moduleName body).toList) ++ [[]] := by
  -- Each part is cut off at the line feed after it.
  unfold fill
  induction template with
  | nil => rfl
  | cons part rest ih =>
    rw [List.map_cons, String.join_cons, String.toList_append, String.toList_append,
      List.append_assoc, show "\n".toList = ['\n'] from rfl, List.singleton_append, pieces_append,
      ih, List.flatMap_cons, List.append_assoc]

end Switchboard
