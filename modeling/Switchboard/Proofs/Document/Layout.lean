import Mathlib.Data.List.Basic
import Switchboard.Proofs.Document.Lines
import Switchboard.Proofs.Text.Blocks
import Switchboard.Proofs.Text.Frame

/-!
The layout of a generated module: which lines belong to which slot, where the blocks of a slot
start, and which names stand there. Main statement: the names read out of a slot are those it was
made of.
-/

namespace Switchboard

/-! ### Blocks -/

namespace Slot

/-- The text around the name in the first line of a block. -/
def opening (space : String) (slot : Slot) (first : Bool) : Frame :=
  match slot with
  | imports =>
    if space = "" then { before := "import ", after := "" }
    else { before := "import " ++ space ++ ".", between := [" as "], after := "" }
  | models => { before := unionToken first ++ "Mdl", between := [" "], after := ".Model" }
  | messages => { before := unionToken first ++ "Msg", between := [" "], after := ".Msg" }
  | update => { before := "Msg", after := " action ->" }
  | menu | inside | outside | subscriptions => { before := "Mdl", after := " model ->" }

/-- The number of lines of a block. -/
def height : Slot → Nat
  | imports | models | messages => 1
  | menu | inside | outside | subscriptions => 3
  | update => 11

/-- Every block of a slot has the height of the slot. -/
theorem length_block (space : String) (slot : Slot) (first : Bool) (name : Name) :
    (block space slot first name).length = slot.height := by
  cases slot <;> rfl

/-- A block starts with its opening, filled with the name. -/
theorem head?_block (space : String) (slot : Slot) (first : Bool) (name : Name) :
    (block space slot first name).head? = some ((slot.opening space first).fill name.text) := by
  -- The frames were read off the first lines, so both sides spell the same text.
  cases slot with
  | imports =>
    by_cases bare : space = "" <;>
      simp [block, opening, importLine, Frame.fill, bare, String.append_assoc]
  | models | messages =>
    simp [block, opening, modelConstructor, messageConstructor, Frame.fill, String.append_assoc]
  | _ =>
    simp [block, opening, updateArm, queryArm, modelConstructor, messageConstructor, Frame.fill]

/-- Below its first line a block is indented or blank. -/
theorem isBlock_block (space : String) (slot : Slot) (first : Bool) (name : Name) :
    Blocks.IsBlock (block space slot first name) := by
  -- An import is the only line of its block, and the others spell out their indentation.
  cases slot with
  | imports =>
    simp only [block, importLine, Blocks.IsBlock, Blocks.opens]
    split <;> simp
  | models | messages => cases first <;> simp [block, unionToken, Blocks.IsBlock, Blocks.opens]
  | _ =>
    simp [block, updateArm, queryArm, modelConstructor, messageConstructor, Blocks.IsBlock,
      Blocks.opens]

/-- Each block stands at the index of its name, and only the first one is made as such. -/
theorem blocks_eq_mapIdx (space : String) (slot : Slot) (names : List Name) :
    blocks space slot names =
      names.mapIdx fun index name => block space slot (index == 0) name := by
  cases names with
  | nil => rfl
  | cons name rest =>
    -- No index behind the first name is zero.
    have later : rest.map (block space slot false) =
        rest.mapIdx fun index name => block space slot (index + 1 == 0) name := by
      refine List.ext_getElem? fun index => ?_
      rw [List.getElem?_map, List.getElem?_mapIdx]
      rfl
    rw [blocks, List.mapIdx_cons, later]
    rfl

/-- The lines of a slot in a generated module: those of its blocks at their margin, or a blank
one. -/
def lines (space : String) (slot : Slot) (names : List Name) : List String :=
  if names = [] then [""] else (blocks space slot names).flatten.map (Lines.pad slot.margin)

/-- The number of lines that a slot takes up for some number of names. -/
def extent (count : Nat) (slot : Slot) : Nat :=
  max 1 (count * slot.height)

/-- Blocks of a slot have as many lines as their number and height tell. -/
theorem length_flatten_blocks {slot : Slot} {lines : List (List String)}
    (heights : ∀ block ∈ lines, block.length = slot.height) :
    lines.flatten.length = lines.length * slot.height := by
  -- The lengths are one number repeated.
  have equal : lines.map List.length = List.replicate lines.length slot.height :=
    List.eq_replicate_iff.mpr ⟨List.length_map _, by simpa using heights⟩
  rw [List.length_flatten, equal, List.sum_replicate_nat]

/-- A slot has one block for each name. -/
theorem length_blocks (space : String) (slot : Slot) (names : List Name) :
    (blocks space slot names).length = names.length := by
  rw [blocks_eq_mapIdx, List.length_mapIdx]

/-- Every block in a slot has the height of the slot. -/
theorem height_of_mem_blocks {space : String} {slot : Slot} {names : List Name}
    {lines : List String} (member : lines ∈ blocks space slot names) :
    lines.length = slot.height := by
  obtain ⟨first, name, -, rfl⟩ := exists_of_mem_blocks member
  exact length_block space slot first name

/-- With a name or more, a slot takes up as many lines as their blocks have. -/
theorem extent_of_pos {count : Nat} (slot : Slot) (positive : 0 < count) :
    slot.extent count = count * slot.height := by
  -- No block is empty.
  have filled : 1 ≤ slot.height := by cases slot <;> simp [height]
  exact Nat.max_eq_right (Nat.le_trans filled (Nat.le_mul_of_pos_left _ positive))

/-- A slot has as many lines as it takes up for its number of names. -/
theorem length_lines (space : String) (slot : Slot) (names : List Name) :
    (slot.lines space names).length = slot.extent names.length := by
  by_cases unnamed : names = []
  · simp [unnamed, lines, extent]
  · -- Moving lines to the margin keeps their number.
    rw [lines, if_neg unnamed, List.length_map,
      length_flatten_blocks fun _ => height_of_mem_blocks, length_blocks,
      extent_of_pos slot (List.length_pos_iff.mpr unnamed)]

/-- The lines of the imports are one for each name. -/
theorem lines_imports (space : String) {names : List Name} (named : names ≠ []) :
    imports.lines space names = names.map (importLine space) := by
  -- First or not, the line of an import is the same.
  have each : blocks space imports names = names.map fun name => [importLine space name] := by
    cases names <;> rfl
  rw [lines, if_neg named, each, ← List.flatMap_def, ← List.map_eq_flatMap]
  simp [margin]

end Slot

/-! ### Parts -/

namespace Part

/-- The lines of a part, given the name of the generated module and the lines of each slot. -/
def lines (moduleName : String) (slotLines : Slot → List String) : Part → List String
  | fixed line => [line]
  | naming before after => [before ++ moduleName ++ after]
  | hole slot => slotLines slot

/-- The number of lines of a part for some number of names. -/
def extent (count : Nat) : Part → Nat
  | fixed _ | naming .. => 1
  | hole slot => slot.extent count

/-- Whether a part is the hole for a slot. -/
def isHole (slot : Slot) : Part → Bool
  | fixed _ | naming .. => false
  | hole other => other = slot

/-- Whether the text of a part has no line feed of its own. -/
def isUnbroken : Part → Bool
  | fixed line => '\n' ∉ line.toList
  | naming before after => '\n' ∉ before.toList ∧ '\n' ∉ after.toList
  | hole _ => true

/-- No text of the template has a line feed in it. -/
theorem isUnbroken_of_mem_template : ∀ part ∈ template, part.isUnbroken = true := by
  decide +kernel

end Part

/-- Without a line feed in its name, a generated module has the lines of its parts. -/
theorem split_fill {moduleName : String} (inModule : '\n' ∉ moduleName.toList)
    (body : Slot → String) :
    Lines.split (fill moduleName body) =
      template.flatMap (Part.lines moduleName fun slot =>
        Lines.split ((Part.hole slot).text moduleName body)) ++ [""] := by
  -- Only the name of the generated module could break a line outside the slots.
  rw [Lines.split, pieces_fill, List.map_append, List.map_flatMap]
  refine congrArg (· ++ [""]) (List.flatMap_congr fun part member => ?_)
  have unbroken := Part.isUnbroken_of_mem_template part member
  cases part with
  | fixed line => exact Lines.split_of_notMem (of_decide_eq_true unbroken)
  | naming before after =>
    obtain ⟨inBefore, inAfter⟩ := of_decide_eq_true unbroken
    rw [Part.text, Part.lines]
    exact Lines.split_of_notMem (by simp [inBefore, inModule, inAfter])
  | hole slot => rfl

/-- A slot has its lines in a generated module, given that no line of it is broken and that no line
that is read ends in a return. -/
theorem Slot.split_hole {space moduleName : String} {slot : Slot} {names : List Name}
    (absent : ∀ line ∈ (blocks space slot names).flatten, '\n' ∉ line.toList)
    (plain : slot ≠ imports →
      ∀ line ∈ (blocks space slot names).flatten, line.toList.getLast? ≠ some '\r') :
    Lines.split ((Part.hole slot).text moduleName fun slot => slot.body space names) =
      slot.lines space names := by
  have text : (Part.hole slot).text moduleName (fun slot => slot.body space names) =
      "\n".intercalate ((blocks space slot names).flatten.map (Lines.pad slot.margin)) := by
    by_cases fixed : slot = imports
    · -- The imports are not read, but moving them by nothing does not change them either.
      subst fixed
      simp [Part.text, body, margin, funext Lines.pad_zero]
    · rw [← indent_body absent (plain fixed)]
      cases slot with
      | imports => exact absurd rfl fixed
      | _ => rfl
  rw [text, Lines.split_join, lines]
  · simp only [List.map_eq_nil_iff, flatten_blocks_eq_nil_iff]
  · intro line member
    obtain ⟨inner, inside, rfl⟩ := List.mem_map.mp member
    exact Lines.notMem_pad _ (absent inner inside)

/-! ### Reading -/

namespace Slot

/-- The parts of the template above a slot. -/
def above (slot : Slot) : List Part :=
  template.takeWhile fun part => !part.isHole slot

/-- The number of lines above a slot for some number of names. -/
def offset (count : Nat) (slot : Slot) : Nat :=
  (slot.above.map (Part.extent count)).sum

/-- The lines that a slot has among those of a generated module for some number of names. -/
def region (count : Nat) (slot : Slot) (lines : List String) : List String :=
  (lines.drop (slot.offset count)).take (slot.extent count)

/-- The lines of a generated module stand around those of a slot, which may be any others. -/
theorem exists_around {count : Nat} (slot : Slot) (moduleName : String)
    {slotLines : Slot → List String} (rest : List String)
    (due : ∀ other, .hole other ∈ slot.above → (slotLines other).length = other.extent count) :
    ∃ front rear, front.length = slot.offset count ∧ ∀ lines,
      template.flatMap (Part.lines moduleName (Function.update slotLines slot lines)) ++ rest =
        front ++ (lines ++ rear) := by
  -- Each slot has one hole, and the template is cut there.
  have split : ∃ below, template = slot.above ++ .hole slot :: below ∧
      .hole slot ∉ slot.above ∧ .hole slot ∉ below := by
    cases slot <;> exact ⟨_, rfl, by decide, by decide⟩
  obtain ⟨below, split, notAbove, notBelow⟩ := split
  refine ⟨slot.above.flatMap (Part.lines moduleName slotLines),
    below.flatMap (Part.lines moduleName slotLines) ++ rest, ?_, fun lines => ?_⟩
  · -- The lines above the slot are as many as the parts there take up.
    rw [List.length_flatMap, offset]
    refine congrArg List.sum (List.map_congr_left fun part member => ?_)
    cases part with
    | fixed line => rfl
    | naming before after => rfl
    | hole other => exact due other member
  · -- No part but the hole of the slot has the lines of the slot.
    have same {parts : List Part} (absent : .hole slot ∉ parts) :
        parts.flatMap (Part.lines moduleName (Function.update slotLines slot lines)) =
          parts.flatMap (Part.lines moduleName slotLines) := by
      refine List.flatMap_congr fun part member => ?_
      cases part with
      | fixed line => rfl
      | naming before after => rfl
      | hole other =>
        have different : other ≠ slot := fun same => absent (same ▸ member)
        exact Function.update_of_ne different lines slotLines
    rw [split, List.flatMap_append, List.flatMap_cons, same notAbove, same notBelow, Part.lines,
      Function.update_self, List.append_assoc, List.append_assoc]

/-- Where the slots up to some slot have the lines that are due to them, that slot is found. -/
theorem region_flatMap {count : Nat} {slot : Slot} {moduleName : String}
    {slotLines : Slot → List String} (rest : List String)
    (due : ∀ other, .hole other ∈ slot.above ∨ other = slot →
      (slotLines other).length = other.extent count) :
    slot.region count (template.flatMap (Part.lines moduleName slotLines) ++ rest) =
      slotLines slot := by
  obtain ⟨front, rear, start, around⟩ :=
    exists_around slot moduleName rest fun other inAbove => due other (Or.inl inAbove)
  -- The slot is given the lines that it has already.
  have lines := around (slotLines slot)
  rw [Function.update_eq_self] at lines
  -- The lines above are dropped by their number and those of the slot taken by theirs.
  rw [region, lines, List.drop_left' start]
  exact List.take_left' (due slot (Or.inr rfl))

end Slot

/-- The number of names that a generated module was made of, which is the number of its imports. -/
def countIn (lines : List String) : Nat :=
  -- A blank line stands below the imports, or in their place.
  ((lines.drop (Slot.imports.offset 0)).takeWhile (· ≠ "")).length

/-- Where the imports have their lines, the names are counted. -/
theorem countIn_flatMap {space moduleName : String} {names : List Name}
    {slotLines : Slot → List String} (rest : List String)
    (imports : slotLines .imports = Slot.imports.lines space names) :
    countIn (template.flatMap (Part.lines moduleName slotLines) ++ rest) = names.length := by
  -- A blank line follows the hole for the imports, and above it there is no other hole.
  have split : ∃ below, template = Slot.imports.above ++ .hole .imports :: .fixed "" :: below :=
    ⟨_, rfl⟩
  obtain ⟨below, split⟩ := split
  have start : (Slot.imports.above.flatMap (Part.lines moduleName slotLines)).length =
      Slot.imports.offset 0 := rfl
  rw [countIn, split, List.flatMap_append, List.flatMap_cons, List.flatMap_cons, List.append_assoc,
    List.append_assoc, List.append_assoc, List.drop_left' start]
  simp only [Part.lines, imports]
  by_cases unnamed : names = []
  · simp [Slot.lines, unnamed]
  · -- Every import is a line that is not blank.
    have filled : ∀ line ∈ names.map (Slot.importLine space), decide (line ≠ "") = true := by
      intro line member
      obtain ⟨name, -, rfl⟩ := List.mem_map.mp member
      simp only [Slot.importLine]
      split <;> simp
    rw [Slot.lines_imports space unnamed, List.takeWhile_append_of_pos filled]
    simp

namespace Slot

/-- The blocks of a slot among the lines of a generated module, moved to the margin. -/
def blocksIn (slot : Slot) (lines : List String) : List (List String) :=
  (Blocks.cut ((slot.region (countIn lines) lines).map (Lines.unpad slot.margin))).2

/-- The names in the first lines of the blocks of a slot, if each of these lines has one. -/
def namesIn? (space : String) (slot : Slot) (lines : List String) : Option (List Name) :=
  ((slot.blocksIn lines).mapIdx fun index block =>
    block.head?.bind (slot.opening space (index == 0)).gap?).mapM fun found => found.map Name.mk

/-- The text of a slot is cut into its blocks, and the text of an empty one is a blank line. -/
theorem cut_flatten_blocks (space : String) (slot : Slot) (names : List Name) :
    Blocks.cut (if names = [] then [""] else (blocks space slot names).flatten) =
      (if names = [] then [""] else [], blocks space slot names) := by
  split
  · rename_i unnamed
    rw [unnamed]
    rfl
  · -- Each block opens with a line at the margin and goes on below it.
    refine Blocks.cut_flatten fun lines member => ?_
    obtain ⟨first, name, -, rfl⟩ := exists_of_mem_blocks member
    exact isBlock_block space slot first name

/-- Where the slots up to some slot have their lines, the blocks of that slot are found. -/
theorem blocksIn_flatMap {space moduleName : String} {slot : Slot} {names : List Name}
    {slotLines : Slot → List String} (rest : List String)
    (due : ∀ other, .hole other ∈ slot.above ∨ other = slot →
      slotLines other = other.lines space names) :
    slot.blocksIn (template.flatMap (Part.lines moduleName slotLines) ++ rest) =
      slot.blocks space names := by
  -- The imports come first of all slots, so the names are counted before the slot is looked for.
  have first : .hole imports ∈ slot.above ∨ imports = slot := by
    cases slot <;> decide
  have sizes : ∀ other, .hole other ∈ slot.above ∨ other = slot →
      (slotLines other).length = other.extent names.length := fun other passed => by
    rw [due other passed, length_lines]
  -- Moved back from the margin, the lines are those of the blocks.
  have moved : (slot.lines space names).map (Lines.unpad slot.margin) =
      if names = [] then [""] else (blocks space slot names).flatten := by
    rw [lines]
    split
    · simp [Lines.unpad]
    · simp [Function.comp_def]
  rw [blocksIn, countIn_flatMap rest (due imports first), region_flatMap rest sizes,
    due slot (Or.inr rfl), moved, cut_flatten_blocks]

/-- Where the blocks of a slot are found, the names are read. -/
theorem namesIn?_of_blocksIn {space : String} {slot : Slot} {names : List Name}
    {lines : List String} (found : slot.blocksIn lines = slot.blocks space names) :
    slot.namesIn? space lines = some names := by
  -- Each first line fills its opening, so the name in the gap is the one it was filled with.
  have texts : (names.mapIdx fun _ name => some name.text) = names.map fun name => some name.text :=
    List.mapIdx_eq_iff.mpr fun index => List.getElem?_map
  rw [namesIn?, found, blocks_eq_mapIdx, List.mapIdx_mapIdx]
  simp only [Function.comp_def, head?_block, Option.bind_some, Frame.gap?_eq_some_iff.mpr rfl]
  rw [texts, List.mapM_map]
  exact List.mapM_pure.trans (congrArg some names.map_id)

end Slot

end Switchboard
