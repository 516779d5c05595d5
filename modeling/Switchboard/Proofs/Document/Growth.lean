import Switchboard.Proofs.Document.Alignment
import Switchboard.Proofs.Roster

/-!
One more content module changes a generated module by the lines of its own blocks. Main statement:
the larger generated module is the smaller one with one block put into each slot, where the new name
belongs in the order.
-/

namespace Switchboard

/-! ### Lines put in and changed -/

namespace Lines

/-- Lines with others put in above the one at an index. -/
def putIn (index : Nat) (added lines : List String) : List String :=
  -- The lines that were there all stay, in their order.
  lines.take index ++ added ++ lines.drop index

/-- Behind some lines, others are put in. -/
theorem putIn_append (front rear added : List String) :
    putIn front.length added (front ++ rear) = front ++ (added ++ rear) := by
  simp [putIn]

/-- A line with another beginning in the place of the one it has, if it begins so. -/
def rebegin (old new line : String) : String :=
  -- Any other line stays as it is.
  if old.toList <+: line.toList then new ++ String.ofList (line.toList.drop old.length) else line

/-- A line that begins so gets the other beginning and is kept behind that. -/
theorem rebegin_append (old new rest : String) : rebegin old new (old ++ rest) = new ++ rest := by
  simp [rebegin, ← String.length_toList]

end Lines

namespace Slot

/-- The lines of a generated module for some number of names, with the block of one more name put
into a slot, below the blocks of the names up to some index. -/
def addBlock (space : String) (count index : Nat) (name : Name) (slot : Slot)
    (lines : List String) : List String :=
  -- Blocks of a slot are equally high, so the index tells how many of its lines to pass over.
  Lines.putIn (slot.offset count + index * slot.height)
    ((slot.block space (index == 0) name).map (Lines.pad slot.margin)) lines

/-- The lines of a generated module for some number of names, with the first line of a slot made
from one that opens a union into one that continues it. -/
def giveWay (count : Nat) (slot : Slot) (lines : List String) : List String :=
  -- Only the token changes, and the constructor behind it stays.
  lines.modify (slot.offset count) (Lines.rebegin "    = " "    | ")

/-- Putting a block into a slot adds as many lines as a block of the slot has. -/
theorem length_addBlock (space : String) (count index : Nat) (name : Name) (slot : Slot)
    (lines : List String) :
    (slot.addBlock space count index name lines).length = lines.length + slot.height := by
  -- What is taken in front and what is dropped behind are all the lines there were.
  simp only [addBlock, Lines.putIn, List.length_append, List.length_take, List.length_drop,
    List.length_map, length_block]
  omega

/-- Giving way keeps the number of lines. -/
theorem length_giveWay (count : Nat) (slot : Slot) (lines : List String) :
    (slot.giveWay count lines).length = lines.length :=
  List.length_modify _ _ _

/-! ### Slots of a larger roster -/

/-- The lines of a slot at its margin, where some names come first and the others continue. -/
def continued (space : String) (slot : Slot) (front rear : List Name) : List String :=
  -- Without names in front, none of the others opens the slot.
  (blocks space slot front).flatten.map (Lines.pad slot.margin) ++
    (rear.map (block space slot false)).flatten.map (Lines.pad slot.margin)

/-- At the margin, the blocks of some names have as many lines as their number and height tell. -/
theorem length_blocks_at_margin (space : String) (slot : Slot) (front : List Name) :
    ((blocks space slot front).flatten.map (Lines.pad slot.margin)).length =
      front.length * slot.height := by
  rw [List.length_map, length_flatten_blocks fun _ => height_of_mem_blocks, length_blocks]

/-- A slot of some names takes up its extent also where it goes on after other names. -/
theorem length_continued (space : String) (slot : Slot) {front rear : List Name}
    (filled : front ++ rear ≠ []) :
    (slot.continued space front rear).length = slot.extent (front ++ rear).length := by
  -- Whether a name opens or continues a slot, its block is equally high.
  have later : ∀ lines ∈ rear.map (block space slot false), lines.length = slot.height := by
    intro lines member
    obtain ⟨name, -, rfl⟩ := List.mem_map.mp member
    exact length_block space slot false name
  rw [continued, List.length_append, length_blocks_at_margin, List.length_map,
    length_flatten_blocks later, List.length_map,
    extent_of_pos slot (List.length_pos_iff.mpr filled), List.length_append, Nat.add_mul]

/-- Behind a first name, every name continues its slot. -/
theorem lines_append (space : String) (slot : Slot) {front : List Name} (filled : front ≠ [])
    (rear : List Name) :
    slot.lines space (front ++ rear) = slot.continued space front rear := by
  cases front with
  | nil => exact absurd rfl filled
  | cons first front => simp [lines, continued, blocks]

/-- The block of a new name goes between those of the names before it and those of the others. -/
theorem addBlock_continued (space : String) (slot : Slot) (name : Name) (front rear : List Name)
    {above : List String} (below : List String)
    (start : above.length = slot.offset (front ++ rear).length) :
    slot.addBlock space (front ++ rear).length front.length name
        (above ++ (slot.continued space front rear ++ below)) =
      above ++ (slot.lines space (front ++ name :: rear) ++ below) := by
  -- The index passes over the lines above the slot and the blocks of the names in front.
  have place : slot.offset (front ++ rear).length + front.length * slot.height =
      (above ++ (blocks space slot front).flatten.map (Lines.pad slot.margin)).length := by
    rw [← start, ← length_blocks_at_margin space slot front, ← List.length_append]
  -- Of the names in front the first opens the slot, and without any the new name does.
  have lines : slot.lines space (front ++ name :: rear) =
      (blocks space slot front).flatten.map (Lines.pad slot.margin) ++
        ((slot.block space (front.length == 0) name).map (Lines.pad slot.margin) ++
          (rear.map (block space slot false)).flatten.map (Lines.pad slot.margin)) := by
    cases front with
    | nil => simp [Slot.lines, blocks]
    | cons first front => simp [Slot.lines, blocks]
  rw [addBlock, place, continued, List.append_assoc, ← List.append_assoc above,
    Lines.putIn_append, lines]
  simp only [List.append_assoc]

/-- The line of a name in a union, where only what stands in front of the constructor tells whether
the name is the first. -/
theorem exists_block_of_union (space : String) {slot : Slot} (union : slot ∈ [models, messages])
    (name : Name) :
    ∃ ending, ∀ first, (slot.block space first name).map (Lines.pad slot.margin) =
      [(if first then "    = " else "    | ") ++ ending] := by
  -- Unions stand at a margin of four spaces, and their lines are not blank.
  have indented (first : Bool) (ending : String) :
      Lines.pad 4 (unionToken first ++ ending) =
        (if first then "    = " else "    | ") ++ ending := by
    have filled : unionToken first ++ ending ≠ "" := by cases first <;> simp [unionToken]
    rw [Lines.pad, if_neg filled, ← String.append_assoc]
    cases first <;> rfl
  -- Behind the token stands the constructor of the name, in either union.
  rcases List.mem_pair.mp union with rfl | rfl
  · refine ⟨modelConstructor name ++ " " ++ name.text ++ ".Model", fun first => ?_⟩
    rw [← indented]
    simp [block, margin, String.append_assoc]
  · refine ⟨messageConstructor name ++ " " ++ name.text ++ ".Msg", fun first => ?_⟩
    rw [← indented]
    simp [block, margin, String.append_assoc]

/-- A union opens with the line of the first name, and only this line is another one where that name
continues. -/
theorem exists_lines_of_union (space : String) {slot : Slot} (union : slot ∈ [models, messages])
    (first : Name) (rear : List Name) :
    ∃ ending later, slot.lines space (first :: rear) = ("    = " ++ ending) :: later ∧
      slot.continued space [] (first :: rear) = ("    | " ++ ending) :: later := by
  -- The token is all that tells the line of a first name from the line of any other.
  obtain ⟨ending, line⟩ := exists_block_of_union space union first
  refine ⟨ending, (rear.map (block space slot false)).flatten.map (Lines.pad slot.margin), ?_, ?_⟩
  · rw [lines, if_neg (List.cons_ne_nil _ _), blocks, List.flatten_cons, List.map_append, line]
    rfl
  · rw [continued, List.map_cons, List.flatten_cons, List.map_append, line]
    rfl

/-- A union whose first line gives way has a continuing line for every name. -/
theorem giveWay_lines (space : String) {slot : Slot} (union : slot ∈ [models, messages])
    (first : Name) (rear : List Name) {above : List String} (below : List String) {count : Nat}
    (start : above.length = slot.offset count) :
    slot.giveWay count (above ++ (slot.lines space (first :: rear) ++ below)) =
      above ++ (slot.continued space [] (first :: rear) ++ below) := by
  -- The lines differ at the first one only.
  obtain ⟨ending, later, opened, closed⟩ := exists_lines_of_union space union first rear
  -- The lines above the slot are passed over, and the one behind them begins as expected.
  rw [giveWay, ← start, ← Nat.add_zero above.length, List.modify, List.modifyTailIdx_add, opened,
    closed, List.cons_append, List.modifyTailIdx_zero, List.modifyHead_cons, Lines.rebegin_append]
  rfl

/-- A slot that is no union has the same lines for the first name as for any other. -/
theorem lines_of_not_union (space : String) {slot : Slot} (union : slot ∉ [models, messages])
    (first : Name) (rear : List Name) :
    slot.lines space (first :: rear) = slot.continued space [] (first :: rear) := by
  -- Only union tokens depend on which name comes first.
  have alike : slot.block space true first = slot.block space false first := by
    cases slot <;> first | rfl | simp at union
  rw [lines, if_neg (List.cons_ne_nil _ _), blocks, alike]
  rfl

end Slot

/-! ### Changes to a whole generated module -/

/-- Slots that are changed from the bottom up are changed each by itself, as the lines above a slot
are still those that its place is counted by. -/
theorem foldr_changes {slots : List Slot} {count : Nat} {moduleName : String}
    {change : Slot → List String → List String} {slotLines : Slot → List String}
    (changed : Slot → List String) (rest : List String)
    (ordered : slots.Pairwise fun upper lower => .hole lower ∉ upper.above ∧ upper ≠ lower)
    (due : ∀ slot : Slot, (slotLines slot).length = slot.extent count)
    (each : ∀ slot ∈ slots, ∀ above below : List String, above.length = slot.offset count →
      change slot (above ++ (slotLines slot ++ below)) = above ++ (changed slot ++ below)) :
    slots.foldr change (template.flatMap (Part.lines moduleName slotLines) ++ rest) =
      template.flatMap (Part.lines moduleName fun slot =>
        if slot ∈ slots then changed slot else slotLines slot) ++ rest := by
  -- The last slot is changed first, so the induction follows the slots from the bottom up.
  induction slots with
  | nil => simp
  | cons slot slots ih =>
    obtain ⟨lower, ordered⟩ := List.pairwise_cons.mp ordered
    rw [List.foldr_cons, ih ordered fun other member => each other (List.mem_cons_of_mem _ member)]
    -- Neither the slot nor what stands above it has been changed yet.
    have own : (if slot ∈ slots then changed slot else slotLines slot) = slotLines slot :=
      if_neg fun member => (lower slot member).2 rfl
    have due' : ∀ other, .hole other ∈ slot.above →
        (if other ∈ slots then changed other else slotLines other).length = other.extent count := by
      intro other inAbove
      rw [if_neg fun member => (lower other member).1 inAbove]
      exact due other
    obtain ⟨front, rear, start, around⟩ := slot.exists_around moduleName rest due'
    have before := around (slotLines slot)
    rw [Function.update_eq_self_iff.mpr own.symm] at before
    rw [before, each slot List.mem_cons_self front rear start, ← around (changed slot)]
    -- With the lines of this slot exchanged, the changed slots are those of the longer list.
    congr 3
    funext other
    by_cases same : other = slot
    · rw [same, Function.update_self, if_pos List.mem_cons_self]
    · rw [Function.update_of_ne same]
      simp only [List.mem_cons, same, false_or]

/-- Once its union lines have given way, no name of a generated module opens a slot. -/
theorem foldr_giveWay (space moduleName : String) {names : List Name} (filled : names ≠ [])
    (rest : List String) :
    [Slot.models, .messages].foldr (Slot.giveWay names.length)
        (template.flatMap (Part.lines moduleName fun slot => slot.lines space names) ++ rest) =
      template.flatMap (Part.lines moduleName fun slot =>
        slot.continued space [] names) ++ rest := by
  cases names with
  | nil => exact absurd rfl filled
  | cons first rear =>
    -- The two unions are changed, the lower one first.
    rw [foldr_changes (fun slot => slot.continued space [] (first :: rear)) rest
      (by decide +kernel) (fun slot => slot.length_lines space _)
      fun slot union above below start => slot.giveWay_lines space union first rear below start]
    -- The other slots do not show which name is the first.
    refine congrArg (fun slotLines => template.flatMap (Part.lines moduleName slotLines) ++ rest)
      (funext fun slot => ?_)
    split
    · rfl
    · rename_i union
      exact slot.lines_of_not_union space union first rear

/-- Between the names before it and the others, one more name adds its block to each slot, once the
union lines of a first name that it comes before have given way. -/
theorem foldr_addBlock (space moduleName : String) {front rear : List Name} (name : Name)
    (filled : front ++ rear ≠ []) (rest : List String) :
    let before := template.flatMap (Part.lines moduleName fun slot =>
      slot.lines space (front ++ rear)) ++ rest
    Slot.all.foldr (Slot.addBlock space (front ++ rear).length front.length name)
        (if front.length = 0 then
          [Slot.models, .messages].foldr (Slot.giveWay (front ++ rear).length) before
        else before) =
      template.flatMap (Part.lines moduleName fun slot =>
        slot.lines space (front ++ name :: rear)) ++ rest := by
  intro before
  -- Before the blocks are put in, every name behind the new one continues its slot.
  have continued : (if front.length = 0 then
      [Slot.models, .messages].foldr (Slot.giveWay (front ++ rear).length) before else before) =
      template.flatMap (Part.lines moduleName fun slot =>
        slot.continued space front rear) ++ rest := by
    split
    · -- Nothing stands before the new name, so the unions have given way.
      rename_i unnamed
      rw [List.length_eq_zero_iff] at unnamed
      subst unnamed
      exact foldr_giveWay space moduleName filled rest
    · rename_i named
      -- The first name stays the first.
      exact congrArg (fun slotLines => template.flatMap (Part.lines moduleName slotLines) ++ rest)
        (funext fun slot =>
          slot.lines_append space (fun unnamed => named (by rw [unnamed]; rfl)) rear)
  have each (slot : Slot) : slot ∈ Slot.all := by cases slot <;> decide
  -- Then all slots are changed, again from the lowest to the uppermost.
  rw [continued, foldr_changes (fun slot => slot.lines space (front ++ name :: rear)) rest
    (by decide +kernel) (fun slot => slot.length_continued space filled)
    fun slot _ above below start => slot.addBlock_continued space name front rear below start]
  simp only [each, if_true]

/-- In a generated module with a name or more, the first line of a union opens it. -/
theorem exists_opening_line (space moduleName : String) {slot : Slot}
    (union : slot ∈ [Slot.models, .messages]) {names : List Name} (filled : names ≠ [])
    (rest : List String) :
    ∃ ending, (template.flatMap (Part.lines moduleName fun slot =>
      slot.lines space names) ++ rest)[slot.offset names.length]? =
        some ("    = " ++ ending) := by
  -- The lines of the slot stand behind those above it, and the first of them opens the union.
  obtain ⟨first, rear, rfl⟩ := List.exists_cons_of_ne_nil filled
  obtain ⟨ending, later, opened, -⟩ := Slot.exists_lines_of_union space union first rear
  obtain ⟨above, below, start, around⟩ := slot.exists_around moduleName rest
    fun other _ => other.length_lines space (first :: rear)
  have lines := around (slot.lines space (first :: rear))
  rw [Function.update_eq_self_iff.mpr rfl] at lines
  refine ⟨ending, ?_⟩
  rw [lines, ← start, List.getElem?_append_right (Nat.le_refl _), Nat.sub_self, opened]
  rfl

/-- With one more name, a generated module is the one without it, changed in no more than these
ways: each slot has the block of the new name put in, at the place where the name belongs among the
others, which makes 26 lines in all, and if the name comes before all others, the lines that opened
the two unions continue them. -/
theorem Roster.new_name_adds_its_blocks {items larger : List Item} {name : Name}
    (settings : Settings) (paths paths' : List Path) (filled : items ≠ [])
    (new : name ∉ items.map Item.name)
    (joined : (larger.map Item.name).Perm (name :: items.map Item.name))
    (unbroken : ∀ other ∈ name :: items.map Item.name, other.Unbroken)
    (inSpace : '\n' ∉ settings.contentNamespace.toList)
    (inModule : '\n' ∉ settings.moduleName.toList) :
    let roster : Roster := { ofItems items with setAside := paths }
    let grown : Roster := { ofItems larger with setAside := paths' }
    let index := roster.names.countP fun other => compare other name = .lt
    let before := Lines.split (roster.document settings).contents
    let after := Lines.split (grown.document settings).contents
    grown.names = roster.names.take index ++ name :: roster.names.drop index ∧
    after = Slot.all.foldr (Slot.addBlock settings.contentNamespace roster.size index name)
      (if index = 0 then [Slot.models, .messages].foldr (Slot.giveWay roster.size) before
        else before) ∧
    (∀ slot ∈ [Slot.models, .messages], ∃ ending,
      before[slot.offset roster.size]? = some ("    = " ++ ending)) ∧
    Slot.all.map (fun slot =>
      (slot.block settings.contentNamespace (index == 0) name).length) =
        [1, 1, 3, 1, 11, 3, 3, 3] ∧
    after.length = before.length + 26 := by
  intro roster grown index before after
  have given : roster.names.Perm (items.map Item.name) := perm_names_ofItems items
  have given' : grown.names.Perm (larger.map Item.name) := perm_names_ofItems larger
  have put : grown.names = roster.names.take index ++ name :: roster.names.drop index :=
    names_ofItems_eq_put new joined
  -- A roster of some items has names.
  have named : roster.names ≠ [] := fun unnamed => filled (by
    rw [unnamed, List.nil_perm, List.map_eq_nil_iff] at given
    exact given)
  -- Both generated modules have the lines of their parts.
  have lines : before = template.flatMap (Part.lines settings.moduleName fun slot =>
      slot.lines settings.contentNamespace roster.names) ++ [""] :=
    roster.split_document (fun other member => unbroken other
      (List.mem_cons_of_mem _ (given.mem_iff.mp member))) inSpace inModule
  have lines' : after = template.flatMap (Part.lines settings.moduleName fun slot =>
      slot.lines settings.contentNamespace grown.names) ++ [""] :=
    grown.split_document (fun other member => unbroken other
      (joined.mem_iff.mp (given'.mem_iff.mp member))) inSpace inModule
  have parts : roster.names.take index ++ roster.names.drop index = roster.names :=
    List.take_append_drop index roster.names
  have width : (roster.names.take index).length = index :=
    List.length_take_of_le List.countP_le_length
  have count : roster.names.length = roster.size := List.length_map _
  -- The index splits the names, and both parts together are all of them.
  have changed : after = Slot.all.foldr
      (Slot.addBlock settings.contentNamespace roster.size index name)
      (if index = 0 then [Slot.models, .messages].foldr (Slot.giveWay roster.size) before
        else before) := by
    have added := foldr_addBlock settings.contentNamespace settings.moduleName name
      (parts.symm ▸ named) [""]
    rw [parts, width, count, ← lines, ← put, ← lines'] at added
    exact added.symm
  refine ⟨put, changed, fun slot union => ?_, ?_, ?_⟩
  · -- The unions are opened in the smaller module, which has a name.
    rw [lines, ← count]
    exact exists_opening_line _ _ union named [""]
  · simp [Slot.all, Slot.length_block, Slot.height]
  · -- Giving way changes lines in place, and each slot adds the lines of one block.
    have kept : (if index = 0 then [Slot.models, .messages].foldr (Slot.giveWay roster.size) before
        else before).length = before.length := by
      split
      · simp [Slot.length_giveWay]
      · rfl
    rw [changed, ← kept]
    simp only [Slot.all, List.foldr_cons, List.foldr_nil, Slot.length_addBlock, Slot.height]

/-- A name that comes before the only other one puts its blocks in front, and the unions that the
other one opened go on with it. -/
theorem Roster.new_name_adds_its_blocks_in_front :
    let items : List Item := [⟨⟨"Clock"⟩, .ofString "src/Clock.elm"⟩]
    let larger : List Item := [⟨⟨"Clock"⟩, ⟨[]⟩⟩, ⟨⟨"Alarm"⟩, ⟨[]⟩⟩]
    let roster : Roster := { ofItems items with setAside := [.ofString "src/notes"] }
    let grown : Roster := ofItems larger
    (items ≠ [] ∧ ⟨"Alarm"⟩ ∉ items.map Item.name ∧
      (larger.map Item.name).Perm (⟨"Alarm"⟩ :: items.map Item.name) ∧
      (∀ other ∈ (⟨"Alarm"⟩ : Name) :: items.map Item.name, other.Unbroken) ∧
      '\n' ∉ ({} : Settings).contentNamespace.toList ∧
      '\n' ∉ ({} : Settings).moduleName.toList) ∧
    grown.names = [⟨"Alarm"⟩, ⟨"Clock"⟩] ∧
    Lines.split (grown.document {}).contents =
      Slot.all.foldr (Slot.addBlock "Content" 1 0 ⟨"Alarm"⟩)
        ([Slot.models, .messages].foldr (Slot.giveWay 1)
          (Lines.split (roster.document {}).contents)) := by
  intro items larger roster grown
  have filled : items ≠ [] := by simp [items]
  have new : ⟨"Alarm"⟩ ∉ items.map Item.name := by decide
  have joined : (larger.map Item.name).Perm (⟨"Alarm"⟩ :: items.map Item.name) := by decide
  have unbroken : ∀ other ∈ (⟨"Alarm"⟩ : Name) :: items.map Item.name, other.Unbroken := by
    simp [items, Name.Unbroken]
  have inSpace : '\n' ∉ ({} : Settings).contentNamespace.toList := by decide
  have inModule : '\n' ∉ ({} : Settings).moduleName.toList := by decide
  -- The smaller module has one name, and the new one is lower.
  have single : roster.names = [⟨"Clock"⟩] := by
    simp [roster, items, ofItems, Roster.names]
  have size : roster.size = 1 := (List.length_map _).symm.trans (congrArg List.length single)
  have index : roster.names.countP (fun other => compare other ⟨"Alarm"⟩ = .lt) = 0 := by
    rw [single]
    decide
  obtain ⟨put, changed, -⟩ := new_name_adds_its_blocks {} [.ofString "src/notes"] [] filled new
    joined unbroken inSpace inModule
  rw [index, single] at put
  rw [index, size, if_pos rfl] at changed
  exact ⟨⟨filled, new, joined, unbroken, inSpace, inModule⟩, put, changed⟩

end Switchboard
