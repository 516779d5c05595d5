import Switchboard.Proofs.Document.Layout

/-!
The slots of a generated module are in step: each has one block per name, in the order of the names,
so what stands at some index of one slot belongs to what stands at that index of any other.
-/

namespace Switchboard

namespace Slot

/-- The lines of a slot's text are those of its blocks, or a blank one. -/
theorem split_body {space : String} {slot : Slot} {names : List Name}
    (absent : ∀ line ∈ (blocks space slot names).flatten, '\n' ∉ line.toList) :
    Lines.split (slot.body space names) =
      if names = [] then [""] else (blocks space slot names).flatten := by
  -- The text joins the lines, and splitting undoes that unless there are none.
  rw [body, Lines.split_join absent]
  simp only [flatten_blocks_eq_nil_iff]

/-- The block of a name among the models is one constructor, with the token for its index. -/
theorem block_models (space : String) (index : Nat) (name : Name) :
    block space models (index == 0) name =
      [(if index = 0 then "= " else "| ") ++ "Mdl" ++ name.text ++ " " ++ name.text ++
        ".Model"] := by
  simp [block, unionToken, modelConstructor, String.append_assoc]

/-- The block of a name among the messages is one constructor, with the token for its index. -/
theorem block_messages (space : String) (index : Nat) (name : Name) :
    block space messages (index == 0) name =
      [(if index = 0 then "= " else "| ") ++ "Msg" ++ name.text ++ " " ++ name.text ++
        ".Msg"] := by
  simp [block, unionToken, messageConstructor, String.append_assoc]

/-- At the margin of a slot, lines that are not empty stand behind no spaces in the imports, behind
four in the unions and behind eight in the arms. -/
theorem pad_margin (slot : Slot) :
    Lines.pad slot.margin = fun line =>
      if line = "" then ""
      else if slot = imports then line
      else if slot ∈ [models, messages] then "    " ++ line
      else "        " ++ line := by
  funext line
  -- Each margin is a number that spells out its spaces.
  cases slot <;> simp [Lines.pad, margin, List.replicate]

end Slot

/-- Without line feeds in the settings and breaks in the names, a generated module has the lines of
its parts, with each slot at its margin. -/
theorem Roster.split_document (roster : Roster) {settings : Settings}
    (unbroken : ∀ name ∈ roster.names, name.Unbroken)
    (inSpace : '\n' ∉ settings.contentNamespace.toList)
    (inModule : '\n' ∉ settings.moduleName.toList) :
    Lines.split (roster.document settings).contents =
      template.flatMap (Part.lines settings.moduleName fun slot =>
        slot.lines settings.contentNamespace roster.names) ++ [""] := by
  have holes (slot : Slot) : Lines.split ((Part.hole slot).text settings.moduleName fun slot =>
      slot.body settings.contentNamespace roster.names) =
      slot.lines settings.contentNamespace roster.names := by
    refine Slot.split_hole (fun _ => Slot.notMem_blocks (Or.inl rfl) (fun _ => inSpace)
      fun name named => (unbroken name named).1) fun fixed line member last => ?_
    -- The imports are not read line by line, and no other line has a return in it.
    exact Slot.notMem_blocks (Or.inr rfl) (fun imports => absurd imports fixed)
      (fun name named => (unbroken name named).2) member (List.mem_of_getLast? last)
  -- Outside the slots, only the module's own name could break a line.
  rw [Roster.document, split_fill inModule]
  simp only [holes]

/-- The text of each slot is cut into one block per name, and the blocks of the two unions open with
`= ` or go on with `| `. The generated module holds these blocks in the place of the slot, each line
that is not empty behind no spaces in the imports, four in the unions and eight in the arms. From
each slot the same names are read, and a slot without names is a blank line. -/
theorem Roster.slots_hold_blocks_in_order (roster : Roster) (settings : Settings)
    (unbroken : ∀ name ∈ roster.names, name.Unbroken)
    (inSpace : '\n' ∉ settings.contentNamespace.toList)
    (inModule : '\n' ∉ settings.moduleName.toList) :
    (∀ slot : Slot, Blocks.cut (Lines.split (slot.body settings.contentNamespace roster.names)) =
      (if roster.names = [] then [""] else [],
        roster.names.mapIdx fun index name =>
          slot.block settings.contentNamespace (index == 0) name)) ∧
    (Blocks.cut (Lines.split (Slot.models.body settings.contentNamespace roster.names))).2 =
      roster.names.mapIdx (fun index name =>
        [(if index = 0 then "= " else "| ") ++ "Mdl" ++ name.text ++ " " ++ name.text ++
          ".Model"]) ∧
    (Blocks.cut (Lines.split (Slot.messages.body settings.contentNamespace roster.names))).2 =
      roster.names.mapIdx (fun index name =>
        [(if index = 0 then "= " else "| ") ++ "Msg" ++ name.text ++ " " ++ name.text ++
          ".Msg"]) ∧
    Lines.split (roster.document settings).contents =
      template.flatMap (Part.lines settings.moduleName fun slot =>
        (Lines.split (slot.body settings.contentNamespace roster.names)).map fun line =>
          if line = "" then ""
          else if slot = .imports then line
          else if slot ∈ [Slot.models, .messages] then "    " ++ line
          else "        " ++ line) ++ [""] ∧
    (roster.names = [] → ∀ slot : Slot,
      Lines.split (slot.body settings.contentNamespace roster.names) = [""]) ∧
    ∀ slot : Slot, slot.namesIn? settings.contentNamespace
      (Lines.split (roster.document settings).contents) = some roster.names := by
  -- None of the names and no namespace breaks a line, so the text of a slot splits into its lines.
  have bodies (slot : Slot) :
      Lines.split (slot.body settings.contentNamespace roster.names) =
        if roster.names = [] then [""]
        else (slot.blocks settings.contentNamespace roster.names).flatten :=
    Slot.split_body fun _ => Slot.notMem_blocks (Or.inl rfl) (fun _ => inSpace)
      fun name named => (unbroken name named).1
  -- The lines of a slot open a block for each name, and none in between.
  have cuts (slot : Slot) :
      Blocks.cut (Lines.split (slot.body settings.contentNamespace roster.names)) =
        (if roster.names = [] then [""] else [],
          roster.names.mapIdx fun index name =>
            slot.block settings.contentNamespace (index == 0) name) := by
    rw [bodies, Slot.cut_flatten_blocks, Slot.blocks_eq_mapIdx]
  have document := roster.split_document unbroken inSpace inModule
  -- The blocks, those of the two unions, the lines in the generated module, the empty slots, and
  -- the names read back.
  refine ⟨cuts, ?_, ?_, ?_, fun unnamed slot => ?_, fun slot => ?_⟩
  · simp only [cuts, Slot.block_models]
  · simp only [cuts, Slot.block_messages]
  · rw [document]
    -- The parts are the same, so the lines of each slot are compared.
    refine congrArg (fun slotLines => template.flatMap (Part.lines _ slotLines) ++ [""])
      (funext fun slot => ?_)
    rw [bodies, Slot.lines, Slot.pad_margin]
    split <;> rfl
  · rw [bodies, if_pos unnamed]
  · rw [document]
    exact Slot.namesIn?_of_blocksIn (Slot.blocksIn_flatMap _ fun _ _ => rfl)

/-- A name that occurs twice, next to one that is blank, is read twice from the updates. -/
theorem Roster.slots_hold_blocks_in_order_repeated :
    let roster : Roster := { items := [⟨⟨""⟩, ⟨[]⟩⟩, ⟨⟨" model ->"⟩, ⟨[]⟩⟩, ⟨⟨" model ->"⟩, ⟨[]⟩⟩] }
    (∀ name ∈ roster.names, name.Unbroken) ∧
      Slot.update.namesIn? "Content" (Lines.split (roster.document {}).contents) =
        some [⟨""⟩, ⟨" model ->"⟩, ⟨" model ->"⟩] := by
  intro roster
  have unbroken : ∀ name ∈ roster.names, name.Unbroken := by
    simp [roster, Roster.names, Name.Unbroken]
  exact ⟨unbroken,
    (roster.slots_hold_blocks_in_order {} unbroken (by decide) (by decide)).2.2.2.2.2 .update⟩

end Switchboard
