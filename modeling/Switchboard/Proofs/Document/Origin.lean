import Switchboard.Proofs.Document.Layout

/-!
What a generated module was made of can be read back from its text: the name of the module, the
names of the content modules and, if there are any of these, their namespace.
-/

namespace Switchboard

/-- What the text of a generated module depends on. -/
structure Origin where
  moduleName : String
  names : List Name
  /-- The namespace, which only the imports tell. -/
  space? : Option String
deriving DecidableEq, Repr

namespace Origin

/-- The text around the name of the module in its header. -/
def header : Frame :=
  { before := "module ", after := " exposing (..)" }

/-- The namespace that a line imports a name from. -/
def importedFrom? (name : Name) (line : String) : Option String :=
  if line = Slot.importLine "" name then some ""
  else Frame.gap? { before := "import ", after := "." ++ name.text ++ " as " ++ name.text } line

/-- The origin that the lines of a generated module tell. -/
def ofLines? (lines : List String) : Option Origin :=
  -- The header is the fourth line, and the models have the names without the namespace.
  (lines[3]?.bind header.gap?).bind fun moduleName =>
    (Slot.models.namesIn? "" lines).map fun names =>
      { moduleName, names
        space? := names.head?.bind fun name =>
          (Slot.imports.blocksIn lines).flatten.head?.bind (importedFrom? name) }

/-- The origin that the text of a generated module tells. -/
def ofContents? (contents : String) : Option Origin :=
  ofLines? (Lines.split contents)

/-- The namespace of an import is read back. -/
theorem importedFrom?_importLine (space : String) (name : Name) :
    importedFrom? name (Slot.importLine space name) = some space := by
  by_cases bare : space = ""
  · rw [bare, importedFrom?, if_pos rfl]
  · -- An import with a namespace is longer than the one without.
    have longer : Slot.importLine space name ≠ Slot.importLine "" name := by
      intro same
      have sizes := congrArg String.length same
      have dot : ".".length = 1 := rfl
      simp [Slot.importLine, bare] at sizes
      omega
    -- So the line is read by its frame, in which the namespace is the gap.
    rw [importedFrom?, if_neg longer, Frame.gap?_eq_some_iff, Slot.importLine, if_neg bare]
    simp [Frame.fill, String.append_assoc]

end Origin

section

variable {space moduleName : String} {names : List Name}
  (inNames : ∀ name ∈ names, '\n' ∉ name.text.toList)

include inNames

/-- The imports have their lines even if a name ends in a return. -/
theorem Slot.split_imports (inSpace : '\n' ∉ space.toList) :
    Lines.split ((Part.hole .imports).text moduleName fun slot => slot.body space names) =
      Slot.imports.lines space names :=
  -- Imports are not read line by line, so it does not matter how their lines end.
  Slot.split_hole (fun _ => Slot.notMem_blocks (Or.inl rfl) (fun _ => inSpace) inNames)
    fun fixed => absurd rfl fixed

/-- The models have their lines even if a name ends in a return. -/
theorem Slot.split_models :
    Lines.split ((Part.hole .models).text moduleName fun slot => slot.body space names) =
      Slot.models.lines space names := by
  refine Slot.split_hole (fun _ => Slot.notMem_blocks (Or.inl rfl)
    (fun imports => by cases imports) inNames) fun _ line member => ?_
  obtain ⟨lines, block, within⟩ := List.mem_flatten.mp member
  obtain ⟨first, name, -, rfl⟩ := Slot.exists_of_mem_blocks block
  -- Returns inside a line stay, and the end of this one is fixed text.
  have closed : ".Model".toList.getLast? = some 'l' := rfl
  rw [List.mem_singleton.mp within, String.toList_append, List.getLast?_append, closed]
  simp

/-- The lines of a generated module tell its origin. -/
theorem Origin.ofContents?_fill (inSpace : '\n' ∉ space.toList)
    (inModule : '\n' ∉ moduleName.toList) :
    Origin.ofContents? (fill moduleName fun slot => slot.body space names) =
      some ⟨moduleName, names, if names = [] then none else some space⟩ := by
  -- The imports stand above the models, and no slot above the imports.
  have upToImports : ∀ slot, .hole slot ∈ Slot.imports.above ∨ slot = .imports →
      slot = .imports := by
    intro slot
    cases slot <;> decide
  have upToModels : ∀ slot, .hole slot ∈ Slot.models.above ∨ slot = .models →
      slot = .imports ∨ slot = .models := by
    intro slot
    cases slot <;> decide
  -- The slots below the models need not have their lines, as names with returns break there.
  rw [ofContents?, split_fill inModule]
  generalize written : (fun slot => Lines.split ((Part.hole slot).text moduleName
    fun slot => slot.body space names)) = slotLines
  have imports : slotLines .imports = Slot.imports.lines space names := by
    rw [← written]
    exact Slot.split_imports inNames inSpace
  have models : slotLines .models = Slot.models.lines space names := by
    rw [← written]
    exact Slot.split_models inNames
  -- Nothing of variable length stands above the header.
  have header : (template.flatMap (Part.lines moduleName slotLines) ++ [""])[3]? =
      some (Origin.header.fill moduleName) := by
    simp [Origin.header, Frame.fill, template, Part.lines]
  have fromImports : Slot.imports.blocksIn
      (template.flatMap (Part.lines moduleName slotLines) ++ [""]) =
      Slot.imports.blocks space names := by
    refine Slot.blocksIn_flatMap _ fun slot passed => ?_
    rw [upToImports slot passed, imports]
  have fromModels : Slot.models.blocksIn
      (template.flatMap (Part.lines moduleName slotLines) ++ [""]) =
      Slot.models.blocks space names := by
    refine Slot.blocksIn_flatMap _ fun slot passed => ?_
    rcases upToModels slot passed with rfl | rfl
    · exact imports
    · exact models
  -- The models are the same whatever the namespace is.
  have blind : Slot.models.blocks space names = Slot.models.blocks "" names := by
    cases names <;> rfl
  rw [ofLines?, header, Slot.namesIn?_of_blocksIn (fromModels.trans blind), fromImports,
    Option.bind_some, Frame.gap?_eq_some_iff.mpr rfl]
  cases names with
  | nil => rfl
  | cons name rest => simp [Slot.blocks, Slot.block, importedFrom?_importLine]

end

/-- The origin of a generated module is read back from its text, so two generated modules have the
same text only if they have the same name and the same names in the same order, imported from the
same namespace if there are any. -/
theorem Roster.contents_determine_origin {left right : Roster} {settings others : Settings}
    (inLeft : ∀ name ∈ left.names, '\n' ∉ name.text.toList)
    (inRight : ∀ name ∈ right.names, '\n' ∉ name.text.toList)
    (inSpace : '\n' ∉ settings.contentNamespace.toList)
    (inSpace' : '\n' ∉ others.contentNamespace.toList)
    (inModule : '\n' ∉ settings.moduleName.toList)
    (inModule' : '\n' ∉ others.moduleName.toList) :
    Origin.ofContents? (left.document settings).contents =
      some ⟨settings.moduleName, left.names,
        if left.names = [] then none else some settings.contentNamespace⟩ ∧
    ((left.document settings).contents = (right.document others).contents →
      settings.moduleName = others.moduleName ∧ left.names = right.names ∧
        (left.names ≠ [] → settings.contentNamespace = others.contentNamespace)) := by
  have read := Origin.ofContents?_fill inLeft inSpace inModule
  have read' := Origin.ofContents?_fill inRight inSpace' inModule'
  refine ⟨read, fun same => ?_⟩
  -- Both origins are read from one text.
  have origins := read.symm.trans ((congrArg Origin.ofContents? same).trans read')
  simp only [Option.some.injEq, Origin.mk.injEq] at origins
  obtain ⟨modules, names, spaces⟩ := origins
  refine ⟨modules, names, fun named => ?_⟩
  -- With names both origins tell their namespace.
  rwa [if_neg named, if_neg (names ▸ named), Option.some.injEq] at spaces

/-- Names that look like the text around them are read back, and the files they come from do not
matter. -/
theorem Roster.contents_determine_origin_of_lookalikes :
    let left : Roster :=
      { items := [⟨⟨" as "⟩, ⟨[]⟩⟩, ⟨⟨"A\r"⟩, ⟨[]⟩⟩, ⟨⟨"A\r"⟩, ⟨[]⟩⟩, ⟨⟨"B.Model"⟩, ⟨[]⟩⟩] }
    let right : Roster := { items := left.items.map fun item => { item with source := ⟨[47]⟩ } }
    let settings : Settings := { contentNamespace := " as .", moduleName := "M exposing (..)" }
    Origin.ofContents? (left.document settings).contents =
        some ⟨"M exposing (..)", [⟨" as "⟩, ⟨"A\r"⟩, ⟨"A\r"⟩, ⟨"B.Model"⟩], some " as ."⟩ ∧
      (left.document settings).contents = (right.document settings).contents ∧
      left.names = right.names := by
  intro left right settings
  have inLeft : ∀ name ∈ left.names, '\n' ∉ name.text.toList := by simp [left, Roster.names]
  have inRight : ∀ name ∈ right.names, '\n' ∉ name.text.toList := by
    simp [left, right, Roster.names]
  -- The two rosters differ in the sources of their items only.
  have same : (left.document settings).contents = (right.document settings).contents := rfl
  have determined := contents_determine_origin inLeft inRight
    (by decide : '\n' ∉ settings.contentNamespace.toList)
    (by decide : '\n' ∉ settings.contentNamespace.toList)
    (by decide : '\n' ∉ settings.moduleName.toList)
    (by decide : '\n' ∉ settings.moduleName.toList)
  exact ⟨determined.1, same, (determined.2 same).2.1⟩

end Switchboard
