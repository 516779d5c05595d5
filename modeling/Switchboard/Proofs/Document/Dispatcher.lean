import Switchboard.Proofs.Document.Lines
import Switchboard.Proofs.Document.Reading

/-! The five dispatchers of a generated module, found in its text by their headings. -/

namespace Switchboard

namespace Code

/-- The names that lines at the margin head definitions of. -/
def heads (lines : List (List Char)) : List String :=
  -- An indented line belongs to a definition and heads none.
  lines.filterMap fun line =>
    if (dedent? line).isSome then none else (heading? line).map Prod.fst

/-- The names headed in two runs of lines are those of the first and those of the second. -/
theorem heads_append (front rest : List (List Char)) :
    heads (front ++ rest) = heads front ++ heads rest :=
  List.filterMap_append

/-- Lines of which none heads anything head nothing together. -/
theorem heads_eq_nil {lines : List (List Char)} (each : ∀ line ∈ lines, heads [line] = []) :
    heads lines = [] :=
  List.filterMap_eq_nil_iff.mpr fun line member =>
    List.filterMap_eq_nil_iff.mp (each line member) line List.mem_cons_self

/-- An indented line heads nothing. -/
private theorem heads_shift (line : List Char) : heads [shift line] = [] :=
  rfl

/-- A line that starts with a keyword heads nothing. -/
theorem heads_keyword {word : String} (keyword : word ∈ keywords) (rest : List Char) :
    heads [word.toList ++ ' ' :: rest] = [] := by
  have isWord : Words.IsWord word := by
    have known : ∀ word ∈ keywords, word ≠ "" ∧ word.toList.all Words.isPlain = true := by decide
    exact ⟨(known word keyword).1, List.all_eq_true.mp (known word keyword).2⟩
  -- The keyword is the first word, so the line declares something else.
  have words : Words.read (word.toList ++ ' ' :: rest) = word :: Words.read (' ' :: rest) :=
    Words.read_append isWord rfl
  have headless : heading? (word.toList ++ ' ' :: rest) = none := by
    rw [heading?, words]
    exact if_neg fun heads => heads.1 keyword
  simp [heads, headless]

/-- Where a name is not headed it is not defined. -/
theorem definitionsAmong_eq_nil {name : String} {lines : List (List Char)}
    (absent : name ∉ heads lines) : definitionsAmong name lines = [] := by
  refine List.filterMap_eq_nil_iff.mpr fun part member => ?_
  obtain ⟨inside, margin⟩ := Section.head_of_mem_outline member
  rw [defined?]
  cases found : heading? part.head with
  | none => rfl
  | some heading =>
    -- The heading of the section is among those of the lines.
    have headed : heading.1 ∈ heads lines :=
      List.mem_filterMap.mpr ⟨part.head, inside, by simp [margin, found]⟩
    -- So it heads another name than the one asked for.
    refine if_neg fun same => absent ?_
    rwa [same] at headed

/-- A line without breaks is the only line of a text, unless it is blank. -/
theorem lines_of_notMem {text : String} (absent : '\n' ∉ text.toList) (filled : text ≠ "") :
    lines text = [text.toList] := by
  rw [lines, pieces_of_notMem absent]
  simp [String.toList_eq_nil_iff, filled]

end Code

/-- The lines of code that a part has in a generated module. -/
def Part.code (space moduleName : String) (names : List Name) (part : Part) : List (List Char) :=
  Code.lines (part.text moduleName fun slot => slot.body space names)

/-- The lines of code of a generated module are those of its parts. -/
theorem Code.lines_fill (space moduleName : String) (names : List Name) :
    lines (fill moduleName fun slot => slot.body space names) =
      template.flatMap (Part.code space moduleName names) := by
  rw [lines, pieces_fill, List.filter_append, List.filter_flatMap]
  exact List.append_nil _

namespace Part

variable {space moduleName : String} {names : List Name}

/-- A fixed part has the code of its line. -/
theorem code_fixed (line : String) :
    (fixed line).code space moduleName names = Code.lines line :=
  rfl

/-- A slot moved to its margin has the lines of its blocks that are not blank. -/
theorem code_hole {slot : Slot} (fixed : slot ≠ .imports)
    (unbroken : ∀ name ∈ names, name.Unbroken) :
    (hole slot).code space moduleName names =
      ((slot.blocks space names).flatten.filter (· ≠ "")).map fun line =>
        List.replicate slot.margin ' ' ++ line.toList := by
  -- Of all slots only the imports are not moved.
  have text : (hole slot).text moduleName (fun slot => slot.body space names) =
      Lines.indent slot.margin (slot.body space names) := by
    cases slot with
    | imports => exact absurd rfl fixed
    | _ => rfl
  -- Padding leaves blank lines blank and brings in no others.
  have blank (line : String) :
      (!(Lines.pad slot.margin line).toList.isEmpty) = decide (line ≠ "") := by
    by_cases empty : line = "" <;> simp [Lines.pad, empty, String.toList_eq_nil_iff]
  rw [code, Code.lines, text, Slot.pieces_indent_body fixed unbroken]
  split
  · rename_i unnamed
    rw [unnamed]
    rfl
  · rw [List.filter_map]
    simp only [Function.comp_def, blank]
    refine List.map_congr_left fun line member => ?_
    have filled : line ≠ "" := by simpa using List.of_mem_filter member
    simp [Lines.pad, filled]

/-- Without line feeds in the namespace, the code of the imports is one line per name. -/
theorem code_imports (unbroken : ∀ name ∈ names, name.Unbroken) (inSpace : '\n' ∉ space.toList)
    {line : List Char} (member : line ∈ (hole .imports).code space moduleName names) :
    ∃ name ∈ names, line = (Slot.importLine space name).toList := by
  rw [code, Code.lines, text, Slot.body, Lines.pieces_join] at member
  · -- Imports are not moved, so a line of theirs is the line of some block.
    split at member
    · cases member
    · obtain ⟨text, within, rfl⟩ := List.mem_map.mp (List.mem_of_mem_filter member)
      obtain ⟨lines, block, within⟩ := List.mem_flatten.mp within
      obtain ⟨first, name, named, rfl⟩ := Slot.exists_of_mem_blocks block
      exact ⟨name, named, congrArg String.toList (List.mem_singleton.mp within)⟩
  · intro text within
    exact Slot.notMem_blocks (Or.inl rfl) (fun _ => inSpace)
      (fun name named => (unbroken name named).1) within

/-- The names that a part heads definitions of, whatever the settings and the names are. -/
def heads : Part → List String
  | fixed line => Code.heads (Code.lines line)
  | naming .. | hole _ => []

/-- Whether the text around the module's name is that of the template. -/
def IsKnown : Part → Prop
  | naming before after => (before = "module " ∨ before = "    \"") ∧ '\n' ∉ after.toList
  | fixed _ | hole _ => True

/-- Without line feeds in the settings, only fixed parts head definitions. -/
theorem heads_code (unbroken : ∀ name ∈ names, name.Unbroken) (inSpace : '\n' ∉ space.toList)
    (inModule : '\n' ∉ moduleName.toList) {part : Part} (known : part.IsKnown) :
    Code.heads (part.code space moduleName names) = part.heads := by
  cases part with
  | fixed line => rfl
  | naming before after =>
    obtain ⟨known, inAfter⟩ := known
    rcases known with rfl | rfl
    · -- The header starts with a keyword.
      rw [code, text, Code.lines_of_notMem (by simp [inModule, inAfter]) (by simp)]
      have keyword : ("module " ++ moduleName ++ after).toList =
          "module".toList ++ ' ' :: (moduleName ++ after).toList := by simp
      rw [keyword]
      exact Code.heads_keyword (by decide) _
    · -- The wording of the mismatch is indented.
      rw [code, text, Code.lines_of_notMem (by simp [inModule, inAfter]) (by simp)]
      have inside : ("    \"" ++ moduleName ++ after).toList =
          shift ('"' :: (moduleName ++ after).toList) := by simp [shift]
      rw [inside]
      exact Code.heads_shift _
  | hole slot =>
    refine Code.heads_eq_nil fun line member => ?_
    by_cases imports : slot = .imports
    · -- The lines of the imports start with a keyword.
      subst imports
      obtain ⟨name, -, rfl⟩ := code_imports unbroken inSpace member
      have keyword : ∃ rest : String,
          (Slot.importLine space name).toList = "import".toList ++ ' ' :: rest.toList := by
        unfold Slot.importLine
        split
        · exact ⟨name.text, by simp⟩
        · exact ⟨space ++ "." ++ name.text ++ " as " ++ name.text, by simp⟩
      obtain ⟨rest, keyword⟩ := keyword
      rw [keyword]
      exact Code.heads_keyword (by decide) _
    · -- The lines of every other slot are indented.
      rw [code_hole imports unbroken] at member
      obtain ⟨text, -, rfl⟩ := List.mem_map.mp member
      cases slot with
      | imports => exact absurd rfl imports
      | _ => exact Code.heads_shift _

/-- Around the module's name the template has known text. -/
theorem isKnown_of_mem_template : ∀ part ∈ template, part.IsKnown := by
  simp [template, IsKnown]

end Part

/-- The names a generated module defines, in order. -/
def definedNames : List String :=
  ["menuOptions", "mismatchError", "update", "viewInside", "viewOutside", "subscriptions"]

/-- The fixed parts of the template head one definition of each defined name. -/
theorem heads_template : template.flatMap Part.heads = definedNames := by
  decide +kernel

/-- Without line feeds in the settings, a generated module defines each of its names once. -/
theorem Code.heads_fill {space moduleName : String} {names : List Name}
    (unbroken : ∀ name ∈ names, name.Unbroken) (inSpace : '\n' ∉ space.toList)
    (inModule : '\n' ∉ moduleName.toList) :
    heads (lines (fill moduleName fun slot => slot.body space names)) = definedNames := by
  -- The headings of the module are those of its parts.
  rw [lines_fill, heads, List.filterMap_flatMap, ← heads_template]
  -- Part by part, the headings are those that the template fixes.
  refine List.flatMap_congr fun part member => ?_
  exact Part.heads_code unbroken inSpace inModule (Part.isKnown_of_mem_template part member)

/-- A dispatcher of the generated module. -/
inductive Dispatcher where
  | menuOptions
  | update
  | viewInside
  | viewOutside
  | subscriptions
deriving DecidableEq, Repr

namespace Dispatcher

/-- The name a dispatcher is defined under. -/
def name : Dispatcher → String
  | menuOptions => "menuOptions"
  | update => "update"
  | viewInside => "viewInside"
  | viewOutside => "viewOutside"
  | subscriptions => "subscriptions"

/-- The parameters of a dispatcher. -/
def parameters : Dispatcher → List String
  | update => ["multiMsg", "multiModel"]
  | viewInside | viewOutside => ["pos", "radius", "multiModel"]
  | menuOptions | subscriptions => ["multiModel"]

/-- The parameter whose constructor chooses the arm. -/
def subject : Dispatcher → String
  | update => "multiMsg"
  | _ => "multiModel"

/-- The slot that holds the arms. -/
def slot : Dispatcher → Slot
  | menuOptions => .menu
  | update => .update
  | viewInside => .inside
  | viewOutside => .outside
  | subscriptions => .subscriptions

/-- The line that heads the definition. -/
def heading (dispatcher : Dispatcher) : String :=
  " ".intercalate (dispatcher.name :: dispatcher.parameters ++ ["="])

/-- The line that opens the case expression. -/
def opening (dispatcher : Dispatcher) : String :=
  " ".intercalate ["case", dispatcher.subject, "of"]

/-- How many parts of the template stand above the heading. -/
def start : Dispatcher → Nat
  | menuOptions => 21
  | update => 40
  | viewInside => 50
  | viewOutside => 56
  | subscriptions => 66

/-- The parts of the template above the heading. -/
def above (dispatcher : Dispatcher) : List Part :=
  template.take dispatcher.start

/-- The parts of the template below the arms. -/
def below (dispatcher : Dispatcher) : List Part :=
  -- The heading, the opening and the hole for the arms are passed over.
  template.drop (dispatcher.start + 3)

/-- The template has the heading, the opening and the arms of a dispatcher next to each other. -/
theorem template_eq (dispatcher : Dispatcher) :
    template = dispatcher.above ++ .fixed dispatcher.heading ::
      .fixed ("    " ++ dispatcher.opening) :: .hole dispatcher.slot :: dispatcher.below := by
  cases dispatcher <;> rfl

/-- The lines of the arms of a dispatcher, as they stand at the margin. -/
def armLines (dispatcher : Dispatcher) (names : List Name) : List (List Char) :=
  ((Slot.blocks "" dispatcher.slot names).flatten.filter (· ≠ "")).map String.toList

/-- The section of the generated module that defines a dispatcher. -/
def part (dispatcher : Dispatcher) (names : List Name) : Section :=
  ⟨dispatcher.heading.toList,
    dispatcher.opening.toList :: (dispatcher.armLines names).map shift⟩

/-- The definition of a dispatcher. -/
def definition (dispatcher : Dispatcher) (names : List Name) : Code.Definition :=
  ⟨dispatcher.parameters, (dispatcher.part names).body⟩

/-- The heading of a dispatcher is read as its name and its parameters. -/
private theorem heading?_heading (dispatcher : Dispatcher) :
    Code.heading? dispatcher.heading.toList =
      some (dispatcher.name, dispatcher.parameters) := by
  cases dispatcher <;> rfl

/-- The section of a dispatcher starts at the margin. -/
private theorem dedent?_part (dispatcher : Dispatcher) (names : List Name) :
    dedent? (dispatcher.part names).head = none := by
  cases dispatcher <;> rfl

/-- The section of a dispatcher is read as its definition. -/
private theorem defined?_part (dispatcher : Dispatcher) (names : List Name) :
    Code.defined? dispatcher.name (dispatcher.part names) =
      some (dispatcher.definition names) := by
  rw [Code.defined?, part, heading?_heading]
  exact if_pos rfl

/-- The section of a dispatcher heads its name and nothing else. -/
theorem heads_part (dispatcher : Dispatcher) (names : List Name) :
    Code.heads (dispatcher.part names).lines = [dispatcher.name] := by
  -- The body is indented, so only the heading counts.
  have body : Code.heads ((dispatcher.part names).body.map shift) = [] := by
    refine Code.heads_eq_nil fun line member => ?_
    obtain ⟨inner, -, rfl⟩ := List.mem_map.mp member
    exact Code.heads_shift inner
  -- The heading is at the margin and is read as one.
  have head : Code.heads [(dispatcher.part names).head] = [dispatcher.name] := by
    have margin := dispatcher.dedent?_part names
    simp only [part] at margin
    simp [Code.heads, part, margin, heading?_heading]
  rw [Section.lines, ← List.singleton_append, Code.heads_append, head, body]
  rfl

/-- The arms of a dispatcher do not depend on the namespace. -/
private theorem blocks_space (dispatcher : Dispatcher) (space : String) (names : List Name) :
    dispatcher.slot.blocks space names = dispatcher.slot.blocks "" names := by
  cases names <;> cases dispatcher <;> rfl

/-- Below a dispatcher nothing follows, or only blank lines before a fixed line at the margin. -/
theorem below_eq (dispatcher : Dispatcher) :
    dispatcher.below = [] ∨ ∃ blanks text rest,
      dispatcher.below = List.replicate blanks (.fixed "") ++ .fixed text :: rest ∧
        Code.lines text = [text.toList] ∧ dedent? text.toList = none := by
  -- What follows is the title of the next part, or the signature of the next definition.
  cases dispatcher with
  | menuOptions => exact Or.inr ⟨3, "-- UPDATE", _, rfl, rfl, rfl⟩
  | update => exact Or.inr ⟨3, "-- VIEW", _, rfl, rfl, rfl⟩
  | viewInside =>
    refine Or.inr ⟨2, "viewOutside : ( Float, Float ) -> Float -> MultiModel -> " ++
      "Html.Html MultiMsg", _, rfl, rfl, rfl⟩
  | viewOutside => exact Or.inr ⟨3, "-- SUBSCRIPTIONS", _, rfl, rfl, rfl⟩
  | subscriptions => exact Or.inl rfl

/-- The code below a dispatcher starts at the margin. -/
theorem atMargin_below (dispatcher : Dispatcher) (space moduleName : String)
    (names : List Name) :
    Section.AtMargin (dispatcher.below.flatMap (Part.code space moduleName names)) := by
  rcases dispatcher.below_eq with ended | ⟨blanks, text, rest, below, alone, margin⟩
  · simp [ended, Section.AtMargin]
  · -- Blank parts have no lines of code, so the fixed line is the first.
    have skipped :
        (List.replicate blanks (.fixed "")).flatMap (Part.code space moduleName names) = [] := by
      refine List.flatMap_eq_nil_iff.mpr fun part member => ?_
      rw [List.eq_of_mem_replicate member]
      rfl
    intro line first
    rw [below, List.flatMap_append, skipped, List.nil_append, List.flatMap_cons, Part.code,
      Part.text, alone] at first
    cases first
    exact margin

section

variable (dispatcher : Dispatcher) (space moduleName : String) {names : List Name}
  (unbroken : ∀ name ∈ names, name.Unbroken)

include unbroken

/-- The code of a generated module holds the section of each dispatcher in one piece. -/
theorem lines_eq :
    Code.lines (fill moduleName fun slot => slot.body space names) =
      dispatcher.above.flatMap (Part.code space moduleName names) ++
        ((dispatcher.part names).lines ++
          dispatcher.below.flatMap (Part.code space moduleName names)) := by
  have heading : Code.lines dispatcher.heading = [dispatcher.heading.toList] := by
    cases dispatcher <;> rfl
  have opening : Code.lines ("    " ++ dispatcher.opening) =
      [shift dispatcher.opening.toList] := by
    cases dispatcher <;> rfl
  -- The arms are no imports, and stand at a margin of eight spaces.
  have fixed : dispatcher.slot ≠ .imports := by cases dispatcher <;> simp [slot]
  have margin : dispatcher.slot.margin = 8 := by cases dispatcher <;> rfl
  have arms := @Part.code_hole space moduleName names _ fixed unbroken
  rw [blocks_space, margin] at arms
  -- Moved right by eight spaces, the arms are two steps inside the definition.
  have shifted : (fun line : String => List.replicate 8 ' ' ++ line.toList) =
      fun line => shift (shift line.toList) := rfl
  -- The template is cut around the section, and the rest is the section line by line.
  rw [Code.lines_fill, dispatcher.template_eq, List.flatMap_append, List.flatMap_cons,
    List.flatMap_cons, List.flatMap_cons, Part.code_fixed, Part.code_fixed, heading, opening, arms,
    shifted]
  simp only [part, Section.lines, armLines, List.map_map, List.map_cons, List.cons_append,
    List.nil_append, Function.comp_def]

/-- The definitions of a dispatcher are its own among any in the parts above and below. -/
theorem definitions_eq :
    Code.definitions dispatcher.name (fill moduleName fun slot => slot.body space names) =
      Code.definitionsAmong dispatcher.name
          (dispatcher.above.flatMap (Part.code space moduleName names)) ++
        dispatcher.definition names ::
          Code.definitionsAmong dispatcher.name
            (dispatcher.below.flatMap (Part.code space moduleName names)) := by
  -- The section starts and ends at the margin, so it is read apart from what stands around it.
  have margin := dispatcher.dedent?_part names
  rw [Code.definitions, dispatcher.lines_eq space moduleName unbroken, Code.definitionsAmong,
    Section.outline_append _ (Section.atMargin_lines margin _),
    Section.outline_append _ (dispatcher.atMargin_below space moduleName names),
    Section.outline_lines margin, List.filterMap_append, List.singleton_append,
    List.filterMap_cons_some (dispatcher.defined?_part names)]
  rfl

/-- A generated module defines each dispatcher. -/
theorem definition_mem :
    dispatcher.definition names ∈
      Code.definitions dispatcher.name (fill moduleName fun slot => slot.body space names) := by
  rw [dispatcher.definitions_eq space moduleName unbroken]
  exact List.mem_append_right _ List.mem_cons_self

/-- Without line feeds in the settings, a generated module defines each dispatcher once. -/
theorem definitions_eq_singleton {space moduleName : String} (inSpace : '\n' ∉ space.toList)
    (inModule : '\n' ∉ moduleName.toList) :
    Code.definitions dispatcher.name (fill moduleName fun slot => slot.body space names) =
      [dispatcher.definition names] := by
  -- The section of the dispatcher takes up the one heading of its name.
  have heads := Code.heads_fill unbroken inSpace inModule
  rw [dispatcher.lines_eq space moduleName unbroken, Code.heads_append, Code.heads_append,
    heads_part] at heads
  -- No name is headed twice, so the other parts head other names.
  have distinct : definedNames.Nodup := by decide
  rw [← heads] at distinct
  obtain ⟨-, later, across⟩ := List.nodup_append.mp distinct
  have above : dispatcher.name ∉
      Code.heads (dispatcher.above.flatMap (Part.code space moduleName names)) :=
    fun member => across _ member _ List.mem_cons_self rfl
  have below : dispatcher.name ∉
      Code.heads (dispatcher.below.flatMap (Part.code space moduleName names)) :=
    (List.nodup_cons.mp later).1
  rw [dispatcher.definitions_eq space moduleName unbroken, Code.definitionsAmong_eq_nil above,
    Code.definitionsAmong_eq_nil below, List.nil_append]

end

end Dispatcher

end Switchboard
