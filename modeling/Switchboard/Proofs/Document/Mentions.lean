import Mathlib.Data.List.Count
import Switchboard.Proofs.Document.Alignment
import Switchboard.Proofs.Document.Spelling

/-!
The lines of a generated module that mention a content module, and how often each of them occurs.
-/

namespace Switchboard

/-- A way to mention a content module in a line of a generated module. -/
inductive Mention where
  | imported
  /-- The constructor for a module's model, as the first one of its union or a later one. -/
  | model (first : Bool)
  /-- The constructor for a module's message, as the first one of its union or a later one. -/
  | message (first : Bool)
  | messageArm
  /-- The arm for a module's model, the same in all dispatchers. -/
  | modelArm
  | updateCall
  | updateResult
  | menuCall
  | insideCall
  | outsideCall
  | subscriptionsCall
deriving DecidableEq, Repr

namespace Mention

/-- All ways, with both kinds of constructors for the two unions. -/
def all : List Mention :=
  [imported, model true, model false, message true, message false, messageArm, modelArm, updateCall,
    updateResult, menuCall, insideCall, outsideCall, subscriptionsCall]

/-- Every way to mention a module is among all of them. -/
theorem mem_all (mention : Mention) : mention ∈ all := by
  rcases mention with _ | (_ | _) | (_ | _) | _ | _ | _ | _ | _ | _ | _ | _ <;> decide

/-- The text around the name of the module. -/
def frame (space : String) : Mention → Frame
  -- Only an import depends on the namespace, and only there does the name end the line.
  | imported => { before := "import " ++ space ++ ".", between := [" as "], after := "" }
  | model first => { before := Slot.unionToken first ++ "Mdl", between := [" "], after := ".Model" }
  | message first => { before := Slot.unionToken first ++ "Msg", between := [" "], after := ".Msg" }
  | messageArm => { before := "Msg", after := " action ->" }
  | modelArm => { before := "Mdl", after := " model ->" }
  | updateCall => { before := "", after := ".update action model" }
  | updateResult =>
    { before := "Just ( Mdl", between := [" model_, Cmd.map Msg"], after := " cmd )" }
  | menuCall => { before := "", after := ".menuOptions" }
  | insideCall => { before := "", after := ".viewInside pos radius model" }
  | outsideCall => { before := "", after := ".viewOutside pos radius model" }
  | subscriptionsCall => { before := "", after := ".subscriptions model" }

/-- The line that mentions a module in some way. -/
def text (space : String) (name : Name) (mention : Mention) : String :=
  (mention.frame space).fill name.text

/-- How often a module is mentioned in some way, as the first one or a later one. -/
def times (first : Bool) : Mention → Nat
  -- Four dispatchers look at the model alone, and the fifth below each message.
  | model first' | message first' => if first' = first then 1 else 0
  | modelArm => 5
  | _ => 1

/-! ### Telling mentions apart -/

/-- What a line starts with that mentions a module in some way, whatever the namespace. -/
def front (mention : Mention) : String :=
  if mention = imported then "import " else (mention.frame "").before

/-- Whether a line that mentions a module in some way may start with a character. -/
def opensWith (c : Char) (mention : Mention) : Bool :=
  -- Where the name comes first, it brings its capital.
  if mention.front = "" then c.isUpper else mention.front.toList.head? = some c

/-- Whether a line may mention a module in some way, by its start and its end. -/
def fits (line : String) (mention : Mention) : Bool :=
  -- An import has no end of its own, but a dot behind the namespace.
  mention.front.toList.isPrefixOf line.toList &&
    (mention.frame "").after.toList.isSuffixOf line.toList &&
    line.toList.head?.any mention.opensWith && (mention != imported || line.toList.contains '.')

/-- Whether some line may mention modules in two ways. -/
def mayMeet (mention other : Mention) : Bool :=
  (mention.front.toList.isPrefixOf other.front.toList ||
      other.front.toList.isPrefixOf mention.front.toList) &&
    ((mention.frame "").after.toList.isSuffixOf (other.frame "").after.toList ||
      (other.frame "").after.toList.isSuffixOf (mention.frame "").after.toList) &&
    mention.front.toList.head?.all other.opensWith && other.front.toList.head?.all mention.opensWith

/-- No line mentions modules in two different ways. -/
theorem eq_of_mayMeet :
    ∀ mention ∈ all, ∀ other ∈ all, mention.mayMeet other → mention = other := by
  -- The ways are few, and each pair differs in its start, its end or its first character.
  decide +kernel

/-- A line fits one mention at most. -/
theorem eq_of_fits {line : String} {mention other : Mention} (fits : mention.fits line = true)
    (fits' : other.fits line = true) : mention = other := by
  refine eq_of_mayMeet _ mention.mem_all _ other.mem_all ?_
  simp only [Mention.fits, Bool.and_eq_true, List.isPrefixOf_iff_prefix,
    List.isSuffixOf_iff_suffix] at fits fits'
  obtain ⟨⟨⟨starts, ends⟩, opens⟩, -⟩ := fits
  obtain ⟨⟨⟨starts', ends'⟩, opens'⟩, -⟩ := fits'
  -- A line has one start and one end, and its first character is that of both starts.
  have heads {front : String} {kind : Mention} (starts : front.toList <+: line.toList)
      (opens : line.toList.head?.any kind.opensWith = true) :
      front.toList.head?.all kind.opensWith = true := by
    obtain ⟨rest, spelling⟩ := starts
    rw [← spelling] at opens
    cases chars : front.toList with
    | nil => rfl
    | cons first more => simpa [chars] using opens
  -- What one line starts and ends with meets in both ways.
  simp only [mayMeet, Bool.and_eq_true, Bool.or_eq_true, List.isPrefixOf_iff_prefix,
    List.isSuffixOf_iff_suffix]
  exact ⟨⟨⟨List.prefix_or_prefix_of_prefix starts starts',
    List.suffix_or_suffix_of_suffix ends ends'⟩, heads starts opens'⟩, heads starts' opens⟩

/-- A line that mentions a module fits the mention. -/
theorem fits_text (space : String) (mention : Mention) {name : Name}
    (spellable : name.isSpellable = true) : mention.fits (mention.text space name) = true := by
  obtain ⟨first, rest, letters, capital⟩ := Name.exists_of_isSpellable spellable
  -- The end of a line does not depend on the namespace.
  have ends :
      (mention.frame "").after.toList.isSuffixOf (mention.text space name).toList = true := by
    rw [show (mention.frame "").after = (mention.frame space).after by cases mention <;> rfl]
    exact List.isSuffixOf_iff_suffix.mpr ((mention.frame space).after_suffix_fill name.text)
  -- The start is read off each way by itself, with the capital where the name comes first.
  rw [fits, ends]
  rcases mention with _ | (_ | _) | (_ | _) | _ | _ | _ | _ | _ | _ | _ | _ <;>
    simp [text, frame, front, opensWith, Frame.fill, Slot.unionToken, letters, capital]

/-- The mention in a line and the module it mentions, if there is one. -/
def read? (space line : String) : Option (Mention × Name) :=
  (all.find? (fits line)).bind fun mention =>
    ((mention.frame space).gap? line).map fun text => (mention, ⟨text⟩)

/-- Mentions are read back, and nothing else is read. -/
theorem read?_eq_some_iff {space line : String} {mention : Mention} {name : Name}
    (spellable : name.isSpellable = true) :
    read? space line = some (mention, name) ↔ line = mention.text space name := by
  constructor
  · intro found
    -- What is read fills the frame of its mention, which spells the line.
    obtain ⟨kind, -, gap⟩ := Option.bind_eq_some_iff.mp found
    obtain ⟨text, filled, same⟩ := Option.map_eq_some_iff.mp gap
    cases same
    exact Frame.gap?_eq_some_iff.mp filled
  · rintro rfl
    -- The line fits its own mention, so the search cannot end at another one.
    have fits := mention.fits_text space spellable
    have found : all.find? (Mention.fits (mention.text space name)) = some mention := by
      cases found : all.find? (Mention.fits (mention.text space name)) with
      | none => exact absurd fits (List.find?_eq_none.mp found mention mention.mem_all)
      | some other => rw [eq_of_fits (List.find?_some found) fits]
    have gap : (mention.frame space).gap? (mention.text space name) = some name.text :=
      Frame.gap?_eq_some_iff.mpr rfl
    rw [read?, found, Option.bind_some, gap]
    rfl

/-- A line that fits no mention is passed over. -/
theorem read?_eq_none {line : String} (space : String)
    (silent : all.all (fun mention => !mention.fits line) = true) : read? space line = none := by
  have unfit : all.find? (fits line) = none := by
    refine List.find?_eq_none.mpr fun mention member => ?_
    simpa using List.all_eq_true.mp silent mention member
  rw [read?, unfit]
  rfl

/-- Whether some mention may open with a character. -/
def opens (c : Char) : Bool :=
  c.isUpper || c == 'i' || c == '=' || c == '|'

/-- Whether a line mentions no module by its first character, or is an import without a dot. -/
def isQuiet (line : List Char) : Bool :=
  !line.head?.any opens || line.head? == some 'i' && !line.contains '.'

/-- Only an import opens with a small letter. -/
theorem opens_of_opensWith {c : Char} {mention : Mention} (may : mention.opensWith c = true) :
    opens c = true ∧ (c = 'i' → mention = imported) := by
  rcases mention with _ | (_ | _) | (_ | _) | _ | _ | _ | _ | _ | _ | _ | _ <;>
    simp [opensWith, front, frame, Slot.unionToken] at may
  -- The character is either known or some capital.
  all_goals first
    | subst may; decide
    | exact ⟨by simp [opens, may], by rintro rfl; cases may⟩

/-- A quiet line is passed over. -/
theorem read?_trim_of_isQuiet {line : String} (space : String)
    (quiet : isQuiet (line.toList.dropWhile (· == ' ')) = true) :
    read? space (Lines.trim line) = none := by
  rw [← Lines.toList_trim] at quiet
  refine read?_eq_none space (List.all_eq_true.mpr fun mention _ => ?_)
  cases fits : mention.fits (Lines.trim line) with
  | false => rfl
  | true =>
    simp only [Mention.fits, Bool.and_eq_true, Option.any_eq_true] at fits
    obtain ⟨⟨-, c, head, may⟩, dotted⟩ := fits
    obtain ⟨opening, small⟩ := opens_of_opensWith may
    -- The line opens like an import, so it has the dot behind the namespace.
    obtain ⟨same, noDot⟩ : c = 'i' ∧ '.' ∉ (Lines.trim line).toList := by
      simpa [isQuiet, head, opening] using quiet
    simp [small same, noDot] at dotted

/-- As often as a line with a mention occurs, the mention is read. -/
theorem count_text {space : String} {mention : Mention} {name : Name}
    (spellable : name.isSpellable = true) (lines : List String) :
    lines.count (mention.text space name) =
      (lines.filterMap (read? space)).count (mention, name) := by
  -- Each line counts as the mention that is read from it.
  rw [List.count_filterMap, List.count]
  refine List.countP_congr fun line _ => ?_
  simp [read?_eq_some_iff spellable]

/-! ### Reading a line -/

variable {space : String} {mention : Mention} {name : Name}

/-- A line that mentions a module is read wherever it stands. -/
theorem read?_indented (width : Nat) (spellable : name.isSpellable = true) {line : String}
    (spelling : line = String.ofList (List.replicate width ' ') ++ mention.text space name) :
    read? space (Lines.trim line) = some (mention, name) := by
  have margin : (mention.text space name).toList.head? ≠ some ' ' := by
    -- No mention opens with a space.
    intro head
    have fits := mention.fits_text space spellable
    simp only [Mention.fits, head, Bool.and_eq_true, Option.any_some] at fits
    have never : ∀ mention ∈ all, mention.opensWith ' ' = false := by decide
    simp [never mention mention.mem_all] at fits
  -- Trimming takes off the indentation and nothing of the mention.
  rw [spelling, Lines.trim_spaces, Lines.trim_of_head margin]
  exact (read?_eq_some_iff spellable).mpr rfl

/-- A line that lifts messages mentions no module as such. -/
theorem read?_lift (space lift : String) :
    read? space (Lines.trim ("        |> " ++ lift)) = none := by
  -- It opens like a later constructor, but is no line of a union.
  refine read?_eq_none space ?_
  simp [all, fits, frame, front, opensWith, Slot.unionToken, Lines.trim, List.isPrefixOf]

end Mention

/-- The ways in which a block of a slot mentions its module. -/
def Slot.mentions (first : Bool) : Slot → List Mention
  | imports => [.imported]
  | models => [.model first]
  | messages => [.message first]
  | menu => [.modelArm, .menuCall]
  | update => [.messageArm, .modelArm, .updateCall, .updateResult]
  | inside => [.modelArm, .insideCall]
  | outside => [.modelArm, .outsideCall]
  | subscriptions => [.modelArm, .subscriptionsCall]

namespace Slot

variable {space : String} {name : Name} (spellable : name.isSpellable = true)

include spellable

/-- In an arm that asks a function, the arm and the call are read. -/
theorem filterMap_queryArm {kind : Mention} {call : String}
    (asks : kind.frame space = { before := "", after := "." ++ call }) (lift : String) :
    ((queryArm name call lift).map Lines.trim).filterMap (Mention.read? space) =
      [(.modelArm, name), (kind, name)] := by
  have arm : Mention.read? space (Lines.trim (modelConstructor name ++ " model ->")) =
      some (.modelArm, name) :=
    Mention.read?_indented 0 spellable (by
      simp [modelConstructor, Mention.text, Mention.frame, Frame.fill])
  have asked : Mention.read? space (Lines.trim ("    " ++ name.text ++ "." ++ call)) =
      some (kind, name) :=
    Mention.read?_indented 4 spellable (by
      simp [Mention.text, asks, Frame.fill, String.append_assoc])
  -- The third line only lifts messages, so two are left.
  simp [queryArm, arm, asked, Mention.read?_lift]

/-- In the arm that answers a message, the two arms, the call and its result are read. -/
theorem filterMap_updateArm :
    ((updateArm name).map Lines.trim).filterMap (Mention.read? space) =
      [(.messageArm, name), (.modelArm, name), (.updateCall, name), (.updateResult, name)] := by
  have outer : Mention.read? space (Lines.trim (messageConstructor name ++ " action ->")) =
      some (.messageArm, name) :=
    Mention.read?_indented 0 spellable (by
      simp [messageConstructor, Mention.text, Mention.frame, Frame.fill])
  have inner : Mention.read? space
      (Lines.trim ("        " ++ modelConstructor name ++ " model ->")) = some (.modelArm, name) :=
    Mention.read?_indented 8 spellable (by
      simp [modelConstructor, Mention.text, Mention.frame, Frame.fill, String.append_assoc])
  have called : Mention.read? space
      (Lines.trim ("                    " ++ name.text ++ ".update action model")) =
      some (.updateCall, name) :=
    Mention.read?_indented 20 spellable (by
      simp [Mention.text, Mention.frame, Frame.fill, String.append_assoc])
  have wrapped : Mention.read? space
      (Lines.trim ("            Just ( " ++ modelConstructor name ++ " model_, Cmd.map " ++
        messageConstructor name ++ " cmd )")) = some (.updateResult, name) :=
    Mention.read?_indented 12 spellable (by
      simp [modelConstructor, messageConstructor, Mention.text, Mention.frame, Frame.fill,
        ← String.toList_inj])
  -- The other lines are the same for every module, and only the last has a capital.
  have quiet : ∀ line ∈ ["    case multiModel of", "            let",
      "                ( model_, cmd ) =", "            in", "", "        _ ->"],
      Mention.isQuiet (line.toList.dropWhile (· == ' ')) = true := by decide
  have logged : Mention.read? space (Lines.trim "            Debug.log mismatchError Nothing") =
      none := Mention.read?_eq_none space (by decide)
  have passed := fun line member => Mention.read?_trim_of_isQuiet space (quiet line member)
  simp only [List.forall_mem_cons] at passed
  simp [updateArm, outer, inner, called, wrapped, logged, passed]

/-- In a block the mentions of its module are read. -/
theorem filterMap_block (named : space ≠ "") (slot : Slot) (first : Bool) :
    ((slot.block space first name).map Lines.trim).filterMap (Mention.read? space) =
      (slot.mentions first).map (·, name) := by
  cases slot with
  | imports =>
    -- With a namespace, an import is the one line that ends in a name.
    have line : Mention.read? space (Lines.trim (importLine space name)) = some (.imported, name) :=
      Mention.read?_indented 0 spellable (by
        simp [importLine, named, Mention.text, Mention.frame, Frame.fill, String.append_assoc])
    simp [block, mentions, line]
  | models =>
    have line : Mention.read? space
        (Lines.trim (unionToken first ++ modelConstructor name ++ " " ++ name.text ++ ".Model")) =
        some (.model first, name) :=
      Mention.read?_indented 0 spellable (by
        simp [modelConstructor, Mention.text, Mention.frame, Frame.fill, String.append_assoc])
    simp [block, mentions, line]
  | messages =>
    have line : Mention.read? space
        (Lines.trim (unionToken first ++ messageConstructor name ++ " " ++ name.text ++ ".Msg")) =
        some (.message first, name) :=
      Mention.read?_indented 0 spellable (by
        simp [messageConstructor, Mention.text, Mention.frame, Frame.fill, String.append_assoc])
    simp [block, mentions, line]
  | menu => exact filterMap_queryArm spellable rfl _
  | update => exact filterMap_updateArm spellable
  | inside => exact filterMap_queryArm spellable rfl _
  | outside => exact filterMap_queryArm spellable rfl _
  | subscriptions => exact filterMap_queryArm spellable rfl _

end Slot

/-! ### Mentions in the generated module -/

namespace Slot

/-- The mentions in a slot, module by module. -/
def roll (names : List Name) (slot : Slot) : List (Mention × Name) :=
  match names with
  | [] => []
  | name :: rest =>
    (slot.mentions true).map (·, name) ++
      rest.flatMap fun name => (slot.mentions false).map (·, name)

/-- In a slot the mentions are read module by module. -/
theorem filterMap_lines {space : String} {names : List Name} (named : space ≠ "")
    (spellable : ∀ name ∈ names, name.isSpellable = true) (slot : Slot) :
    ((slot.lines space names).map Lines.trim).filterMap (Mention.read? space) =
      slot.roll names := by
  cases names with
  | nil => exact List.filterMap_cons_none (Mention.read?_trim_of_isQuiet space rfl)
  | cons name rest =>
    -- At which margin the blocks stand does not matter.
    have trimmed : Lines.trim ∘ Lines.pad slot.margin = Lines.trim :=
      funext (Lines.trim_pad slot.margin)
    have later : ((rest.flatMap (slot.block space false)).map Lines.trim).filterMap
        (Mention.read? space) = rest.flatMap fun name => (slot.mentions false).map (·, name) := by
      rw [List.map_flatMap, List.filterMap_flatMap]
      refine List.flatMap_congr fun other member => ?_
      exact filterMap_block (spellable other (List.mem_cons_of_mem _ member)) named slot false
    rw [lines, if_neg (List.cons_ne_nil _ _), List.map_map, trimmed, blocks, List.flatten_cons,
      ← List.flatMap_def, List.map_append, List.filterMap_append, later,
      filterMap_block (spellable name List.mem_cons_self) named, roll]

end Slot

namespace Part

/-- Whether a part mentions no module on its own, whatever the name of the generated module. -/
def isQuiet : Part → Bool
  -- The name of the generated module stands behind other text, which tells how the line opens.
  | fixed line => Mention.isQuiet (line.toList.dropWhile (· == ' '))
  | naming before _ =>
    (before.toList.dropWhile (· == ' ')).head?.any fun c => !Mention.opens c
  | hole _ => true

/-- Outside the slots, no line of the template mentions a module. -/
theorem isQuiet_of_mem_template : ∀ part ∈ template, part.isQuiet = true := by
  decide +kernel

/-- What a part holds, given what each slot holds. -/
def held {α : Type} (slotHeld : Slot → List α) : Part → List α
  | fixed _ | naming .. => []
  | hole slot => slotHeld slot

/-- Among the lines of a part only those of a slot are read. -/
theorem filterMap_lines {space moduleName : String} {slotLines : Slot → List String} {part : Part}
    (quiet : part.isQuiet = true) :
    ((part.lines moduleName slotLines).map Lines.trim).filterMap (Mention.read? space) =
      part.held fun slot => ((slotLines slot).map Lines.trim).filterMap (Mention.read? space) := by
  cases part with
  | fixed line => exact List.filterMap_cons_none (Mention.read?_trim_of_isQuiet space quiet)
  | naming before after =>
    -- What stands in front of the name is not blank, so its first character is that of the line.
    simp only [isQuiet] at quiet
    cases chars : before.toList.dropWhile (· == ' ') with
    | nil => simp [chars] at quiet
    | cons c rest =>
      refine List.filterMap_cons_none (Mention.read?_trim_of_isQuiet space ?_)
      have closed : Mention.opens c = false := by simpa [chars] using quiet
      simp [List.dropWhile_append, chars, Mention.isQuiet, closed]
  | hole slot => rfl

end Part

/-- In a generated module the mentions are read slot by slot. -/
theorem Roster.filterMap_document (roster : Roster) {settings : Settings}
    (named : settings.contentNamespace ≠ "")
    (spellable : ∀ name ∈ roster.names, name.isSpellable = true)
    (inSpace : '\n' ∉ settings.contentNamespace.toList)
    (inModule : '\n' ∉ settings.moduleName.toList) :
    ((Lines.split (roster.document settings).contents).map Lines.trim).filterMap
        (Mention.read? settings.contentNamespace) =
      Slot.all.flatMap (Slot.roll roster.names) := by
  have last : [Lines.trim ""].filterMap (Mention.read? settings.contentNamespace) = [] :=
    List.filterMap_cons_none (Mention.read?_trim_of_isQuiet _ rfl)
  -- Only the holes hold mentions, and each holds those of its slot.
  have parts (part : Part) (member : part ∈ template) :=
    @Part.filterMap_lines settings.contentNamespace settings.moduleName
      (fun slot => slot.lines settings.contentNamespace roster.names) part
      (Part.isQuiet_of_mem_template part member)
  have unbroken (name : Name) (member : name ∈ roster.names) : name.Unbroken :=
    Name.unbroken_of_isSpellable (spellable name member)
  -- The document is cut into its lines, and each part of the template is read by itself.
  rw [roster.split_document unbroken inSpace inModule, List.map_append, List.filterMap_append,
    List.map_flatMap, List.filterMap_flatMap, List.flatMap_congr parts, List.map_singleton, last,
    List.append_nil]
  simp only [Slot.filterMap_lines named spellable]
  rfl

/-! ### Counting -/

/-- Of what is marked for each name of a list, that of one name is counted as often as the name. -/
theorem count_flatMap_pair {α β : Type} [DecidableEq α] [DecidableEq β] (marks : List α)
    (names : List β) (mark : α) (name : β) :
    (names.flatMap fun other => marks.map (·, other)).count (mark, name) =
      names.count name * marks.count mark := by
  induction names with
  | nil => simp
  | cons other rest ih =>
    -- What is marked for another name has that name in it.
    have first : (marks.map (·, other)).count (mark, name) =
        if other = name then marks.count mark else 0 := by
      split
      · rename_i same
        rw [same]
        exact List.count_map_of_injective marks _ (fun _ _ same => (Prod.mk.inj same).1) mark
      · rename_i different
        refine List.count_eq_zero.mpr fun member => ?_
        obtain ⟨_, -, same⟩ := List.mem_map.mp member
        exact different (Prod.mk.inj same).2
    rw [List.flatMap_cons, List.count_append, ih, first, List.count_cons]
    split <;> simp_all [Nat.add_mul, Nat.add_comm]

namespace Slot

/-- In a slot a name is counted with the marks of its place, the first or a later one. -/
theorem count_roll {names : List Name} (distinct : names.Nodup) (slot : Slot) (mention : Mention)
    (name : Name) :
    (slot.roll names).count (mention, name) =
      if name ∈ names then (slot.mentions (names.head? = some name)).count mention else 0 := by
  cases names with
  | nil => rfl
  | cons first rest =>
    obtain ⟨fresh, distinct⟩ := List.nodup_cons.mp distinct
    -- The first name has the marks of a first place, and the rest those of a later one.
    have firsts := count_flatMap_pair (slot.mentions true) [first] mention name
    rw [List.flatMap_singleton] at firsts
    rw [roll, List.count_append, firsts, count_flatMap_pair, List.head?_cons, distinct.count]
    -- Without repetition a name is either the first or a later one.
    by_cases same : first = name
    · subst same
      simp [fresh]
    · by_cases later : name ∈ rest <;> simp [same, Ne.symm same, later]

/-- Over all slots, a module is mentioned in each way as often as that way asks. -/
theorem sum_mentions (mention : Mention) (first : Bool) :
    (all.map fun slot => (slot.mentions first).count mention).sum = mention.times first := by
  -- There are two places and a fixed number of ways, so the sums are computed.
  rcases mention with _ | (_ | _) | (_ | _) | _ | _ | _ | _ | _ | _ | _ | _ <;> cases first <;> rfl

end Slot

/-- In a generated module each name is mentioned in each way as often as that way asks, and no other
name is. -/
theorem Roster.count_document (roster : Roster) {settings : Settings}
    (named : settings.contentNamespace ≠ "")
    (spellable : ∀ name ∈ roster.names, name.isSpellable = true)
    (inSpace : '\n' ∉ settings.contentNamespace.toList)
    (inModule : '\n' ∉ settings.moduleName.toList) (distinct : roster.names.Nodup)
    (mention : Mention) {name : Name} (legal : name.isSpellable = true) :
    ((Lines.split (roster.document settings).contents).map Lines.trim).count
        (mention.text settings.contentNamespace name) =
      if name ∈ roster.names then mention.times (roster.names.head? = some name) else 0 := by
  rw [Mention.count_text legal, roster.filterMap_document named spellable inSpace inModule,
    List.count_flatMap, ← Slot.sum_mentions]
  -- Slot by slot the counts are told, and the sum over the slots is known.
  simp only [Function.comp_def, Slot.count_roll distinct]
  split <;> simp [Slot.all]

end Switchboard
