import Switchboard.Proofs.Document.Dispatcher
import Switchboard.Proofs.Document.Spelling

/-! The arms of the dispatchers, one per name, and what each of them is read as. -/

namespace Switchboard

namespace Slot

/-- The section that a query's arm makes. -/
def queryPart (name : Name) (call lift : String) : Section :=
  ⟨(modelConstructor name ++ " model ->").toList,
    [(name.text ++ "." ++ call).toList, ("    |> " ++ lift).toList]⟩

/-- The section inside an update's arm that takes the module's own models. -/
def ownPart (name : Name) : Section :=
  ⟨(modelConstructor name ++ " model ->").toList,
    ["let".toList, "    ( model_, cmd ) =".toList,
      ("        " ++ name.text ++ ".update action model").toList, "in".toList,
      ("Just ( " ++ modelConstructor name ++ " model_, Cmd.map " ++ messageConstructor name ++
        " cmd )").toList]⟩

/-- The section inside an update's arm that takes all other models. -/
def otherPart : Section :=
  ⟨"_ ->".toList, ["Debug.log mismatchError Nothing".toList]⟩

/-- The sections inside an update's arm, each beside the arm that it is. -/
def innerParts (name : Name) : List (Section × Code.Arm) :=
  [(ownPart name, ⟨.constructor (modelConstructor name) "model", (ownPart name).body⟩),
    (otherPart, ⟨.anything, otherPart.body⟩)]

/-- The section that an update's arm makes. -/
def updatePart (name : Name) : Section :=
  ⟨(messageConstructor name ++ " action ->").toList,
    (Section.mk "case multiModel of".toList
      ((innerParts name).flatMap fun part => part.1.lines)).lines⟩

end Slot

namespace Dispatcher

/-- The section that a dispatcher has for a name. -/
def arm (dispatcher : Dispatcher) (name : Name) : Section :=
  match dispatcher with
  | menuOptions =>
    Slot.queryPart name "menuOptions"
      ("List.map (Option.map " ++ Slot.messageConstructor name ++ ")")
  | update => Slot.updatePart name
  | viewInside =>
    Slot.queryPart name "viewInside pos radius model"
      ("Html.map " ++ Slot.messageConstructor name)
  | viewOutside =>
    Slot.queryPart name "viewOutside pos radius model"
      ("Html.map " ++ Slot.messageConstructor name)
  | subscriptions =>
    Slot.queryPart name "subscriptions model" ("Sub.map " ++ Slot.messageConstructor name)

/-- Without blank lines, a block of a dispatcher's slot has the lines of the name's section. -/
private theorem lines_block (dispatcher : Dispatcher) (first : Bool) (name : Name) :
    ((dispatcher.slot.block "" first name).filter (· ≠ "")).map String.toList =
      (dispatcher.arm name).lines := by
  cases dispatcher <;>
    simp [slot, Slot.block, Slot.queryArm, Slot.updateArm, arm, Slot.queryPart, Slot.updatePart,
      Slot.innerParts, Slot.ownPart, Slot.otherPart, Section.lines, shift, Slot.modelConstructor,
      Slot.messageConstructor]

/-- The lines of the arms are those of one arm per name. -/
theorem armLines_eq (dispatcher : Dispatcher) (names : List Name) :
    dispatcher.armLines names = names.flatMap fun name => (dispatcher.arm name).lines := by
  -- The first block of a slot of arms is like the others.
  unfold armLines
  cases names with
  | nil => rfl
  | cons name rest =>
    rw [Slot.blocks, List.flatten_cons, List.filter_append, List.map_append, lines_block,
      List.flatMap_cons]
    -- The lines of the first name are compared, and those of the others follow alike.
    congr 1
    rw [← List.flatMap_def, List.filter_flatMap, List.map_flatMap]
    simp only [lines_block]

/-- The constructor whose values an arm of a dispatcher takes. -/
def constructor (dispatcher : Dispatcher) (name : Name) : String :=
  match dispatcher with
  | update => Slot.messageConstructor name
  | _ => Slot.modelConstructor name

/-- The variable for what the constructor holds. -/
def bound : Dispatcher → String
  | update => "action"
  | _ => "model"

/-- Different names have different constructors. -/
theorem constructor_inj (dispatcher : Dispatcher) (name other : Name)
    (same : dispatcher.constructor name = dispatcher.constructor other) : name = other := by
  -- Both kinds of constructors end in the name.
  have text : name.text = other.text := by
    cases dispatcher <;>
      simpa [constructor, Slot.modelConstructor, Slot.messageConstructor] using same
  cases name
  cases other
  exact congrArg Name.mk text

/-- The constructor of a spellable name is one word. -/
private theorem isWord_constructor (dispatcher : Dispatcher) {name : Name}
    (spellable : name.isSpellable = true) : Words.IsWord (dispatcher.constructor name) := by
  cases dispatcher with
  | update => exact Name.isWord_messageConstructor spellable
  | _ => exact Name.isWord_modelConstructor spellable

/-- The arm of a spellable name takes the values of the name's constructor. -/
theorem arm?_arm (dispatcher : Dispatcher) {name : Name} (spellable : name.isSpellable = true) :
    dedent? (dispatcher.arm name).head = none ∧
      Code.arm? (dispatcher.arm name) =
        some ⟨.constructor (dispatcher.constructor name) dispatcher.bound,
          (dispatcher.arm name).body⟩ := by
  -- The head is the constructor, the variable and an arrow, whichever dispatcher it is.
  have head : (dispatcher.arm name).head =
      (dispatcher.constructor name ++ (" " ++ dispatcher.bound ++ " ->")).toList := by
    cases dispatcher <;> rfl
  have words : Words.read (" " ++ dispatcher.bound ++ " ->").toList = [dispatcher.bound, "->"] := by
    cases dispatcher <;> rfl
  have ended : Words.isApart (" " ++ dispatcher.bound ++ " ->").toList = true := by
    cases dispatcher <;> rfl
  have isWord := dispatcher.isWord_constructor spellable
  rw [head]
  refine ⟨Code.dedent?_of_isWord isWord _, ?_⟩
  -- One word, a variable and an arrow are what heads an arm.
  have arm := Code.arm?_of_isWord isWord ended words (dispatcher.arm name).body
  rwa [← head] at arm

/-- For a spellable name among others, a dispatcher reaches the name's arm. -/
theorem reached?_definition (dispatcher : Dispatcher) {names : List Name}
    (spellable : ∀ name ∈ names, name.isSpellable = true) {name : Name} (member : name ∈ names) :
    Code.reached? (dispatcher.definition names).body dispatcher.subject
        (dispatcher.constructor name) =
      some ⟨.constructor (dispatcher.constructor name) dispatcher.bound,
        (dispatcher.arm name).body⟩ := by
  have opens : Words.read dispatcher.opening.toList = ["case", dispatcher.subject, "of"] := by
    cases dispatcher <;> rfl
  have margin : dedent? dispatcher.opening.toList = none := by cases dispatcher <;> rfl
  -- The body is the opening and, inside it, the sections of the arms.
  have body : (dispatcher.definition names).body =
      (Section.mk dispatcher.opening.toList
        (names.flatMap fun name => (dispatcher.arm name).lines)).lines := by
    rw [← armLines_eq]
    rfl
  -- Reading the case expression gives one arm per name, and constructors tell the names apart.
  have choice := Code.choice?_lines opens margin fun name named =>
    dispatcher.arm?_arm (spellable name named)
  have first := @Code.find?_admits Name names
    (fun name => ⟨.constructor (dispatcher.constructor name) dispatcher.bound,
      (dispatcher.arm name).body⟩) dispatcher.constructor dispatcher.bound (fun _ => rfl)
    dispatcher.constructor_inj name member
  rw [Code.reached?, body, choice, Option.bind_some]
  exact (if_pos rfl).trans first

/-- What a dispatcher asks of a spellable name among others is written in the name's arm. -/
theorem query?_definition (dispatcher : Dispatcher) {names : List Name}
    (last : dispatcher.parameters.getLast? = some dispatcher.subject)
    (spellable : ∀ name ∈ names, name.isSpellable = true) {name : Name} (member : name ∈ names) :
    (dispatcher.definition names).query? (dispatcher.constructor name) =
      Code.query? ((dispatcher.bound, .content (dispatcher.constructor name)) ::
          (dispatcher.definition names).scope)
        ((dispatcher.arm name).body.flatMap Words.read) := by
  have parameters : (dispatcher.definition names).parameters = dispatcher.parameters := rfl
  -- The arm of the name is reached, and its words are what is left to read.
  rw [Code.Definition.query?, parameters, last, Option.bind_some,
    dispatcher.reached?_definition spellable member]
  rfl

/-- The words of a query's arm are cut into the call and what lifts its messages. -/
theorem pieces_queryPart {name : Name} (spellable : name.isSpellable = true)
    {call function tail lift : String} {arguments lifted : List String}
    (same : call = function ++ tail) (plain : ("." ++ function).toList.all Words.isPlain = true)
    (ended : Words.isApart tail.toList = true)
    (words : Words.read tail.toList = arguments) (inCall : "|>" ∉ arguments)
    (lifting : Words.read lift.toList = lifted) (inLifting : "|>" ∉ lifted) :
    pieces "|>" ((Slot.queryPart name call lift).body.flatMap Words.read) =
      [(name.text ++ "." ++ function) :: arguments, lifted] := by
  have first : Words.read (name.text ++ "." ++ call).toList =
      (name.text ++ "." ++ function) :: arguments :=
    same ▸ Name.read_qualified spellable plain ended words
  -- Of the two lines, the first is the call and the second the pipe with what follows it.
  have second : Words.read ("    |> " ++ lift).toList = "|>" :: lifted := by
    rw [String.toList_append, ← lifting]
    rfl
  -- A pipe is no name of a function, so the first one found is that of the second line.
  have different : "|>" ≠ name.text ++ "." ++ function :=
    Name.ne_qualified name function (by decide)
  have inFirst : "|>" ∉ (name.text ++ "." ++ function) :: arguments := by
    intro member
    rcases List.mem_cons.mp member with same | inside
    · exact different same
    · exact inCall inside
  rw [Slot.queryPart, List.flatMap_cons, List.flatMap_cons, List.flatMap_nil, List.append_nil,
    first, second, pieces_pair inFirst inLifting]

/-- A constructor is no word that starts with another letter. -/
theorem ne_constructor (dispatcher : Dispatcher) (name : Name) {word : String}
    (other : word.toList.head? ≠ some 'M') : word ≠ dispatcher.constructor name := by
  rintro rfl
  cases dispatcher <;> simp [constructor, Slot.modelConstructor, Slot.messageConstructor] at other

/-- A function and the constructor it lifts are read as two words. -/
private theorem read_lift {name : Name} (spellable : name.isSpellable = true) (lift : String)
    (word : ∀ rest, Words.read (lift.toList ++ ' ' :: rest) = lift :: Words.read rest) :
    Words.read (lift ++ " " ++ Slot.messageConstructor name).toList =
      [lift, Slot.messageConstructor name] := by
  rw [String.append_assoc, String.toList_append, String.toList_append]
  exact (word _).trans (congrArg _ (Words.read_word (Name.isWord_messageConstructor spellable)))

section

variable {names : List Name} (spellable : ∀ name ∈ names, name.isSpellable = true) {name : Name}
  (member : name ∈ names)

include spellable member

/-- For a spellable name among others, `menuOptions` gives the name's own menu. -/
theorem query?_menuOptions :
    (menuOptions.definition names).query? (Slot.modelConstructor name) =
      some ⟨⟨name.text, "menuOptions", []⟩, ["List.map", "Option.map"],
        Slot.messageConstructor name⟩ := by
  have own := spellable name member
  have message := Name.isWord_messageConstructor own
  have pipe : "|>" ≠ Slot.messageConstructor name := update.ne_constructor name (by decide)
  -- Brackets are words of their own, so the constructor is read up to the closing one.
  have lifting :
      Words.read ("List.map (Option.map " ++ Slot.messageConstructor name ++ ")").toList =
        ["List.map", "(", "Option.map", Slot.messageConstructor name, ")"] := by
    rw [String.append_assoc, String.toList_append]
    show "List.map" :: "(" :: "Option.map" ::
      Words.read (Slot.messageConstructor name ++ ")").toList = _
    rw [Words.read_toList_append message rfl]
    rfl
  -- A menu depends on no model, so the call has no arguments.
  have words := @pieces_queryPart name own "menuOptions" "menuOptions" "" _ [] _ rfl rfl rfl rfl
    (by simp) lifting (by simp [pipe])
  exact (menuOptions.query?_definition rfl spellable member).trans
    (Code.query?_nested words (Name.call?_qualified own (by decide) rfl))

/-- For a spellable name among others, the two views give the name's own view of their name. -/
theorem query?_view {dispatcher : Dispatcher}
    (view : dispatcher = viewInside ∨ dispatcher = viewOutside) :
    (dispatcher.definition names).query? (Slot.modelConstructor name) =
      some ⟨⟨name.text, dispatcher.name, [.parameter "pos", .parameter "radius",
        .content (Slot.modelConstructor name)]⟩, ["Html.map"], Slot.messageConstructor name⟩ := by
  have own := spellable name member
  have pipe : "|>" ≠ Slot.messageConstructor name := update.ne_constructor name (by decide)
  -- The two views differ in the name of the function only.
  have lifting := read_lift own "Html.map" fun _ => rfl
  rcases view with rfl | rfl
  · have words := @pieces_queryPart name own "viewInside pos radius model" "viewInside"
      " pos radius model" _ _ _ rfl rfl rfl rfl (by decide) lifting (by simp [pipe])
    exact (viewInside.query?_definition rfl spellable member).trans
      (Code.query?_single words (Name.call?_qualified own (by decide) rfl))
  · have words := @pieces_queryPart name own "viewOutside pos radius model" "viewOutside"
      " pos radius model" _ _ _ rfl rfl rfl rfl (by decide) lifting (by simp [pipe])
    exact (viewOutside.query?_definition rfl spellable member).trans
      (Code.query?_single words (Name.call?_qualified own (by decide) rfl))

/-- For a spellable name among others, `subscriptions` gives the name's own subscriptions. -/
theorem query?_subscriptions :
    (subscriptions.definition names).query? (Slot.modelConstructor name) =
      some ⟨⟨name.text, "subscriptions", [.content (Slot.modelConstructor name)]⟩, ["Sub.map"],
        Slot.messageConstructor name⟩ := by
  have own := spellable name member
  have pipe : "|>" ≠ Slot.messageConstructor name := update.ne_constructor name (by decide)
  have words := @pieces_queryPart name own "subscriptions model" "subscriptions" " model" _ _ _ rfl
    rfl rfl rfl (by decide) (read_lift own "Sub.map" fun _ => rfl) (by simp [pipe])
  -- The words are those of one call with one function to lift its messages.
  exact (subscriptions.query?_definition rfl spellable member).trans
    (Code.query?_single words (Name.call?_qualified own (by decide) rfl))

end

/-- The case expression in the arm of an update takes the name's own models and all others. -/
theorem reached?_updatePart {name : Name} (spellable : name.isSpellable = true) (model : String) :
    Code.reached? (Slot.updatePart name).body "multiModel" model =
      if Slot.modelConstructor name = model then
        some ⟨.constructor (Slot.modelConstructor name) "model", (Slot.ownPart name).body⟩
      else some ⟨.anything, Slot.otherPart.body⟩ := by
  have isWord := Name.isWord_modelConstructor spellable
  have ended : Words.isApart " model ->".toList = true := rfl
  -- The second arm takes whatever the first does not.
  have arms : ∀ part ∈ Slot.innerParts name,
      dedent? part.1.head = none ∧ Code.arm? part.1 = some part.2 := by
    intro part member
    rcases List.mem_pair.mp member with rfl | rfl
    · exact ⟨Code.dedent?_of_isWord isWord _, Code.arm?_of_isWord isWord ended rfl _⟩
    · exact ⟨rfl, rfl⟩
  have opens : Words.read "case multiModel of".toList = ["case", "multiModel", "of"] := rfl
  -- The message has been chosen, and the model is the subject here.
  have choice := Code.choice?_lines opens rfl arms
  rw [Code.reached?, Slot.updatePart, choice, Option.bind_some, if_pos rfl]
  -- The first arm takes the name's own constructor and leaves the others to the second.
  by_cases same : Slot.modelConstructor name = model <;>
    simp [Slot.innerParts, Code.Pattern.admits, same]

/-- The line that calls the update is read as the function and its two arguments. -/
private theorem read_updateCall {name : Name} (spellable : name.isSpellable = true) :
    Words.read ("        " ++ name.text ++ ".update action model").toList =
      [name.text ++ "." ++ "update", "action", "model"] := by
  -- Without the indent, the line is a call with two arguments.
  have text : "        " ++ name.text ++ ".update action model" =
      "        " ++ (name.text ++ "." ++ ("update" ++ " action model")) := by
    simp only [String.append_assoc]
    rfl
  rw [text, String.toList_append]
  exact Name.read_qualified spellable rfl rfl rfl

/-- The line with the result is read word by word, with brackets and commas apart. -/
private theorem read_updateResult {name : Name} (spellable : name.isSpellable = true) :
    Words.read ("Just ( " ++ Slot.modelConstructor name ++ " model_, Cmd.map " ++
      Slot.messageConstructor name ++ " cmd )").toList =
      ["Just", "(", Slot.modelConstructor name, "model_", ",", "Cmd.map",
        Slot.messageConstructor name, "cmd", ")"] := by
  have ended : Words.isApart (" model_, Cmd.map " ++
      (Slot.messageConstructor name ++ " cmd )")).toList = true := by
    rw [String.toList_append]
    rfl
  -- The fixed text between the two constructors is read letter by letter.
  simp only [String.append_assoc]
  rw [String.toList_append]
  show "Just" :: "(" :: Words.read (Slot.modelConstructor name ++ (" model_, Cmd.map " ++
    (Slot.messageConstructor name ++ " cmd )"))).toList = _
  rw [Words.read_toList_append (Name.isWord_modelConstructor spellable) ended,
    String.toList_append]
  show "Just" :: "(" :: Slot.modelConstructor name :: "model_" :: "," :: "Cmd.map" ::
    Words.read (Slot.messageConstructor name ++ " cmd )").toList = _
  rw [Words.read_toList_append (Name.isWord_messageConstructor spellable) rfl]
  rfl

/-- Inside the arm of an update, the name's own models are updated. -/
theorem outcome?_ownPart {name : Name} (spellable : name.isSpellable = true) :
    Code.outcome? [("model", .content (Slot.modelConstructor name)),
        ("action", .content (Slot.messageConstructor name))]
        ((Slot.ownPart name).body.flatMap Words.read) =
      some (.applied ⟨name.text, "update", [.content (Slot.messageConstructor name),
        .content (Slot.modelConstructor name)]⟩ (Slot.modelConstructor name)
        (Slot.messageConstructor name)) := by
  -- All lines of the section as one run of words.
  have words : (Slot.ownPart name).body.flatMap Words.read =
      "let" :: "(" :: "model_" :: "," :: "cmd" :: ")" :: "=" ::
        ([name.text ++ "." ++ "update", "action", "model"] ++ "in" ::
          ["Just", "(", Slot.modelConstructor name, "model_", ",", "Cmd.map",
            Slot.messageConstructor name, "cmd", ")"]) := by
    rw [Slot.ownPart]
    simp only [List.flatMap_cons, List.flatMap_nil, read_updateCall spellable,
      read_updateResult spellable]
    rfl
  rw [words]
  -- The keyword between the call and the result is no word of either.
  refine Code.outcome?_let (pieces_pair ?_ ?_) (Name.call?_qualified spellable (by decide) rfl)
  · have different : "in" ≠ name.text ++ "." ++ "update" :=
      Name.ne_qualified name "update" (by decide)
    simp [different]
  · have ownModel : "in" ≠ Slot.modelConstructor name := menuOptions.ne_constructor name (by decide)
    have ownMessage : "in" ≠ Slot.messageConstructor name := update.ne_constructor name (by decide)
    simp [ownModel, ownMessage]

/-- For spellable names, `update` applies the messages of one to its models and logs all others. -/
theorem outcome?_update {names : List Name} (spellable : ∀ name ∈ names, name.isSpellable = true)
    {name other : Name} (member : name ∈ names) :
    (update.definition names).outcome? (Slot.messageConstructor name)
        (Slot.modelConstructor other) =
      if name = other then
        some (.applied ⟨name.text, "update", [.content (Slot.messageConstructor name),
          .content (Slot.modelConstructor name)]⟩ (Slot.modelConstructor name)
          (Slot.messageConstructor name))
      else some (.logged "mismatchError") := by
  have own := spellable name member
  have outer := update.reached?_definition spellable member
  -- Inside, the case expression is on the model.
  have inner := reached?_updatePart own (Slot.modelConstructor other)
  have parameters : (update.definition names).parameters = ["multiMsg", "multiModel"] := rfl
  simp only [Code.Definition.outcome?, parameters]
  rw [show "multiMsg" = update.subject from rfl,
    show Slot.messageConstructor name = update.constructor name from rfl, outer, Option.bind_some]
  show ((Code.reached? (Slot.updatePart name).body _ _).bind _) = _
  rw [inner]
  -- The message has chosen the arm, and inside it the model chooses between the two outcomes.
  by_cases same : name = other
  · subst same
    rw [if_pos rfl, if_pos rfl, Option.bind_some]
    exact outcome?_ownPart own
  · have apart : Slot.modelConstructor name ≠ Slot.modelConstructor other :=
      fun equal => same (menuOptions.constructor_inj name other equal)
    rw [if_neg apart, if_neg same]
    rfl

end Dispatcher

end Switchboard
