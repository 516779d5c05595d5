import Switchboard.Name

/-!
The eight places of the generated module that grow with the content modules, and the block of lines
that one content module adds to each.
-/

namespace Switchboard

/-- A place of the generated module that holds one block of lines per content module. -/
inductive Slot where
  | imports
  | models
  | menu
  | messages
  | update
  | inside
  | outside
  | subscriptions
deriving DecidableEq, Repr

namespace Slot

/-- All slots, in the order the generated module has them. -/
def all : List Slot :=
  [imports, models, menu, messages, update, inside, outside, subscriptions]

/-- How far the lines of a slot are moved right. -/
def margin : Slot → Nat
  -- Imports stand at the margin, constructors under their type and arms under their case.
  | imports => 0
  | models | messages => 4
  | menu | update | inside | outside | subscriptions => 8

/-- The constructor that wraps a module's model. -/
def modelConstructor (name : Name) : String :=
  "Mdl" ++ name.text

/-- The constructor that wraps a module's message. -/
def messageConstructor (name : Name) : String :=
  "Msg" ++ name.text

/-- The line that brings a module into scope under its own name. -/
def importLine (space : String) (name : Name) : String :=
  -- Without a namespace the module already has its own name.
  if space = "" then "import " ++ name.text
  else "import " ++ space ++ "." ++ name.text ++ " as " ++ name.text

/-- What stands in front of a constructor, which opens the union or continues it. -/
def unionToken (first : Bool) : String :=
  if first then "= " else "| "

/-- The arm that answers a message of a module, on the module's own model only. -/
def updateArm (name : Name) : List String :=
  -- Any other model falls through to the logged mismatch.
  [messageConstructor name ++ " action ->",
    "    case multiModel of",
    "        " ++ modelConstructor name ++ " model ->",
    "            let",
    "                ( model_, cmd ) =",
    "                    " ++ name.text ++ ".update action model",
    "            in",
    "            Just ( " ++ modelConstructor name ++ " model_, Cmd.map " ++
      messageConstructor name ++ " cmd )",
    "",
    "        _ ->",
    "            Debug.log mismatchError Nothing"]

/-- The arm that asks a module's function about its model and lifts the messages in the answer. -/
def queryArm (name : Name) (call lift : String) : List String :=
  [modelConstructor name ++ " model ->",
    "    " ++ name.text ++ "." ++ call,
    "        |> " ++ lift]

/-- The lines one module adds to a slot, as the first module of it or a later one. -/
def block (space : String) (slot : Slot) (first : Bool) (name : Name) : List String :=
  -- Only the unions tell the first module from the others.
  match slot with
  | imports => [importLine space name]
  | models => [unionToken first ++ modelConstructor name ++ " " ++ name.text ++ ".Model"]
  | messages => [unionToken first ++ messageConstructor name ++ " " ++ name.text ++ ".Msg"]
  | menu =>
    queryArm name "menuOptions" ("List.map (Option.map " ++ messageConstructor name ++ ")")
  | update => updateArm name
  | inside =>
    queryArm name "viewInside pos radius model" ("Html.map " ++ messageConstructor name)
  | outside =>
    queryArm name "viewOutside pos radius model" ("Html.map " ++ messageConstructor name)
  | subscriptions =>
    queryArm name "subscriptions model" ("Sub.map " ++ messageConstructor name)

/-- The blocks of a slot, one per name in order. -/
def blocks (space : String) (slot : Slot) : List Name → List (List String)
  -- The head of the list is the slot's first module.
  | [] => []
  | name :: rest => block space slot true name :: rest.map (block space slot false)

/-- The text of a slot before it is moved to its margin. -/
def body (space : String) (slot : Slot) (names : List Name) : String :=
  "\n".intercalate (blocks space slot names).flatten

end Slot

end Switchboard
