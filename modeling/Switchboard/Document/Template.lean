import Switchboard.Document.Slot
import Switchboard.Text.Lines

/-! The fixed text of the generated module, with holes for the module's name and for the slots. -/

namespace Switchboard

/-- One part of the template. -/
inductive Part where
  /-- A line that is always the same. -/
  | fixed (line : String)
  /-- A line with the name of the generated module inside. -/
  | naming (before after : String)
  /-- The hole for a slot. -/
  | hole (slot : Slot)
deriving DecidableEq, Repr

/-- The parts of the generated module from top to bottom. -/
def template : List Part :=
  -- Each section declares its types and helpers and ends in the case expressions over the modules.
  [.fixed "-- Generated by metacontent. Do not edit by hand; rerun `metacontent` instead.",
    .fixed "",
    .fixed "",
    .naming "module " " exposing (..)",
    .fixed "",
    .fixed "import Html",
    .fixed "import MyCss",
    .fixed "import Option exposing (Option)",
    .fixed "",
    .hole .imports,
    .fixed "",
    .fixed "",
    .fixed "",
    .fixed "-- MODEL",
    .fixed "",
    .fixed "",
    .fixed "type MultiModel",
    .hole .models,
    .fixed "",
    .fixed "",
    .fixed "menuOptions : MultiModel -> List (Option MultiMsg)",
    .fixed "menuOptions multiModel =",
    .fixed "    case multiModel of",
    .hole .menu,
    .fixed "",
    .fixed "",
    .fixed "",
    .fixed "-- UPDATE",
    .fixed "",
    .fixed "",
    .fixed "type MultiMsg",
    .hole .messages,
    .fixed "",
    .fixed "",
    .fixed "mismatchError : String",
    .fixed "mismatchError =",
    .naming "    \"" ".update msg model type mismatch\"",
    .fixed "",
    .fixed "",
    .fixed "update : MultiMsg -> MultiModel -> Maybe ( MultiModel, Cmd MultiMsg )",
    .fixed "update multiMsg multiModel =",
    .fixed "    case multiMsg of",
    .hole .update,
    .fixed "",
    .fixed "",
    .fixed "",
    .fixed "-- VIEW",
    .fixed "",
    .fixed "",
    .fixed "viewInside : ( Float, Float ) -> Float -> MultiModel -> Html.Html MultiMsg",
    .fixed "viewInside pos radius multiModel =",
    .fixed "    case multiModel of",
    .hole .inside,
    .fixed "",
    .fixed "",
    .fixed "viewOutside : ( Float, Float ) -> Float -> MultiModel -> Html.Html MultiMsg",
    .fixed "viewOutside pos radius multiModel =",
    .fixed "    case multiModel of",
    .hole .outside,
    .fixed "",
    .fixed "",
    .fixed "",
    .fixed "-- SUBSCRIPTIONS",
    .fixed "",
    .fixed "",
    .fixed "subscriptions : MultiModel -> Sub MultiMsg",
    .fixed "subscriptions multiModel =",
    .fixed "    case multiModel of",
    .hole .subscriptions]

/-- The text of a part, given the name of the generated module and the text of each slot. -/
def Part.text (moduleName : String) (body : Slot → String) : Part → String
  -- Imports are already at the margin and are not read line by line.
  | fixed line => line
  | naming before after => before ++ moduleName ++ after
  | hole .imports => body .imports
  | hole slot => Lines.indent slot.margin (body slot)

/-- The template with its holes filled, each part ended by a line feed. -/
def fill (moduleName : String) (body : Slot → String) : String :=
  String.join (template.map fun part => part.text moduleName body ++ "\n")

end Switchboard
