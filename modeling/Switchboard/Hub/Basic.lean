import Switchboard.Hub.Panel
import Switchboard.Noted
import Switchboard.Roster
import Switchboard.Spot

/-!
A hub of panels, which sends each tagged model and message to the panel of its tag. Whatever goes
wrong is told by warnings beside the answer.
-/

namespace Switchboard

/-- The wording for a message that meets a model it does not fit. -/
def mismatchMessage : String :=
  "MetaContent.update msg model type mismatch"

/-- Something a hub warns about. -/
inductive Warning where
  /-- A panel took the place of an earlier one of the same name. -/
  | replaced (tag : Name)
  /-- No panel has the name. -/
  | unregistered (tag : Name)
  /-- A message and a model belong to different panels. -/
  | tagMismatch (message model : Name)
  /-- The tags agree, but a payload does not have the panel's type. -/
  | payloadMismatch (tag : Name)
deriving DecidableEq, Repr

/-- The wording of a warning. -/
def Warning.message : Warning → String
  -- Both kinds of mismatch read the same.
  | replaced _ => "replacing content registered under the same name"
  | unregistered _ => "no content registered under this name"
  | tagMismatch _ _ | payloadMismatch _ => mismatchMessage

/-- The names a warning gives, each with the part it plays. -/
def Warning.details : Warning → List (String × Name)
  -- Only a mismatch of tags has two names to give.
  | replaced tag | unregistered tag | payloadMismatch tag => [("content", tag)]
  | tagMismatch message model => [("msg", message), ("model", model)]

/-- A result with the warnings that came with it, in order. -/
abbrev Warned (α : Type) := Noted Warning α

/-- Panels in the order of their names. -/
structure Hub (U : Universe) where
  panels : List (Panel U) := []

namespace Hub

variable {U : Universe}

/-- The names of the registered panels in order. -/
def names (hub : Hub U) : List Name :=
  hub.panels.map Panel.name

/-- The number of registered panels. -/
def size (hub : Hub U) : Nat :=
  hub.panels.length

/-- Whether no panel is registered. -/
def isEmpty (hub : Hub U) : Bool :=
  hub.panels.isEmpty

/-- Where a name stands among the panels, or where it would go. -/
def position (hub : Hub U) (tag : Name) : Spot :=
  Spot.search (fun panel => compare panel.name tag) hub.panels

/-- Registers a panel, with a warning if it replaces another. -/
def insert (hub : Hub U) (panel : Panel U) : Warned (Hub U) :=
  -- The panels stay in order because the search finds where the name belongs.
  match hub.position panel.name with
  | .taken index =>
    { value := ⟨hub.panels.set index panel⟩, notes := [.replaced panel.name] }
  | .free index => { value := ⟨hub.panels.insertIdx index panel⟩ }

/-- The panel registered under a name, or a warning that there is none. -/
def lookup (hub : Hub U) (tag : Name) : Warned (Option (Panel U)) :=
  match hub.position tag with
  | .taken index => { value := hub.panels[index]? }
  | .free _ => { value := none, notes := [.unregistered tag] }

/-- The answer of the panel registered under a name, or a warning that there is none. -/
def ask {α : Type} (hub : Hub U) (tag : Name) (answer : Panel U → Option α) :
    Warned (Option α) :=
  -- A panel may also have no answer, which is nothing to warn about here.
  (hub.lookup tag).map fun found => found.bind answer

/-- The roster of the registered names, which come from no files. -/
def toRoster (hub : Hub U) : Roster :=
  .ofNames hub.names

/-- The menu of the panel a model belongs to, whatever the model's payload is. -/
def menuOptions (hub : Hub U) (model : Tagged U) : Warned (Option (List (MenuOption (Tagged U)))) :=
  hub.ask model.tag fun panel => some panel.taggedMenu

/-- Applies a message to a model of the same panel. -/
def update (hub : Hub U) (message model : Tagged U) :
    Warned (Option (Tagged U × Effect (Tagged U))) :=
  -- The tags are compared first, then the panel is looked for, and last the payloads are checked.
  if message.tag = model.tag then
    let found := hub.lookup message.tag
    match found.value with
    | none => { value := none, notes := found.notes }
    | some panel =>
      match panel.taggedUpdate? message.payload model.payload with
      | none => { value := none, notes := found.notes ++ [.payloadMismatch model.tag] }
      | some result => { value := some result, notes := found.notes }
  else { value := none, notes := [.tagMismatch message.tag model.tag] }

/-- The inner view of a model by the panel it belongs to. -/
def viewInside (hub : Hub U) (position : Position) (radius : Float) (model : Tagged U) :
    Warned (Option (View (Tagged U))) :=
  hub.ask model.tag fun panel => panel.taggedInside? position radius model.payload

/-- The outer view of a model by the panel it belongs to. -/
def viewOutside (hub : Hub U) (position : Position) (radius : Float) (model : Tagged U) :
    Warned (Option (View (Tagged U))) :=
  hub.ask model.tag fun panel => panel.taggedOutside? position radius model.payload

/-- The subscriptions for a model by the panel it belongs to. -/
def subscriptions (hub : Hub U) (model : Tagged U) : Warned (Option (Subscription (Tagged U))) :=
  hub.ask model.tag fun panel => panel.taggedSubscriptions? model.payload

end Hub

end Switchboard
