import Switchboard.Hub.Carrier
import Switchboard.Name
import Switchboard.Text.Quoted

/-!
Panels, which are content modules as values: the functions they offer over their own types of models
and messages, and models and messages tagged with a panel's name so that panels of different types
can stand together.
-/

namespace Switchboard

/-- The types that models and messages may have, each under a code that can be compared. -/
structure Universe where
  Code : Type
  El : Code → Type
  decEq : DecidableEq Code

instance (U : Universe) : DecidableEq U.Code := U.decEq

/-- A value of some type of a universe, together with the code of that type. -/
structure Payload (U : Universe) where
  code : U.Code
  value : U.El code

/-- The value of a payload, if it has the type asked for. -/
def Payload.as? {U : Universe} (payload : Payload U) (code : U.Code) : Option (U.El code) :=
  -- Equal codes stand for one type, so the value can be handed over.
  if same : payload.code = code then some (same ▸ payload.value) else none

/-- A payload has the type it was made with. -/
@[simp] theorem Payload.as?_mk {U : Universe} (code : U.Code) (value : U.El code) :
    (Payload.mk code value).as? code = some value := by
  -- The comparison is between a code and itself.
  simp [Payload.as?]

/-- A model or a message with the name of the panel it belongs to. -/
structure Tagged (U : Universe) where
  tag : Name
  payload : Payload U

/-- The text that shows a tagged value of some kind to a programmer, with the payload left out. -/
def Tagged.describe {U : Universe} (kind : String) (tagged : Tagged U) : String :=
  kind ++ " \x7b tag: Identifier(" ++ Quoted.quote tagged.tag.text ++ "), .. \x7d"

/-- Where a panel is drawn. -/
structure Position where
  x : Float
  y : Float

/-- A content module as a value: its name, its types and its functions. -/
structure Panel (U : Universe) where
  /-- The name the panel is registered and tagged under. -/
  name : Name
  /-- The type of its models. -/
  modelCode : U.Code
  /-- The type of its messages. -/
  messageCode : U.Code
  /-- The entries it adds to the menu. -/
  menuOptions : List (MenuOption (U.El messageCode))
  /-- What a message makes of a model, and the work that follows. -/
  update : U.El messageCode → U.El modelCode → U.El modelCode × Effect (U.El messageCode)
  /-- What it draws inside its frame, for a position and a radius. -/
  viewInside : Position → Float → U.El modelCode → View (U.El messageCode)
  /-- What it draws around its frame, for a position and a radius. -/
  viewOutside : Position → Float → U.El modelCode → View (U.El messageCode)
  /-- The outside events it listens to. -/
  subscriptions : U.El modelCode → Subscription (U.El messageCode) := fun _ => .none

namespace Panel

variable {U : Universe}

/-- A model of a panel under the panel's name. -/
def ofModel (panel : Panel U) (model : U.El panel.modelCode) : Tagged U :=
  ⟨panel.name, ⟨panel.modelCode, model⟩⟩

/-- A message of a panel under the panel's name. -/
def ofMessage (panel : Panel U) (message : U.El panel.messageCode) : Tagged U :=
  ⟨panel.name, ⟨panel.messageCode, message⟩⟩

/-- The panel's menu entries with tagged messages. -/
def taggedMenu (panel : Panel U) : List (MenuOption (Tagged U)) :=
  panel.menuOptions.map (MenuOption.map panel.ofMessage)

/-- The panel's update on payloads, if both have the panel's types. -/
def taggedUpdate? (panel : Panel U) (message model : Payload U) :
    Option (Tagged U × Effect (Tagged U)) :=
  -- The new model and the messages of the effect carry the panel's own name.
  match message.as? panel.messageCode, model.as? panel.modelCode with
  | some message, some model =>
    let (next, effect) := panel.update message model
    some (panel.ofModel next, effect.map panel.ofMessage)
  | _, _ => none

/-- The panel's inner view of a payload, if it has the type of the panel's models. -/
def taggedInside? (panel : Panel U) (position : Position) (radius : Float)
    (model : Payload U) : Option (View (Tagged U)) :=
  (model.as? panel.modelCode).map fun model =>
    (panel.viewInside position radius model).map panel.ofMessage

/-- The panel's outer view of a payload, if it has the type of the panel's models. -/
def taggedOutside? (panel : Panel U) (position : Position) (radius : Float)
    (model : Payload U) : Option (View (Tagged U)) :=
  (model.as? panel.modelCode).map fun model =>
    (panel.viewOutside position radius model).map panel.ofMessage

/-- The panel's subscriptions for a payload, if it has the type of the panel's models. -/
def taggedSubscriptions? (panel : Panel U) (model : Payload U) :
    Option (Subscription (Tagged U)) :=
  (model.as? panel.modelCode).map fun model =>
    (panel.subscriptions model).map panel.ofMessage

end Panel

end Switchboard
