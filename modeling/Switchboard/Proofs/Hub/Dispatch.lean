import Switchboard.Proofs.Hub.Order

/-! What a hub answers about the models and messages of its own panels. -/

namespace Switchboard

variable {U : Universe}

/-- A panel's update takes its own messages and models, and gives back its own. -/
theorem Panel.taggedUpdate?_own (panel : Panel U) (message : U.El panel.messageCode)
    (model : U.El panel.modelCode) :
    panel.taggedUpdate? (panel.ofMessage message).payload (panel.ofModel model).payload =
      some (panel.ofModel (panel.update message model).1,
        (panel.update message model).2.map panel.ofMessage) := by
  -- The payloads have the panel's own types, so both casts are those along a reflexive equality.
  simp [taggedUpdate?, ofMessage, ofModel]

namespace Hub

variable {hub : Hub U} {panel : Panel U}

/-- A panel of a hub in order is what a lookup of its name finds. -/
theorem Sorted.lookup_name (sorted : hub.Sorted) (registered : panel ∈ hub.panels) :
    hub.lookup panel.name = { value := some panel } := by
  -- Membership and lookup say the same of a panel in order.
  rw [sorted.lookup_eq, (sorted.mem_panels_iff panel).mp registered]

/-- A panel of a hub in order is asked about its own name, without a warning. -/
theorem Sorted.ask_name {α : Type} (sorted : hub.Sorted) (registered : panel ∈ hub.panels)
    (answer : Panel U → Option α) : hub.ask panel.name answer = { value := answer panel } := by
  rw [ask, sorted.lookup_name registered]
  rfl

/-- The menu for a panel's own model is the panel's menu with its messages tagged. -/
theorem Sorted.menuOptions_own (sorted : hub.Sorted) (registered : panel ∈ hub.panels)
    (model : U.El panel.modelCode) :
    hub.menuOptions (panel.ofModel model) =
      { value := some (panel.menuOptions.map (MenuOption.map panel.ofMessage)) } :=
  sorted.ask_name registered _

/-- The inner view of a panel's own model is the panel's view with its messages tagged. -/
theorem Sorted.viewInside_own (sorted : hub.Sorted) (registered : panel ∈ hub.panels)
    (position : Position) (radius : Float) (model : U.El panel.modelCode) :
    hub.viewInside position radius (panel.ofModel model) =
      { value := some ((panel.viewInside position radius model).map panel.ofMessage) } := by
  -- What is left after the lookup is a cast of the model to its own type.
  refine (sorted.ask_name registered _).trans ?_
  simp [Panel.taggedInside?, Panel.ofModel]

/-- The outer view of a panel's own model is the panel's view with its messages tagged. -/
theorem Sorted.viewOutside_own (sorted : hub.Sorted) (registered : panel ∈ hub.panels)
    (position : Position) (radius : Float) (model : U.El panel.modelCode) :
    hub.viewOutside position radius (panel.ofModel model) =
      { value := some ((panel.viewOutside position radius model).map panel.ofMessage) } := by
  refine (sorted.ask_name registered _).trans ?_
  simp [Panel.taggedOutside?, Panel.ofModel]

/-- The subscriptions for a panel's own model are the panel's with their messages tagged. -/
theorem Sorted.subscriptions_own (sorted : hub.Sorted) (registered : panel ∈ hub.panels)
    (model : U.El panel.modelCode) :
    hub.subscriptions (panel.ofModel model) =
      { value := some ((panel.subscriptions model).map panel.ofMessage) } := by
  refine (sorted.ask_name registered _).trans ?_
  simp [Panel.taggedSubscriptions?, Panel.ofModel]

/-- A panel's own message changes its own model as the panel says, with the results tagged. -/
theorem Sorted.update_own (sorted : hub.Sorted) (registered : panel ∈ hub.panels)
    (message : U.El panel.messageCode) (model : U.El panel.modelCode) :
    hub.update (panel.ofMessage message) (panel.ofModel model) =
      { value := some (panel.ofModel (panel.update message model).1,
          (panel.update message model).2.map panel.ofMessage) } := by
  -- The tags are the panel's name on both sides, so the lookup decides.
  have same : (panel.ofMessage message).tag = (panel.ofModel model).tag := rfl
  have found : hub.lookup (panel.ofMessage message).tag = { value := some panel } :=
    sorted.lookup_name registered
  simp only [update, if_pos same, found, panel.taggedUpdate?_own]

end Hub

end Switchboard
