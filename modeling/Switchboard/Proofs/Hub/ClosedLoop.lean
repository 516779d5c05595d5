import Switchboard.Hub.Gallery
import Switchboard.Proofs.Hub.Dispatch
import Switchboard.Proofs.Hub.Registration

/-!
An application that starts with a model of one panel and only sends what the hub has handed out
never leaves that panel.
-/

namespace Switchboard

variable {U : Universe}

namespace Hub

/-- The hub's answers about a model that carry messages, for any place a view can be asked for. -/
inductive Answers (hub : Hub U) (model : Tagged U) : Carrier (Tagged U) → Prop where
  | menuOption {options : List (MenuOption (Tagged U))} {option : MenuOption (Tagged U)}
      (given : (hub.menuOptions model).value = some options) (member : option ∈ options) :
      Answers hub model (.menuOption option)
  | inside {position : Position} {radius : Float} {view : View (Tagged U)}
      (given : (hub.viewInside position radius model).value = some view) :
      Answers hub model (.view view)
  | outside {position : Position} {radius : Float} {view : View (Tagged U)}
      (given : (hub.viewOutside position radius model).value = some view) :
      Answers hub model (.view view)
  | subscription {subscription : Subscription (Tagged U)}
      (given : (hub.subscriptions model).value = some subscription) :
      Answers hub model (.subscription subscription)

/-- About a panel's own model, the hub answers with nothing but the panel's own messages. -/
theorem Sorted.answers_own {hub : Hub U} {panel : Panel U} (sorted : hub.Sorted)
    (registered : panel ∈ hub.panels) {model : U.El panel.modelCode}
    {carrier : Carrier (Tagged U)} (answers : hub.Answers (panel.ofModel model) carrier) :
    ∃ own : Carrier (U.El panel.messageCode), carrier = own.map panel.ofMessage := by
  -- In each case the answer is one of the panel's own carriers with its messages tagged.
  cases answers with
  -- The menu does not depend on the model, so each of its options is one of the panel's.
  | menuOption given member =>
    rw [sorted.menuOptions_own registered, Option.some.injEq] at given
    subst given
    obtain ⟨option, -, rfl⟩ := List.mem_map.mp member
    exact ⟨.menuOption option, rfl⟩
  | @inside position radius view given =>
    rw [sorted.viewInside_own registered, Option.some.injEq] at given
    exact ⟨.view (panel.viewInside position radius model), congrArg Carrier.view given.symm⟩
  | @outside position radius view given =>
    rw [sorted.viewOutside_own registered, Option.some.injEq] at given
    exact ⟨.view (panel.viewOutside position radius model), congrArg Carrier.view given.symm⟩
  | subscription given =>
    rw [sorted.subscriptions_own registered, Option.some.injEq] at given
    exact ⟨.subscription (panel.subscriptions model), congrArg Carrier.subscription given.symm⟩

end Hub

/-- The models an application has reached and the messages its updates have left it. -/
structure Loop (U : Universe) where
  models : List (Tagged U)
  pending : List (Tagged U) := []

namespace Loop

/-- A message the hub has handed out, in an effect or in an answer about a model reached. -/
def Available (hub : Hub U) (loop : Loop U) (message : Tagged U) : Prop :=
  message ∈ loop.pending ∨
    ∃ model ∈ loop.models, ∃ carrier, hub.Answers model carrier ∧ message ∈ carrier.messages

/-- What is reached and left after a message is applied to a model, which both stay at hand. -/
def apply (hub : Hub U) (loop : Loop U) (message model : Tagged U) : Loop U :=
  -- An update that comes to nothing adds nothing.
  match (hub.update message model).value with
  | none => loop
  | some (next, effect) => ⟨next :: loop.models, effect.messages ++ loop.pending⟩

/-- The loops that applying available messages to models at hand leads to. -/
inductive Reached (hub : Hub U) (start : Loop U) : Loop U → Prop where
  | start : Reached hub start start
  | apply {loop : Loop U} {message model : Tagged U} (earlier : Reached hub start loop)
      (available : loop.Available hub message) (member : model ∈ loop.models) :
      Reached hub start (loop.apply hub message model)

/-- Every model at hand and every message left belongs to one panel. -/
structure Within (panel : Panel U) (loop : Loop U) : Prop where
  models : ∀ model ∈ loop.models, ∃ own, model = panel.ofModel own
  pending : ∀ message ∈ loop.pending, ∃ own, message = panel.ofMessage own

variable {hub : Hub U} {panel : Panel U} {loop : Loop U}

/-- Within a panel, only the panel's own messages are available. -/
theorem Within.available (within : loop.Within panel) (sorted : hub.Sorted)
    (registered : panel ∈ hub.panels) {message : Tagged U}
    (available : loop.Available hub message) : ∃ own, message = panel.ofMessage own := by
  rcases available with left | ⟨model, member, carrier, answers, carried⟩
  · -- It was left by an update, which only leaves the panel's own.
    exact within.pending message left
  · -- The carrier is one of the panel's own with its messages tagged, so this message is too.
    obtain ⟨own, rfl⟩ := within.models model member
    obtain ⟨untagged, rfl⟩ := sorted.answers_own registered answers
    rw [Carrier.messages_map] at carried
    obtain ⟨inner, -, rfl⟩ := List.mem_map.mp carried
    exact ⟨inner, rfl⟩

/-- Applying a panel's own message to its own model adds what the panel makes of them. -/
theorem apply_own (sorted : hub.Sorted) (registered : panel ∈ hub.panels)
    (message : U.El panel.messageCode) (model : U.El panel.modelCode) :
    loop.apply hub (panel.ofMessage message) (panel.ofModel model) =
      ⟨panel.ofModel (panel.update message model).1 :: loop.models,
        (panel.update message model).2.messages.map panel.ofMessage ++ loop.pending⟩ := by
  -- The hub has no choice but to ask the panel, which takes both.
  rw [apply, sorted.update_own registered]
  rfl

/-- Applying a panel's own message to its own model stays within the panel. -/
theorem Within.apply (within : loop.Within panel) (sorted : hub.Sorted)
    (registered : panel ∈ hub.panels) (message : U.El panel.messageCode)
    (model : U.El panel.modelCode) :
    (loop.apply hub (panel.ofMessage message) (panel.ofModel model)).Within panel := by
  -- The new model and the messages of the effect are tagged by the panel itself.
  rw [apply_own sorted registered]
  constructor
  · intro reached member
    -- The model just made is on top of those there were.
    rcases List.mem_cons.mp member with new | old
    · exact ⟨_, new⟩
    · exact within.models reached old
  · intro left member
    rcases List.mem_append.mp member with new | old
    · obtain ⟨own, -, rfl⟩ := List.mem_map.mp new
      exact ⟨own, rfl⟩
    · exact within.pending left old

/-- From a panel's own model, only the panel's own models and messages are ever reached. -/
theorem Reached.within (sorted : hub.Sorted) (registered : panel ∈ hub.panels)
    {model : U.El panel.modelCode}
    (reached : Reached hub { models := [panel.ofModel model] } loop) : loop.Within panel := by
  -- Both what is at hand and what is available are the panel's own, and an update keeps that.
  induction reached with
  -- Nothing is left over at the start, and the only model is the panel's.
  | start => exact ⟨fun _ member => ⟨model, List.mem_singleton.mp member⟩, by simp⟩
  | apply earlier available member ih =>
    obtain ⟨message, rfl⟩ := ih.available sorted registered available
    obtain ⟨own, rfl⟩ := ih.models _ member
    exact ih.apply sorted registered message own

/-- Whatever an application does with the messages a hub hands out for a model of a registered
panel, every update goes through without a warning and everything keeps the panel's tag and
types. -/
theorem reached_stays_within_panel {panels : List (Panel U)} {panel : Panel U}
    (registered : panel ∈ (Hub.ofPanels panels).panels) (model : U.El panel.modelCode)
    {loop : Loop U} (reached : Reached (Hub.ofPanels panels) ⟨[panel.ofModel model], []⟩ loop) :
    (∀ message model, loop.Available (Hub.ofPanels panels) message → model ∈ loop.models →
      ∃ result, (Hub.ofPanels panels).update message model = { value := some result }) ∧
    (∀ model ∈ loop.models, model.tag = panel.name ∧ model.payload.code = panel.modelCode) ∧
    ∀ message, loop.Available (Hub.ofPanels panels) message →
      message.tag = panel.name ∧ message.payload.code = panel.messageCode := by
  have sorted := Hub.sorted_ofPanels panels
  have within := reached.within sorted registered
  -- Everything reached is the panel's own, which gives the tags, the types and the updates.
  refine ⟨fun message model available member => ?_, fun model member => ?_,
    fun message available => ?_⟩
  · obtain ⟨message, rfl⟩ := within.available sorted registered available
    obtain ⟨own, rfl⟩ := within.models model member
    exact ⟨_, sorted.update_own registered message own⟩
  · obtain ⟨own, rfl⟩ := within.models model member
    exact ⟨rfl, rfl⟩
  · obtain ⟨own, rfl⟩ := within.available sorted registered available
    exact ⟨rfl, rfl⟩

/-- A tally sends on the letters of a text from its menu, and takes each of them. -/
theorem reached_stays_within_panel_tally :
    let panel := Gallery.tally ⟨"B"⟩ "b"
    let hub := Hub.ofPanels [Gallery.counter ⟨"A"⟩ "a", panel]
    ∃ loop, Reached hub ⟨[panel.ofModel (0 : Int)], []⟩ loop ∧
      panel.ofModel (2 : Int) ∈ loop.models ∧ panel.ofMessage "!" ∈ loop.pending ∧
      ∃ result, hub.update (panel.ofMessage "!") (panel.ofModel (2 : Int)) =
        { value := some result } := by
  intro panel hub
  have sorted : hub.Sorted := Hub.sorted_ofPanels _
  have registered : panel ∈ hub.panels := by
    rw [sorted.mem_panels_iff, Hub.panel?_ofPanels]
    rfl
  -- The menu offers the text, which leaves a model of two and both letters.
  have given : (hub.menuOptions (panel.ofModel (0 : Int))).value =
      some [⟨"b", panel.ofMessage "b!"⟩] :=
    congrArg Noted.value (sorted.menuOptions_own registered (0 : Int))
  have offered : Available hub ⟨[panel.ofModel (0 : Int)], []⟩ (panel.ofMessage "b!") :=
    Or.inr ⟨_, List.mem_singleton_self _, _, .menuOption given (List.mem_singleton_self _),
      List.mem_singleton_self _⟩
  have applied : apply hub ⟨[panel.ofModel (0 : Int)], []⟩ (panel.ofMessage "b!")
      (panel.ofModel (0 : Int)) = ⟨[panel.ofModel (2 : Int), panel.ofModel (0 : Int)],
        [panel.ofMessage "b", panel.ofMessage "!"]⟩ :=
    apply_own sorted registered "b!" (0 : Int)
  have reached := applied ▸ Reached.apply .start offered (List.mem_singleton_self _)
  have model : panel.ofModel (2 : Int) ∈ [panel.ofModel (2 : Int), panel.ofModel (0 : Int)] :=
    List.mem_cons_self
  have letter : panel.ofMessage "!" ∈ [panel.ofMessage "b", panel.ofMessage "!"] :=
    List.mem_cons_of_mem _ (List.mem_singleton_self _)
  exact ⟨_, reached, model, letter,
    (reached_stays_within_panel registered (0 : Int) reached).1 _ _ (Or.inl letter) model⟩

end Loop

end Switchboard
