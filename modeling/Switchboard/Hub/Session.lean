import Switchboard.Hub.Basic
import Switchboard.Document
import Switchboard.Table

/-!
A session with a hub: models kept in named slots, messages waiting in a queue, and requests answered
one after another.
-/

namespace Switchboard

/-- A hub in use, with the models it keeps and the messages that wait. -/
structure Session (U : Universe) where
  hub : Hub U := {}
  slots : Table String (Tagged U) := .empty
  queue : List (Tagged U) := []

/-- A model given as it is or by the slot it is kept in. -/
inductive ModelSource (U : Universe) where
  | given (model : Tagged U)
  | slot (name : String)

/-- Something asked of a session. -/
inductive Request (U : Universe) where
  | insert (panel : Panel U)
  | names
  | roster
  | document (settings : Settings)
  | keep (slot : String) (model : Tagged U)
  | recall (model : ModelSource U)
  | describe (model : ModelSource U) (message : Tagged U)
  | update (model : ModelSource U) (message : Tagged U) (into : Option String) (queue : Bool)
  | menu (model : ModelSource U) (queue : Bool)
  | inside (model : ModelSource U) (position : Position) (radius : Float) (queue : Bool)
  | outside (model : ModelSource U) (position : Position) (radius : Float) (queue : Bool)
  | subscriptions (model : ModelSource U) (queue : Bool)
  | drain (slot : String) (limit : Nat)

/-- The new model and the effect of an update, if it went through. -/
abbrev Updated (U : Universe) := Option (Tagged U × Effect (Tagged U))

/-- What a session answers. -/
inductive Answer (U : Universe) where
  | names (names : List Name) (size : Nat) (empty : Bool)
  | roster (roster : Roster)
  | document (contents : String)
  | model (model : Option (Tagged U))
  | described (model message : String)
  | updated (result : Updated U)
  | menu (options : Option (List (MenuOption (Tagged U))))
  | view (view : Option (View (Tagged U)))
  | subscription (subscription : Option (Subscription (Tagged U)))
  | drained (results : List (Tagged U × Updated U)) (model : Option (Tagged U))
      (left : List (Tagged U))

/-- What a hub tells about its panels: their names, how many there are and whether there are any. -/
def Hub.overview {U : Universe} (hub : Hub U) : Answer U :=
  .names hub.names hub.size hub.isEmpty

namespace Session

variable {U : Universe}

/-- The model a request means, if there is one. -/
def model? (session : Session U) : ModelSource U → Option (Tagged U)
  | .given model => some model
  | .slot name => session.slots.get? name

/-- The session with some messages put at the end of the queue, if asked for. -/
def enqueue (session : Session U) (wanted : Bool) (messages : List (Tagged U)) : Session U :=
  if wanted then { session with queue := session.queue ++ messages } else session

/-- Sends waiting messages to the model of a slot, at most as many as given. -/
def drain (slot : String) : Nat → Session U → Warned (List (Tagged U × Updated U)) × Session U
  -- A message that fails is lost, and one that succeeds may put more at the end of the queue.
  | 0, session => ({ value := [] }, session)
  | limit + 1, session =>
    match session.queue, session.slots.get? slot with
    | message :: rest, some model =>
      let result := session.hub.update message model
      let session := { session with queue := rest }
      let session := match result.value with
        | some (next, effect) =>
          { session with
            slots := session.slots.put slot next
            queue := session.queue ++ effect.messages }
        | none => session
      let (later, session) := drain slot limit session
      ({ value := (message, result.value) :: later.value
         notes := result.notes ++ later.notes }, session)
    | _, _ => ({ value := [] }, session)

/-- The answer to a query about a model that may be missing. -/
def query {α : Type} (session : Session U) (source : ModelSource U)
    (ask : Tagged U → Warned (Option α)) : Warned (Option α) :=
  -- A slot with nothing in it has no answer.
  match session.model? source with
  | some model => ask model
  | none => { value := none }

/-- Answers a request, and says how the session goes on. -/
def step (session : Session U) (request : Request U) : Warned (Answer U) × Session U :=
  -- Queries leave the session alone except that they may queue the messages they show.
  match request with
  | .insert panel =>
    let result := session.hub.insert panel
    ({ value := result.value.overview, notes := result.notes },
      { session with hub := result.value })
  | .names => ({ value := session.hub.overview }, session)
  | .roster => ({ value := .roster session.hub.toRoster }, session)
  | .document settings =>
    ({ value := .document (session.hub.toRoster.document settings).contents }, session)
  | .keep slot model =>
    ({ value := .model (some model) },
      { session with slots := session.slots.put slot model })
  | .recall source => ({ value := .model (session.model? source) }, session)
  | .describe source message =>
    match session.model? source with
    | some model =>
      ({ value := .described (model.describe "MultiModel") (message.describe "MultiMsg") }, session)
    | none => ({ value := .model none }, session)
  | .update source message into queue =>
    let result := session.query source (session.hub.update message)
    let session := match result.value with
      | some (next, effect) =>
        let session := session.enqueue queue effect.messages
        match into with
        | some slot => { session with slots := session.slots.put slot next }
        | none => session
      | none => session
    ({ value := .updated result.value, notes := result.notes }, session)
  | .menu source queue =>
    let result := session.query source session.hub.menuOptions
    ({ value := .menu result.value, notes := result.notes },
      session.enqueue queue ((result.value.getD []).map MenuOption.message))
  | .inside source position radius queue =>
    let result := session.query source (session.hub.viewInside position radius)
    ({ value := .view result.value, notes := result.notes },
      session.enqueue queue ((result.value.map View.handlers).getD [] |>.map Prod.snd))
  | .outside source position radius queue =>
    let result := session.query source (session.hub.viewOutside position radius)
    ({ value := .view result.value, notes := result.notes },
      session.enqueue queue ((result.value.map View.handlers).getD [] |>.map Prod.snd))
  | .subscriptions source queue =>
    let result := session.query source session.hub.subscriptions
    ({ value := .subscription result.value, notes := result.notes },
      session.enqueue queue ((result.value.map Subscription.sources).getD [] |>.map Prod.snd))
  | .drain slot limit =>
    let (results, session) := drain slot limit session
    ({ value := .drained results.value (session.slots.get? slot) session.queue
       notes := results.notes }, session)

end Session

end Switchboard
