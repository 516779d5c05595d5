/-!
The values a content module answers with. Each carries messages, and `map` changes the messages and
nothing else.
-/

namespace Switchboard

variable {α β : Type}

/-- An entry of a menu, which sends its message when chosen. -/
structure MenuOption (α : Type) where
  label : String
  message : α
deriving DecidableEq, Repr

/-- The same entry with its message changed. -/
def MenuOption.map (f : α → β) (option : MenuOption α) : MenuOption β :=
  ⟨option.label, f option.message⟩

/-- Work to follow an update, given by the messages it will send. -/
structure Effect (α : Type) where
  messages : List α
deriving DecidableEq, Repr

namespace Effect

/-- No work. -/
def none : Effect α :=
  ⟨[]⟩

/-- Work that sends one message. -/
def message (message : α) : Effect α :=
  ⟨[message]⟩

/-- Work that sends some messages in order. -/
def batch (messages : List α) : Effect α :=
  ⟨messages⟩

/-- Whether there is no work. -/
def isNone (effect : Effect α) : Bool :=
  effect.messages.isEmpty

/-- The same work with its messages changed. -/
def map (f : α → β) (effect : Effect α) : Effect β :=
  ⟨effect.messages.map f⟩

end Effect

/-- Pairs of a source of events and a message with the messages changed. -/
def mapMessages (f : α → β) (sources : List (String × α)) : List (String × β) :=
  sources.map fun source => (source.1, f source.2)

/-- Markup with the messages its event handlers send. -/
structure View (α : Type) where
  markup : String
  handlers : List (String × α) := []
deriving DecidableEq, Repr

namespace View

/-- The view with one more handler, after those it has. -/
def on (view : View α) (event : String) (message : α) : View α :=
  { view with handlers := view.handlers ++ [(event, message)] }

/-- The same view with its messages changed. -/
def map (f : α → β) (view : View α) : View β :=
  ⟨view.markup, mapMessages f view.handlers⟩

end View

/-- Outside sources of events and the messages they send. -/
structure Subscription (α : Type) where
  sources : List (String × α)
deriving DecidableEq, Repr

namespace Subscription

/-- No source. -/
def none : Subscription α :=
  ⟨[]⟩

/-- One source. -/
def on (source : String) (message : α) : Subscription α :=
  ⟨[(source, message)]⟩

/-- Whether there is no source. -/
def isNone (subscription : Subscription α) : Bool :=
  subscription.sources.isEmpty

/-- The same sources with their messages changed. -/
def map (f : α → β) (subscription : Subscription α) : Subscription β :=
  ⟨mapMessages f subscription.sources⟩

end Subscription

/-- A value of any of the four kinds that carry messages. -/
inductive Carrier (α : Type) where
  | menuOption (value : MenuOption α)
  | effect (value : Effect α)
  | view (value : View α)
  | subscription (value : Subscription α)
deriving DecidableEq, Repr

namespace Carrier

/-- The same value with its messages changed. -/
def map (f : α → β) : Carrier α → Carrier β
  -- Each kind changes its own messages.
  | .menuOption value => .menuOption (value.map f)
  | .effect value => .effect (value.map f)
  | .view value => .view (value.map f)
  | .subscription value => .subscription (value.map f)

/-- The messages a value carries, in order. -/
def messages : Carrier α → List α
  -- Handlers and sources carry one message each.
  | .menuOption value => [value.message]
  | .effect value => value.messages
  | .view value => value.handlers.map Prod.snd
  | .subscription value => value.sources.map Prod.snd

/-- Changing the messages of a value changes each of them in place. -/
theorem messages_map (f : α → β) (carrier : Carrier α) :
    (carrier.map f).messages = carrier.messages.map f := by
  -- Every kind keeps its messages in a list or holds exactly one.
  cases carrier <;>
    simp [map, messages, MenuOption.map, Effect.map, View.map, Subscription.map, mapMessages,
      Function.comp_def]

end Carrier

end Switchboard
