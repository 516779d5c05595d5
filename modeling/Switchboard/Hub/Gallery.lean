import Switchboard.Hub.Panel

/-! Four small panels over integers, texts, flags and the empty message. -/

namespace Switchboard

/-- The types the panels of the gallery use. -/
inductive GalleryType where
  | integer
  | text
  | flag
  | nothing
deriving DecidableEq, Repr

/-- The values of each type of the gallery. -/
def GalleryType.El : GalleryType → Type
  | integer => Int
  | text => String
  | flag => Bool
  | nothing => Unit

/-- The universe of the gallery. -/
def galleryUniverse : Universe :=
  ⟨GalleryType, GalleryType.El, inferInstance⟩

namespace Gallery

/-- The exact place a view was asked for, by the bits of its three numbers. -/
def placeMark (position : Position) (radius : Float) : String :=
  -- Bits tell apart numbers that decimals could blur.
  "@" ++ toString position.x.toBits.toNat ++ "," ++ toString position.y.toBits.toNat ++ "," ++
    toString radius.toBits.toNat

/-- What a counter makes of a number: zero resets, and large or negative numbers send more. -/
def countOn (message model : Int) : Int × Effect Int :=
  if message = 0 then (0, .none)
  else if message < 0 then (model + message, .batch [-message, 100 - message])
  else if 100 < message then (model + message, .message (message - 100))
  else (model + message, .none)

/-- A panel that adds the numbers it is sent. -/
def counter (name : Name) (label : String) : Panel galleryUniverse where
  name := name
  modelCode := .integer
  messageCode := .integer
  menuOptions := [⟨label ++ " up", (1 : Int)⟩, ⟨label ++ " down", (-1 : Int)⟩,
    ⟨label ++ " reset", (0 : Int)⟩]
  update := countOn
  viewInside position radius (model : Int) :=
    ((View.mk ("<b>" ++ label ++ ":" ++ toString model ++ "</b>" ++ placeMark position radius)
      []).on "click" (1 : Int)).on "dblclick" model
  viewOutside position radius (model : Int) :=
    ⟨"<u>" ++ label ++ ":" ++ toString model ++ "</u>" ++ placeMark position radius, []⟩
  subscriptions model := .on label model

/-- What a tally makes of a text: its length is added, and its letters, if several, are sent on. -/
def tallyOn (message : String) (model : Int) : Int × Effect String :=
  let letters := message.toList
  (model + letters.length,
    if 1 < letters.length then .batch (letters.map String.singleton) else .none)

/-- A panel that counts the characters it is sent. -/
def tally (name : Name) (label : String) : Panel galleryUniverse where
  name := name
  modelCode := .integer
  messageCode := .text
  menuOptions := [⟨label, label ++ "!"⟩]
  update := tallyOn
  viewInside position radius (model : Int) :=
    ⟨"<i>" ++ label ++ ":" ++ toString model ++ "</i>" ++ placeMark position radius,
      if model = 0 then [] else [("tick", "a")]⟩
  viewOutside position radius _ := ⟨placeMark position radius, [("key", label)]⟩
  subscriptions (model : Int) := if 0 < model then .on "every" label else .none

/-- What a text makes of another: it is put at the end, and an exclamation sends on its rest. -/
def appendOn (message model : String) : String × Effect String :=
  (model ++ message,
    match message.toList with
    | '!' :: rest => .message (String.ofList rest)
    | _ => .none)

/-- A panel that collects the texts it is sent. -/
def text (name : Name) (label : String) : Panel galleryUniverse where
  name := name
  modelCode := .text
  messageCode := .text
  menuOptions := []
  update := appendOn
  viewInside _ _ (model : String) :=
    ⟨"<p>" ++ label ++ model ++ "</p>", [("input", model), ("clear", "")]⟩
  viewOutside position radius (model : String) := ⟨model ++ placeMark position radius, []⟩
  subscriptions (model : String) := ⟨[("first", model), ("second", label)]⟩

/-- A panel that flips at every message, and again without end if its label says so. -/
def toggle (name : Name) (label : String) : Panel galleryUniverse where
  name := name
  modelCode := .flag
  messageCode := .nothing
  menuOptions := [⟨label, ()⟩]
  update _ (model : Bool) := (!model, if label = "loop" then .message () else .none)
  viewInside _ _ (model : Bool) := ⟨if model then "on" else "off", [("flip", ())]⟩
  viewOutside _ _ _ := ⟨"", []⟩

end Gallery

end Switchboard
