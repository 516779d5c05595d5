/-! Results that come with notes, kept as data in the order they were made. -/

namespace Switchboard

/-- A result and the notes made on the way to it, in order. -/
structure Noted (ν α : Type) where
  value : α
  notes : List ν := []
deriving Repr

/-- The same notes with another result. -/
def Noted.map {ν α β : Type} (f : α → β) (noted : Noted ν α) : Noted ν β :=
  ⟨f noted.value, noted.notes⟩

end Switchboard
