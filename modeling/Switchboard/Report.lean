import Switchboard.Remark

/-! What a successful run reports. -/

namespace Switchboard

/-- The result of a successful run. -/
structure Report where
  /-- Where the generated module belongs. -/
  output : Path
  /-- The names of the content modules in order. -/
  names : List Name
  /-- The remarks about the roster. -/
  remarks : List Remark
  /-- The size of the generated module in bytes. -/
  bytes : Nat
deriving DecidableEq, Repr

end Switchboard
