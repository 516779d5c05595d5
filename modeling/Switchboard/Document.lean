import Switchboard.Document.Template
import Switchboard.Roster
import Switchboard.Settings

/-! The generated module of a roster. -/

namespace Switchboard

/-- A generated module and where it belongs. -/
structure Document where
  path : Path
  contents : String
deriving DecidableEq, Repr, Inhabited

/-- The generated module of a roster under some settings. -/
def Roster.document (roster : Roster) (settings : Settings) : Document :=
  -- Only the names, the namespace and the module's own name enter the text.
  { path := settings.outPath
    contents := fill settings.moduleName fun slot =>
      slot.body settings.contentNamespace roster.names }

end Switchboard
