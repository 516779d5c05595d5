import Switchboard.Path

/-! What a run is told: where to look, where to write and which names to spell. -/

namespace Switchboard

/-- The settings of a run, with the values it takes when told nothing. -/
structure Settings where
  /-- The directory with one file per content module. -/
  contentDir : Path := .ofString "src/Content"
  /-- Where the generated module goes. -/
  outPath : Path := .ofString "src/MetaContent.elm"
  /-- The file name ending that is dropped to get a module name. -/
  suffix : String := ".elm"
  /-- The namespace content modules are imported from, empty for none. -/
  contentNamespace : String := "Content"
  /-- The name of the generated module. -/
  moduleName : String := "MetaContent"
deriving DecidableEq, Repr, Inhabited

end Switchboard
