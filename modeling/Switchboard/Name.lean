/-! Names of content modules: their order and the names the generated module can spell. -/

namespace Switchboard

/-- The name of a content module, used as its alias, as a constructor's ending and as its tag. -/
structure Name where
  text : String
deriving DecidableEq, Repr, Inhabited

namespace Name

/-- Names are ordered by their characters, which is also the order of their stored bytes. -/
instance : Ord Name where
  compare left right := compare left.text right.text

instance : ToString Name where
  toString name := name.text

/-- Whether a character may follow the first one of a module name. -/
def isRestChar (c : Char) : Bool :=
  -- Only ASCII letters and digits count, besides the underscore.
  c.isAlphanum || c == '_'

/-- Whether a name is an ASCII capital followed by ASCII letters, digits and underscores. -/
def isSpellable (name : Name) : Bool :=
  -- The empty name has no capital to start with.
  match name.text.toList with
  | [] => false
  | first :: rest => first.isUpper && rest.all isRestChar

end Name

end Switchboard
