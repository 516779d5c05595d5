import Switchboard.Proofs.Text.Lines
import Switchboard.Proofs.Text.Outline
import Switchboard.Proofs.Text.Words

/-!
Dispatchers read out of the text of a module: definitions found by their headings, case expressions
decided by the first arm that fits, and what the arm reached calls and wraps. Nothing here knows how
the text was made.
-/

namespace Switchboard.Code

/-- The lines of a text that are not blank. -/
def lines (text : String) : List (List Char) :=
  (pieces '\n' text.toList).filter fun line => !line.isEmpty

/-- A definition without its name: the parameters and the lines below the heading. -/
structure Definition where
  parameters : List String
  body : List (List Char)
deriving DecidableEq, Repr

/-- The words that start a declaration of another kind. -/
def keywords : List String :=
  ["module", "import", "type"]

/-- The name and the parameters a line gives if it heads a definition. -/
def heading? (line : List Char) : Option (String × List String) :=
  match Words.read line with
  | [] => none
  | name :: rest =>
    if name ∉ keywords ∧ rest.getLast? = some "=" then some (name, rest.dropLast) else none

/-- The definition a section is of a name, if it is one. -/
def defined? (name : String) (part : Section) : Option Definition :=
  (heading? part.head).bind fun heading =>
    if heading.1 = name then some ⟨heading.2, part.body⟩ else none

/-- All definitions of a name among some lines. -/
def definitionsAmong (name : String) (lines : List (List Char)) : List Definition :=
  (Section.outline lines).filterMap (defined? name)

/-- All definitions of a name in a text. -/
def definitions (name text : String) : List Definition :=
  definitionsAmong name (lines text)

/-- What an arm of a case expression asks of the subject. -/
inductive Pattern where
  /-- One constructor, whose content gets a name. -/
  | constructor (name bound : String)
  /-- Nothing. -/
  | anything
deriving DecidableEq, Repr

/-- The pattern a line gives if it heads an arm. -/
def pattern? (line : List Char) : Option Pattern :=
  match Words.read line with
  | [name, bound, "->"] => some (.constructor name bound)
  | ["_", "->"] => some .anything
  | _ => none

/-- Whether a pattern takes the values of a constructor. -/
def Pattern.admits (constructor : String) : Pattern → Bool
  | .constructor name _ => name == constructor
  | .anything => true

/-- An arm of a case expression. -/
structure Arm where
  pattern : Pattern
  body : List (List Char)
deriving DecidableEq, Repr

/-- The arm a section is, if it is one. -/
def arm? (part : Section) : Option Arm :=
  (pattern? part.head).map fun pattern => ⟨pattern, part.body⟩

/-- The subject and the arms of a case expression that takes up some lines. -/
def choice? (lines : List (List Char)) : Option (String × List Arm) :=
  match Section.outline lines with
  | [part] =>
    match Words.read part.head with
    | ["case", subject, "of"] => ((Section.outline part.body).mapM arm?).map (subject, ·)
    | _ => none
  | _ => none

/-- The first arm that takes a constructor, in a case expression on a subject. -/
def reached? (lines : List (List Char)) (subject constructor : String) : Option Arm :=
  (choice? lines).bind fun choice =>
    if choice.1 = subject then choice.2.find? fun arm => arm.pattern.admits constructor else none

/-- What a variable stands for. -/
inductive Datum where
  /-- What a definition was given. -/
  | parameter (name : String)
  /-- What a constructor holds. -/
  | content (constructor : String)
deriving DecidableEq, Repr

/-- What the variables in scope stand for, with the innermost first. -/
abbrev Scope := List (String × Datum)

/-- The variable a pattern brings into scope. -/
def Pattern.scope : Pattern → Scope
  | .constructor name bound => [(bound, .content name)]
  | .anything => []

/-- The variables a definition starts with. -/
def Definition.scope (definition : Definition) : Scope :=
  definition.parameters.map fun parameter => (parameter, .parameter parameter)

/-- A call of a function of some module. -/
structure Call where
  owner : String
  function : String
  arguments : List Datum
deriving DecidableEq, Repr

/-- The call some words make, of a function with its module in front. -/
def call? (scope : Scope) : List String → Option Call
  | [] => none
  | head :: arguments =>
    match pieces '.' head.toList with
    | [owner, function] =>
      (arguments.mapM fun word => scope.lookup word).map
        (⟨String.ofList owner, String.ofList function, ·⟩)
    | _ => none

/-- A call and the constructor its messages are wrapped in, with the functions that reach them. -/
structure Query where
  call : Call
  through : List String
  constructor : String
deriving DecidableEq, Repr

/-- The query some words make. -/
def query? (scope : Scope) (words : List String) : Option Query :=
  match pieces "|>" words with
  | [call, [lift, constructor]] => (call? scope call).map (⟨·, [lift], constructor⟩)
  | [call, [outer, "(", inner, constructor, ")"]] =>
    (call? scope call).map (⟨·, [outer, inner], constructor⟩)
  | _ => none

/-- What an update comes to. -/
inductive Outcome where
  /-- A call, whose model and messages are each wrapped in a constructor. -/
  | applied (call : Call) (model message : String)
  /-- Nothing but a log entry. -/
  | logged (entry : String)
deriving DecidableEq, Repr

/-- The outcome some words describe. -/
def outcome? (scope : Scope) (words : List String) : Option Outcome :=
  match words with
  | ["Debug.log", entry, "Nothing"] => some (.logged entry)
  | "let" :: "(" :: next :: "," :: command :: ")" :: "=" :: rest =>
    match pieces "in" rest with
    | [call, ["Just", "(", model, next', ",", "Cmd.map", message, command', ")"]] =>
      -- The pair that is built must be the pair the call gave.
      if next' = next ∧ command' = command then
        (call? scope call).map (.applied · model message)
      else none
    | _ => none
  | _ => none

/-- The query a definition makes of a model under a constructor. -/
def Definition.query? (definition : Definition) (model : String) : Option Query :=
  -- The model is the last parameter, whatever comes before it.
  definition.parameters.getLast?.bind fun subject =>
    (reached? definition.body subject model).bind fun arm =>
      Code.query? (arm.pattern.scope ++ definition.scope) (arm.body.flatMap Words.read)

/-- The outcome of a definition for a message and a model under their constructors. -/
def Definition.outcome? (definition : Definition) (message model : String) : Option Outcome :=
  match definition.parameters with
  | [first, second] =>
    (reached? definition.body first message).bind fun outer =>
      (reached? outer.body second model).bind fun inner =>
        Code.outcome? (inner.pattern.scope ++ outer.pattern.scope) (inner.body.flatMap Words.read)
  | _ => none

/-- Items of which each has an image are mapped to the list of the images. -/
private theorem mapM_eq_some {α β : Type} {items : List α} {f : α → Option β} {g : α → β}
    (each : ∀ item ∈ items, f item = some (g item)) : items.mapM f = some (items.map g) := by
  induction items with
  | nil => rfl
  | cons item rest ih =>
    have first : f item = some (g item) := each item List.mem_cons_self
    have later := ih fun other member => each other (List.mem_cons_of_mem _ member)
    rw [List.mapM_cons, first, later]
    rfl

/-- A case expression laid out in sections is read as its subject and its arms. -/
theorem choice?_lines {α : Type} {head : List Char} {subject : String} {items : List α}
    {part : α → Section} {arm : α → Arm} (opens : Words.read head = ["case", subject, "of"])
    (margin : dedent? head = none)
    (arms : ∀ item ∈ items, dedent? (part item).head = none ∧ arm? (part item) = some (arm item)) :
    choice? (Section.mk head (items.flatMap fun item => (part item).lines)).lines =
      some (subject, items.map arm) := by
  -- The body is the sections of the arms one after another, each of which is read by itself.
  have sections : (items.flatMap fun item => (part item).lines) =
      (items.map part).flatMap Section.lines := by
    rw [List.flatMap_map]
  -- The heads of the arms are at the margin, so the outline cuts there.
  have inner : Section.outline ((items.map part).flatMap Section.lines) = items.map part := by
    refine Section.outline_flatMap_lines fun other member => ?_
    obtain ⟨item, inside, rfl⟩ := List.mem_map.mp member
    exact (arms item inside).1
  have read : (items.map part).mapM arm? = some (items.map arm) := by
    rw [List.mapM_map]
    exact mapM_eq_some fun item member => (arms item member).2
  -- The opening heads the one section that there is.
  rw [choice?, Section.outline_lines margin]
  simp only [opens, sections, inner, read, Option.map_some]

/-- Among arms with a constructor each, the one of a given constructor is reached. -/
theorem find?_admits {α : Type} {items : List α} {arm : α → Arm} {wrap : α → String}
    {bound : String} (patterns : ∀ item, (arm item).pattern = .constructor (wrap item) bound)
    (apart : ∀ item other, wrap item = wrap other → item = other) {item : α}
    (member : item ∈ items) :
    ((items.map arm).find? fun arm => arm.pattern.admits (wrap item)) = some (arm item) := by
  -- The first arm that takes the constructor belongs to an item with the same constructor.
  rw [List.find?_map]
  cases found : items.find? ((fun arm => arm.pattern.admits (wrap item)) ∘ arm) with
  | none =>
    -- The arm of the item itself would have been taken.
    have missed := List.find?_eq_none.mp found item member
    simp [patterns, Pattern.admits] at missed
  | some other =>
    -- Only one item has this constructor.
    have taken := List.find?_some found
    simp only [Function.comp_def, patterns, Pattern.admits, beq_iff_eq] at taken
    rw [apart other item taken]
    rfl

/-- A function with its module in front and known arguments are read as a call. -/
theorem call?_eq {scope : Scope} {owner function : String} {words : List String}
    {given : List Datum} (inOwner : '.' ∉ owner.toList) (inFunction : '.' ∉ function.toList)
    (known : (words.mapM fun word => scope.lookup word) = some given) :
    call? scope ((owner ++ "." ++ function) :: words) = some ⟨owner, function, given⟩ := by
  -- The one dot is between the module and the function.
  have cut : pieces '.' (owner ++ "." ++ function).toList = [owner.toList, function.toList] := by
    rw [String.toList_append, String.toList_append, List.append_assoc]
    exact pieces_pair inOwner inFunction
  simp only [call?, cut, known, Option.map_some, String.ofList_toList]

/-- A line that starts with a word is at the margin. -/
theorem dedent?_of_isWord {word : String} (isWord : Words.IsWord word) (text : String) :
    dedent? (word ++ text).toList = none := by
  -- The first character of a word is no space.
  rw [String.toList_append]
  cases letters : word.toList with
  | nil => exact absurd (String.toList_eq_nil_iff.mp letters) isWord.filled
  | cons first rest =>
    have plain : Words.isPlain first = true := isWord.plain first (by simp [letters])
    have different : first ≠ ' ' := by
      rintro rfl
      cases plain
    unfold dedent?
    split
    · -- Lines are moved back only where they start with spaces.
      rename_i same
      exact absurd (List.cons.inj same).1 different
    · rfl

/-- A constructor, a variable and an arrow head an arm. -/
theorem arm?_of_isWord {constructor bound text : String} (isWord : Words.IsWord constructor)
    (ended : Words.isApart text.toList = true)
    (words : Words.read text.toList = [bound, "->"]) (body : List (List Char)) :
    arm? ⟨(constructor ++ text).toList, body⟩ = some ⟨.constructor constructor bound, body⟩ := by
  -- The three words are the pattern of a constructor with its variable.
  rw [arm?, pattern?, Words.read_toList_append isWord ended, words]
  rfl

/-- A call, the pipe, a function and a constructor are read as a query. -/
theorem query?_single {scope : Scope} {words call : List String} {called : Call}
    {lift constructor : String} (cut : pieces "|>" words = [call, [lift, constructor]])
    (read : call? scope call = some called) :
    query? scope words = some ⟨called, [lift], constructor⟩ := by
  simp only [query?, cut, read, Option.map_some]

/-- A call, the pipe, a function of a function and a constructor are read as a query. -/
theorem query?_nested {scope : Scope} {words call : List String} {called : Call}
    {outer inner constructor : String}
    (cut : pieces "|>" words = [call, [outer, "(", inner, constructor, ")"]])
    (read : call? scope call = some called) :
    query? scope words = some ⟨called, [outer, inner], constructor⟩ := by
  simp only [query?, cut, read, Option.map_some]

/-- A pair bound to a call and built up again in constructors is read as an application. -/
theorem outcome?_let {scope : Scope} {words call : List String} {called : Call}
    {next command model message : String}
    (cut : pieces "in" words =
      [call, ["Just", "(", model, next, ",", "Cmd.map", message, command, ")"]])
    (read : call? scope call = some called) :
    outcome? scope ("let" :: "(" :: next :: "," :: command :: ")" :: "=" :: words) =
      some (.applied called model message) := by
  -- The names on both sides of the pair are the same ones, so the check passes.
  simp only [outcome?, cut, read, and_self, if_true, Option.map_some]

end Switchboard.Code
