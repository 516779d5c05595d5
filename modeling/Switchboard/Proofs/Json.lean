import Switchboard.Json

/-!
Written data read back. A reader goes over the text once, character by character, and keeps what
stands in the lists and records that are still open. Main statement: a value is read back from what
it is laid out as.
-/

namespace Switchboard.Json

/-! ### A reader -/

/-- Where in a text a reader is. -/
inductive Mode where
  /-- Outside of texts, with the number that its last characters make up, if they are digits. -/
  | outside (pending : Option Nat)
  /-- Inside a text, with its characters so far, the last one first. -/
  | inside (letters : List Char)
  /-- Inside a text and behind a backslash. -/
  | escaped (letters : List Char)
  /-- Inside a character given by number, with how many digits are missing and the number so far. -/
  | coded (letters : List Char) (missing code : Nat)
deriving DecidableEq, Repr

/-- The values in each list or record that is still open, innermost and last ones first. The keys of
a record stand among its values. -/
abbrev Levels := List (List Json)

/-- What a reader knows of the text behind it. -/
structure Reader where
  levels : Levels
  mode : Mode

/-- Puts a value into the innermost list or record. -/
def place (json : Json) : Levels → Levels
  | [] => [[json]]
  | values :: outer => (json :: values) :: outer

/-- Puts a number into the innermost list or record, if one was being read. -/
def settle (pending : Option Nat) (levels : Levels) : Levels :=
  match pending with
  | none => levels
  | some value => place (.number value) levels

/-- The fields that keys and values in turn make up. -/
def fields? : List Json → Option (List (String × Json))
  | [] => some []
  | .text key :: value :: rest => (fields? rest).map ((key, value) :: ·)
  | _ => none

/-- Closes the innermost list or record, which becomes a value of the one around it. -/
def close (make : List Json → Option Json) : Levels → Option Reader
  -- The values were put in front of each other, so they are turned around.
  | [] => none
  | values :: outer =>
    (make values.reverse).map fun json => ⟨place json outer, .outside none⟩

/-- Reads a character that is outside of texts and no digit. -/
def mark (levels : Levels) (c : Char) : Option Reader :=
  -- Spaces, line feeds and what stands between values only keep values apart.
  match c with
  | '"' => some ⟨levels, .inside []⟩
  | '[' | '\x7b' => some ⟨[] :: levels, .outside none⟩
  | ']' => close (fun values => some (list values)) levels
  | '\x7d' => close (fun values => (fields? values).map record) levels
  | ' ' | '\n' | ',' | ':' => some ⟨levels, .outside none⟩
  | _ => none

/-- The character that stands behind a backslash in the place of another. -/
def unescape? : Char → Option Char
  | '"' => some '"'
  | '\\' => some '\\'
  | 'b' => some '\x08'
  | 'f' => some '\x0C'
  | 'n' => some '\n'
  | 'r' => some '\r'
  | 't' => some '\t'
  | _ => none

/-- The value of a hexadecimal digit. -/
def hexValue? (c : Char) : Option Nat :=
  if c.isDigit then some (c.toNat - '0'.toNat)
  else if 'a' ≤ c ∧ c ≤ 'f' then some (c.toNat - 'a'.toNat + 10)
  else none

/-- Reads one more character. -/
def Reader.step (reader : Reader) (c : Char) : Option Reader :=
  match reader.mode with
  | .outside pending =>
    if c.isDigit then
      some { reader with mode := .outside (some (10 * pending.getD 0 + (c.toNat - '0'.toNat))) }
    else mark (settle pending reader.levels) c
  | .inside letters =>
    if c = '"' then
      some ⟨place (.text (String.ofList letters.reverse)) reader.levels, .outside none⟩
    else if c = '\\' then some { reader with mode := .escaped letters }
    else some { reader with mode := .inside (c :: letters) }
  | .escaped letters =>
    if c = 'u' then some { reader with mode := .coded letters 4 0 }
    else (unescape? c).map fun letter => { reader with mode := .inside (letter :: letters) }
  | .coded letters missing code =>
    (hexValue? c).map fun digit =>
      let code := 16 * code + digit
      { reader with
        mode := if missing ≤ 1 then .inside (Char.ofNat code :: letters)
          else .coded letters (missing - 1) code }

/-- Reads a text up to its end. -/
def Reader.run (reader : Reader) (text : List Char) : Option Reader :=
  text.foldlM step reader

/-- The value that a text lays out, if it is one value. -/
def read? (text : String) : Option Json :=
  match Reader.run ⟨[[]], .outside none⟩ text.toList with
  | some ⟨levels, .outside pending⟩ =>
    match settle pending levels with
    | [[json]] => some json
    | _ => none
  | _ => none

/-- A text is read by its first character first and then by the rest. -/
theorem Reader.run_cons (reader : Reader) (c : Char) (rest : List Char) :
    reader.run (c :: rest) = (reader.step c).bind (Reader.run · rest) :=
  List.foldlM_cons

/-- A text is read part by part. -/
theorem Reader.run_append (reader : Reader) (front rest : List Char) :
    reader.run (front ++ rest) = (reader.run front).bind (Reader.run · rest) :=
  List.foldlM_append

/-- Outside of texts, a digit goes on with the number that is pending or starts one. -/
theorem step_of_isDigit (levels : Levels) (pending : Option Nat) {c : Char}
    (digit : c.isDigit = true) :
    Reader.step ⟨levels, .outside pending⟩ c =
      some ⟨levels, .outside (some (10 * pending.getD 0 + (c.toNat - '0'.toNat)))⟩ :=
  if_pos digit

/-- Outside of texts, any other character puts the pending number into its place. -/
theorem step_of_not_isDigit (levels : Levels) (pending : Option Nat) {c : Char}
    (other : c.isDigit = false) :
    Reader.step ⟨levels, .outside pending⟩ c = mark (settle pending levels) c :=
  if_neg (by simp [other])

/-! ### Texts -/

/-- A hexadecimal digit is read as the number it is written for. -/
theorem hexValue?_hexDigit : ∀ value < 16, hexValue? (hexDigit value) = some value := by
  -- There are only sixteen of them.
  decide

/-- A character is read back from how it stands between quotes. -/
theorem run_escape (levels : Levels) (letters : List Char) (c : Char) :
    Reader.run ⟨levels, .inside letters⟩ (escape c) = some ⟨levels, .inside (c :: letters)⟩ := by
  unfold escape
  -- The characters with a letter of their own are read by evaluation.
  split
  all_goals try rfl
  rename_i notQuote notBackslash _ _ _ _ _
  split
  · -- Of the four digits the first two are zeros, and the others make up the number.
    rename_i control
    have high := hexValue?_hexDigit (c.toNat / 16) (by omega)
    have low := hexValue?_hexDigit (c.toNat % 16) (by omega)
    have zero : hexValue? '0' = some 0 := rfl
    have code : 16 * (c.toNat / 16) + c.toNat % 16 = c.toNat := Nat.div_add_mod c.toNat 16
    simp [Reader.run, Reader.step, zero, high, low, code]
  · -- Any other character stands for itself.
    have other : c ≠ '"' := notQuote
    have other' : c ≠ '\\' := notBackslash
    simp [Reader.run, Reader.step, other, other']

/-- Characters are read back one after the other from how they stand between quotes. -/
theorem run_flatMap_escape (levels : Levels) (letters text : List Char) :
    Reader.run ⟨levels, .inside letters⟩ (text.flatMap escape) =
      some ⟨levels, .inside (text.reverse ++ letters)⟩ := by
  -- Each character is read on its own, and goes in front of those before it.
  induction text generalizing letters with
  | nil => rfl
  | cons c rest ih =>
    rw [List.flatMap_cons, Reader.run_append, run_escape, Option.bind_some, ih,
      List.reverse_cons, List.append_assoc, List.singleton_append]

/-! ### Texts that lead on -/

/-- What it is for a text to take the reader from some levels to others, with nothing pending. -/
def Passes (text : String) (before after : Levels) : Prop :=
  Reader.run ⟨before, .outside none⟩ text.toList = some ⟨after, .outside none⟩

/-- What it is for a text to take the reader from some levels to others, once a number that is read
last is put into its place. -/
def Leads (text : String) (before after : Levels) : Prop :=
  ∃ levels pending, Reader.run ⟨before, .outside none⟩ text.toList =
    some ⟨levels, .outside pending⟩ ∧ settle pending levels = after

/-- Whether a text does not go on with the digits of a number in front of it. -/
def isApart (text : String) : Bool :=
  text.toList.head?.all fun c => !c.isDigit

/-- The start of a new line does not go on with a number. -/
theorem isApart_newLine (level : Nat) : isApart (newLine level) = true := by
  simp [isApart, newLine]

/-- The items of a list behind the first one do not go on with a number. -/
theorem isApart_layOutItems (level : Nat) (items : List Json) :
    isApart (layOutItems level items) = true := by
  -- They start with a comma or are none at all.
  cases items <;> simp [isApart, layOutItems]

/-- The fields of a record behind the first one do not go on with a number. -/
theorem isApart_layOutFields (level : Nat) (fields : List (String × Json)) :
    isApart (layOutFields level fields) = true := by
  -- They start with a comma or are none at all.
  cases fields <;> simp [isApart, layOutFields]

variable {front rest : String} {before middle after : Levels}

/-- What leaves no number pending leads to where it ends. -/
theorem Passes.leads (passes : Passes rest before after) : Leads rest before after :=
  ⟨after, none, passes, rfl⟩

/-- One text after another takes the reader on from where the first one ended. -/
theorem Passes.append (first : Passes front before middle) (second : Passes rest middle after) :
    Passes (front ++ rest) before after := by
  unfold Passes at *
  rw [String.toList_append, Reader.run_append, first, Option.bind_some, second]

/-- A text that passes may stand in front of one that leads on. -/
theorem Passes.append_leads (first : Passes front before middle)
    (second : Leads rest middle after) : Leads (front ++ rest) before after := by
  -- Nothing is pending in between, so the second text is read as if it stood alone.
  obtain ⟨levels, pending, read, settled⟩ := second
  refine ⟨levels, pending, ?_, settled⟩
  rw [String.toList_append, Reader.run_append, first, Option.bind_some, read]

/-- A text that does not go on with a number leads on from behind one. -/
theorem Leads.append (first : Leads front before middle) (apart : isApart rest = true)
    (second : Leads rest middle after) :
    Leads (front ++ rest) before after := by
  obtain ⟨inner, open', read, settled⟩ := first
  obtain ⟨levels, pending, read', settled'⟩ := second
  unfold Leads
  rw [String.toList_append, Reader.run_append, read, Option.bind_some]
  cases chars : rest.toList with
  | nil =>
    -- Nothing follows, so the number stays pending.
    rw [chars] at read'
    cases read'
    exact ⟨inner, open', rfl, settled.trans settled'⟩
  | cons c others =>
    -- The first character puts the number into its place before it is read itself.
    have noDigit : c.isDigit = false := by simpa [isApart, chars] using apart
    refine ⟨levels, pending, ?_, settled'⟩
    rw [chars, Reader.run_cons, step_of_not_isDigit middle none noDigit] at read'
    rw [Reader.run_cons, step_of_not_isDigit inner open' noDigit, settled]
    exact read'

/-! ### Values -/

/-- A text between quotes is read as a value. -/
theorem passes_quote (levels : Levels) (text : String) :
    Passes (quote text) levels (place (.text text) levels) := by
  -- The first quote opens the text, and the last one closes it with all its characters read.
  have chars : (quote text).toList = '"' :: (text.toList.flatMap escape ++ ['"']) := by
    simp [quote]
  have first : Reader.step ⟨levels, .outside none⟩ '"' = some ⟨levels, .inside []⟩ := rfl
  unfold Passes
  rw [chars, Reader.run_cons, first, Option.bind_some, Reader.run_append, run_flatMap_escape]
  simp [Reader.run, Reader.step]

/-- The start of a new line only keeps values apart. -/
theorem passes_newLine (levels : Levels) (level : Nat) : Passes (newLine level) levels levels := by
  -- Each space leaves the reader where it is.
  have spaces (count : Nat) : Reader.run ⟨levels, .outside none⟩ (List.replicate count ' ') =
      some ⟨levels, .outside none⟩ := by
    induction count with
    | zero => rfl
    | succ count ih =>
      rw [List.replicate_succ, Reader.run_cons]
      exact ih
  have feed : Passes "\n" levels levels := rfl
  -- A line feed is followed by nothing but spaces.
  refine feed.append ?_
  unfold Passes
  rw [String.toList_ofList, spaces]

/-- A key is read on a new line, behind what opens its record or ends the field before. -/
theorem Passes.key {mark : String} {values : List Json} {outer : Levels}
    (opened : Passes mark before (values :: outer)) (level : Nat) (key : String) :
    Passes (mark ++ newLine level ++ quote key ++ ": ") before
      ((.text key :: values) :: outer) := by
  -- The colon and the space behind the key keep it apart from its value.
  have behind : Passes ": " ((.text key :: values) :: outer) ((.text key :: values) :: outer) := rfl
  exact ((opened.append (passes_newLine _ level)).append (passes_quote _ key)).append behind

/-- The digits of a number are read as what they stand for. -/
theorem run_digits (levels : Levels) {digits : List Char} (value : Nat)
    (each : ∀ c ∈ digits, c.isDigit = true) :
    Reader.run ⟨levels, .outside (some value)⟩ digits =
      some ⟨levels, .outside (some (Nat.ofDigitChars 10 digits value))⟩ := by
  -- Each digit makes the number ten times as much and adds its own value.
  induction digits generalizing value with
  | nil => rfl
  | cons c rest ih =>
    rw [Nat.ofDigitChars_cons, Reader.run_cons,
      step_of_isDigit levels (some value) (each c List.mem_cons_self), Option.bind_some]
    exact ih _ fun other member => each other (List.mem_cons_of_mem _ member)

/-- A number is read as a value. -/
theorem leads_number (levels : Levels) (value : Nat) :
    Leads (toString value) levels (place (.number value) levels) := by
  -- A number is written in digits only, and they stand for it.
  have each : ∀ c ∈ Nat.toDigits 10 value, c.isDigit = true := fun c =>
    Nat.isDigit_of_mem_toDigits (by decide) (by decide)
  have known : Nat.ofDigitChars 10 (Nat.toDigits 10 value) 0 = value :=
    Nat.ofDigitChars_toDigits (by decide) (by decide)
  refine ⟨levels, some value, ?_, rfl⟩
  rw [Nat.toString_eq_ofList_toDigits, String.toList_ofList]
  cases digits : Nat.toDigits 10 value with
  | nil => exact absurd digits Nat.toDigits_ne_nil
  | cons c rest =>
    -- The first digit starts the number, and the others go on with it.
    rw [digits, Nat.ofDigitChars_cons] at known
    rw [digits] at each
    rw [Reader.run_cons, step_of_isDigit levels none (each c List.mem_cons_self),
      Option.bind_some, Option.getD_none,
      run_digits _ _ fun other member => each other (List.mem_cons_of_mem _ member), known]

/-- The values that the fields of a record are read as. -/
def keysAndValues (fields : List (String × Json)) : List Json :=
  fields.flatMap fun field => [.text field.1, field.2]

/-- The first field is read as its key and its value. -/
theorem keysAndValues_cons (key : String) (value : Json) (rest : List (String × Json)) :
    keysAndValues ((key, value) :: rest) = .text key :: value :: keysAndValues rest :=
  rfl

/-- What the fields of a record are read as makes up the same fields. -/
theorem fields?_keysAndValues (fields : List (String × Json)) :
    fields? (keysAndValues fields) = some fields := by
  -- The induction takes one key and one value at a time.
  induction fields with
  | nil => rfl
  | cons field rest ih =>
    rw [keysAndValues_cons, fields?, ih]
    rfl

/-- A bracket that closes a level makes one value of those that were read since the first one. -/
theorem passes_close {text : String} {bracket : Char} {values : List Json} {json : Json}
    {outer : Levels} (make : List Json → Option Json) (alone : text.toList = [bracket])
    (other : bracket.isDigit = false)
    (closes : mark (values.reverse :: outer) bracket = close make (values.reverse :: outer))
    (made : make values = some json) :
    Passes text (values.reverse :: outer) (place json outer) := by
  -- The bracket is no digit, so it is looked at as a mark.
  have read := Reader.run_cons ⟨values.reverse :: outer, .outside none⟩ bracket []
  rw [step_of_not_isDigit _ none other, settle, closes, close, List.reverse_reverse, made] at read
  unfold Passes
  rw [alone]
  exact read

/-- The last bracket of a list makes a list of the values in it. -/
theorem passes_listEnd (values : List Json) (outer : Levels) :
    Passes "]" (values.reverse :: outer) (place (.list values) outer) := by
  -- The bracket is the whole text.
  have alone : "]".toList = [']'] := rfl
  exact passes_close (fun values => some (list values)) alone rfl rfl rfl

/-- The last bracket of a record makes a record of the keys and values in it. -/
theorem passes_recordEnd (fields : List (String × Json)) (outer : Levels) :
    Passes "\x7d" ((keysAndValues fields).reverse :: outer) (place (.record fields) outer) := by
  have alone : "\x7d".toList = ['\x7d'] := rfl
  refine passes_close (fun values => (fields? values).map record) alone rfl rfl ?_
  rw [fields?_keysAndValues]
  rfl

mutual

/-- Wherever it stands, a value is read from what it is laid out as. -/
theorem leads_layOut (level : Nat) (levels : Levels) :
    ∀ json : Json, Leads (layOut level json) levels (place json levels)
  | .text value => by
    -- A text is read between its quotes.
    rw [layOut]
    exact (passes_quote levels value).leads
  | .number value => by
    -- A number may still be pending, which is why the statement is about leading on.
    rw [layOut]
    exact leads_number levels value
  | .list [] => by
    -- The two brackets of an empty list are read by evaluation.
    rw [layOut]
    exact Passes.leads rfl
  | .list (item :: rest) => by
    -- The items are read into a new innermost level, which the last bracket closes.
    have opened : Passes "[" levels ([] :: levels) := rfl
    have first := (opened.append (passes_newLine _ (level + 1))).append_leads
      (leads_layOut (level + 1) ([] :: levels) item)
    have others := leads_layOutItems (level + 1) [item] levels rest
    have closing := passes_listEnd (item :: rest) levels
    rw [List.reverse_cons] at closing
    rw [layOut]
    exact ((first.append (isApart_layOutItems _ _) others).append (isApart_newLine _)
      (passes_newLine _ _).leads).append rfl closing.leads
  | .record [] => by
    -- The two brackets of an empty record are read by evaluation.
    rw [layOut]
    exact Passes.leads rfl
  | .record ((key, value) :: rest) => by
    -- Each key is read into the same level as the values.
    have opened : Passes "\x7b" levels ([] :: levels) := rfl
    have first := (opened.key (level + 1) key).append_leads
      (leads_layOut (level + 1) ([.text key] :: levels) value)
    have others := leads_layOutFields (level + 1) [value, .text key] levels rest
    have closing := passes_recordEnd ((key, value) :: rest) levels
    rw [keysAndValues_cons, List.reverse_cons, List.reverse_cons, List.append_assoc] at closing
    rw [layOut]
    exact ((first.append (isApart_layOutFields _ _) others).append (isApart_newLine _)
      (passes_newLine _ _).leads).append rfl closing.leads

/-- The items of a list after the first one are read behind it. -/
theorem leads_layOutItems (level : Nat) (values : List Json) (outer : Levels) :
    ∀ items : List Json, Leads (layOutItems level items) (values :: outer)
      ((items.reverse ++ values) :: outer)
  | [] => by
    -- Where no items are left nothing is read.
    rw [layOutItems]
    exact Passes.leads rfl
  | item :: rest => by
    -- The comma keeps the item apart from the one before it.
    have opened : Passes "," (values :: outer) (values :: outer) := rfl
    have first := (opened.append (passes_newLine _ level)).append_leads
      (leads_layOut level (values :: outer) item)
    have others := leads_layOutItems level (item :: values) outer rest
    rw [layOutItems, List.reverse_cons, List.append_assoc]
    exact first.append (isApart_layOutItems _ _) others

/-- The fields of a record after the first one are read behind it. -/
theorem leads_layOutFields (level : Nat) (values : List Json) (outer : Levels) :
    ∀ fields : List (String × Json), Leads (layOutFields level fields) (values :: outer)
      (((keysAndValues fields).reverse ++ values) :: outer)
  | [] => by
    -- Where no fields are left nothing is read.
    rw [layOutFields]
    exact Passes.leads rfl
  | (key, value) :: rest => by
    -- The comma keeps the key apart from the value before it.
    have opened : Passes "," (values :: outer) (values :: outer) := rfl
    have first := (opened.key level key).append_leads
      (leads_layOut level ((.text key :: values) :: outer) value)
    have others := leads_layOutFields level (value :: .text key :: values) outer rest
    rw [layOutFields, keysAndValues_cons, List.reverse_cons, List.reverse_cons, List.append_assoc,
      List.append_assoc]
    exact first.append (isApart_layOutFields _ _) others

end

/-- A value is read back from what it is laid out as, with its last line ended. -/
theorem read?_pretty (json : Json) : read? (json.pretty ++ "\n") = some json := by
  -- Behind the value the line feed settles a number that is still pending.
  have whole : Leads (json.pretty ++ "\n") [[]] [[json]] :=
    (leads_layOut 0 [[]] json).append rfl (Passes.leads rfl)
  obtain ⟨levels, pending, read, settled⟩ := whole
  rw [read?, read]
  simp only [settled]

end Switchboard.Json
