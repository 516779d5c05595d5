import Switchboard.Report

/-! The summary of a run for a terminal: a headline, a box with the content modules, and remarks. -/

namespace Switchboard

/-- A colour by its number among the 256 of a terminal. -/
structure Paint where
  colour : Nat
  bold : Bool := false
deriving DecidableEq, Repr

namespace Paint

/-- The colour of the box. -/
def cyan : Paint := ⟨51, false⟩

/-- The colour of the box's title. -/
def boldCyan : Paint := ⟨51, true⟩

/-- The colour of remarks. -/
def amber : Paint := ⟨214, false⟩

/-- The colour of success. -/
def green : Paint := ⟨82, false⟩

/-- The colour of what matters least. -/
def dim : Paint := ⟨240, false⟩

end Paint

/-- A stretch of text, painted or plain. -/
structure Span where
  text : String
  paint : Option Paint := none
deriving DecidableEq, Repr

/-- A stretch as a terminal takes it, with or without colours. -/
def Span.onTerminal (coloured : Bool) (span : Span) : String :=
  -- The paint is put on before the text and taken off after it.
  match span.paint with
  | some paint =>
    if coloured then
      "\x1b[38;5;" ++ toString paint.colour ++ "m" ++ (if paint.bold then "\x1b[1m" else "") ++
        span.text ++ "\x1b[0m"
    else span.text
  | none => span.text

namespace Summary

/-- The width of the box between its margins, corners included. -/
def frameWidth : Nat := 55

/-- The same text many times over. -/
def repeated (count : Nat) (c : Char) : String :=
  String.ofList (List.replicate count c)

/-- A text filled up with spaces to a width, counted in characters. -/
def fillAfter (width : Nat) (text : String) : String :=
  text ++ repeated (width - text.length) ' '

/-- A text moved right by filling up with spaces before it. -/
def fillBefore (width : Nat) (text : String) : String :=
  repeated (width - text.length) ' ' ++ text

/-- The upper edge of the box, with a title in it. -/
def header (title : String) : List Span :=
  [⟨"  ", none⟩, ⟨"╭─", some .cyan⟩, ⟨" " ++ title ++ " ", some .boldCyan⟩,
    ⟨repeated (frameWidth - ((" " ++ title ++ " ").length + 3)) '─', some .cyan⟩,
    ⟨"╮", some .cyan⟩]

/-- A line of the box. -/
def row (content : String) : List Span :=
  [⟨"  ", none⟩, ⟨"│", some .cyan⟩, ⟨" " ++ fillAfter (frameWidth - 3) content, none⟩,
    ⟨"│", some .cyan⟩]

/-- The lower edge of the box. -/
def footer : List Span :=
  [⟨"  ", none⟩, ⟨"╰", some .cyan⟩, ⟨repeated (frameWidth - 2) '─', some .cyan⟩,
    ⟨"╯", some .cyan⟩]

/-- The line of a content module, by its number from one. -/
def nameLine (number : Nat) (name : Name) : List Span :=
  row (" ▸ " ++ fillBefore 2 (toString number) ++ "  Mdl" ++ name.text ++ " / Msg" ++ name.text)

/-- The lines of content modules, numbered on from a number. -/
def nameLines : Nat → List Name → List (List Span)
  | _, [] => []
  | number, name :: rest => nameLine number name :: nameLines (number + 1) rest

/-- What the headline calls the generated module. -/
def fileLabel (output : Path) : String :=
  -- A path without a last name is given in full.
  match output.fileName? with
  | some name => Utf8.lossy name
  | none => output.display

/-- The lines of a summary, given how long the run took. -/
def lines (report : Report) (milliseconds : String) : List (List Span) :=
  -- The box stands between the headline and the remarks.
  [[⟨"  ", none⟩, ⟨"◉", some .green⟩,
      ⟨" Successfully generated " ++ fileLabel report.output ++ "!", none⟩],
    [],
    header "CONTENT",
    row ""] ++
  nameLines 1 report.names ++
  (if report.names = [] then [row "   (none)"] else []) ++
  [row "", footer, []] ++
  report.remarks.map (fun remark =>
    [⟨"  ", none⟩, ⟨"◆", some .amber⟩, ⟨" ", none⟩, ⟨remark.message, some .amber⟩]) ++
  [[⟨"  ", none⟩,
      ⟨report.output.display ++ " (" ++ toString report.bytes ++ " bytes)", some .dim⟩],
    [⟨"  ", none⟩, ⟨"◇", some .cyan⟩, ⟨" Done in " ++ milliseconds ++ "ms", none⟩]]

/-- A line as a terminal takes it. -/
def showLine (coloured : Bool) (line : List Span) : String :=
  String.join (line.map (Span.onTerminal coloured))

/-- A whole summary as a terminal takes it, every line ended. -/
def text (coloured : Bool) (report : Report) (milliseconds : String) : String :=
  String.join ((lines report milliseconds).map fun line => showLine coloured line ++ "\n")

end Summary

end Switchboard
