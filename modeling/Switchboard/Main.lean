import Switchboard.CommandLine.Run
import Switchboard.Files.Manifest

/-!
The command line itself. It learns the working directory from a listing on standard input, as made
by `find -mindepth 1 -printf '%y\t%P\t%l\n'`, and puts on disk what a run changes.
-/

namespace Switchboard

/-- The lines of a stream up to its end. -/
partial def readLines (stream : IO.FS.Stream) : IO (List String) := do
  let line ← stream.getLine
  if line.isEmpty then return []
  let text := if line.endsWith "\n" then String.ofList line.toList.dropLast else line
  return text :: (← readLines stream)

/-- Puts one changed entry on disk. -/
def putOnDisk (path : Path) (entry : Entry) : IO Unit := do
  match path.text?, entry with
  | some text, .directory => IO.FS.createDirAll text
  | some text, .file contents => IO.FS.writeFile text (Utf8.lossy contents)
  | _, _ => return

end Switchboard

open Switchboard

/-- Runs the command line on the listed working directory. -/
def main (arguments : List String) : IO UInt32 := do
  let started ← IO.monoMsNow
  let files := Manifest.read (← readLines (← IO.getStdin))
  let coloured := match ← IO.getEnv "CLICOLOR_FORCE" with
    | some value => value != "0"
    | none => false
  let terminal := ⟨coloured, toString ((← IO.monoMsNow) - started)⟩
  let (outcome, after) := runCommand (arguments.map Utf8.encode) files terminal
  for (path, entry) in files.changes after do
    putOnDisk path entry
  for event in outcome.told do
    IO.eprintln (event.message ++ " " ++
      " ".intercalate (event.details.map fun (key, value) => key ++ "=" ++ value))
  if let some complaint := outcome.complaint then
    IO.eprintln complaint
  IO.print outcome.stdout
  return outcome.code.toUInt32
