import Boardcraft.Session.Opening
import Boardcraft.Session.Terminal
import Boardcraft.Settings.Notation

/-!
# The command line

Reads the settings from `config.yaml` and the blueprints from their folder, then plays a session on
the terminal.
-/

open Boardcraft

def showItems (items : List Item) : IO Unit := do
  let out ← IO.getStdout
  for item in items do
    out.putStr (Terminal.text item).shown
  out.flush

def fileText? (name : String) : IO (Option Text) := do
  try
    return some (← IO.FS.readFile name)
  catch _ =>
    return none

def makeLog (settings : Settings) : IO Unit := do
  let p := settings.logLocation
  IO.FS.createDirAll p.parent.text.shown
  let _ ← IO.FS.Handle.mk p.text.shown .append

def folderAt? (dir : Text) : IO (Option Folder) := do
  try
    let mut files : Folder := .empty
    for entry in ← ((← IO.currentDir) / dir.shown).readDir do
      if (entry.fileName : Text).endsWith Folder.ending then
        files := files.insert entry.fileName (Text.ofString (← IO.FS.readFile entry.path))
    return some files
  catch _ =>
    return none

/-- Answers lines until the session ends, and says farewell. -/
partial def play (g : Game) : IO UInt32 := do
  showItems [Session.prompt]
  let line ← (← IO.getStdin).getLine
  if line.isEmpty then
    showItems [Session.farewell]
    return 0
  match Session.handle line g with
  | .error e _ =>
      IO.eprintln e.message.shown
      return 1
  | .ok (items, goesOn) g =>
      showItems items
      if !goesOn || g.isOver then
        showItems [Session.farewell]
        return 0
      play g

/-- Plays a session with the settings of the current folder. -/
def main : IO UInt32 := do
  match Session.settingsOf ((← fileText? "config.yaml").map Settings.documentOf) with
  | .error e =>
      showItems [Session.settingsError e]
      return 1
  | .ok settings =>
      makeLog settings
      let here := Location.ofText (← IO.currentDir).toString
      match Session.openSession settings here (← folderAt? settings.blueprintDir) "" with
      | .error item =>
          showItems [item]
          return 1
      | .ok (g, items) =>
          showItems items
          play g
