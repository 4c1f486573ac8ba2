import Boardcraft.FileTree
import Boardcraft.Session.Console
import Boardcraft.Settings.Basic

/-!
# Sessions from beginning to end

A session makes its log, reads the blueprints, sets up the board and begins the game.  Then it
answers one line after the other until the player leaves, the game is over or no line is left.
-/

namespace Boardcraft

namespace Session

/-! ## Opening -/

/-- The settings of a session, which are the usual ones where there is no document. -/
def settingsOf (doc : Option Value) : Except Settings.Error Settings :=
  match Settings.load doc with
  | .error .missing => .ok {}
  | result => result

def settingsError (e : Settings.Error) : Item := .line ("[red]Config error:[/] " ++ e.message)

def setupError (message : Text) : Item := .line ("[red]Setup error:[/] " ++ message)

def openGame (settings : Settings) (blueprints : Table Text Blueprint) : GameM Outcome := do
  Game.setupNamed blueprints settings.layout
  Game.start (.str settings.firstTeam.word)

/-- The line for a folder of blueprints that is not there, seen from the current folder. -/
def missingFolder (settings : Settings) (here : Location) : Item :=
  let p := settings.blueprintLocation
  setupError <|
    match p.fault? with
    | some fault => fault.message
    | none => "Blueprint directory not found: " ++ (here.resolve p).text

/-- Opens a session: the game and what is shown, or the line that tells why there is none.  The
folder of the blueprints may be missing. -/
def openSession (settings : Settings) (here : Location) (folder : Option Folder) (time : Text) :
    Except Item (Game × List Item) := do
  let board ← (Board.make settings.width settings.height).mapError fun e => setupError e.message
  let folder ←
    match folder with
    | some folder => pure folder
    | none => throw (missingFolder settings here)
  let blueprints ← folder.load.mapError fun e => setupError e.message
  match openGame settings blueprints { board } with
  | .ok outcome g => return (g, Screen.outcome time outcome ++ Screen.board g ++ [Screen.help])
  | .error e _ => throw (setupError e.message)

/-! ## Among files -/

inductive LogFault where
  /-- No file can be where the log is to be. -/
  | location (fault : Location.Fault)
  /-- A file is where a folder has to be, or a folder where the log is to be. -/
  | inTheWay
  deriving DecidableEq, Repr

/-- The tree of files once a session has made its log, together with its folder. -/
def withLog (tree : FileTree) (here : Location) (settings : Settings) : Except LogFault FileTree :=
  let p := settings.logLocation
  match p.fault? with
  | some fault => .error (.location fault)
  | none =>
      let made := tree.makeFolders? (here.start p).parts p.parent.parts
      match made.bind fun t => t.touch? (here.resolve p).parts with
      | some tree => .ok tree
      | none => .error .inTheWay

/-- Opens a session among files, seen from the current folder.  The log is made first, so that its
folder is there when the blueprints are looked for. -/
def openAmong (settings : Settings) (here : Location) (tree : FileTree) (time : Text) :
    Except LogFault (Except Item (Game × List Item)) :=
  (withLog tree here settings).map fun tree =>
    openSession settings here (tree.folder? here settings.blueprintLocation) time

/-! ## Lines -/

def prompt : Item := .prompt "[bold]Enter command:[/] "

def farewell : Item := .line "[dim]Exiting.[/]"

/-- What remains of a session after it has run. -/
structure Transcript where
  shown : List Item
  unread : List Text
  /-- The error of the game that ended the session. -/
  failure : Option GameError := none
  /-- The thing that ended the session because it cannot be shown. -/
  unshown : Option Item := none

/-- Answers lines on a console. -/
def replayOn (console : Console) (g : Game) : List Text → Transcript
  | [] => { shown := [prompt, farewell], unread := [] }
  | line :: rest =>
      match handleOn console line g with
      | .error (.game e) _ => { shown := [prompt], unread := rest, failure := some e }
      | .error (.unshowable before item) _ =>
          { shown := prompt :: before, unread := rest, unshown := some item }
      | .ok (items, goesOn) g =>
          if !goesOn || g.isOver then
            { shown := prompt :: items ++ [farewell], unread := rest }
          else
            let later := replayOn console g rest
            { later with shown := prompt :: items ++ later.shown }

def replay (g : Game) (lines : List Text) : Transcript := replayOn .recorder g lines

end Session

end Boardcraft
