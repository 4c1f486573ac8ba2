import Boardcraft.Data.Literal
import Boardcraft.Layout
import Boardcraft.Location
import Boardcraft.Text.Case
import Boardcraft.Text.Numeral

/-!
# Settings

What a game is started with: the size of the board, the folder of the blueprints, the team that
begins, the layout, and how the game is logged.  Settings are read from a decoded document, in
which everything may be missing.
-/

namespace Boardcraft

structure Settings where
  width : Int := 8
  height : Int := 8
  blueprintDir : Text := "./blueprints"
  firstTeam : Team := .white
  layout : LayoutName := .standard
  level : Text := "INFO"
  logFile : Text := "./logs/chessplayground.log"
  deriving Inhabited

namespace Settings

def blueprintLocation (s : Settings) : Location := .ofText s.blueprintDir

def logLocation (s : Settings) : Location := .ofText s.logFile

/-! ## Errors -/

inductive Error where
  | missing
  /-- The document has not the form of settings. -/
  | badStructure
  | infinite
  | badDimensions
  | badFirstTeam (given : Value)
  | badLayout (given : Value)
  | badLevel (given : Text)

def levels : List Text := ["DEBUG", "INFO", "WARNING", "ERROR", "CRITICAL"]

def levelWords : String := "(" ++ ", ".intercalate (levels.map Text.quoted) ++ ")"

/-- The message that a value is none of some words, if the value can be written. -/
def Error.unlisted (field words : String) (given : Value) : Text :=
  if given.isWritable then
    field ++ " must be one of " ++ words ++ ", got '" ++ given.plain ++ "'"
  else Text.unwritable

def Error.message : Error → Text
  | missing => "Config file not found"
  | badStructure => "Invalid config.yaml structure:"
  | infinite => "cannot convert float infinity to integer"
  | badDimensions => "board.width and board.height must be >= 1"
  | badFirstTeam given => unlisted "game.first_team" Team.words given
  | badLayout given => unlisted "game.layout" LayoutName.words given
  | badLevel given => "logging.level must be one of " ++ levelWords ++ ", got '" ++ given ++ "'"

/-! ## Reading -/

/-- The fields of a section; one that does not count as present has none. -/
def sectionOf (v : Value) : Except Error Fields :=
  if v.isTruthy then
    match v with
    | .object fields => .ok fields
    | _ => .error .badStructure
  else .ok []

/-- The whole number that a value is taken for: fractions are cut off, and a text is read as a
numeral. -/
def wholeOf : Value → Except Error Int
  | .bool b => .ok (if b then 1 else 0)
  | .int n => .ok n
  | .float (.infinite _) => .error .infinite
  | .float x =>
      match x.truncate? with
      | some n => .ok n
      | none => .error .badStructure
  | .str s =>
      match Text.readInt? s with
      | some n => .ok n
      | none => .error .badStructure
  | _ => .error .badStructure

def readWhole (fields : Fields) (name : Text) (missing : Int) : Except Error Int :=
  match fields.get? name with
  | some v => wholeOf v
  | none => .ok missing

def readText (fields : Fields) (name missing : Text) : Except Error Text :=
  match fields.get? name with
  | some v => if v.isWritable then .ok v.plain else .error .badStructure
  | none => .ok missing

structure Draft where
  width : Int
  height : Int
  blueprintDir : Text
  firstTeam : Value
  layout : Value
  level : Text
  logFile : Text

/-- Reads the sections of a document one after the other. -/
def readDraft (doc : Value) : Except Error Draft := do
  let usual : Settings := {}
  let sections ← sectionOf doc
  let section? (name : Text) : Value := (sections.get? name).getD .null
  let board ← sectionOf (section? "board")
  let width ← readWhole board "width" usual.width
  let height ← readWhole board "height" usual.height
  let game ← sectionOf (section? "game")
  let blueprintDir ← readText game "blueprint_dir" usual.blueprintDir
  let firstTeam := (game.get? "first_team").getD (.str usual.firstTeam.word)
  let layout := (game.get? "layout").getD (.str usual.layout.word)
  let logging ← sectionOf (section? "logging")
  let level ← readText logging "level" usual.level
  let logFile ← readText logging "file" usual.logFile
  return { width, height, blueprintDir, firstTeam, layout, level := level.upper, logFile }

def layoutOf? : Value → Option LayoutName
  | .str s => LayoutName.ofWord? s
  | _ => none

def Draft.check (d : Draft) : Except Error Settings :=
  if d.width < 1 ∨ d.height < 1 then .error .badDimensions
  else
    match Team.ofValue? d.firstTeam with
    | none => .error (.badFirstTeam d.firstTeam)
    | some firstTeam =>
        match layoutOf? d.layout with
        | none => .error (.badLayout d.layout)
        | some layout =>
            if levels.contains d.level then
              .ok { width := d.width, height := d.height, blueprintDir := d.blueprintDir,
                    firstTeam, layout, level := d.level, logFile := d.logFile }
            else .error (.badLevel d.level)

def load : Option Value → Except Error Settings
  | none => .error .missing
  | some doc => readDraft doc >>= Draft.check

end Settings

end Boardcraft
