import Boardcraft.Session.Screen
import Boardcraft.Text.Case
import Boardcraft.Text.Numeral

/-!
# Line commands

One line of a session: the words of the line are read as a command, the command is carried out, and
what is to be shown comes back together with the word on whether the session goes on.
-/

namespace Boardcraft

inductive LineCommand where
  | blank
  | exit
  | help
  | move (origin target : Square)
  | attack (origin target : Square)
  | showMoves (square : Square)
  | showAttacks (square : Square)
  | showLegal (square : Square)
  | showOffsets (square : Square)
  deriving DecidableEq, Repr

namespace LineCommand

def twoSquares? (words : List Text) : Option (Square × Square) :=
  match words.mapM Text.readInt? with
  | some [x, y, x', y'] => some (⟨x, y⟩, ⟨x', y'⟩)
  | _ => none

def oneSquare? (words : List Text) : Option Square :=
  match words.mapM Text.readInt? with
  | some [x, y] => some ⟨x, y⟩
  | _ => none

/-- The command of two squares, or the plea for help where the words do not hold them. -/
def ofTwo (make : Square → Square → LineCommand) (words : List Text) : LineCommand :=
  match twoSquares? words with
  | some (origin, target) => make origin target
  | none => help

/-- The command of one square, or the plea for help where the words do not hold it. -/
def ofOne (make : Square → LineCommand) (words : List Text) : LineCommand :=
  match oneSquare? words with
  | some square => make square
  | none => help

/-- Reads a line.  The case of its first word does not matter. -/
def ofLine (line : Text) : LineCommand :=
  match line.words with
  | [] => blank
  | verb :: args =>
      match verb.lower.string? with
      | some "exit" | some "quit" => exit
      | some "move" => ofTwo move args
      | some "attack" => ofTwo attack args
      | some "showmove" => ofOne showMoves args
      | some "showattack" => ofOne showAttacks args
      | some "legal" => ofOne showLegal args
      | some "pattern" => ofOne showOffsets args
      | _ => help

end LineCommand

namespace Session

/-- What a line leads to: what is shown, and whether the session goes on. -/
abbrev Answer := List Item × Bool

def noPiece (square : Square) : Answer := ([Screen.error ("No piece at " ++ square.text ++ ".")], true)

/-- Carries out a computation whose failing abilities are shown; any other failure is passed
on. -/
def showingFailures (m : GameM Answer) : GameM Answer := fun g =>
  match m g with
  | .error (.abilityFailed kind event cause) g =>
      .ok ([Screen.error (GameError.abilityFailed kind event cause).message], true) g
  | result => result

def order (origin : Square) (command : Text → GameM (List Outcome)) : GameM Answer := do
  let g ← get
  match g.board.pieceAt origin with
  | none => return noPiece origin
  | some n => showingFailures do
      let outcomes ← command (g.piece n).id
      return (outcomes.flatMap (Screen.outcome "") ++ Screen.board (← get), true)

def inspect (square : Square) (look : Game → PieceNumber → GameM (List Item)) : GameM Answer := do
  let g ← get
  match g.board.pieceAt square with
  | none => return noPiece square
  | some n => showingFailures do
      let items ← look g n
      return (items, true)

def showLegal (n : PieceNumber) : GameM (List Item) := do
  let moves ← Game.legalMoves n
  let targets ← Game.legalTargets n
  let g ← get
  return [Screen.pattern g n moves .movement, Screen.pattern g n targets .attack]

def run : LineCommand → GameM Answer
  | .blank => return ([], true)
  | .exit => return ([], false)
  | .help => return ([Screen.help], true)
  | .move origin target => order origin fun id => Game.move id target
  | .attack origin target => order origin fun id => Game.act id target
  | .showMoves square => inspect square fun g n =>
      return [Screen.pattern g n (g.movementTargets n) .movement]
  | .showAttacks square => inspect square fun g n =>
      return [Screen.pattern g n (g.attackTargets n) .attack]
  | .showLegal square => inspect square fun _ n => showLegal n
  | .showOffsets square => inspect square fun g n => return Screen.offsets (g.piece n)

def handle (line : Text) : GameM Answer := run (.ofLine line)

end Session

end Boardcraft
