import Boardcraft.Game.Announce
import Boardcraft.Grid.Line

/-!
# Legality

Whether a piece may move to a square or act upon it.  A check is a sequence of gates; the first
gate that does not open refuses the command and says why.  Between the gates the abilities are
asked, which may cancel the command or set flags that open a later gate.

A refusal is put into words as soon as it is given, whether anybody reads them or not.  A check
therefore fails where the refusal names a square whose coordinates have too many digits.
-/

namespace Boardcraft

inductive Refusal where
  | unknownPiece (id : Text)
  | gameOver (winner : Team)
  | notStarted
  | notYourTurn (toMove : Team)
  | offBoard (target : Square)
  | sameSquare (target : Square)
  | notInShape (target : Square) (name shape : Text)
  | moveCancelled (id : Text)
  | actionCancelled (action id : Text)
  | pathBlocked (square : Square)
  | occupied (target : Square)
  | ownSquareEmpty (id : Text)
  | emptyTarget (target : Square)
  | selfTarget (id action : Text)
  | allyTarget (id action other : Text)
  | enemyTarget (id action other : Text)
  deriving DecidableEq, Repr

namespace Refusal

def reason : Refusal → String
  | unknownPiece _ => "unknown_piece"
  | gameOver _ => "game_over"
  | notStarted => "not_started"
  | notYourTurn _ => "not_your_turn"
  | offBoard _ => "off_board"
  | sameSquare _ => "same_square"
  | notInShape .. => "not_in_shape"
  | moveCancelled _ | actionCancelled .. => "cancelled"
  | pathBlocked _ => "path_blocked"
  | occupied _ => "occupied"
  | ownSquareEmpty _ | emptyTarget _ => "empty_target"
  | selfTarget .. => "self_target"
  | allyTarget .. => "ally_target"
  | enemyTarget .. => "enemy_target"

def detail : Refusal → Text
  | unknownPiece id => "no piece with id " ++ id
  | gameOver winner => winner.word ++ " has already won"
  | notStarted => "call start_game() first"
  | notYourTurn toMove => "it is " ++ toMove.word ++ "'s turn"
  | offBoard target => "target " ++ target.text ++ " is off the board"
  | sameSquare target => "target " ++ target.text ++ " is the piece's own square"
  | notInShape target name shape =>
      "target " ++ target.text ++ " is not in " ++ name ++ "'s " ++ shape ++ " shape"
  | moveCancelled id => "move of " ++ id ++ " cancelled by an ability"
  | actionCancelled action id => action ++ " by " ++ id ++ " cancelled by an ability"
  | pathBlocked square => "path blocked at " ++ square.text
  | occupied target => "target " ++ target.text ++ " is occupied"
  | ownSquareEmpty id => id ++ " targets its own square but it is empty"
  | emptyTarget target => "target square " ++ target.text ++ " is empty"
  | selfTarget id action => id ++ " cannot " ++ action ++ " itself"
  | allyTarget id action other => id ++ " cannot " ++ action ++ " ally " ++ other
  | enemyTarget id action other => id ++ " cannot " ++ action ++ " enemy " ++ other

/-- The squares that the words for a refusal name. -/
def squares : Refusal → List Square
  | offBoard target | sameSquare target | notInShape target _ _ => [target]
  | pathBlocked square => [square]
  | occupied target | emptyTarget target => [target]
  | _ => []

def isTellable (r : Refusal) : Bool := r.squares.all Square.isWritable

end Refusal

namespace Game

def usualAction : Text := "attack"

/-- Gives the verdict of a check, with the words for a refusal. -/
def give (verdict : Option Refusal) : GameM (Option Refusal) :=
  if verdict.all Refusal.isTellable then pure verdict else throw .oversizedNumber

/-! ## Moves -/

def movePrecheck (g : Game) (n : PieceNumber) (target : Square) : Option Refusal :=
  if ¬ g.board.Holds target then some (.offBoard target)
  else if target = g.squareOf n then some (.sameSquare target)
  else if !(g.movementTargets n).contains target then
    some (.notInShape target (g.piece n).name "movement")
  else none

def moveVerdict (g : Game) (context : Context) (n : PieceNumber) (origin target : Square) :
    Option Refusal :=
  if context.cancelled then some (.moveCancelled (g.piece n).id)
  else
    let blocker :=
      if context.flagIsSet Flag.ignorePathBlocking then none
      else (Square.between origin target).find? g.board.isOccupied
    match blocker with
    | some square => some (.pathBlocked square)
    | none => if g.board.isOccupied target then some (.occupied target) else none

def checkMove (n : PieceNumber) (target : Square) : GameM (Option Refusal) := do
  let g ← get
  match g.movePrecheck n target with
  | some refusal => give (some refusal)
  | none =>
      let origin := g.squareOf n
      let context ← announce
        { event := .moveValidate, source := some n, origin := some origin,
          destination := some target }
      give ((← get).moveVerdict context n origin target)

/-! ## Actions -/

def actionPrecheck (g : Game) (n : PieceNumber) (target : Square) (action : Text) :
    Option Refusal :=
  if ¬ g.board.Holds target then some (.offBoard target)
  else if target = g.squareOf n ∧ g.board.pieceAt target = none then
    some (.ownSquareEmpty (g.piece n).id)
  else if !(g.attackTargets n).contains target then
    some (.notInShape target (g.piece n).name action)
  else none

/-- The refusal of an action upon a piece under the usual rules of targeting. -/
def targetingVerdict (g : Game) (context : Context) (n m : PieceNumber) (action : Text) :
    Option Refusal :=
  let id := (g.piece n).id
  let other := (g.piece m).id
  if m = n then
    if context.flagIsSet Flag.allowTargetSelf then none else some (.selfTarget id action)
  else if (g.piece m).team = (g.piece n).team then
    if context.flagIsSet Flag.allowTargetAlly then none else some (.allyTarget id action other)
  else if context.flagIsSet Flag.allowTargetEnemy then none
  else some (.enemyTarget id action other)

def actionVerdict (g : Game) (context : Context) (n : PieceNumber) (target : Square)
    (occupant : Option PieceNumber) (action : Text) : Option Refusal :=
  if context.cancelled then some (.actionCancelled action (g.piece n).id)
  else if context.flagIsSet Flag.ignoreTargetingRules then none
  else
    match occupant with
    | none => some (.emptyTarget target)
    | some m => g.targetingVerdict context n m action

def checkAction (n : PieceNumber) (target : Square) (action : Text) :
    GameM (Option Refusal) := do
  let g ← get
  match g.actionPrecheck n target action with
  | some refusal => give (some refusal)
  | none =>
      let occupant := g.board.pieceAt target
      let context ← announce
        { event := .actionValidate, source := some n, target := occupant,
          origin := some (g.squareOf n), destination := some target, action := some action }
      give ((← get).actionVerdict context n target occupant action)

/-! ## All targets -/

def filterLegal (check : Square → GameM (Option Refusal)) : List Square → GameM (List Square)
  | [] => pure []
  | s :: rest => do
      let refusal ← check s
      let others ← filterLegal check rest
      return if refusal.isNone then s :: others else others

def legalMoves (n : PieceNumber) : GameM (List Square) := do
  filterLegal (checkMove n) ((← get).movementTargets n)

def legalTargets (n : PieceNumber) (action : Text := usualAction) : GameM (List Square) := do
  filterLegal (fun s => checkAction n s action) ((← get).attackTargets n)

end Game

end Boardcraft
