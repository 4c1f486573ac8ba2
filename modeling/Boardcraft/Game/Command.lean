import Boardcraft.Game.Outcome

/-!
# Commands

Beginning a game, moving a piece and letting a piece act.

A command passes the gates of the game, then its start is announced, then it is checked, and only
then it changes the board.  If an ability fails in between, the command ends there and leaves the
stages before as they are.
-/

namespace Boardcraft

namespace Game

/-! ## Beginning -/

def start (first : Value := .str Team.white.word) : GameM Outcome := do
  match Team.ofValue? first with
  | none => throw (.badFirstTeam first)
  | some team =>
      modify fun g => { g with toMove := some team, turn := 1, winner := none }
      let _ ← announce { event := .gameStart }
      let _ ← announce { event := .turnStart }
      return .started team (← get).roster.size

/-! ## Gates -/

/-- The piece that a command is for, or why it may not be commanded now. -/
def commanded (g : Game) (id : Text) : Except Refusal PieceNumber :=
  match g.find? id with
  | none => .error (.unknownPiece id)
  | some n =>
      match g.winner, g.toMove with
      | some winner, _ => .error (.gameOver winner)
      | none, none => .error .notStarted
      | none, some team => if (g.piece n).team = team then .ok n else .error (.notYourTurn team)

/-! ## Moving -/

def carryOutMove (n : PieceNumber) (origin target : Square) : GameM (List Outcome) := do
  shift origin target
  let _ ← announce
    { event := .moveEnd, source := some n, origin := some origin, destination := some target }
  let g ← get
  let p := g.piece n
  endTurn
  return [.moved p.id p.name p.team origin target g.turn]

def move (id : Text) (target : Square) : GameM (List Outcome) := do
  let g ← get
  let refuse (r : Refusal) : List Outcome := [.refused .move id target r]
  match g.commanded id with
  | .error refusal => return refuse refusal
  | .ok n =>
      let origin := g.squareOf n
      let context ← announce
        { event := .moveStart, source := some n, origin := some origin,
          destination := some target }
      if context.cancelled then return refuse (.moveCancelled id)
      match ← checkMove n target with
      | some refusal => return refuse refusal
      | none => carryOutMove n origin target

/-! ## Acting -/

/-- The value that the listeners of a capture have left for the team that lost; the captured
piece's own team where they left none. -/
def loserOf (context : Context) (captured : Piece) : Value :=
  (context.payload.find? Scene.losingTeamKey).getD captured.teamMark

def endsGame (context : Context) : Bool :=
  ((context.payload.find? Scene.gameOverKey).getD .null).isTruthy

/-- Captures a piece, and ends the game if a listener has noted so.  In the context of a capture
the captured piece is the source. -/
def capture (attacker captured : PieceNumber) : GameM (Option Outcome) := do
  let g ← get
  let context ← announce
    { event := .capture, source := some captured, target := some attacker,
      origin := some (g.squareOf attacker), destination := some (g.squareOf captured) }
  let _ ← removePiece (g.piece captured).id
  if endsGame context then
    let loser := loserOf context (g.piece captured)
    let winner := Team.against loser
    modify fun g => { g with winner := some winner }
    let _ ← announce { event := .gameOver, source := some captured, target := some attacker }
    return some (.over winner loser (← get).turn)
  else
    return none

/-- Carries out an action that has passed the check upon a square and the piece that stood there
when the action began.  A piece of the other team is captured; the turn ends unless the game
does. -/
def carryOutAction (n : PieceNumber) (origin target : Square) (occupant : Option PieceNumber)
    (action : Text) : GameM (List Outcome) := do
  let g ← get
  let victim := occupant.filter fun m => (g.piece m).team ≠ (g.piece n).team
  let gameOver ←
    match victim with
    | some m => capture n m
    | none => pure none
  let _ ← announce
    { event := .actionEnd, source := some n, target := occupant, origin := some origin,
      destination := some target, action := some action }
  let acted : Outcome :=
    .acted (g.piece n).id action target (occupant.map fun m => (g.piece m).id) victim.isSome
      (← get).turn
  match gameOver with
  | some outcome => return [acted, outcome]
  | none =>
      endTurn
      return [acted]

def act (id : Text) (target : Square) (action : Text := usualAction) :
    GameM (List Outcome) := do
  let g ← get
  let refuse (r : Refusal) : List Outcome := [.refused .action id target r]
  match g.commanded id with
  | .error refusal => return refuse refusal
  | .ok n =>
      let origin := g.squareOf n
      let occupant := g.board.pieceAt target
      let context ← announce
        { event := .actionStart, source := some n, target := occupant, origin := some origin,
          destination := some target, action := some action }
      if context.cancelled then return refuse (.actionCancelled action id)
      match ← checkAction n target action with
      | some refusal => return refuse refusal
      | none => carryOutAction n origin target occupant action

end Game

end Boardcraft
