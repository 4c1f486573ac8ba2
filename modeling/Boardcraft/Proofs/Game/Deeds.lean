import Boardcraft.Proofs.Game.Run

/-!
# What an operation does on its way

An operation announces events, and those who listen may put pieces under effects, take pieces out
of play and end turns before it goes on.  For each computation of a game this module defines the
list of its deeds: what it does to the effects on pieces, in the order in which it does it, its
listeners' deeds among them.

The lists follow the computations step by step.  What comes after a step is done only if the step
has succeeded, and from the game that the step has left behind.
-/

namespace Boardcraft

/-- Something that is done to the effects on pieces, whoever has ordered it. -/
inductive Deed where
  /-- A piece comes into play under an id. -/
  | enter (id : Text)
  /-- The piece with an id, if there is one, is taken out of play. -/
  | leave (id : Text)
  /-- A status effect is applied to the piece with an id, if there is one. -/
  | afflict (id : Text) (definition : StatusDefinition)
  /-- A turn ends. -/
  | turn

/-- The deeds of a computation followed by those of the next, which is reached only where the first
has succeeded. -/
def andThen {σ α : Type} (m : EStateM GameError σ α) (first : List Deed)
    (next : α → σ → List Deed) (s : σ) : List Deed :=
  match m s with
  | .ok a s' => first ++ next a s'
  | .error _ _ => first

/-!
## Announcements
-/

namespace Scene

variable (endTurn : GameM Unit) (endTurnDeeds : Game → List Deed)

def performDeeds (a : Ability) (s : Scene) : Reaction → List Deed
  | .afflict who draft =>
      match playing s.context a who, draft.check with
      | some n, .ok definition => [.afflict (s.game.piece n).id definition]
      | _, _ => []
  | .remove who =>
      match playing s.context a who with
      | some n => [.leave (s.game.piece n).id]
      | none => []
  | .endTurn => endTurnDeeds s.game
  | _ => []

def performAllDeeds (a : Ability) : List Reaction → Scene → List Deed
  | [], _ => []
  | r :: rest, s =>
      andThen (perform endTurn a r) (performDeeds endTurnDeeds a s r)
        (fun _ => performAllDeeds a rest) s

def seen (s : Scene) (a : Ability) : Scene :=
  { s with game := { s.game with journal := s.game.journal ++ [⟨a, s.context⟩] } }

def hearDeeds (a : Ability) (s : Scene) : List Deed :=
  match a.rule.behaviour with
  | .scripted script =>
      match script ⟨a.host, s.game.board, s.context, s.game.journal.length⟩ with
      | some reactions => performAllDeeds endTurn endTurnDeeds a reactions (s.seen a)
      | none => []
  | _ => []

def notifyDeeds : List Subscription → Scene → List Deed
  | [], _ => []
  | entry :: rest, s =>
      if s.context.cancelled then []
      else
        andThen (hear endTurn entry.ability) (hearDeeds endTurn endTurnDeeds entry.ability s)
          (fun _ => notifyDeeds rest) s

end Scene

namespace Game

def announceWithDeeds (endTurn : GameM Unit) (endTurnDeeds : Game → List Deed) (context : Context)
    (g : Game) : List Deed :=
  Scene.notifyDeeds endTurn endTurnDeeds (g.dispatcher.listeners context.event) ⟨g, context⟩

def endTurnWithinDeeds : Nat → Game → List Deed
  | 0, _ => []
  | n + 1, g =>
      .turn :: announceWithDeeds (endTurnWithin n) (endTurnWithinDeeds n) { event := .turnStart }
        g.tickAll.nextTurn

def endTurnDeeds : Game → List Deed := endTurnWithinDeeds nestingLimit

def announceDeeds (context : Context) : Game → List Deed :=
  announceWithDeeds endTurn endTurnDeeds context

/-!
## Contexts

What the events are about that checks and commands announce.
-/

def moveStart (g : Game) (n : PieceNumber) (target : Square) : Context :=
  { event := .moveStart, source := some n, origin := some (g.squareOf n),
    destination := some target }

def moveQuestion (g : Game) (n : PieceNumber) (target : Square) : Context :=
  { event := .moveValidate, source := some n, origin := some (g.squareOf n),
    destination := some target }

def moveEnd (n : PieceNumber) (origin target : Square) : Context :=
  { event := .moveEnd, source := some n, origin := some origin, destination := some target }

def actionStart (g : Game) (n : PieceNumber) (target : Square) (action : Text) : Context :=
  { event := .actionStart, source := some n, target := g.board.pieceAt target,
    origin := some (g.squareOf n), destination := some target, action := some action }

def actionQuestion (g : Game) (n : PieceNumber) (target : Square) (action : Text) : Context :=
  { event := .actionValidate, source := some n, target := g.board.pieceAt target,
    origin := some (g.squareOf n), destination := some target, action := some action }

/-- The context in which a capture is announced.  Its source is the captured piece. -/
def captureOf (g : Game) (attacker captured : PieceNumber) : Context :=
  { event := .capture, source := some captured, target := some attacker,
    origin := some (g.squareOf attacker), destination := some (g.squareOf captured) }

def gameOverOf (attacker captured : PieceNumber) : Context :=
  { event := .gameOver, source := some captured, target := some attacker }

def actionEnd (n : PieceNumber) (origin target : Square) (occupant : Option PieceNumber)
    (action : Text) : Context :=
  { event := .actionEnd, source := some n, target := occupant, origin := some origin,
    destination := some target, action := some action }

/-!
## Checks
-/

def checkMoveDeeds (n : PieceNumber) (target : Square) (g : Game) : List Deed :=
  match g.movePrecheck n target with
  | some _ => []
  | none => announceDeeds (g.moveQuestion n target) g

def checkActionDeeds (n : PieceNumber) (target : Square) (action : Text) (g : Game) : List Deed :=
  match g.actionPrecheck n target action with
  | some _ => []
  | none => announceDeeds (g.actionQuestion n target action) g

def filterLegalDeeds (check : Square → GameM (Option Refusal)) (deeds : Square → Game → List Deed) :
    List Square → Game → List Deed
  | [], _ => []
  | s :: rest, g => andThen (check s) (deeds s g) (fun _ => filterLegalDeeds check deeds rest) g

def legalMovesDeeds (n : PieceNumber) (g : Game) : List Deed :=
  filterLegalDeeds (checkMove n) (checkMoveDeeds n) (g.movementTargets n) g

def legalTargetsDeeds (n : PieceNumber) (action : Text) (g : Game) : List Deed :=
  filterLegalDeeds (fun s => checkAction n s action) (fun s => checkActionDeeds n s action)
    (g.attackTargets n) g

/-!
## Commands
-/

def begun (g : Game) (team : Team) : Game :=
  { g with toMove := some team, turn := 1, winner := none }

def startDeeds (first : Value) (g : Game) : List Deed :=
  match Team.ofValue? first with
  | none => []
  | some team =>
      andThen (announce { event := .gameStart })
        (announceDeeds { event := .gameStart } (g.begun team))
        (fun _ => announceDeeds { event := .turnStart }) (g.begun team)

def carryOutMoveDeeds (n : PieceNumber) (origin target : Square) (g : Game) : List Deed :=
  andThen (shift origin target) []
    (fun _ g =>
      andThen (announce (moveEnd n origin target)) (announceDeeds (moveEnd n origin target) g)
        (fun _ => endTurnDeeds) g) g

def moveDeeds (id : Text) (target : Square) (g : Game) : List Deed :=
  match g.commanded id with
  | .error _ => []
  | .ok n =>
      andThen (announce (g.moveStart n target)) (announceDeeds (g.moveStart n target) g)
        (fun context g' =>
          if context.cancelled then []
          else
            andThen (checkMove n target) (checkMoveDeeds n target g')
              (fun refusal =>
                match refusal with
                | some _ => fun _ => []
                | none => carryOutMoveDeeds n (g.squareOf n) target) g') g

def won (g : Game) (team : Team) : Game := { g with winner := some team }

def concludeCaptureDeeds (attacker captured : PieceNumber) (p : Piece) (context : Context)
    (g : Game) : List Deed :=
  if endsGame context then
    announceDeeds (gameOverOf attacker captured) (g.won (Team.against (loserOf context p)))
  else []

def captureDeeds (attacker captured : PieceNumber) (g : Game) : List Deed :=
  andThen (announce (g.captureOf attacker captured))
    (announceDeeds (g.captureOf attacker captured) g)
    (fun context g' =>
      andThen (removePiece (g.piece captured).id) [.leave (g.piece captured).id]
        (fun _ => concludeCaptureDeeds attacker captured (g.piece captured) context) g') g

def victimOf (g : Game) (n : PieceNumber) (occupant : Option PieceNumber) : Option PieceNumber :=
  occupant.filter fun m => (g.piece m).team ≠ (g.piece n).team

def finishActionDeeds (n : PieceNumber) (origin target : Square) (occupant : Option PieceNumber)
    (action : Text) (gameOver : Option Outcome) (g : Game) : List Deed :=
  andThen (announce (actionEnd n origin target occupant action))
    (announceDeeds (actionEnd n origin target occupant action) g)
    (fun _ =>
      match gameOver with
      | some _ => fun _ => []
      | none => endTurnDeeds) g

def carryOutActionDeeds (n : PieceNumber) (origin target : Square) (occupant : Option PieceNumber)
    (action : Text) (g : Game) : List Deed :=
  match g.victimOf n occupant with
  | some m =>
      andThen (capture n m) (captureDeeds n m g)
        (finishActionDeeds n origin target occupant action) g
  | none => finishActionDeeds n origin target occupant action none g

def actDeeds (id : Text) (target : Square) (action : Text) (g : Game) : List Deed :=
  match g.commanded id with
  | .error _ => []
  | .ok n =>
      andThen (announce (g.actionStart n target action))
        (announceDeeds (g.actionStart n target action) g)
        (fun context g' =>
          if context.cancelled then []
          else
            andThen (checkAction n target action) (checkActionDeeds n target action g')
              (fun refusal =>
                match refusal with
                | some _ => fun _ => []
                | none =>
                    carryOutActionDeeds n (g.squareOf n) target (g.board.pieceAt target) action)
              g') g

/-!
## Operations
-/

def addDeeds (blueprint : Blueprint) (team : Value) (square : Square) (g : Game) : List Deed :=
  match addPiece blueprint team square g with
  | .ok n g' => [.enter (g'.piece n).id]
  | .error _ _ => []

def setupDeeds (blueprints : Table Text Blueprint) : List Entry → Game → List Deed
  | [], _ => []
  | e :: rest, g =>
      match blueprints.find? e.blueprint with
      | none => []
      | some blueprint =>
          andThen (addPiece blueprint e.team e.square) (addDeeds blueprint e.team e.square g)
            (fun _ => setupDeeds blueprints rest) g

end Game

open Game in
def Operation.deeds : Operation → Game → List Deed
  | add blueprint team square => addDeeds blueprint team square
  | setup blueprints entries => setupDeeds blueprints entries
  | remove id => fun _ => [.leave id]
  | start first => startDeeds first
  | move id target => moveDeeds id target
  | act id target action => actDeeds id target action
  | applyStatus id definition => fun _ => [.afflict id definition]
  | endTurn => endTurnDeeds
  | legalMoves n => legalMovesDeeds n
  | legalTargets n action => legalTargetsDeeds n action
  | checkMove n target => checkMoveDeeds n target
  | checkAction n target action => checkActionDeeds n target action

def Game.runDeeds : Game → List Operation → List Deed
  | _, [] => []
  | g, op :: rest => op.deeds g ++ (g.after op.perform).runDeeds rest

end Boardcraft
