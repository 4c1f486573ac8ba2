import Boardcraft.Ability.Dispatcher
import Boardcraft.Game.Error
import Boardcraft.Piece
import Boardcraft.Status.Effect

/-!
# The state of a game

Everything that a game remembers, as one value.  Pieces, abilities and effects are known by
number; the tables of pieces and effects keep every one that was ever made, while the roster lists
the pieces that are in play.

Operations that may fail are computations over the state.  What such a computation has changed
before it fails stays changed.
-/

namespace Boardcraft

/-- What a scripted ability saw when it reacted: the context before its reactions. -/
structure Sighting where
  ability : Ability
  context : Context

structure Game where
  board : Board
  registry : Registry := .standard
  dispatcher : Dispatcher := {}
  /-- Every piece ever made. -/
  pieces : Table PieceNumber Piece := .empty
  pieceCount : Nat := 0
  /-- The pieces in play by id, in the order in which they came. -/
  roster : Table Text PieceNumber := .empty
  /-- Every effect ever made. -/
  effects : Table EffectNumber Effect := .empty
  effectCount : Nat := 0
  /-- The effects on each piece, in the order in which they were applied. -/
  statuses : Table PieceNumber (List EffectNumber) := .empty
  /-- The abilities that reactions may name. -/
  cast : Table Text Ability := .empty
  abilityCount : Nat := 0
  /-- The team to move, once the game has begun. -/
  toMove : Option Team := none
  turn : Nat := 0
  winner : Option Team := none
  /-- What scripted abilities have seen, the latest last. -/
  journal : List Sighting := []
  deriving Inhabited

abbrev GameM := EStateM GameError Game

namespace Game

/-! ## Queries -/

def piece (g : Game) (n : PieceNumber) : Piece := (g.pieces.find? n).getD { id := "" }

def squareOf (g : Game) (n : PieceNumber) : Square := g.board.squareOf n

def inPlay (g : Game) : List PieceNumber := g.roster.values

def find? (g : Game) (id : Text) : Option PieceNumber := g.roster.find? id

def effect? (g : Game) (n : EffectNumber) : Option Effect := g.effects.find? n

def statusesOf (g : Game) (n : PieceNumber) : List EffectNumber := (g.statuses.find? n).getD []

def isActive (g : Game) (n : EffectNumber) : Bool :=
  match g.effect? n with
  | some e => e.active
  | none => false

/-- The abilities of a piece: those it was made with and those that effects lend to it. -/
def abilitiesOf (g : Game) (n : PieceNumber) : List Ability :=
  (g.piece n).abilities ++
    (g.statusesOf n).flatMap fun e => ((g.effect? e).map Effect.lent).getD []

def hasAbility (g : Game) (n : PieceNumber) (kind : Text) : Bool :=
  (g.abilitiesOf n).any fun a => a.kind == kind

def movementTargets (g : Game) (n : PieceNumber) : List Square :=
  (g.piece n).movement.map fun o => g.squareOf n + o

def attackTargets (g : Game) (n : PieceNumber) : List Square :=
  (g.piece n).attack.map fun o => g.squareOf n + o

def isOver (g : Game) : Bool := g.winner.isSome

/-! ## Changes -/

def withDispatcher (g : Game) (f : Dispatcher → Dispatcher) : Game :=
  { g with dispatcher := f g.dispatcher }

def setEffect (g : Game) (n : EffectNumber) (e : Effect) : Game :=
  { g with effects := g.effects.insert n e }

def setStatuses (g : Game) (n : PieceNumber) (effects : List EffectNumber) : Game :=
  { g with statuses := g.statuses.insert n effects }

def require (id : Text) : GameM PieceNumber := do
  match (← get).find? id with
  | some n => return n
  | none => throw (.unknownPiece id)

def requireAbility (name : Text) : GameM Ability := do
  match (← get).cast.find? name with
  | some a => return a
  | none => throw (.unknownAbility name)

def requireEvent (given : Value) : GameM Event := do
  match Event.ofValue given with
  | .ok e => return e
  | .error e => throw (.unknownEvent e)

def changeBoard {α : Type} (change : BoardM α) : GameM α := fun g =>
  match change g.board with
  | .ok a board => .ok a { g with board }
  | .error fault board => .error (.badSquare fault) { g with board }

def place (n : PieceNumber) (s : Square) : GameM Unit := changeBoard (Board.place n s)

def clearSquare (s : Square) : GameM (Option PieceNumber) := changeBoard (Board.remove s)

def shift (origin destination : Square) : GameM Unit :=
  changeBoard (Board.move origin destination)

end Game

end Boardcraft
