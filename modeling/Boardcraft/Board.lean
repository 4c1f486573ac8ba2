import Boardcraft.Data.Table
import Boardcraft.Event.Context

/-!
# The board

A rectangle of squares and the pieces that stand on them.  The board also keeps the square on
which each piece was put last, so that a piece can be asked where it stands; a piece that was
taken off still answers with its last square.
-/

namespace Boardcraft

structure Board where
  width : Int
  height : Int
  /-- The occupied squares, in the order in which they were taken. -/
  cells : Table Square PieceNumber := .empty
  /-- The square on which each piece was put last. -/
  standing : Table PieceNumber Square := .empty
  deriving Inhabited

namespace Board

/-- What a change of the board is called in messages. -/
inductive Change where
  | place
  | remove
  | move
  deriving DecidableEq, Repr

def Change.words : Change → String
  | place => "place piece"
  | remove => "remove piece"
  | move => "move piece"

inductive Fault where
  | badDimensions (width height : Int)
  | offBoard (change : Change) (square : Square) (width height : Int)
  | nothingToMove (square : Square)
  deriving DecidableEq, Repr

def Fault.numbers : Fault → List Int
  | badDimensions width height => [width, height]
  | offBoard _ square width height => [square.x, square.y, width - 1, height - 1]
  | nothingToMove square => [square.x, square.y]

def Fault.words : Fault → String
  | badDimensions width height =>
      "Board dimensions must be positive, got " ++ toString width ++ "x" ++ toString height
  | offBoard change square width height =>
      "Cannot " ++ change.words ++ ": " ++ square.text ++ " is outside the board (0-" ++
        toString (width - 1) ++ ", 0-" ++ toString (height - 1) ++ ")"
  | nothingToMove square => "No piece on " ++ square.text ++ " to move"

/-- What is said of a fault; if a number in it cannot be written, that is said instead. -/
def Fault.message (fault : Fault) : String :=
  if fault.numbers.all Text.isWritable then fault.words else Text.unwritable

def usualSize : Int := 8

def make (width height : Int) : Except Fault Board :=
  if width < 1 ∨ height < 1 then .error (.badDimensions width height)
  else .ok { width, height }

/-! ## Queries -/

def Holds (b : Board) (s : Square) : Prop :=
  (0 ≤ s.x ∧ s.x < b.width) ∧ 0 ≤ s.y ∧ s.y < b.height

instance (b : Board) (s : Square) : Decidable (b.Holds s) :=
  inferInstanceAs (Decidable (_ ∧ _))

def pieceAt (b : Board) (s : Square) : Option PieceNumber := b.cells.find? s

def isOccupied (b : Board) (s : Square) : Bool := b.cells.contains s

def nowhere : Square := ⟨-1, -1⟩

def squareOf (b : Board) (piece : PieceNumber) : Square := (b.standing.find? piece).getD nowhere

/-- The pieces on the board, in the order in which their squares were taken. -/
def pieces (b : Board) : List PieceNumber := b.cells.values

/-! ## Changes -/

def put (b : Board) (piece : PieceNumber) (s : Square) : Board :=
  { b with cells := b.cells.insert s piece, standing := b.standing.insert piece s }

def clear (b : Board) (s : Square) : Board :=
  { b with cells := b.cells.erase s }

def offBoardFault (b : Board) (change : Change) (s : Square) : Fault :=
  .offBoard change s b.width b.height

end Board

/-- Computations that change a board.  What such a computation has changed before it fails stays
changed. -/
abbrev BoardM := EStateM Board.Fault Board

namespace Board

def requireHolds (change : Change) (s : Square) : BoardM Unit := do
  let b ← get
  if b.Holds s then return () else throw (b.offBoardFault change s)

def place (piece : PieceNumber) (s : Square) : BoardM Unit := do
  requireHolds .place s
  modify fun b => b.put piece s

def remove (s : Square) : BoardM (Option PieceNumber) := do
  requireHolds .remove s
  let occupant := (← get).pieceAt s
  modify fun b => b.clear s
  return occupant

def move (origin destination : Square) : BoardM Unit := do
  match (← get).pieceAt origin with
  | none => throw (.nothingToMove origin)
  | some piece =>
      requireHolds .move destination
      modify fun b => b.clear origin
      place piece destination

end Board

end Boardcraft
