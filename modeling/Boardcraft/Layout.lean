import Boardcraft.Grid.Square
import Boardcraft.Team

/-!
# Starting layouts

Which pieces stand where when a game begins.
-/

namespace Boardcraft

/-- A piece of a layout: the name of its blueprint, its team and its square. -/
structure Placement where
  blueprint : Text
  team : Team
  square : Square
  deriving DecidableEq, Inhabited, Repr

namespace Layout

structure TooSmall where
  width : Int
  height : Int
  deriving DecidableEq, Repr

def backRank : List Text :=
  ["rook", "knight", "bishop", "queen", "king", "bishop", "knight", "rook"]

/-- The least number of rows that keeps the two armies apart. -/
def leastHeight : Int := 4

/-- What is said of the size; if it cannot be written, that is said instead. -/
def TooSmall.message (e : TooSmall) : String :=
  if Text.isWritable e.width && Text.isWritable e.height then
    "The standard layout needs at least an 8x4 board, got " ++ toString e.width ++ "x" ++
      toString e.height
  else Text.unwritable

/-- Two pieces of one kind that face each other in a column: the white one on a row, the black one
on another. -/
def facing (name : Text) (x whiteRow blackRow : Int) : List Placement :=
  [⟨name, .white, ⟨x, whiteRow⟩⟩, ⟨name, .black, ⟨x, blackRow⟩⟩]

/-- The layout of chess: white on the two lowest rows, black on the two highest. -/
def standard (width height : Int) : Except TooSmall (List Placement) :=
  if width < backRank.length ∨ height < leastHeight then .error ⟨width, height⟩
  else
    let top := height - 1
    .ok (backRank.zipIdx.flatMap (fun (name, x) => facing name x 0 top) ++
      (Square.run 0 (backRank.length - 1)).flatMap fun x => facing "pawn" x 1 (top - 1))

end Layout

inductive LayoutName where
  | standard
  | empty
  deriving DecidableEq, Inhabited, Repr

namespace LayoutName

def all : List LayoutName := [standard, empty]

def word : LayoutName → String
  | standard => "standard"
  | empty => "empty"

def ofWord? (word : Text) : Option LayoutName := all.find? fun name => name.word == word

def words : String := "('standard', 'empty')"

def placements (name : LayoutName) (width height : Int) :
    Except Layout.TooSmall (List Placement) :=
  match name with
  | standard => Layout.standard width height
  | empty => .ok []

end LayoutName

end Boardcraft
