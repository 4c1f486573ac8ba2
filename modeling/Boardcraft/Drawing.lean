import Boardcraft.Grid.Square
import Boardcraft.Text.Basic
import Std.Data.TreeSet.Basic

/-!
# Drawings

Shapes and boards drawn as text, with north at the top.  Coordinates are written beside the rows
and above the columns.
-/

namespace Boardcraft

namespace Drawing

/-- A coordinate, filled up with blanks on the left to two characters. -/
def label (n : Int) : String :=
  let digits := toString n
  if digits.length < 2 then " " ++ digits else digits

def rows (first last : Int) : List Int := (Square.run first last).reverse

/-! ## Offsets -/

/-- One square of a drawing of offsets: the piece itself, an offset, or neither. -/
def offsetMark (offsets : Std.TreeSet Square) (s : Square) : String :=
  if s = Square.origin then " X" else if offsets.contains s then " ■" else " ."

/-- How far a drawing of offsets reaches where nothing else is asked for. -/
def usualExtent : Int := 7

def offsetRow (offsets : Std.TreeSet Square) (extent y : Int) : String :=
  label y ++ " " ++
    " ".intercalate ((Square.run (-extent) extent).map fun x => offsetMark offsets ⟨x, y⟩)

def offsets (offsets : List Square) (extent : Int := usualExtent) : String :=
  let header := "   " ++ " ".intercalate ((Square.run (-extent) extent).map label)
  let set := Std.TreeSet.ofList offsets
  "\n".intercalate (header :: (rows (-extent) extent).map (offsetRow set extent))

/-! ## Boards -/

structure View where
  width : Int
  height : Int
  /-- The emoji of the piece on a square. -/
  emoji : Square → Option Text
  /-- The squares that bear the marker. -/
  marked : Std.TreeSet Square := {}
  marker : Text := "M"
  /-- The square that is shown as chosen. -/
  selected : Option Square := none

def View.mark (v : View) (s : Square) : Text :=
  if v.selected = some s then "X"
  else if v.marked.contains s then v.marker
  else (v.emoji s).getD " "

def View.row (v : View) (y : Int) : Text :=
  label y ++ " " ++
    Text.intercalate " " ((Square.run 0 (v.width - 1)).map fun x => "[" ++ v.mark ⟨x, y⟩ ++ "]") ++
    " " ++ toString y

def board (v : View) : Text :=
  let header : Text :=
    "   " ++ String.join ((Square.run 0 (v.width - 1)).map fun x => " " ++ label x ++ " ")
  Text.intercalate "\n" (header :: (rows 0 (v.height - 1)).map v.row ++ [header])

end Drawing

end Boardcraft
