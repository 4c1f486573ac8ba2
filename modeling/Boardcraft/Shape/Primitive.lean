import Boardcraft.Grid.Direction
import Boardcraft.Shape.Offsets

/-!
# Primitive patterns

The patterns from which shapes are built.  Each is the part of a box around the piece that meets a
condition, in the order of the box, or a run of steps.  Apart from the single point none of them
holds the origin.
-/

namespace Boardcraft

namespace Offsets

/-- The offsets that a walk along rows and columns reaches in at most `radius` steps. -/
def circle (radius : Int) : List Square :=
  (Square.box radius).filter fun s =>
    s ≠ Square.origin ∧ (s.x.natAbs + s.y.natAbs : Int) ≤ radius

/-- The offsets that a king reaches in at most `size` steps. -/
def square (size : Int) : List Square :=
  (Square.box size).filter fun s => s ≠ Square.origin

def along (d : Direction) (distance : Int) : Square :=
  ⟨d.step.x * distance, d.step.y * distance⟩

/-- The offsets that lie from `nearest` to `farthest` steps away in each of the directions, one
direction after the other. -/
def ray (directions : List Direction) (nearest farthest : Int) : List Square :=
  (distinct directions).flatMap fun d => (Square.run nearest farthest).map (along d)

def point (delta : Square) : List Square := [delta]

/-! ## Cones

A cone widens by one square on either side with every layer.  The layers of a cone in a cardinal
direction are rows or columns.  Those of a diagonal cone are measured on the lattice turned by an
eighth, and the cone is cut off so that it reaches about as far in a straight line as a cardinal
cone of the same length.
-/

/-- The whole number nearest to the length divided by the square root of two: the count of the
halves `r + 1/2` below that quotient. -/
def diagonalReach (length : Int) : Int :=
  let n := length.toNat
  (List.range n).countP fun r => (2 * r + 1) * (2 * r + 1) ≤ 2 * (n * n)

def coneReach (d : Direction) (length : Int) : Int :=
  if d.isCardinal then length else diagonalReach length

/-- The layer of a cone on which an offset lies, and its distance from the middle of the layer.  A
diagonal cone covers only the quadrant that it opens into. -/
def coneLayer (d : Direction) (s : Square) : Option (Int × Int) :=
  if d.isCardinal then
    some (s.x * d.step.x + s.y * d.step.y, (s.x * d.step.y - s.y * d.step.x).natAbs)
  else
    let u := s.x * d.step.x
    let v := s.y * d.step.y
    if 0 < u ∧ 0 < v then some ((u + v + 1) / 2, ((v - u).natAbs : Int) / 2) else none

def inCone (d : Direction) (reach : Int) (s : Square) : Bool :=
  match coneLayer d s with
  | some (layer, aside) => 1 ≤ layer && layer ≤ reach && aside < layer
  | none => false

def cone (d : Direction) (length : Int) : List Square :=
  let reach := coneReach d length
  (Square.box (2 * length)).filter fun s => s ≠ Square.origin ∧ inCone d reach s

end Offsets

end Boardcraft
