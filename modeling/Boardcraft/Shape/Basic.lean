import Boardcraft.Shape.Primitive

/-!
# Shapes

A shape describes a set of offsets: where a piece may move, or what it may act upon.  Shapes are
primitive patterns and combinations of shapes.

Compiling a shape lists its offsets, each once and in a definite order.
-/

namespace Boardcraft

inductive Shape where
  | circle (radius : Nat)
  | square (size : Nat)
  | ray (directions : List Direction) (nearest farthest : Nat)
  | point (delta : Square)
  | cone (direction : Direction) (length : Nat)
  | union (parts : List Shape)
  | intersect (parts : List Shape)
  | subtract (base : Shape) (cutters : List Shape)
  | reflect (axis : Axis) (parts : List Shape)
  deriving Inhabited

namespace Shape

def word : Shape → String
  | circle _ => "circle"
  | square _ => "square"
  | ray .. => "ray"
  | point _ => "point"
  | cone .. => "cone"
  | union _ => "union"
  | intersect _ => "intersect"
  | subtract .. => "subtract"
  | reflect .. => "reflect"

mutual

/-- The offsets of a shape.  A reflection holds the parts as well as their mirror images. -/
def compile : Shape → List Square
  | circle radius => Offsets.circle radius
  | square size => Offsets.square size
  | ray directions nearest farthest => Offsets.ray directions nearest farthest
  | point delta => Offsets.point delta
  | cone direction length => Offsets.cone direction length
  | union parts => Offsets.union (compileAll parts)
  | intersect parts => Offsets.intersect (compileAll parts)
  | subtract base cutters => Offsets.subtract (compile base) (compileAll cutters)
  | reflect axis parts =>
      let lists := compileAll parts
      Offsets.union (Offsets.reflect axis (Offsets.union lists) :: lists)

def compileAll : List Shape → List (List Square)
  | [] => []
  | s :: rest => compile s :: compileAll rest

end

theorem compileAll_eq_map (parts : List Shape) : compileAll parts = parts.map compile := by
  induction parts with
  | nil => rfl
  | cons s rest ih => simp [compileAll, ih]

end Shape

end Boardcraft
