import Boardcraft.Grid.Square

/-!
# Lines of squares

The squares that lie strictly between two squares of one row, column or diagonal.  A piece that
slides has to find all of them empty.
-/

namespace Boardcraft

namespace Square

def Aligned (a b : Square) : Prop :=
  b.x = a.x ∨ b.y = a.y ∨ (b.x - a.x).natAbs = (b.y - a.y).natAbs

instance (a b : Square) : Decidable (Aligned a b) :=
  inferInstanceAs (Decidable (_ ∨ _ ∨ _))

def stepTowards (a b : Square) : Square :=
  ⟨(b.x - a.x).sign, (b.y - a.y).sign⟩

/-- The squares passed on a walk that starts on a square and takes one step after the other until
it stands on its goal, which is not among them; the walk takes at most the given number of
steps. -/
def walk (goal step : Square) : Nat → Square → List Square
  | 0, _ => []
  | n + 1, s => if s = goal then [] else s :: walk goal step n (s + step)

/-- The squares strictly between two squares, from the first towards the second.  Squares that
share no line have none between them. -/
def between (a b : Square) : List Square :=
  if Aligned a b then
    walk b (stepTowards a b) (distance a b) (a + stepTowards a b)
  else
    []

end Square

end Boardcraft
