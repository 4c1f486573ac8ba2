import Boardcraft.Text.Numeral

/-!
# Squares of the grid

A square is a pair of integers.  The same type serves for the squares of a board and for the
offsets of a piece, which are squares seen from the piece: the first coordinate grows to the
east, the second to the north.

## Contents

The type with its sum and its order, the three mirror images, the distance of a king's walk, and
the two families of squares that shapes are cut from: the run of integers between two ends and the
box around the origin.
-/

namespace Boardcraft

/-- A place on the grid, or the offset from one place to another. -/
structure Square where
  x : Int
  y : Int
  deriving DecidableEq, Inhabited, Repr

namespace Square

def origin : Square := ⟨0, 0⟩

instance : Add Square where
  add a b := ⟨a.x + b.x, a.y + b.y⟩

@[simp] theorem add_x (a b : Square) : (a + b).x = a.x + b.x := rfl

@[simp] theorem add_y (a b : Square) : (a + b).y = a.y + b.y := rfl

def text (s : Square) : String :=
  "(" ++ toString s.x ++ "," ++ toString s.y ++ ")"

/-- Whether a square has a written form: neither coordinate has too many digits for it. -/
def isWritable (s : Square) : Bool := Text.isWritable s.x && Text.isWritable s.y

/-! ## Order -/

/-- Squares are ordered from west to east, and from south to north within a column. -/
instance : Ord Square := ⟨compareLex (compareOn Square.x) (compareOn Square.y)⟩

instance : Std.TransOrd Square :=
  inferInstanceAs (Std.TransCmp (compareLex (compareOn Square.x) (compareOn Square.y)))

instance : Std.LawfulEqOrd Square where
  compare_self := Std.ReflCmp.compare_self
  eq_of_compare {a b} h := by
    obtain ⟨hx, hy⟩ := compareLex_eq_eq.1 h
    have hx : a.x = b.x := Std.LawfulEqOrd.eq_of_compare hx
    have hy : a.y = b.y := Std.LawfulEqOrd.eq_of_compare hy
    cases a
    cases b
    simp_all

/-! ## Mirror images -/

def flipX (s : Square) : Square := ⟨-s.x, s.y⟩

def flipY (s : Square) : Square := ⟨s.x, -s.y⟩

def halfTurn (s : Square) : Square := ⟨-s.x, -s.y⟩

@[simp] theorem flipX_flipX (s : Square) : s.flipX.flipX = s := by
  cases s
  simp [flipX]

@[simp] theorem flipY_flipY (s : Square) : s.flipY.flipY = s := by
  cases s
  simp [flipY]

theorem flipX_flipY (s : Square) : s.flipX.flipY = s.halfTurn := rfl

/-! ## Distance -/

/-- The number of single steps, straight or diagonal, that lead from one square to another. -/
def distance (a b : Square) : Nat :=
  max (b.x - a.x).natAbs (b.y - a.y).natAbs

/-! ## Runs and boxes -/

def run (first last : Int) : List Int :=
  (List.range (last + 1 - first).toNat).map fun (i : Nat) => first + (i : Int)

theorem mem_run {first last n : Int} : n ∈ run first last ↔ first ≤ n ∧ n ≤ last := by
  simp only [run, List.mem_map, List.mem_range]
  constructor
  · rintro ⟨i, hi, rfl⟩
    omega
  · rintro ⟨h, h'⟩
    exact ⟨(n - first).toNat, by omega, by omega⟩

/-- The squares whose two coordinates lie between `-n` and `n`, column by column from the west
and from south to north within a column. -/
def box (n : Int) : List Square :=
  (run (-n) n).flatMap fun x => (run (-n) n).map fun y => ⟨x, y⟩

theorem mem_box {n : Int} {s : Square} :
    s ∈ box n ↔ (-n ≤ s.x ∧ s.x ≤ n) ∧ -n ≤ s.y ∧ s.y ≤ n := by
  cases s
  simp [box, mem_run]

end Square

end Boardcraft
