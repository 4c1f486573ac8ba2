import Boardcraft.Grid.Square
import Boardcraft.Text.Basic

/-!
# Compass directions

The eight directions in which rays and cones may point, in clockwise order from the north, with
the token that names each of them in a shape and the single step that it stands for.
-/

namespace Boardcraft

inductive Direction where
  | north
  | northeast
  | east
  | southeast
  | south
  | southwest
  | west
  | northwest
  deriving DecidableEq, Inhabited, Repr

namespace Direction

def all : List Direction :=
  [north, northeast, east, southeast, south, southwest, west, northwest]

theorem mem_all (d : Direction) : d ∈ all := by
  cases d <;> decide

def rank : Direction → Nat
  | north => 0
  | northeast => 1
  | east => 2
  | southeast => 3
  | south => 4
  | southwest => 5
  | west => 6
  | northwest => 7

instance : Ord Direction := ⟨compareOn rank⟩

instance : Std.TransOrd Direction := inferInstanceAs (Std.TransCmp (compareOn rank))

instance : Std.LawfulEqOrd Direction where
  compare_self := Std.ReflCmp.compare_self
  eq_of_compare {a b} h := by
    have h' : a.rank = b.rank := Std.LawfulEqOrd.eq_of_compare h
    cases a <;> cases b <;> simp_all [rank]

def token : Direction → String
  | north => "N"
  | northeast => "NE"
  | east => "E"
  | southeast => "SE"
  | south => "S"
  | southwest => "SW"
  | west => "W"
  | northwest => "NW"

def ofToken? (token : Text) : Option Direction :=
  all.find? fun d => d.token == token

def tokens : String :=
  ",".intercalate (all.map token)

def step : Direction → Square
  | north => ⟨0, 1⟩
  | northeast => ⟨1, 1⟩
  | east => ⟨1, 0⟩
  | southeast => ⟨1, -1⟩
  | south => ⟨0, -1⟩
  | southwest => ⟨-1, -1⟩
  | west => ⟨-1, 0⟩
  | northwest => ⟨-1, 1⟩

def isCardinal : Direction → Bool
  | north | east | south | west => true
  | _ => false

def cardinals : List Direction :=
  all.filter isCardinal

end Direction

end Boardcraft
