import Boardcraft.Proofs.Board
import Boardcraft.Proofs.Grid.Line

/-!
# The board upside down

The mirror image of a board of some height, in which the first row is the last.  Offsets are
flipped, and everything that the rules read off a board is the same in its image: which squares are
on it, what stands on them, and what lies between two of them.
-/

namespace Boardcraft

/-!
## Squares
-/

namespace Square

/-- The square in the same column that lies as far from the last of so many rows as this one lies
from the first. -/
def mirror (height : Int) (s : Square) : Square := ⟨s.x, height - 1 - s.y⟩

variable (height : Int)

@[simp] theorem mirror_mirror (s : Square) : (s.mirror height).mirror height = s :=
  Square.ext rfl (sub_sub_cancel (height - 1) s.y)

theorem mirror_injective : Function.Injective (mirror height) :=
  Function.LeftInverse.injective (mirror_mirror height)

theorem mirror_add (s o : Square) : (s + o).mirror height = s.mirror height + o.flipY :=
  Square.ext rfl (sub_add_eq_sub_sub (height - 1) s.y o.y)

/-! From one square to another the way leads in the flipped direction. -/

theorem sub_mirror_y (a b : Square) : (b.mirror height).y - (a.mirror height).y = -(b.y - a.y) := by
  unfold mirror
  ring

theorem aligned_mirror_iff (a b : Square) :
    Aligned (a.mirror height) (b.mirror height) ↔ Aligned a b := by
  unfold Aligned
  rw [sub_mirror_y, Int.natAbs_neg]
  refine or_congr Iff.rfl (or_congr ?_ Iff.rfl)
  exact sub_right_inj

theorem distance_mirror (a b : Square) :
    distance (a.mirror height) (b.mirror height) = distance a b := by
  unfold distance
  rw [sub_mirror_y, Int.natAbs_neg]
  rfl

theorem stepTowards_mirror (a b : Square) :
    stepTowards (a.mirror height) (b.mirror height) = (stepTowards a b).flipY := by
  unfold stepTowards
  rw [sub_mirror_y, Int.sign_neg]
  rfl

theorem walk_mirror (goal step : Square) (n : Nat) (s : Square) :
    walk (goal.mirror height) step.flipY n (s.mirror height) =
      (walk goal step n s).map (mirror height) := by
  induction n generalizing s with
  | zero => rfl
  | succ n ih =>
      rw [walk, walk]
      by_cases h : s = goal
      · rw [if_pos h, if_pos (congrArg _ h)]
        rfl
      · rw [if_neg h, if_neg fun heq => h (mirror_injective height heq), ← mirror_add, ih]
        rfl

theorem between_mirror (a b : Square) :
    between (a.mirror height) (b.mirror height) = (between a b).map (mirror height) := by
  unfold between
  by_cases h : Aligned a b
  · rw [if_pos h, if_pos ((aligned_mirror_iff height a b).2 h), stepTowards_mirror,
      distance_mirror, ← mirror_add, walk_mirror]
  · rw [if_neg h, if_neg fun h' => h ((aligned_mirror_iff height a b).1 h')]
    rfl

end Square

/-!
## Boards
-/

namespace Board

def mirror (height : Int) (b : Board) : Board :=
  { b with
    cells := b.cells.mapKeys (Square.mirror height) (Square.mirror_injective height)
    standing := b.standing.mapValues (Square.mirror height) }

def Fault.mirror (height : Int) : Fault → Fault
  | badDimensions width h => badDimensions width h
  | offBoard change s width h => offBoard change (s.mirror height) width h
  | nothingToMove s => nothingToMove (s.mirror height)

def mirrorResult {α : Type} (height : Int) :
    EStateM.Result Fault Board α → EStateM.Result Fault Board α
  | .ok a b => .ok a (b.mirror height)
  | .error fault b => .error (fault.mirror height) (b.mirror height)

section Queries

variable {b : Board} {height : Int}

theorem pieceAt_mirror (s : Square) :
    (b.mirror height).pieceAt (s.mirror height) = b.pieceAt s :=
  Table.find?_mapKeys (Square.mirror_injective height) _ s

theorem isOccupied_mirror (s : Square) :
    (b.mirror height).isOccupied (s.mirror height) = b.isOccupied s :=
  Table.contains_mapKeys (Square.mirror_injective height) _ s

theorem holds_mirror_iff (h : b.height = height) (s : Square) :
    (b.mirror height).Holds (s.mirror height) ↔ b.Holds s := by
  show (_ ∧ 0 ≤ height - 1 - s.y ∧ height - 1 - s.y < b.height) ↔ (_ ∧ 0 ≤ s.y ∧ s.y < b.height)
  rw [h]
  refine and_congr Iff.rfl ?_
  constructor <;> omega

def Knows (b : Board) (n : PieceNumber) : Prop := ∃ s, b.standing.find? n = some s

theorem knows_of_holds {n : PieceNumber} (h : b.Holds (b.squareOf n)) : b.Knows n := by
  cases hfind : b.standing.find? n with
  | some s => exact ⟨s, hfind⟩
  | none =>
      unfold squareOf at h
      rw [hfind] at h
      exact absurd h.1.1 (by decide)

theorem squareOf_mirror {n : PieceNumber} (h : b.Knows n) :
    (b.mirror height).squareOf n = (b.squareOf n).mirror height := by
  rcases h with ⟨s, hs⟩
  unfold squareOf mirror
  dsimp only
  rw [Table.find?_mapValues, hs]
  rfl

end Queries

section Changes

variable (b : Board) (height : Int)

theorem mirror_put (n : PieceNumber) (s : Square) :
    (b.put n s).mirror height = (b.mirror height).put n (s.mirror height) := by
  unfold put mirror
  dsimp only
  rw [Table.mapKeys_insert, Table.mapValues_insert]

theorem mirror_clear (s : Square) :
    (b.clear s).mirror height = (b.mirror height).clear (s.mirror height) := by
  unfold clear mirror
  dsimp only
  rw [Table.mapKeys_erase]

variable {b height}

theorem place_mirror (h : b.height = height) (n : PieceNumber) (s : Square) :
    place n (s.mirror height) (b.mirror height) = mirrorResult height (place n s b) := by
  by_cases hon : b.Holds s
  · rw [place_of_holds hon, place_of_holds ((holds_mirror_iff h s).2 hon), ← mirror_put]
    rfl
  · rw [place_of_not_holds hon, place_of_not_holds fun hon' => hon ((holds_mirror_iff h s).1 hon')]
    rfl

theorem move_mirror (h : b.height = height) (origin destination : Square) :
    move (origin.mirror height) (destination.mirror height) (b.mirror height) =
      mirrorResult height (move origin destination b) := by
  cases held : b.pieceAt origin with
  | none =>
      rw [move_of_vacant held, move_of_vacant ((pieceAt_mirror origin).trans held)]
      rfl
  | some n =>
      have held' : (b.mirror height).pieceAt (origin.mirror height) = some n :=
        (pieceAt_mirror origin).trans held
      by_cases hon : b.Holds destination
      · rw [move_of_pieceAt held hon,
          move_of_pieceAt held' ((holds_mirror_iff h destination).2 hon), ← mirror_clear,
          ← mirror_put]
        rfl
      · rw [move_of_not_holds held hon,
          move_of_not_holds held' fun hon' => hon ((holds_mirror_iff h destination).1 hon')]
        rfl

end Changes

end Board

end Boardcraft
