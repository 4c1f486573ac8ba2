import Boardcraft.Board
import Boardcraft.Proofs.Data.Table

/-!
# What changes of the board do to its squares

The piece on a square and the square of a piece after a piece was put on the board, after a square
was cleared and after a move; and how each change of a board ends.
-/

namespace Boardcraft
namespace Board

theorem pieceAt_put (b : Board) (n : PieceNumber) (s s' : Square) :
    (b.put n s).pieceAt s' = if s = s' then some n else b.pieceAt s' :=
  Table.find?_insert b.cells s s' n

theorem squareOf_put (b : Board) (n m : PieceNumber) (s : Square) :
    (b.put n s).squareOf m = if n = m then s else b.squareOf m := by
  unfold squareOf put
  rw [Table.find?_insert]
  split <;> rfl

theorem pieceAt_clear (b : Board) (s s' : Square) :
    (b.clear s).pieceAt s' = if s = s' then none else b.pieceAt s' :=
  Table.find?_erase b.cells s s'

@[simp] theorem squareOf_clear (b : Board) (s : Square) (n : PieceNumber) :
    (b.clear s).squareOf n = b.squareOf n := rfl

theorem isOccupied_eq_false_iff {b : Board} {s : Square} :
    b.isOccupied s = false ↔ b.pieceAt s = none :=
  Table.contains_eq_false_iff

theorem mem_pieces_iff {b : Board} {n : PieceNumber} :
    n ∈ b.pieces ↔ ∃ s, b.pieceAt s = some n :=
  Table.mem_values_iff

theorem pieceAt_of_make {width height : Int} {b : Board} (h : make width height = .ok b)
    (s : Square) : b.pieceAt s = none := by
  unfold make at h
  split at h
  · cases h
  · cases h
    rfl

theorem holds_iff_of_make {width height : Int} {b : Board} (h : make width height = .ok b)
    (s : Square) : b.Holds s ↔ (0 ≤ s.x ∧ s.x < width) ∧ 0 ≤ s.y ∧ s.y < height := by
  unfold make at h
  split at h
  · cases h
  · cases h
    exact Iff.rfl

/-!
## How changes end

A change that fails has done nothing yet: what it needs is looked for before the first square is
cleared.
-/

section Changes

variable {b : Board} {n : PieceNumber} {s : Square}

theorem get_bind {α : Type} (b : Board) (k : Board → BoardM α) :
    ((get : BoardM Board) >>= k) b = k b b := rfl

theorem map_of_eq_ok {α β : Type} {m : BoardM α} {a : α} {b' : Board} (f : α → β)
    (h : m b = .ok a b') : (f <$> m) b = .ok (f a) b' := by
  show EStateM.map f m b = _
  rw [EStateM.map, h]

theorem map_of_eq_error {α β : Type} {m : BoardM α} {fault : Fault} {b' : Board} (f : α → β)
    (h : m b = .error fault b') : (f <$> m) b = .error fault b' := by
  show EStateM.map f m b = _
  rw [EStateM.map, h]

theorem requireHolds_of_holds (h : b.Holds s) (change : Change) :
    requireHolds change s b = .ok () b := by
  show (if b.Holds s then pure () else throw (b.offBoardFault change s) : BoardM Unit) b = _
  rw [if_pos h]
  rfl

theorem requireHolds_of_not_holds (h : ¬ b.Holds s) (change : Change) :
    requireHolds change s b = .error (b.offBoardFault change s) b := by
  show (if b.Holds s then pure () else throw (b.offBoardFault change s) : BoardM Unit) b = _
  rw [if_neg h]
  rfl

theorem requireHolds_bind_of_holds {α : Type} (h : b.Holds s) (change : Change)
    (k : Unit → BoardM α) : (requireHolds change s >>= k) b = k () b := by
  show EStateM.bind (requireHolds change s) k b = _
  rw [EStateM.bind, requireHolds_of_holds h]

theorem requireHolds_bind_of_not_holds {α : Type} (h : ¬ b.Holds s) (change : Change)
    (k : Unit → BoardM α) :
    (requireHolds change s >>= k) b = .error (b.offBoardFault change s) b := by
  show EStateM.bind (requireHolds change s) k b = _
  rw [EStateM.bind, requireHolds_of_not_holds h]

theorem place_of_holds (h : b.Holds s) (n : PieceNumber) : place n s b = .ok () (b.put n s) := by
  rw [place, requireHolds_bind_of_holds h]
  rfl

theorem place_of_not_holds (h : ¬ b.Holds s) (n : PieceNumber) :
    place n s b = .error (b.offBoardFault .place s) b := by
  rw [place, requireHolds_bind_of_not_holds h]

theorem remove_of_holds (h : b.Holds s) : remove s b = .ok (b.pieceAt s) (b.clear s) := by
  rw [remove, requireHolds_bind_of_holds h]
  rfl

theorem remove_of_not_holds (h : ¬ b.Holds s) :
    remove s b = .error (b.offBoardFault .remove s) b := by
  rw [remove, requireHolds_bind_of_not_holds h]

theorem move_of_vacant (h : b.pieceAt s = none) (destination : Square) :
    move s destination b = .error (.nothingToMove s) b := by
  rw [move, get_bind, h]
  rfl

theorem move_of_pieceAt (h : b.pieceAt s = some n) {destination : Square}
    (on : b.Holds destination) :
    move s destination b = .ok () ((b.clear s).put n destination) := by
  have on' : (b.clear s).Holds destination := on
  rw [move, get_bind, h]
  dsimp only
  rw [requireHolds_bind_of_holds on]
  exact place_of_holds on' n

theorem move_of_not_holds (h : b.pieceAt s = some n) {destination : Square}
    (off : ¬ b.Holds destination) :
    move s destination b = .error (b.offBoardFault .move destination) b := by
  rw [move, get_bind, h]
  dsimp only
  rw [requireHolds_bind_of_not_holds off]

end Changes

def AllOrNothing {α : Type} (change : BoardM α) : Prop :=
  ∀ b fault b', change b = .error fault b' → b' = b

theorem allOrNothing_place (n : PieceNumber) (s : Square) : AllOrNothing (place n s) := by
  intro b fault b' h
  by_cases hon : b.Holds s
  · rw [place_of_holds hon] at h
    cases h
  · rw [place_of_not_holds hon] at h
    cases h
    rfl

theorem allOrNothing_remove (s : Square) : AllOrNothing (remove s) := by
  intro b fault b' h
  by_cases hon : b.Holds s
  · rw [remove_of_holds hon] at h
    cases h
  · rw [remove_of_not_holds hon] at h
    cases h
    rfl

/-- The square of the piece is cleared only when the other is known to be on the board, where the
piece can be put without fail. -/
theorem allOrNothing_move (origin destination : Square) :
    AllOrNothing (move origin destination) := by
  intro b fault b' h
  cases held : b.pieceAt origin with
  | none =>
      rw [move_of_vacant held] at h
      cases h
      rfl
  | some n =>
      by_cases hon : b.Holds destination
      · rw [move_of_pieceAt held hon] at h
        cases h
      · rw [move_of_not_holds held hon] at h
        cases h
        rfl

end Board
end Boardcraft
