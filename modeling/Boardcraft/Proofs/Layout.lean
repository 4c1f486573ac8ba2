import Boardcraft.Layout
import Boardcraft.Proofs.Mirror.Board
import Boardcraft.Proofs.Shape.Compile
import Mathlib.Data.List.Perm.Basic

/-!
# The layout of chess

Whatever the size of the board, the layout of chess is the same two armies of two rows each, white at
the bottom and black at the top.  Each piece has one of its kind facing it in its column, so that the
layout turns into itself when the board is turned upside down and the teams trade places.  On four
rows the armies touch, and on fewer they would overlap.

## Main statements

* `standard_eq_ok_iff` says on which boards there is room for the armies;
* `fair_armies` says that nobody is in the way of another or better off.
-/

namespace Boardcraft

/-- The piece of the other team that faces a piece of a layout from the other side of a board of some
height. -/
def Placement.mirror (height : Int) (p : Placement) : Placement :=
  ⟨p.blueprint, p.team.other, p.square.mirror height⟩

namespace Layout

/-!
## Facing pieces
-/

section Facing

variable {α : Type} {name : α → Text} {l : List α} {white black : Int}

/-- Pieces that face each other in different columns stand on different squares. -/
theorem nodup_facing (column : α → Int) (hcolumns : (l.map column).Nodup) (hrows : white ≠ black) :
    ((l.flatMap fun a => facing (name a) (column a) white black).map Placement.square).Nodup := by
  rw [List.map_flatMap, List.nodup_flatMap]
  constructor
  · intro a _
    simp [facing, hrows]
  · refine (List.pairwise_map.1 hcolumns).imp ?_
    intro a b hne s hs hs'
    simp only [facing, List.map_cons, List.map_nil, List.mem_cons, List.not_mem_nil,
      or_false] at hs hs'
    apply hne
    rcases hs with rfl | rfl <;> rcases hs' with h | h <;> exact congrArg Square.x h

theorem square_of_facing (column : α → Int) {s : Square}
    (h : s ∈ (l.flatMap fun a => facing (name a) (column a) white black).map Placement.square) :
    s.x ∈ l.map column ∧ (s.y = white ∨ s.y = black) := by
  simp only [List.mem_map, List.mem_flatMap, facing, List.mem_cons, List.not_mem_nil,
    or_false] at h
  rcases h with ⟨_, ⟨a, ha, rfl | rfl⟩, rfl⟩
  · exact ⟨List.mem_map_of_mem ha, Or.inl rfl⟩
  · exact ⟨List.mem_map_of_mem ha, Or.inr rfl⟩

/-- Pieces that face each other from rows as far from the first as from the last trade places when
the board is turned upside down. -/
theorem perm_mirror_facing (height : Int) (column : α → Int)
    (hrows : black = height - 1 - white) :
    ((l.flatMap fun a => facing (name a) (column a) white black).map (Placement.mirror height)).Perm
      (l.flatMap fun a => facing (name a) (column a) white black) := by
  subst hrows
  rw [List.map_flatMap]
  refine List.Perm.flatMap_left l fun a _ => ?_
  have hback : Placement.mirror height ⟨name a, .black, ⟨column a, height - 1 - white⟩⟩ =
      ⟨name a, .white, ⟨column a, white⟩⟩ :=
    congrArg (Placement.mk (name a) .white) (Square.mirror_mirror height ⟨column a, white⟩)
  show [_, Placement.mirror height ⟨name a, .black, ⟨column a, height - 1 - white⟩⟩].Perm _
  rw [hback]
  exact List.Perm.swap _ _ []

end Facing

/-!
## The two armies
-/

def armies (height : Int) : List Placement :=
  backRank.zipIdx.flatMap (fun (name, x) => facing name x 0 (height - 1)) ++
    (Square.run 0 (backRank.length - 1)).flatMap fun x => facing "pawn" x 1 (height - 1 - 1)

def kinds : List Text := ["rook", "knight", "bishop", "queen", "king", "pawn"]

variable {width height : Int} {placements : List Placement}

theorem standard_eq (width height : Int) :
    standard width height =
      if 8 ≤ width ∧ 4 ≤ height then .ok (armies height) else .error ⟨width, height⟩ := by
  have hsmall : (width < backRank.length ∨ height < leastHeight) ↔ ¬ (8 ≤ width ∧ 4 ≤ height) := by
    show (width < 8 ∨ height < 4) ↔ _
    omega
  unfold standard
  by_cases h : 8 ≤ width ∧ 4 ≤ height
  · rw [if_pos h, if_neg (mt hsmall.1 (not_not_intro h))]
    rfl
  · rw [if_neg h, if_pos (hsmall.2 h)]

theorem standard_eq_ok_iff :
    standard width height = .ok placements ↔
      (8 ≤ width ∧ 4 ≤ height) ∧ placements = armies height := by
  rw [standard_eq]
  split
  · next hlarge =>
      constructor
      · intro h
        injection h with h
        exact ⟨hlarge, h.symm⟩
      · rintro ⟨-, rfl⟩
        rfl
  · next hsmall => exact iff_of_false (fun h => by cases h) fun h => hsmall h.1

theorem exists_mem_armies_iff {height : Int} {name : Text} :
    (∃ p ∈ armies height, p.blueprint = name) ↔ name ∈ kinds := by
  have hnames : (armies height).map Placement.blueprint =
      backRank.flatMap (fun name => [name, name]) ++ List.replicate 16 ("pawn" : Text) := rfl
  have hsubset : (backRank.flatMap fun name => [name, name]) ++ List.replicate 16 ("pawn" : Text) ⊆
      kinds := by decide
  have hsupset : kinds ⊆
      (backRank.flatMap fun name => [name, name]) ++ List.replicate 16 ("pawn" : Text) := by decide
  rw [← List.mem_map, hnames]
  exact ⟨fun h => hsubset h, fun h => hsupset h⟩

/-!
## Fairness
-/

theorem nodup_armies (hheight : 4 ≤ height) : ((armies height).map Placement.square).Nodup := by
  unfold armies
  rw [List.map_append, List.nodup_append]
  refine ⟨?_, ?_, ?_⟩
  · exact nodup_facing (fun a : Text × Nat => (a.2 : Int)) (by decide) (by omega)
  · exact nodup_facing (fun x : Int => x) (by rw [List.map_id']; exact Square.nodup_run _ _)
      (by omega)
  · intro s hs s' hs' heq
    subst heq
    have hrow := (square_of_facing (fun a : Text × Nat => (a.2 : Int)) hs).2
    have hrow' := (square_of_facing (fun x : Int => x) hs').2
    omega

theorem square_of_mem_armies {p : Placement} (h : p ∈ armies height) :
    (0 ≤ p.square.x ∧ p.square.x < 8) ∧ (p.square.y = 0 ∨ p.square.y = height - 1 ∨
      p.square.y = 1 ∨ p.square.y = height - 1 - 1) := by
  have hranks : ∀ x ∈ backRank.zipIdx.map fun a => (a.2 : Int), 0 ≤ x ∧ x < 8 := by decide
  have hpawns : ∀ x ∈ (Square.run 0 (backRank.length - 1)).map fun x => x, 0 ≤ x ∧ x < 8 := by
    decide
  have hsquare := List.mem_map_of_mem (f := Placement.square) h
  unfold armies at hsquare
  rw [List.map_append, List.mem_append] at hsquare
  rcases hsquare with hs | hs
  · have hfacing := square_of_facing (fun a : Text × Nat => (a.2 : Int)) hs
    exact ⟨hranks _ hfacing.1, hfacing.2.elim Or.inl fun hy => Or.inr (Or.inl hy)⟩
  · have hfacing := square_of_facing (fun x : Int => x) hs
    exact ⟨hpawns _ hfacing.1, Or.inr (Or.inr hfacing.2)⟩

/-- A layout on which neither team can complain: the pieces stand apart from each other on the board,
and the two armies are mirror images of one another. -/
structure Fair (width height : Int) (placements : List Placement) : Prop where
  apart : (placements.map Placement.square).Nodup
  onBoard : ∀ p ∈ placements,
    (0 ≤ p.square.x ∧ p.square.x < width) ∧ 0 ≤ p.square.y ∧ p.square.y < height
  balanced : (placements.map (Placement.mirror height)).Perm placements

theorem fair_armies (hwidth : 8 ≤ width) (hheight : 4 ≤ height) :
    Fair width height (armies height) := by
  refine ⟨nodup_armies hheight, ?_, ?_⟩
  · intro p hp
    have hsquare := square_of_mem_armies hp
    omega
  · unfold armies
    rw [List.map_append]
    refine List.Perm.append ?_ ?_
    · exact perm_mirror_facing height (fun a : Text × Nat => (a.2 : Int)) (by omega)
    · exact perm_mirror_facing height (fun x : Int => x) (by omega)

theorem nodup_standard (h : standard width height = .ok placements) :
    (placements.map Placement.square).Nodup := by
  rcases standard_eq_ok_iff.1 h with ⟨hlarge, rfl⟩
  exact nodup_armies hlarge.2

end Layout

theorem LayoutName.nodup_placements {name : LayoutName} {width height : Int}
    {placements : List Placement} (h : name.placements width height = .ok placements) :
    (placements.map Placement.square).Nodup := by
  cases name with
  | standard => exact Layout.nodup_standard h
  | empty =>
      cases h
      exact List.nodup_nil

end Boardcraft
