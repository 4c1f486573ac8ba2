import Boardcraft.Board
import Boardcraft.Proofs.Grid.Line
import Mathlib.Data.List.Range

/-!
# Walks that end

Whoever wants to know what lies between two squares walks from one to the other and stops on the
goal.  Nothing else stops the walk: it goes on for ever if it passes the goal by, and that it does
not is due to the common line of the two squares alone.  `Walks` is such a walk, which takes as many
steps as it needs; `walk` is given a number of steps that turns out to be enough.

## Main statements

* `walks_between` and `aligned_of_walks` say between which squares the walk ends;
* `between_swap` says that the way back is the way there, backwards;
* `between_exact` collects what is known of the squares between two others.
-/

namespace Boardcraft
namespace Square

/-!
## Walks without a bound
-/

/-- A walk takes one step after the other until it stands on its goal.  The squares on which it
stands before that are listed. -/
inductive Walks (goal step : Square) : Square → List Square → Prop where
  | arrived : Walks goal step goal []
  | onward {s : Square} {path : List Square} (before : s ≠ goal)
      (rest : Walks goal step (s + step) path) : Walks goal step s (s :: path)

namespace Walks

variable {goal step s : Square} {path path' : List Square}

theorem unique (h : Walks goal step s path) (h' : Walks goal step s path') : path = path' := by
  induction h generalizing path' with
  | arrived =>
      cases h' with
      | arrived => rfl
      | onward before _ => exact absurd rfl before
  | onward before _ ih =>
      cases h' with
      | arrived => exact absurd rfl before
      | onward _ rest => rw [ih rest]

end Walks

theorem advance_add (s step : Square) (i : Nat) :
    (s + step).advance step i = s.advance step (i + 1) := by
  refine Square.ext ?_ ?_
  · rw [advance_x, advance_x, add_x]
    push_cast
    ring
  · rw [advance_y, advance_y, add_y]
    push_cast
    ring

theorem Walks.advance_length {goal step s : Square} {path : List Square}
    (h : Walks goal step s path) : s.advance step path.length = goal := by
  induction h with
  | arrived => exact advance_zero goal step
  | onward _ _ ih => rw [List.length_cons, ← advance_add, ih]

/-- A walk that may take the steps to its goal, or more of them, gets there. -/
theorem walks_walk {goal step s : Square} {k n : Nat} (h : s.advance step k = goal) (hk : k ≤ n) :
    Walks goal step s (walk goal step n s) := by
  induction n generalizing s k with
  | zero =>
      rw [Nat.le_zero.1 hk, advance_zero] at h
      subst h
      exact Walks.arrived
  | succ n ih =>
      rw [walk]
      by_cases heq : s = goal
      · subst heq
        rw [if_pos rfl]
        exact Walks.arrived
      · rw [if_neg heq]
        cases k with
        | zero => exact absurd ((advance_zero s step).symm.trans h) heq
        | succ k =>
            rw [← advance_add] at h
            exact Walks.onward heq (ih h (Nat.le_of_succ_le_succ hk))

/-!
## Walks to another square
-/

theorem isStep_stepTowards {a b : Square} (h : a ≠ b) : (stepTowards a b).IsStep :=
  ⟨sign_cases (b.x - a.x), sign_cases (b.y - a.y), stepTowards_ne_origin h⟩

theorem stepTowards_self (a : Square) : stepTowards a a = origin := by
  unfold stepTowards
  rw [sub_self, sub_self]
  rfl

theorem walks_between {a b : Square} (h : Aligned a b) :
    Walks b (stepTowards a b) (a + stepTowards a b) (between a b) := by
  by_cases hne : a = b
  · -- The step towards the square itself is none, so that the walk begins on its goal.
    subst hne
    rw [between_self, stepTowards_self, add_eq_self_iff.2 rfl]
    exact Walks.arrived
  · have hpos := distance_pos h hne
    have hgoal := advance_distance h
    rw [← Nat.sub_add_cancel hpos, ← advance_add] at hgoal
    rw [between, if_pos h]
    exact walks_walk hgoal (Nat.sub_le (distance a b) 1)

/-- A walk in the direction of the goal ends only along a common line: without one it passes the
goal by. -/
theorem aligned_of_walks {a b : Square} {path : List Square}
    (h : Walks b (stepTowards a b) (a + stepTowards a b) path) : Aligned a b := by
  by_cases hne : a = b
  · subst hne
    exact Or.inl rfl
  · have hgoal := h.advance_length
    have haligned := (isStep_stepTowards hne).aligned_advance a (path.length + 1)
    rwa [← advance_add, hgoal] at haligned

/-!
## The squares of the way
-/

theorem between_eq {a b : Square} (h : Aligned a b) :
    between a b = (List.range' 1 (distance a b - 1)).map (a.advance (stepTowards a b)) := by
  by_cases hne : a = b
  · subst hne
    rw [between_self, distance_self]
    rfl
  · exact between_eq_map_advance h hne

theorem strictlyBetween_of_mem {a b s : Square} (h : s ∈ between a b) : StrictlyBetween a b s := by
  by_cases haligned : Aligned a b
  · exact (mem_between_iff haligned).1 h
  · rw [between_of_not_aligned haligned] at h
    cases h

theorem aligned_comm {a b : Square} : Aligned a b ↔ Aligned b a := by
  unfold Aligned
  rw [← neg_sub b.x a.x, ← neg_sub b.y a.y, Int.natAbs_neg, Int.natAbs_neg]
  exact or_congr eq_comm (or_congr eq_comm Iff.rfl)

theorem distance_comm (a b : Square) : distance a b = distance b a := by
  unfold distance
  rw [← neg_sub b.x a.x, ← neg_sub b.y a.y, Int.natAbs_neg, Int.natAbs_neg]

theorem stepTowards_swap (a b : Square) : stepTowards b a = (stepTowards a b).halfTurn := by
  unfold stepTowards halfTurn
  rw [← neg_sub b.x a.x, ← neg_sub b.y a.y, Int.sign_neg, Int.sign_neg]

theorem advance_halfTurn (a step : Square) {i k : Nat} (h : i ≤ k) :
    (a.advance step k).advance step.halfTurn i = a.advance step (k - i) := by
  refine Square.ext ?_ ?_
  · rw [advance_x, advance_x, advance_x, Nat.cast_sub h]
    show a.x + k * step.x + i * -step.x = _
    ring
  · rw [advance_y, advance_y, advance_y, Nat.cast_sub h]
    show a.y + k * step.y + i * -step.y = _
    ring

theorem between_swap (a b : Square) : between b a = (between a b).reverse := by
  by_cases h : Aligned a b
  · have hback : ∀ i ∈ List.range' 1 (distance a b - 1),
        b.advance (stepTowards a b).halfTurn i =
          a.advance (stepTowards a b) (distance a b - i) := by
      intro i hi
      rw [List.mem_range'_1] at hi
      have hadvance := advance_halfTurn a (stepTowards a b) (show i ≤ distance a b by omega)
      rwa [advance_distance h] at hadvance
    rw [between_eq h, between_eq (aligned_comm.1 h), distance_comm b a, stepTowards_swap a b,
      List.map_congr_left hback, ← List.map_reverse, List.reverse_range', List.map_map,
      List.range'_eq_map_range, List.map_map]
    refine List.map_congr_left ?_
    intro i hi
    rw [List.mem_range] at hi
    show a.advance _ (distance a b - (1 + i)) = a.advance _ (1 + (distance a b - 1) - 1 - i)
    congr 1
    omega
  · rw [between_of_not_aligned h, between_of_not_aligned (mt aligned_comm.2 h)]
    rfl

end Square

theorem Board.holds_of_mem_between {board : Board} {a b s : Square} (ha : board.Holds a)
    (hb : board.Holds b) (h : s ∈ Square.between a b) : board.Holds s := by
  have hbetween := Square.strictlyBetween_of_mem h
  have hx := hbetween.within_x
  have hy := hbetween.within_y
  unfold Holds at ha hb ⊢
  omega

namespace Square

/-- The walk from one square towards another ends exactly if they share a line, and then it has
passed the squares between them, which are one, two and more steps away, as many as there are short
of the goal.  Squares that share no line have none between them.  Neither end is among the squares
between; seen from the other end they are the same the other way round; and a board that holds both
ends holds them too. -/
theorem between_exact (a b : Square) :
    (∀ path, Walks b (stepTowards a b) (a + stepTowards a b) path ↔
      Aligned a b ∧ path = between a b) ∧
    (Aligned a b → between a b =
      (List.range' 1 (distance a b - 1)).map fun i =>
        ⟨a.x + i * (b.x - a.x).sign, a.y + i * (b.y - a.y).sign⟩) ∧
    (¬ Aligned a b → between a b = []) ∧
    a ∉ between a b ∧ b ∉ between a b ∧
    between b a = (between a b).reverse ∧
    ∀ board : Board, board.Holds a → board.Holds b → ∀ s ∈ between a b, board.Holds s := by
  refine ⟨?_, between_eq, between_of_not_aligned, ?_, ?_, between_swap a b, ?_⟩
  · intro path
    constructor
    · intro h
      have haligned := aligned_of_walks h
      exact ⟨haligned, h.unique (walks_between haligned)⟩
    · rintro ⟨haligned, rfl⟩
      exact walks_between haligned
  · intro h
    exact (strictlyBetween_of_mem h).ne_first rfl
  · intro h
    exact (strictlyBetween_of_mem h).ne_last rfl
  · intro board ha hb s hs
    exact Board.holds_of_mem_between ha hb hs

theorem between_corners :
    Aligned ⟨7, 0⟩ ⟨0, 7⟩ ∧ ¬ Aligned ⟨0, 0⟩ ⟨1, 2⟩ ∧
    Walks ⟨0, 7⟩ ⟨-1, 1⟩ ⟨6, 1⟩ [⟨6, 1⟩, ⟨5, 2⟩, ⟨4, 3⟩, ⟨3, 4⟩, ⟨2, 5⟩, ⟨1, 6⟩] ∧
    between ⟨0, 0⟩ ⟨1, 2⟩ = [] ∧
    ∃ board, Board.make Board.usualSize Board.usualSize = .ok board ∧
      board.Holds ⟨7, 0⟩ ∧ board.Holds ⟨0, 7⟩ ∧
      (⟨4, 3⟩ : Square) ∈ between ⟨7, 0⟩ ⟨0, 7⟩ ∧ board.Holds ⟨4, 3⟩ := by
  have haligned : Aligned ⟨7, 0⟩ ⟨0, 7⟩ := by decide
  have hcrooked : ¬ Aligned ⟨0, 0⟩ ⟨1, 2⟩ := by decide
  have hmem : (⟨4, 3⟩ : Square) ∈ between ⟨7, 0⟩ ⟨0, 7⟩ := by decide
  rcases between_exact ⟨7, 0⟩ ⟨0, 7⟩ with ⟨hwalks, -, -, -, -, -, hholds⟩
  rcases between_exact ⟨0, 0⟩ ⟨1, 2⟩ with ⟨-, -, hnone, -⟩
  refine ⟨haligned, hcrooked, (hwalks _).2 ⟨haligned, by decide⟩, hnone hcrooked, _, rfl,
    by decide, by decide, hmem, ?_⟩
  exact hholds _ (by decide) (by decide) _ hmem

end Square
end Boardcraft
