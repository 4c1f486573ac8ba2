import Boardcraft.Grid.Line
import Mathlib.Algebra.Order.Group.Int
import Mathlib.Data.Int.Order.Basic
import Mathlib.Tactic.Ring
import Mathlib.Tactic.Linarith

/-!
# What lies between two squares

The squares on the way from one square to another were listed step by step.  Here they are described
as points of the plane: on the straight line through both, in the box that the two span, and neither
of the two.

## Main statements

* `between_eq_map_advance` counts the steps of the way, and `IsStep.mem_between_advance` those of a
  way that is given by its step;
* `mem_between_iff` says that exactly the squares strictly between two aligned squares are on it.
-/

namespace Boardcraft
namespace Square

/-!
## Sums
-/

protected theorem ext {a b : Square} (hx : a.x = b.x) (hy : a.y = b.y) : a = b := by
  cases a
  cases b
  cases hx
  cases hy
  rfl

theorem add_eq_self_iff {s o : Square} : s + o = s ↔ o = Square.origin := by
  constructor
  · intro h
    have hx : s.x + o.x = s.x := congrArg Square.x h
    have hy : s.y + o.y = s.y := congrArg Square.y h
    exact Square.ext (add_eq_left.1 hx) (add_eq_left.1 hy)
  · intro heq
    subst heq
    exact Square.ext (add_zero _) (add_zero _)

theorem add_right_injective (s : Square) : Function.Injective (s + ·) := by
  intro o o' h
  have hx : s.x + o.x = s.x + o'.x := congrArg Square.x h
  have hy : s.y + o.y = s.y + o'.y := congrArg Square.y h
  exact Square.ext (add_left_cancel hx) (add_left_cancel hy)

/-!
## Between
-/

/-- Strictly between two squares lies a square that is on the straight line through them, in the box
that they span, and none of them. -/
structure StrictlyBetween (a b s : Square) : Prop where
  collinear : (s.x - a.x) * (b.y - a.y) = (s.y - a.y) * (b.x - a.x)
  within_x : min a.x b.x ≤ s.x ∧ s.x ≤ max a.x b.x
  within_y : min a.y b.y ≤ s.y ∧ s.y ≤ max a.y b.y
  ne_first : s ≠ a
  ne_last : s ≠ b

def advance (a step : Square) (i : Nat) : Square := ⟨a.x + i * step.x, a.y + i * step.y⟩

@[simp] theorem advance_x (a step : Square) (i : Nat) :
    (a.advance step i).x = a.x + i * step.x := rfl

@[simp] theorem advance_y (a step : Square) (i : Nat) :
    (a.advance step i).y = a.y + i * step.y := rfl

@[simp] theorem advance_zero (a step : Square) : a.advance step 0 = a := by
  refine Square.ext ?_ ?_
  · rw [advance_x, Nat.cast_zero, zero_mul, add_zero]
  · rw [advance_y, Nat.cast_zero, zero_mul, add_zero]

theorem advance_succ (a step : Square) (i : Nat) :
    a.advance step i + step = a.advance step (i + 1) := by
  refine Square.ext ?_ ?_
  · rw [add_x, advance_x, advance_x]
    push_cast
    ring
  · rw [add_y, advance_y, advance_y]
    push_cast
    ring

theorem advance_one (a step : Square) : a + step = a.advance step 1 := by
  refine Square.ext ?_ ?_
  · rw [add_x, advance_x, Nat.cast_one, one_mul]
  · rw [add_y, advance_y, Nat.cast_one, one_mul]

theorem advance_injective (a : Square) {step : Square} (hstep : step ≠ origin) {i j : Nat}
    (h : a.advance step i = a.advance step j) : i = j := by
  have hx : (i : Int) * step.x = j * step.x := add_left_cancel (congrArg Square.x h)
  have hy : (i : Int) * step.y = j * step.y := add_left_cancel (congrArg Square.y h)
  by_cases hzero : step.x = 0
  · have hne : step.y ≠ 0 := by
      intro hzero'
      exact hstep (Square.ext hzero hzero')
    exact Int.ofNat_inj.1 (mul_right_cancel₀ hne hy)
  · exact Int.ofNat_inj.1 (mul_right_cancel₀ hzero hx)

/-!
## The way in steps
-/

/-- By induction on the steps that the walk may take, which suffice for those that are left. -/
theorem walk_eq_map_advance (a : Square) {step : Square} (hstep : step ≠ origin) {n j k : Nat}
    (hjk : j ≤ k) (hn : k - j ≤ n) :
    walk (a.advance step k) step n (a.advance step j) =
      (List.range' j (k - j)).map (a.advance step) := by
  induction n generalizing j with
  | zero =>
      have hdone : k - j = 0 := Nat.le_zero.1 hn
      rw [walk, hdone]
      rfl
  | succ n ih =>
      rw [walk]
      by_cases heq : j = k
      · subst heq
        rw [if_pos rfl, Nat.sub_self]
        rfl
      · have hlt : j < k := Nat.lt_of_le_of_ne hjk heq
        have hsplit : k - j = (k - (j + 1)) + 1 := by omega
        rw [if_neg ?_, advance_succ, ih hlt (by omega), hsplit, List.range'_succ, List.map_cons]
        intro hgoal
        exact heq (advance_injective a hstep hgoal)

/-- Along a row, a column or a diagonal, the way to the last square is as many steps as it is
distant. -/
theorem advance_distance {a b : Square} (h : Aligned a b) :
    a.advance (stepTowards a b) (distance a b) = b := by
  have hway : ∀ p q : Int, q - p = ((max (b.x - a.x).natAbs (b.y - a.y).natAbs : Nat) : Int) *
      (q - p).sign → p + ((max (b.x - a.x).natAbs (b.y - a.y).natAbs : Nat) : Int) *
      (q - p).sign = q := by
    intro p q hpq
    rw [← hpq, add_sub_cancel]
  unfold distance
  rcases h with h | h | h
  · refine Square.ext (hway a.x b.x ?_) (hway a.y b.y ?_)
    · rw [h, sub_self, Int.sign_zero, mul_zero]
    · rw [h, sub_self, Int.natAbs_zero, Nat.zero_max, mul_comm, Int.sign_mul_natAbs]
  · refine Square.ext (hway a.x b.x ?_) (hway a.y b.y ?_)
    · rw [h, sub_self, Int.natAbs_zero, Nat.max_zero, mul_comm, Int.sign_mul_natAbs]
    · rw [h, sub_self, Int.sign_zero, mul_zero]
  · refine Square.ext (hway a.x b.x ?_) (hway a.y b.y ?_)
    · rw [h, Nat.max_self, ← h, mul_comm, Int.sign_mul_natAbs]
    · rw [h, Nat.max_self, mul_comm, Int.sign_mul_natAbs]

theorem stepTowards_ne_origin {a b : Square} (h : a ≠ b) : stepTowards a b ≠ origin := by
  intro hstep
  have hx : b.x - a.x = 0 := Int.sign_eq_zero_iff_zero.1 (congrArg Square.x hstep)
  have hy : b.y - a.y = 0 := Int.sign_eq_zero_iff_zero.1 (congrArg Square.y hstep)
  exact h (Square.ext (sub_eq_zero.1 hx).symm (sub_eq_zero.1 hy).symm)

theorem distance_self (a : Square) : distance a a = 0 := by
  unfold distance
  rw [sub_self, sub_self]
  rfl

theorem distance_pos {a b : Square} (h : Aligned a b) (hne : a ≠ b) : 1 ≤ distance a b := by
  rw [Nat.one_le_iff_ne_zero]
  intro hzero
  have hgoal := advance_distance h
  rw [hzero, advance_zero] at hgoal
  exact hne hgoal

theorem between_self (a : Square) : between a a = [] := by
  rw [between, distance_self]
  exact ite_self _

theorem between_eq_map_advance {a b : Square} (h : Aligned a b) (hne : a ≠ b) :
    between a b = (List.range' 1 (distance a b - 1)).map (a.advance (stepTowards a b)) := by
  have hwalk := walk_eq_map_advance a (stepTowards_ne_origin hne) (distance_pos h hne)
    (Nat.sub_le (distance a b) 1)
  rw [advance_distance h] at hwalk
  rw [between, if_pos h, advance_one, hwalk]

theorem between_of_not_aligned {a b : Square} (h : ¬ Aligned a b) : between a b = [] :=
  if_neg h

theorem mem_between_iff_advance {a b s : Square} (h : Aligned a b) (hne : a ≠ b) :
    s ∈ between a b ↔
      ∃ i, 0 < i ∧ i < distance a b ∧ a.advance (stepTowards a b) i = s := by
  rw [between_eq_map_advance h hne, List.mem_map]
  constructor
  · intro hadvanced
    rcases hadvanced with ⟨i, hi, rfl⟩
    rw [List.mem_range'_1] at hi
    exact ⟨i, hi.1, by omega, rfl⟩
  · intro hadvanced
    rcases hadvanced with ⟨i, hpos, hlt, rfl⟩
    refine ⟨i, ?_, rfl⟩
    rw [List.mem_range'_1]
    omega

/-!
## The way in the plane
-/

theorem sign_cases (z : Int) : z.sign = -1 ∨ z.sign = 0 ∨ z.sign = 1 := by
  rcases lt_trichotomy z 0 with h | h | h
  · exact Or.inl (Int.sign_eq_neg_one_of_neg h)
  · exact Or.inr (Or.inl (Int.sign_eq_zero_iff_zero.2 h))
  · exact Or.inr (Or.inr (Int.sign_eq_one_of_pos h))

theorem within_of_steps {σ : Int} (hσ : σ = -1 ∨ σ = 0 ∨ σ = 1) (p : Int) {i k : Nat}
    (hik : i ≤ k) : min p (p + k * σ) ≤ p + i * σ ∧ p + i * σ ≤ max p (p + k * σ) := by
  rcases hσ with rfl | rfl | rfl <;> omega

theorem exists_steps_of_within {σ : Int} (hσ : σ = -1 ∨ σ = 1) {p q : Int} {k : Nat}
    (h : min p (p + k * σ) ≤ q ∧ q ≤ max p (p + k * σ)) : ∃ i ≤ k, p + (i : Int) * σ = q := by
  refine ⟨(q - p).natAbs, ?_⟩
  rcases hσ with rfl | rfl <;> omega

theorem not_strictlyBetween_self (a s : Square) : ¬ StrictlyBetween a a s := by
  intro h
  have hx := h.within_x
  have hy := h.within_y
  rw [min_self, max_self] at hx hy
  exact h.ne_first (Square.ext (le_antisymm hx.2 hx.1) (le_antisymm hy.2 hy.1))

/-- A square strictly between two is reached in some of the steps that lead from one to the
other.  They can be counted along the axis on which the two squares differ. -/
theorem exists_advance_of_within {a step s : Square} {k : Nat}
    (hx : step.x = -1 ∨ step.x = 0 ∨ step.x = 1) (hy : step.y = -1 ∨ step.y = 0 ∨ step.y = 1)
    (hstep : step ≠ origin) (h : StrictlyBetween a (a.advance step k) s) :
    ∃ i ≤ k, a.advance step i = s := by
  have hcollinear := h.collinear
  have hwithin := h.within_x
  have hwithin' := h.within_y
  rw [advance_x, advance_y, add_sub_cancel_left, add_sub_cancel_left] at hcollinear
  rw [advance_x] at hwithin
  rw [advance_y] at hwithin'
  have hk : (k : Int) ≠ 0 := by
    intro hzero
    rw [Int.natCast_eq_zero.1 hzero, advance_zero] at h
    exact not_strictlyBetween_self a s h
  by_cases hzero : step.x = 0
  · have hyne : step.y = -1 ∨ step.y = 1 := by
      rcases hy with hy | hy | hy
      · exact Or.inl hy
      · exact absurd (Square.ext hzero hy) hstep
      · exact Or.inr hy
    rcases exists_steps_of_within hyne hwithin' with ⟨i, hik, hi⟩
    refine ⟨i, hik, Square.ext ?_ hi⟩
    rw [hzero, mul_zero, add_zero, min_self, max_self] at hwithin
    rw [advance_x, hzero, mul_zero, add_zero]
    exact le_antisymm hwithin.1 hwithin.2
  · have hxne : step.x = -1 ∨ step.x = 1 := by
      rcases hx with hx | hx | hx
      · exact Or.inl hx
      · exact absurd hx hzero
      · exact Or.inr hx
    rcases exists_steps_of_within hxne hwithin with ⟨i, hik, hi⟩
    refine ⟨i, hik, Square.ext hi ?_⟩
    rw [← hi, add_sub_cancel_left] at hcollinear
    have hscaled : (i * step.y) * (k * step.x) = (s.y - a.y) * (k * step.x) := by
      rw [← hcollinear]
      ring
    have hrise := mul_right_cancel₀ (mul_ne_zero hk hzero) hscaled
    rw [advance_y, hrise, add_sub_cancel]

theorem mem_between_iff {a b s : Square} (h : Aligned a b) :
    s ∈ between a b ↔ StrictlyBetween a b s := by
  by_cases hne : a = b
  · subst hne
    rw [between_self]
    exact iff_of_false List.not_mem_nil (not_strictlyBetween_self a s)
  · have hstep := stepTowards_ne_origin hne
    have hgoal := advance_distance h
    rw [mem_between_iff_advance h hne]
    generalize hk : distance a b = k at hgoal ⊢
    have hx := sign_cases (b.x - a.x)
    have hy := sign_cases (b.y - a.y)
    change (stepTowards a b).x = -1 ∨ (stepTowards a b).x = 0 ∨ (stepTowards a b).x = 1 at hx
    change (stepTowards a b).y = -1 ∨ (stepTowards a b).y = 0 ∨ (stepTowards a b).y = 1 at hy
    generalize stepTowards a b = step at hstep hgoal hx hy ⊢
    subst hgoal
    constructor
    · intro hadvanced
      rcases hadvanced with ⟨i, hpos, hlt, rfl⟩
      refine ⟨?_, within_of_steps hx a.x hlt.le, within_of_steps hy a.y hlt.le, ?_, ?_⟩
      · simp only [advance_x, advance_y, add_sub_cancel_left]
        ring
      · intro heq
        have hzero := advance_injective a hstep (heq.trans (advance_zero a step).symm)
        exact absurd hzero (Nat.ne_of_gt hpos)
      · intro heq
        exact absurd (advance_injective a hstep heq) (Nat.ne_of_lt hlt)
    · intro hbetween
      rcases exists_advance_of_within hx hy hstep hbetween with ⟨i, hik, rfl⟩
      refine ⟨i, Nat.pos_of_ne_zero ?_, Nat.lt_of_le_of_ne hik ?_, rfl⟩
      · intro heq
        subst heq
        exact hbetween.ne_first (advance_zero a step)
      · intro heq
        subst heq
        exact hbetween.ne_last rfl

/-!
## Steps to a neighbour
-/

structure IsStep (s : Square) : Prop where
  x : s.x = -1 ∨ s.x = 0 ∨ s.x = 1
  y : s.y = -1 ∨ s.y = 0 ∨ s.y = 1
  ne_origin : s ≠ origin

namespace IsStep

variable {step : Square} (h : step.IsStep) (a : Square)

include h

theorem aligned_advance (k : Nat) : Aligned a (a.advance step k) := by
  unfold Aligned
  rw [advance_x, advance_y, add_sub_cancel_left, add_sub_cancel_left]
  rcases h.x with hx | hx | hx <;> rcases h.y with hy | hy | hy <;> simp [hx, hy]

theorem stepTowards_advance {k : Nat} (hk : 1 ≤ k) : stepTowards a (a.advance step k) = step := by
  have hsign : (k : Int).sign = 1 := Int.sign_eq_one_of_pos (by omega)
  apply Square.ext
  · rw [stepTowards, advance_x, add_sub_cancel_left, Int.sign_mul, hsign]
    rcases h.x with hx | hx | hx <;> simp [hx]
  · rw [stepTowards, advance_y, add_sub_cancel_left, Int.sign_mul, hsign]
    rcases h.y with hy | hy | hy <;> simp [hy]

theorem distance_advance (k : Nat) : distance a (a.advance step k) = k := by
  have hne : ¬ (step.x = 0 ∧ step.y = 0) := fun h' => h.ne_origin (Square.ext h'.1 h'.2)
  unfold distance
  rw [advance_x, advance_y, add_sub_cancel_left, add_sub_cancel_left]
  rcases h.x with hx | hx | hx <;> rcases h.y with hy | hy | hy <;> simp_all

theorem mem_between_advance {k : Nat} (hk : 1 ≤ k) {s : Square} :
    s ∈ between a (a.advance step k) ↔ ∃ i, 0 < i ∧ i < k ∧ a.advance step i = s := by
  have hne : a ≠ a.advance step k := by
    intro heq
    have hzero := advance_injective a h.ne_origin ((advance_zero a step).trans heq)
    omega
  rw [mem_between_iff_advance (h.aligned_advance a k) hne, h.distance_advance a,
    h.stepTowards_advance a hk]

end IsStep
end Square
end Boardcraft
