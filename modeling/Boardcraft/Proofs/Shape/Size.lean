import Boardcraft.Proofs.Shape.Symmetry
import Mathlib.Algebra.BigOperators.Ring.List
import Mathlib.NumberTheory.Real.Irrational
import Mathlib.Tactic.LinearCombination

/-!
# How many offsets a pattern has

Every pattern but the ray is a row of columns: for each place from the west to the east, the squares
between two heights.  So the number of its offsets is a sum of differences, in which the heights are
those of the rule for the pattern.  The box in which the pattern is searched has no part in it.

A quarter turn keeps the number of offsets, so that one cardinal cone and one diagonal cone stand
for all.

## Main statements

* `length_columns` counts a row of columns;
* `pattern_sizes` gives the number of offsets of every pattern.
-/

namespace Boardcraft

namespace Square

/-! ## Runs of integers -/

theorem run_succ {first last : Int} (h : first ≤ last + 1) :
    run first (last + 1) = run first last ++ [last + 1] := by
  have hcount : (last + 1 + 1 - first).toNat = (last + 1 - first).toNat + 1 := by omega
  have hend : first + ((last + 1 - first).toNat : Int) = last + 1 := by omega
  rw [run, run, hcount, List.range_succ, List.map_append, List.map_singleton, hend]

theorem run_pred {first last : Int} (h : first ≤ last + 1) :
    run (first - 1) last = (first - 1) :: run first last := by
  have hcount : (last + 1 - (first - 1)).toNat = (last + 1 - first).toNat + 1 := by omega
  have hnext : ∀ i : Nat, first - 1 + ((i + 1 : Nat) : Int) = first + i := by
    intro i
    push_cast
    ring
  rw [run, run, hcount, List.range_succ_eq_map, List.map_cons, List.map_map]
  simp only [Function.comp_def, Nat.succ_eq_add_one, hnext, Nat.cast_zero, add_zero]

theorem length_run (first last : Int) : (run first last).length = (last + 1 - first).toNat := by
  rw [run, List.length_map, List.length_range]

/-- Sums over what lies between an integer and its opposite grow at both ends. -/
theorem sum_run_symmetric (f : Int → Int) (n : Nat) :
    ((run (-(n + 1 : Nat)) (n + 1 : Nat)).map f).sum =
      f (-(n + 1)) + ((run (-n) n).map f).sum + f (n + 1) := by
  have hends : run (-(n + 1 : Nat)) (n + 1 : Nat) =
      (-(n : Int) - 1) :: (run (-n) n ++ [(n : Int) + 1]) := by
    have hwest : (-((n + 1 : Nat) : Int)) = -n - 1 := by
      push_cast
      ring
    rw [hwest, Nat.cast_succ, run_pred (by omega), run_succ (by omega)]
  rw [hends]
  simp only [List.map_cons, List.map_append, List.map_nil, List.sum_cons, List.sum_append,
    List.sum_nil]
  ring_nf

/-! ## Columns -/

section Columns

variable {first last : Int} {low high : Int → Int}

theorem mem_columns {s : Square} :
    s ∈ columns first last low high ↔
      (first ≤ s.x ∧ s.x ≤ last) ∧ low s.x ≤ s.y ∧ s.y ≤ high s.x := by
  cases s
  simp [columns, mem_run]

/-- Columns are counted by their heights, where none has its low end more than a step above its
high end. -/
theorem length_columns (h : ∀ x, first ≤ x → x ≤ last → low x ≤ high x + 1) :
    ((columns first last low high).length : Int) =
      ((run first last).map fun x => high x + 1 - low x).sum := by
  rw [columns, List.length_flatMap, Nat.cast_list_sum, List.map_map]
  congr 1
  apply List.map_congr_left
  intro x hx
  have hheight := h x (mem_run.1 hx).1 (mem_run.1 hx).2
  rw [Function.comp_apply, List.length_map, length_run]
  omega

/-- A list without repetitions that has the offsets of a row of columns is as long. -/
theorem length_of_mem_columns {l : List Square} (hl : l.Nodup)
    (h : ∀ s, s ∈ l ↔ s ∈ columns first last low high) :
    l.length = (columns first last low high).length :=
  ((List.perm_ext_iff_of_nodup hl (nodup_columns ..)).2 h).length_eq

end Columns

/-! ## Sums of heights -/

/-- Heights that fall by one square at either end with each step to either side. -/
theorem sum_falling (m : Int) (n : Nat) :
    ((run (-n) n).map fun x => (m - |x|) + 1 - (|x| - m)).sum =
      (2 * m + 1) * (2 * n + 1) - 2 * (n * (n + 1)) := by
  induction n with
  | zero =>
      simp [run]
      ring
  | succ n ih =>
      have hwest : |(-((n : Int) + 1))| = n + 1 := by rw [abs_neg, abs_of_nonneg (by omega)]
      have heast : |((n : Int) + 1)| = n + 1 := abs_of_nonneg (by omega)
      rw [sum_run_symmetric, ih, hwest, heast]
      push_cast
      ring

theorem sum_widening (n : Nat) :
    ((run 1 n).map fun x => (x - 1) + 1 - (1 - x)).sum = (n : Int) ^ 2 := by
  induction n with
  | zero => simp [run]
  | succ n ih =>
      rw [Nat.cast_succ, run_succ (by omega), List.map_append, List.sum_append, ih]
      simp only [List.map_cons, List.map_nil, List.sum_cons, List.sum_nil]
      ring

theorem sum_sloping (m : Int) (n : Nat) :
    2 * ((run 1 n).map fun x => (m - x) + 1 - 1).sum = 2 * n * m - n * (n + 1) := by
  induction n with
  | zero => simp [run]
  | succ n ih =>
      rw [Nat.cast_succ, run_succ (by omega), List.map_append, List.sum_append, mul_add, ih]
      simp only [List.map_cons, List.map_nil, List.sum_cons, List.sum_nil]
      ring

end Square

namespace Offsets

/-! ## Patterns around the piece -/

theorem nodup_circle (radius : Int) : (circle radius).Nodup := (Square.nodup_box radius).filter _

theorem nodup_square (size : Int) : (square size).Nodup := (Square.nodup_box size).filter _

theorem nodup_cone (d : Direction) (length : Int) : (cone d length).Nodup :=
  (Square.nodup_box (2 * length)).filter _

theorem origin_notMem_circle (radius : Int) : Square.origin ∉ circle radius := by
  simp [circle]

theorem origin_notMem_square (size : Int) : Square.origin ∉ square size := by
  simp [square]

/-- With the origin a circle is a row of columns, highest in the middle. -/
theorem length_circle (radius : Nat) :
    ((circle radius).length : Int) = 2 * (radius : Int) ^ 2 + 2 * radius := by
  have hcolumns : ∀ s, s ∈ Square.origin :: circle radius ↔
      s ∈ Square.columns (-radius) radius (fun x => |x| - radius) fun x => radius - |x| := by
    intro s
    cases s
    simp only [List.mem_cons, mem_circle, Shape.Covers, Square.mem_columns, Square.origin,
      Square.mk.injEq, Int.abs_eq_natAbs]
    omega
  have honce := List.nodup_cons.2 ⟨origin_notMem_circle radius, nodup_circle radius⟩
  have hlength := congrArg (Nat.cast (R := Int)) (Square.length_of_mem_columns honce hcolumns)
  rw [Square.length_columns (by simp only [Int.abs_eq_natAbs]; omega), Square.sum_falling,
    List.length_cons, Nat.cast_succ] at hlength
  linear_combination hlength

theorem length_square (size : Nat) :
    ((square size).length : Int) = (2 * (size : Int) + 1) ^ 2 - 1 := by
  have hcolumns : ∀ s, s ∈ Square.origin :: square size ↔
      s ∈ Square.columns (-size) size (fun _ => -size) fun _ => size := by
    intro s
    cases s
    simp only [List.mem_cons, mem_square, Shape.Covers, Square.mem_columns, Square.origin, ne_eq,
      Square.mk.injEq, Int.abs_eq_natAbs]
    omega
  have honce := List.nodup_cons.2 ⟨origin_notMem_square size, nodup_square size⟩
  have hlength := congrArg (Nat.cast (R := Int)) (Square.length_of_mem_columns honce hcolumns)
  have hwidth : ((Square.run (-size) size).length : Int) = 2 * size + 1 := by
    rw [Square.length_run]
    omega
  rw [Square.length_columns (by omega), List.map_const', List.sum_replicate, List.length_cons,
    Nat.cast_succ, nsmul_eq_mul, hwidth] at hlength
  linear_combination hlength

/-! ## Rays -/

theorem length_ray (directions : List Direction) {nearest farthest : Int}
    (h : nearest ≤ farthest + 1) :
    ((ray directions nearest farthest).length : Int) =
      directions.toFinset.card * (farthest - nearest + 1) := by
  have hdistinct : directions.toFinset.card = (distinct directions).length := by
    rw [← List.toFinset_card_of_nodup (nodup_distinct directions)]
    congr 1
    ext d
    simp
  have hreach : (((farthest + 1 - nearest).toNat : Nat) : Int) = farthest - nearest + 1 := by omega
  rw [hdistinct, ray, List.length_flatMap]
  simp only [List.length_map, Square.length_run, List.map_const', List.sum_replicate, smul_eq_mul,
    Nat.cast_mul, hreach]

/-! ## Cones -/

theorem length_cone_direction (m : Motion) (d : Direction) {length : Nat} (h : 1 ≤ length) :
    (cone (m.direction d) length).length = (cone d length).length := by
  have hperm := m.compile_shape (Shape.WellFormed.cone d h)
  simpa [Motion.shape, Shape.compile] using hperm.length_eq

theorem length_cone_east (length : Nat) :
    ((cone .east length).length : Int) = (length : Int) ^ 2 := by
  have hcolumns : ∀ s, s ∈ cone .east length ↔
      s ∈ Square.columns 1 length (fun x => 1 - x) fun x => x - 1 := by
    intro s
    simp only [mem_cone, Shape.Covers, Direction.isCardinal, if_true, Direction.WidensTo,
      Direction.ahead, Direction.aside, Direction.step, Square.mem_columns, Int.abs_eq_natAbs]
    omega
  rw [Square.length_of_mem_columns (nodup_cone _ _) hcolumns, Square.length_columns (by omega),
    Square.sum_widening]

theorem length_cone_northeast (length : Nat) :
    ((cone .northeast length).length : Int) =
      diagonalReach length * (2 * diagonalReach length - 1) := by
  have hcolumns : ∀ s, s ∈ cone .northeast length ↔
      s ∈ Square.columns 1 (2 * diagonalReach length - 1 : Int).toNat (fun _ => 1)
        fun x => 2 * diagonalReach length - x := by
    intro s
    simp only [mem_cone, Shape.Covers, Direction.isCardinal, Bool.false_eq_true, if_false,
      Direction.FillsTo, ← diagonalReach_eq_round, Direction.step, Square.mem_columns]
    omega
  have hreach : 0 ≤ diagonalReach length := Int.natCast_nonneg _
  have hsum := Square.sum_sloping (2 * diagonalReach length) (2 * diagonalReach length - 1).toNat
  rw [Square.length_of_mem_columns (nodup_cone _ _) hcolumns, Square.length_columns (by omega)]
  rcases hreach.eq_or_lt with hnone | hsome
  · simp [← hnone, Square.run]
  · rw [Int.toNat_of_nonneg (by omega)] at hsum ⊢
    linarith

theorem length_cone_of_isCardinal {d : Direction} (hd : d.isCardinal = true) {length : Nat}
    (h : 1 ≤ length) : ((cone d length).length : Int) = (length : Int) ^ 2 := by
  have hturn := fun d => length_cone_direction .turn d h
  cases d with
  | east => exact length_cone_east length
  | south => exact hturn .east ▸ length_cone_east length
  | west => exact hturn .south ▸ hturn .east ▸ length_cone_east length
  | north => exact hturn .west ▸ hturn .south ▸ hturn .east ▸ length_cone_east length
  | _ => cases hd

theorem length_cone_of_not_isCardinal {d : Direction} (hd : d.isCardinal = false) {length : Nat}
    (h : 1 ≤ length) :
    ((cone d length).length : Int) = diagonalReach length * (2 * diagonalReach length - 1) := by
  have hturn := fun d => length_cone_direction .turn d h
  have heast := length_cone_northeast length
  cases d with
  | northeast => exact heast
  | southeast => exact hturn .northeast ▸ heast
  | southwest => exact hturn .southeast ▸ hturn .northeast ▸ heast
  | northwest => exact hturn .southwest ▸ hturn .southeast ▸ hturn .northeast ▸ heast
  | _ => cases hd

/-! ## The reach of a diagonal cone -/

/-- A whole number that is nearer to a real number than every other one. -/
def Nearest (n : Int) (x : ℝ) : Prop := ∀ m : Int, m ≠ n → |x - n| < |x - m|

/-- A number that is not rational does not lie halfway between two whole numbers. -/
theorem nearest_round {x : ℝ} (h : Irrational x) : Nearest (round x) x := by
  intro m hm
  have hhalf : |x - round x| < 1 / 2 := by
    apply lt_of_le_of_ne (abs_sub_round x)
    intro heq
    rcases eq_or_eq_neg_of_abs_eq heq with hx | hx
    · exact h.ne_rat (round x + 1 / 2) (by push_cast; linarith)
    · exact h.ne_rat (round x - 1 / 2) (by push_cast; linarith)
  have hapart : (1 : ℝ) ≤ |(m : ℝ) - round x| := by
    exact_mod_cast Int.one_le_abs (sub_ne_zero.2 hm)
  have hvia : |(m : ℝ) - round x| ≤ |x - m| + |x - round x| := by
    rw [abs_sub_comm x m]
    exact abs_sub_le _ _ _
  linarith

theorem nearest_diagonalReach {length : Nat} (h : 1 ≤ length) :
    Nearest (diagonalReach length) ((length : ℝ) / √2) := by
  rw [diagonalReach_eq_round]
  exact nearest_round (irrational_sqrt_two.natCast_div (Nat.one_le_iff_ne_zero.1 h))

/-! ## Main theorem -/

/-- How many offsets a pattern has, none of them listed twice.  Circles and squares are without the
origin, a ray counts each direction once, and a diagonal cone goes by the whole number that is
nearest to its length over the square root of two. -/
theorem pattern_sizes :
    (∀ radius : Int, 0 ≤ radius →
      (circle radius).Nodup ∧ ((circle radius).length : Int) = 2 * radius ^ 2 + 2 * radius) ∧
    (∀ size : Int, 0 ≤ size →
      (square size).Nodup ∧ ((square size).length : Int) = (2 * size + 1) ^ 2 - 1) ∧
    (∀ (directions : List Direction) (nearest farthest : Int), 1 ≤ nearest → nearest ≤ farthest →
      (ray directions nearest farthest).Nodup ∧
        ((ray directions nearest farthest).length : Int) =
          directions.toFinset.card * (farthest - nearest + 1)) ∧
    ∀ (d : Direction) (length : Int), 1 ≤ length →
      (cone d length).Nodup ∧
        if d.isCardinal then ((cone d length).length : Int) = length ^ 2
        else ∃ reach : Int, Nearest reach ((length : ℝ) / √2) ∧
          ((cone d length).length : Int) = reach * (2 * reach - 1) := by
  refine ⟨?_, ?_, ?_, ?_⟩
  · intro radius h
    lift radius to Nat using h
    exact ⟨nodup_circle radius, length_circle radius⟩
  · intro size h
    lift size to Nat using h
    exact ⟨nodup_square size, length_square size⟩
  · intro directions nearest farthest haway hordered
    exact ⟨nodup_ray directions haway farthest, length_ray directions (by omega)⟩
  · intro d length h
    lift length to Nat using (by omega)
    have hlong : 1 ≤ length := by omega
    refine ⟨nodup_cone d length, ?_⟩
    cases hd : d.isCardinal with
    | true => exact length_cone_of_isCardinal hd hlong
    | false =>
        have hreach := nearest_diagonalReach hlong
        exact ⟨diagonalReach length, by exact_mod_cast hreach,
          length_cone_of_not_isCardinal hd hlong⟩

/-- One pattern of each kind.  The ray names the north twice, and the diagonal cone has three layers. -/
theorem sizes_of_five_patterns :
    ((circle 3).Nodup ∧ ((circle 3).length : Int) = 2 * 3 ^ 2 + 2 * 3) ∧
    ((square 2).Nodup ∧ ((square 2).length : Int) = (2 * 2 + 1) ^ 2 - 1) ∧
    ((ray [.north, .east, .north] 2 4).Nodup ∧
      ((ray [.north, .east, .north] 2 4).length : Int) =
        ([.north, .east, .north] : List Direction).toFinset.card * (4 - 2 + 1)) ∧
    ((cone .west 3).Nodup ∧ ((cone .west 3).length : Int) = 3 ^ 2) ∧
    ((cone .southwest 4).Nodup ∧ ((cone .southwest 4).length : Int) = 15 ∧
      ∃ reach : Int, Nearest reach (((4 : Int) : ℝ) / √2) ∧
        ((cone .southwest 4).length : Int) = reach * (2 * reach - 1)) := by
  rcases pattern_sizes with ⟨hcircle, hsquare, hray, hcone⟩
  have hdiagonal := hcone .southwest 4 (by decide)
  exact ⟨hcircle 3 (by decide), hsquare 2 (by decide),
    hray [.north, .east, .north] 2 4 (by decide) (by decide), hcone .west 3 (by decide),
    hdiagonal.1, by decide +kernel, hdiagonal.2⟩

end Offsets

end Boardcraft
