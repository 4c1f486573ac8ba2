import Boardcraft.Proofs.Shape.Compile
import Mathlib.Algebra.Order.Round
import Mathlib.Analysis.Real.Sqrt

/-!
# What a shape describes

The offsets of a shape, given by a rule on offsets instead of a list of them.  Compiling a shape
that has been read lists what the rule admits and nothing else.

Patterns search a box, and only the cone has one that is not the extent of the pattern itself.  The
rule for a cone knows of no box, so that the box is seen to be large enough.  The rule for a
diagonal cone takes its reach from the square root of two.

## Main statements

* `diagonalReach_eq_round` is about that reach.
* `compile_denotes` is about every shape that is read.
-/

namespace Boardcraft

/-! ## Cones -/

namespace Direction

def ahead (d : Direction) (s : Square) : Int := s.x * d.step.x + s.y * d.step.y

def aside (d : Direction) (s : Square) : Int := |s.x * d.step.y - s.y * d.step.x|

/-- The cone in a cardinal direction: the layer at each distance is as wide as the distance lets
it be. -/
def WidensTo (d : Direction) (length : Nat) (s : Square) : Prop :=
  1 ≤ d.ahead s ∧ d.ahead s ≤ length ∧ d.aside s < d.ahead s

/-- The cone in a diagonal direction: the quadrant that it opens into, cut off at the whole number
nearest to the length over the square root of two. -/
def FillsTo (d : Direction) (length : Nat) (s : Square) : Prop :=
  let u := s.x * d.step.x
  let v := s.y * d.step.y
  1 ≤ u ∧ 1 ≤ v ∧ (u + v + 1) / 2 ≤ round ((length : ℝ) / √2)

end Direction

/-! ## The rule -/

namespace Shape

mutual

def Covers : Shape → Square → Prop
  | circle radius, s => 0 < |s.x| + |s.y| ∧ |s.x| + |s.y| ≤ radius
  | square size, s => s ≠ .origin ∧ |s.x| ≤ size ∧ |s.y| ≤ size
  | ray directions nearest farthest, s =>
      ∃ d ∈ directions, ∃ k : Nat, nearest ≤ k ∧ k ≤ farthest ∧ s = ⟨k * d.step.x, k * d.step.y⟩
  | point delta, s => s = delta
  | cone d length, s => if d.isCardinal then d.WidensTo length s else d.FillsTo length s
  | union parts, s => SomeCovers parts s
  | intersect parts, s => EveryCovers parts s
  | subtract base cutters, s => base.Covers s ∧ ¬ SomeCovers cutters s
  | reflect .horizontal parts, s => SomeCovers parts s ∨ SomeCovers parts ⟨-s.x, s.y⟩
  | reflect .vertical parts, s => SomeCovers parts s ∨ SomeCovers parts ⟨s.x, -s.y⟩
  | reflect .both parts, s =>
      SomeCovers parts s ∨ SomeCovers parts ⟨-s.x, s.y⟩ ∨ SomeCovers parts ⟨s.x, -s.y⟩ ∨
        SomeCovers parts ⟨-s.x, -s.y⟩

def SomeCovers : List Shape → Square → Prop
  | [], _ => False
  | part :: rest, s => part.Covers s ∨ SomeCovers rest s

def EveryCovers : List Shape → Square → Prop
  | [], _ => True
  | part :: rest, s => part.Covers s ∧ EveryCovers rest s

end

theorem someCovers_iff {parts : List Shape} {s : Square} :
    SomeCovers parts s ↔ ∃ part ∈ parts, part.Covers s := by
  induction parts with
  | nil => simp [SomeCovers]
  | cons part rest ih => simp [SomeCovers, ih]

theorem everyCovers_iff {parts : List Shape} {s : Square} :
    EveryCovers parts s ↔ ∀ part ∈ parts, part.Covers s := by
  induction parts with
  | nil => simp [EveryCovers]
  | cons part rest ih => simp [EveryCovers, ih]

end Shape

/-! ## Patterns -/

namespace Offsets

theorem mem_circle {radius : Nat} {s : Square} :
    s ∈ circle radius ↔ (Shape.circle radius).Covers s := by
  cases s with
  | mk x y =>
      simp only [circle, List.mem_filter, Square.mem_box, Shape.Covers, Square.origin, ne_eq,
        Square.mk.injEq, decide_eq_true_eq, Int.abs_eq_natAbs]
      omega

theorem mem_square {size : Nat} {s : Square} :
    s ∈ square size ↔ (Shape.square size).Covers s := by
  simp only [square, List.mem_filter, Square.mem_box, Shape.Covers, decide_eq_true_eq, abs_le]
  tauto

theorem mem_ray {directions : List Direction} {nearest farthest : Nat} {s : Square} :
    s ∈ ray directions nearest farthest ↔ (Shape.ray directions nearest farthest).Covers s := by
  simp only [ray, List.mem_flatMap, mem_distinct, List.mem_map, Square.mem_run, Shape.Covers]
  constructor
  · rintro ⟨d, hd, k, ⟨hlow, hhigh⟩, rfl⟩
    refine ⟨d, hd, k.toNat, by omega, by omega, ?_⟩
    have hk : ((k.toNat : Nat) : Int) = k := Int.toNat_of_nonneg (by omega)
    rw [hk, along, mul_comm k, mul_comm k]
  · rintro ⟨d, hd, k, hlow, hhigh, rfl⟩
    refine ⟨d, hd, k, ⟨by omega, by omega⟩, ?_⟩
    rw [along, mul_comm (k : Int), mul_comm (k : Int)]

/-!
The layers of a cone in a cardinal direction are counted by the length.  On a diagonal they are
counted by the reach, and the condition on the distance from the middle says nothing new.
-/

theorem countP_range_lt (n m : Nat) : ((List.range n).countP fun r => r < m) = min n m := by
  induction n with
  | zero => simp
  | succ n ih =>
      rw [List.range_succ, List.countP_append, ih]
      by_cases h : n < m
      · simp [h]
        omega
      · simp [h]
        omega

theorem half_below_iff (n r : Nat) :
    (2 * r + 1) * (2 * r + 1) ≤ 2 * (n * n) ↔ (r : Int) < round ((n : ℝ) / √2) := by
  have hsqrt : (0 : ℝ) < √2 := Real.sqrt_pos.2 two_pos
  have hsq : √2 * √2 = (2 : ℝ) := Real.mul_self_sqrt zero_le_two
  rw [round_eq, ← Int.add_one_le_iff, Int.le_floor]
  -- Doubled and squared, the comparison is one of natural numbers.
  calc
    (2 * r + 1) * (2 * r + 1) ≤ 2 * (n * n)
        ↔ (2 * r + 1 : ℝ) * (2 * r + 1) ≤ (n * √2) * (n * √2) := by
          rw [mul_mul_mul_comm, hsq, mul_comm ((n : ℝ) * n)]
          exact_mod_cast Iff.rfl
    _ ↔ (2 * r + 1 : ℝ) ≤ n * √2 := (mul_self_le_mul_self_iff (by positivity) (by positivity)).symm
    _ ↔ (2 * r + 1 : ℝ) ≤ 2 * (n / √2) := by
          have hhalf : (n : ℝ) * √2 = 2 * (n / √2) := by
            rw [mul_div_assoc', eq_div_iff hsqrt.ne', mul_assoc, hsq, mul_comm]
          rw [hhalf]
    _ ↔ ((r + 1 : ℤ) : ℝ) ≤ n / √2 + 1 / 2 := by
          push_cast
          constructor <;> intro h <;> linarith

theorem diagonalReach_eq_round (length : Nat) :
    diagonalReach length = round ((length : ℝ) / √2) := by
  have hnonneg : 0 ≤ round ((length : ℝ) / √2) := by
    rw [round_eq, Int.floor_nonneg]
    positivity
  have hle : round ((length : ℝ) / √2) ≤ length := by
    have hone : (1 : ℝ) ≤ √2 := Real.one_le_sqrt.2 one_le_two
    have hquot : (length : ℝ) / √2 ≤ length := div_le_self (Nat.cast_nonneg length) hone
    rw [round_eq, ← Int.lt_add_one_iff, Int.floor_lt]
    push_cast
    linarith
  have hcount : diagonalReach length =
      ((List.range length).countP fun r => r < (round ((length : ℝ) / √2)).toNat : Nat) := by
    unfold diagonalReach
    rw [Int.toNat_natCast]
    refine congrArg Nat.cast (List.countP_congr fun r _ => ?_)
    rw [decide_eq_true_eq, decide_eq_true_eq, half_below_iff, Int.lt_toNat]
  rw [hcount, countP_range_lt]
  omega

theorem inCone_of_isCardinal {d : Direction} (h : d.isCardinal = true) {length : Nat}
    {s : Square} : inCone d (coneReach d length) s = true ↔ d.WidensTo length s := by
  simp [inCone, coneLayer, coneReach, h, Direction.WidensTo, Direction.ahead, Direction.aside,
    and_assoc]

theorem inCone_of_not_isCardinal {d : Direction} (h : d.isCardinal = false) {length : Nat}
    {s : Square} : inCone d (coneReach d length) s = true ↔ d.FillsTo length s := by
  simp only [inCone, coneLayer, coneReach, h, Bool.false_eq_true, if_false, Direction.FillsTo,
    ← diagonalReach_eq_round]
  split
  · next u v hlayer =>
      split at hlayer
      · cases hlayer
        simp only [Bool.and_eq_true, decide_eq_true_eq]
        omega
      · cases hlayer
  · next hlayer =>
      split at hlayer
      · cases hlayer
      · simp
        omega

theorem diagonalReach_le (length : Nat) : diagonalReach length ≤ length := by
  have hcount := List.countP_le_length
    (p := fun r => (2 * r + 1) * (2 * r + 1) ≤ 2 * (length * length)) (l := List.range length)
  rw [List.length_range] at hcount
  unfold diagonalReach
  rw [Int.toNat_natCast]
  exact Int.ofNat_le.2 hcount

/-- The box that a cone is searched for in cuts nothing off. -/
theorem mem_box_of_widensTo {d : Direction} {length : Nat} {s : Square}
    (hs : d.WidensTo length s) : s ∈ Square.box (2 * length) ∧ s ≠ Square.origin := by
  cases s with
  | mk x y =>
      simp only [Direction.WidensTo, Direction.ahead, Direction.aside, Int.abs_eq_natAbs] at hs
      simp only [Square.mem_box, Square.origin, ne_eq, Square.mk.injEq]
      cases d <;> simp only [Direction.step] at hs <;> omega

theorem mem_box_of_fillsTo {d : Direction} {length : Nat} {s : Square}
    (hs : d.FillsTo length s) : s ∈ Square.box (2 * length) ∧ s ≠ Square.origin := by
  cases s with
  | mk x y =>
      have hreach := diagonalReach_le length
      simp only [Direction.FillsTo, ← diagonalReach_eq_round] at hs
      simp only [Square.mem_box, Square.origin, ne_eq, Square.mk.injEq]
      cases d <;> simp only [Direction.step] at hs <;> omega

theorem mem_cone {d : Direction} {length : Nat} {s : Square} :
    s ∈ cone d length ↔ (Shape.cone d length).Covers s := by
  simp only [cone, List.mem_filter, decide_eq_true_eq, Shape.Covers]
  cases h : d.isCardinal with
  | true =>
      rw [inCone_of_isCardinal h, if_pos rfl]
      refine ⟨fun hs => hs.2.2, fun hs => ?_⟩
      have hbox := mem_box_of_widensTo hs
      exact ⟨hbox.1, hbox.2, hs⟩
  | false =>
      rw [inCone_of_not_isCardinal h, if_neg Bool.false_ne_true]
      refine ⟨fun hs => hs.2.2, fun hs => ?_⟩
      have hbox := mem_box_of_fillsTo hs
      exact ⟨hbox.1, hbox.2, hs⟩

/-! ## Combinations -/

/-- The images of an offset are the offsets of which it is an image. -/
theorem mem_images_comm {axis : Axis} {s t : Square} : s ∈ axis.images t ↔ t ∈ axis.images s := by
  cases s with
  | mk x y =>
      cases t with
      | mk x' y' =>
          cases axis <;>
            simp only [Axis.images, Square.flipX, Square.flipY, Square.halfTurn, List.mem_cons,
              List.not_mem_nil, Square.mk.injEq, or_false] <;>
            omega

theorem mem_reflect {axis : Axis} {offsets : List Square} {s : Square} :
    s ∈ reflect axis offsets ↔ s ∈ offsets ∨ ∃ image ∈ axis.images s, image ∈ offsets := by
  simp only [reflect, mem_distinct, List.mem_append, List.mem_flatMap]
  refine or_congr Iff.rfl (exists_congr fun t => ?_)
  rw [mem_images_comm, and_comm]

end Offsets

namespace Shape

section Parts

/-! The parts of a combination are taken to list what they describe. -/

variable {parts : List Shape}
  (each : ∀ part ∈ parts, ∀ p, p ∈ part.compile ↔ part.Covers p)

include each

theorem mem_union_compileAll (p : Square) :
    p ∈ Offsets.union (compileAll parts) ↔ SomeCovers parts p := by
  simp only [Offsets.mem_union, compileAll_eq_map, List.mem_map, exists_exists_and_eq_and,
    someCovers_iff]
  exact exists_congr fun part => and_congr_right fun h => each part h p

theorem mem_intersect_compileAll (hsome : parts ≠ []) (p : Square) :
    p ∈ Offsets.intersect (compileAll parts) ↔ EveryCovers parts p := by
  cases parts with
  | nil => exact absurd rfl hsome
  | cons first others =>
      rw [compileAll, Offsets.mem_intersect, compileAll_eq_map, List.forall_mem_map,
        everyCovers_iff, List.forall_mem_cons]
      refine and_congr (each first (by simp) p) (forall₂_congr fun part h => ?_)
      exact each part (List.mem_cons_of_mem first h) p

theorem mem_reflect_compileAll (axis : Axis) (p : Square) :
    p ∈ (reflect axis parts).compile ↔ (reflect axis parts).Covers p := by
  have hparts := mem_union_compileAll each
  have hcompile : p ∈ (reflect axis parts).compile ↔
      p ∈ Offsets.reflect axis (Offsets.union (compileAll parts)) ∨
        p ∈ Offsets.union (compileAll parts) := by
    simp only [compile, Offsets.mem_union, List.mem_cons, exists_eq_or_imp]
  rw [hcompile, Offsets.mem_reflect]
  cases axis <;>
    simp only [Axis.images, Covers, hparts, Square.flipX, Square.flipY, Square.halfTurn,
      List.mem_cons, List.not_mem_nil, or_false, exists_eq_or_imp, exists_eq_left] <;>
    tauto

end Parts

theorem mem_compile {s : Shape} (h : s.WellFormed) (p : Square) :
    p ∈ s.compile ↔ s.Covers p := by
  -- Only well-formed shapes will do: an empty intersection lists nothing and covers everything.
  induction h generalizing p with
  | circle radius => exact Offsets.mem_circle
  | square size => exact Offsets.mem_square
  | ray named once away ordered => exact Offsets.mem_ray
  | point delta => exact List.mem_singleton
  | cone d long => exact Offsets.mem_cone
  | union hsome each ih => exact mem_union_compileAll ih p
  | intersect hsome each ih => exact mem_intersect_compileAll ih hsome p
  | subtract whole hsome each ihbase ih =>
      rw [compile, Offsets.mem_subtract, Covers, ihbase]
      refine and_congr Iff.rfl ?_
      rw [← mem_union_compileAll ih, Offsets.mem_union]
      simp only [not_exists, not_and]
  | reflect axis hsome each ih => exact mem_reflect_compileAll ih axis p

/-- The offsets listed for a shape that was read are those that it describes, each once. -/
theorem compile_denotes {path : Path} {v : Value} {s : Shape} (h : ofValue path v = .ok s) :
    s.compile.Nodup ∧ ∀ p, p ∈ s.compile ↔ s.Covers p := by
  have hs := wellFormed_ofValue h
  exact ⟨nodup_compile hs.startsAway, mem_compile hs⟩

/-- A cone and its image in the south, without the square next to the piece. -/
def wings : Value :=
  .object [("kind", .str "subtract"),
    ("shapes", .list [
      .object [("kind", .str "reflect"), ("axis", .str "vertical"),
        ("shapes", .list [.object [("kind", .str "cone"), ("dir", .str "NE"), ("length", .int 3)]])],
      .object [("kind", .str "point"),
        ("delta", .object [("x", .int 1), ("y", .int 1)])]])]

theorem covers_wings :
    ∃ s, ofValue .shape wings = .ok s ∧
      s.compile = [⟨1, 2⟩, ⟨1, 3⟩, ⟨2, 1⟩, ⟨2, 2⟩, ⟨3, 1⟩, ⟨1, -1⟩, ⟨1, -2⟩, ⟨1, -3⟩, ⟨2, -1⟩,
        ⟨2, -2⟩, ⟨3, -1⟩] ∧
      ∀ p, p ∈ s.compile ↔ s.Covers p := by
  have hread : ofValue .shape wings =
      .ok (.subtract (.reflect .vertical [.cone .northeast 3]) [.point ⟨1, 1⟩]) := by
    simp [wings, ofValue, ofValues, Fields.get?, Table.lookupIn, readPrimitive?, readJoin?,
      Text.ofString_inj]
    rfl
  exact ⟨_, hread, by decide +kernel, (compile_denotes hread).2⟩

end Shape

end Boardcraft
