import Boardcraft.Blueprint.Basic
import Boardcraft.Proofs.Shape.WellFormed
import Mathlib.Data.Int.Order.Basic
import Mathlib.Data.List.Nodup

/-!
# No offset is listed twice

A shape that has been read lists each of its offsets once.  Combinations drop repetitions on their
own, and primitive patterns have none to begin with.  A ray is the one pattern for which this takes
a condition: it must not start on the origin, where all directions meet.  The reader sees to that.

## Main statements

* `nodup_compile` is about shapes, and `nodup_read` about what a blueprint holds.
-/

namespace Boardcraft

namespace Square

theorem nodup_run (first last : Int) : (run first last).Nodup := by
  refine List.Nodup.map ?_ List.nodup_range
  intro i j h
  exact Int.ofNat_inj.1 (Int.add_left_cancel h)

def columns (first last : Int) (low high : Int → Int) : List Square :=
  (run first last).flatMap fun x => (run (low x) (high x)).map fun y => ⟨x, y⟩

theorem nodup_columns (first last : Int) (low high : Int → Int) :
    (columns first last low high).Nodup := by
  refine List.nodup_flatMap.2 ⟨?_, ?_⟩
  · intro x _
    refine List.Nodup.map ?_ (nodup_run _ _)
    intro y y' h
    exact congrArg Square.y h
  · refine (nodup_run first last).imp ?_
    intro x x' hne s hs hs'
    rcases List.mem_map.1 hs with ⟨y, _, rfl⟩
    rcases List.mem_map.1 hs' with ⟨y', _, heq⟩
    exact hne (congrArg Square.x heq).symm

theorem nodup_box (n : Int) : (box n).Nodup := nodup_columns (-n) n (fun _ => -n) fun _ => n

end Square

theorem Direction.step_injective {d d' : Direction} (h : d.step = d'.step) : d = d' := by
  revert h
  cases d <;> cases d' <;> decide

namespace Offsets

/-- Away from the origin, the signs of an offset tell its direction. -/
theorem sign_along (d : Direction) {k : Int} (hk : 1 ≤ k) :
    (⟨(along d k).x.sign, (along d k).y.sign⟩ : Square) = d.step := by
  unfold along
  rw [Int.sign_mul, Int.sign_mul, Int.sign_eq_one_of_pos hk, Int.mul_one, Int.mul_one]
  cases d <;> rfl

theorem along_injective {d d' : Direction} {k k' : Int} (hk : 1 ≤ k) (hk' : 1 ≤ k')
    (h : along d k = along d' k') : d = d' ∧ k = k' := by
  have hstep : d.step = d'.step := by rw [← sign_along d hk, h, sign_along d' hk']
  have hd := Direction.step_injective hstep
  subst hd
  have hx : d.step.x * k = d.step.x * k' := congrArg Square.x h
  have hy : d.step.y * k = d.step.y * k' := congrArg Square.y h
  refine ⟨rfl, ?_⟩
  cases d <;> simp only [Direction.step] at hx hy <;> omega

theorem nodup_ray (directions : List Direction) {nearest : Int} (h : 1 ≤ nearest)
    (farthest : Int) : (ray directions nearest farthest).Nodup := by
  refine List.nodup_flatMap.2 ⟨?_, ?_⟩
  · intro d _
    refine List.Nodup.map_on ?_ (Square.nodup_run nearest farthest)
    intro k hk k' hk' heq
    have hlow := (Square.mem_run.1 hk).1
    have hlow' := (Square.mem_run.1 hk').1
    exact (along_injective (le_trans h hlow) (le_trans h hlow') heq).2
  · refine (nodup_distinct directions).imp ?_
    intro d d' hne s hs hs'
    rcases List.mem_map.1 hs with ⟨k, hk, rfl⟩
    rcases List.mem_map.1 hs' with ⟨k', hk', heq⟩
    have hlow := (Square.mem_run.1 hk).1
    have hlow' := (Square.mem_run.1 hk').1
    exact hne (along_injective (le_trans h hlow) (le_trans h hlow') heq.symm).1

theorem nodup_intersect (lists : List (List Square)) : (intersect lists).Nodup := by
  cases lists with
  | nil => exact List.nodup_nil
  | cons first others => exact nodup_distinct _

theorem nodup_flipVertical {offsets : List Square} (h : offsets.Nodup) :
    (flipVertical offsets).Nodup := by
  refine List.Nodup.map ?_ h
  intro s s' heq
  rw [← Square.flipY_flipY s, heq, Square.flipY_flipY]

end Offsets

namespace Shape

/-- A shape that is a ray starts a step away from the origin at least. -/
def StartsAway : Shape → Prop
  | ray _ nearest _ => 1 ≤ nearest
  | _ => True

theorem nodup_compile {s : Shape} (h : s.StartsAway) : s.compile.Nodup := by
  cases s with
  | circle radius => exact (Square.nodup_box radius).filter _
  | square size => exact (Square.nodup_box size).filter _
  | ray directions nearest farthest =>
      exact Offsets.nodup_ray directions (Int.ofNat_le.2 h) farthest
  | point delta => exact List.nodup_singleton delta
  | cone direction length => exact (Square.nodup_box (2 * length)).filter _
  | union parts => exact nodup_distinct _
  | intersect parts => exact Offsets.nodup_intersect _
  | subtract base cutters => exact nodup_distinct _
  | reflect axis parts => exact nodup_distinct _

theorem WellFormed.startsAway {s : Shape} (h : s.WellFormed) : s.StartsAway := by
  cases h with
  | ray named once away ordered => exact away
  | _ => exact trivial

end Shape

theorem ShapeSource.wellFormed_read {source : ShapeSource} {s : Shape} (h : source.read = .ok s) :
    s.WellFormed := by
  cases source with
  | text t => exact Shape.wellFormed_ofDocument h
  | object fields =>
      have hdocument : Shape.ofDocument (.ok (.object fields)) = .ok s := h
      exact Shape.wellFormed_ofDocument hdocument

theorem ShapeSource.nodup_read {source : ShapeSource} {s : Shape} (h : source.read = .ok s) :
    s.compile.Nodup :=
  Shape.nodup_compile (wellFormed_read h).startsAway

end Boardcraft
