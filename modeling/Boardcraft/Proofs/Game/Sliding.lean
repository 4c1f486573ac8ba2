import Boardcraft.Proofs.Game.Victory

/-!
# Sliding pieces

A piece whose movement is a ray lists the squares that it could reach if nothing stood in its way,
and asks of each whether the way there is clear.  The same squares are found by walking: step by
step in each of the directions, until the walk meets the edge of the board or another piece.

The two agree because the way to a square of a ray is made of the squares that the walk visits
before.  So the legal squares of one direction are the first ones, up to the first that is taken or
missing.

## Main statements

* `canMoveBy_advance_iff` says what the rule of legal moves comes to on a ray;
* `legalMoves_eq_slide` says that the legal moves of a piece are what the walks visit.
-/

namespace Boardcraft

/-- A board holds the way between two squares of one line that it holds. -/
theorem Board.holds_advance {b : Board} {step : Square} (h : step.IsStep) {a : Square} {i k : Nat}
    (hik : i ≤ k) (ha : b.Holds a) (hk : b.Holds (a.advance step k)) :
    b.Holds (a.advance step i) := by
  have hx := Square.within_of_steps h.x a.x hik
  have hy := Square.within_of_steps h.y a.y hik
  simp only [Board.Holds, Square.advance_x, Square.advance_y] at ha hk ⊢
  omega

/-! ## Walks -/

def Board.Free (b : Board) (s : Square) : Prop := b.Holds s ∧ b.pieceAt s = none

instance (b : Board) (s : Square) : Decidable (b.Free s) := inferInstanceAs (Decidable (_ ∧ _))

/-- The squares that a walk of equal steps visits before it meets one that is not free. -/
def Board.slide (b : Board) (step : Square) : Nat → Square → List Square
  | 0, _ => []
  | k + 1, s => if b.Free (s + step) then (s + step) :: b.slide step k (s + step) else []

def Direction.stepFor (d : Direction) : Team → Square
  | .white => d.step
  | .black => d.step.flipY

theorem Direction.isStep_stepFor (d : Direction) (team : Team) : (d.stepFor team).IsStep := by
  cases team <;> cases d <;> constructor <;> decide

/-- By induction on the steps that are left. -/
theorem Board.slide_advance (b : Board) (a step : Square) (j k : Nat) :
    b.slide step k (a.advance step j) =
      ((List.range' (j + 1) k).takeWhile fun i => b.Free (a.advance step i)).map
        (a.advance step) := by
  induction k generalizing j with
  | zero => rfl
  | succ k ih =>
      rw [slide, Square.advance_succ, List.range'_succ, List.takeWhile_cons]
      split <;> simp_all

theorem Board.slide_eq (b : Board) (a step : Square) (k : Nat) :
    b.slide step k a =
      ((List.range' 1 k).takeWhile fun i => b.Free (a.advance step i)).map (a.advance step) := by
  simpa using b.slide_advance a step 0 k

/-- Steps from a square that lead over free squares only. -/
def Board.ClearTo (b : Board) (a step : Square) (k : Nat) : Prop :=
  ∀ i, i ≤ k → 1 ≤ i → b.Free (a.advance step i)

instance (b : Board) (a step : Square) : DecidablePred (b.ClearTo a step) :=
  fun k => inferInstanceAs (Decidable (∀ i, i ≤ k → 1 ≤ i → b.Free (a.advance step i)))

/-- The first of a run of numbers that have a property are those up to which all have it. -/
theorem takeWhile_range'_eq_filter {p : Nat → Bool} {first : Nat} (n : Nat) :
    (List.range' first n).takeWhile p =
      (List.range' first n).filter fun k => ∀ i, i ≤ k → first ≤ i → p i := by
  induction n generalizing first with
  | zero => rfl
  | succ n ih =>
      rw [List.range'_succ, List.takeWhile_cons]
      cases hfirst : p first with
      | true =>
          have hhead : ∀ i, i ≤ first → first ≤ i → p i = true := by
            intro i hle hge
            rw [Nat.le_antisymm hle hge, hfirst]
          rw [List.filter_cons_of_pos (by simpa using hhead), ih]
          simp only [if_true, List.cons.injEq, true_and]
          apply List.filter_congr
          intro k hk
          have hlt := (List.mem_range'_1.1 hk).1
          simp only [decide_eq_decide]
          constructor
          · intro h i hle hge
            rcases Nat.eq_or_lt_of_le hge with rfl | hgt
            · exact hfirst
            · exact h i hle hgt
          · intro h i hle hge
            exact h i hle (by omega)
      | false =>
          have hnone : ∀ k ∈ first :: List.range' (first + 1) n,
              ¬ ∀ i, i ≤ k → first ≤ i → p i = true := by
            intro k hk h
            have hge : first ≤ k := by
              rcases List.mem_cons.1 hk with rfl | hk
              · exact le_rfl
              · have := (List.mem_range'_1.1 hk).1
                omega
            rw [h first hge le_rfl] at hfirst
            cases hfirst
          rw [List.filter_eq_nil_iff.2 (by simpa using hnone)]
          rfl

theorem Board.slide_eq_filter (b : Board) (a step : Square) (k : Nat) :
    b.slide step k a =
      ((List.range' 1 k).filter fun i => b.ClearTo a step i).map (a.advance step) := by
  rw [slide_eq, takeWhile_range'_eq_filter]
  simp only [decide_eq_true_eq]
  rfl

/-- Leaving out the first squares of a walk leaves the squares of the later steps. -/
theorem Board.drop_slide (b : Board) (a step : Square) {nearest farthest : Nat}
    (away : 1 ≤ nearest) (ordered : nearest ≤ farthest) :
    (b.slide step farthest a).drop (nearest - 1) =
      ((List.range' nearest (farthest + 1 - nearest)).filter fun k => b.ClearTo a step k).map
        (a.advance step) := by
  have hsplit : List.range' 1 farthest =
      List.range' 1 (nearest - 1) ++ List.range' nearest (farthest + 1 - nearest) := by
    have happend : List.range' 1 (nearest - 1) ++ List.range' (1 + 1 * (nearest - 1))
        (farthest + 1 - nearest) = List.range' 1 (nearest - 1 + (farthest + 1 - nearest)) :=
      List.range'_append
    have hstart : 1 + 1 * (nearest - 1) = nearest := by omega
    have hlength : nearest - 1 + (farthest + 1 - nearest) = farthest := by omega
    rw [hstart, hlength] at happend
    exact happend.symm
  rw [slide_eq_filter, ← List.map_drop, hsplit, List.filter_append]
  congr 1
  by_cases hclear : b.ClearTo a step (nearest - 1)
  · have hall : (List.range' 1 (nearest - 1)).filter (fun k => b.ClearTo a step k) =
        List.range' 1 (nearest - 1) := by
      apply List.filter_eq_self.2
      intro k hk
      have hle := (List.mem_range'_1.1 hk).2
      exact decide_eq_true fun i hik hi => hclear i (by omega) hi
    rw [hall]
    exact List.drop_left' List.length_range'
  · have hnone : (List.range' nearest (farthest + 1 - nearest)).filter
        (fun k => b.ClearTo a step k) = [] := by
      apply List.filter_eq_nil_iff.2
      intro k hk hfar
      have hge := (List.mem_range'_1.1 hk).1
      exact hclear fun i hik hi => of_decide_eq_true hfar i (by omega) hi
    rw [hnone, List.append_nil]
    apply List.drop_eq_nil_of_le
    exact (List.length_filter_le _ _).trans_eq List.length_range'

/-! ## Rays -/

theorem Square.add_advance (a step : Square) (k : Nat) :
    a + origin.advance step k = a.advance step k := by
  apply Square.ext <;> simp [origin]

/-- The directions of a ray, each with the numbers of steps that it allows. -/
def stepsOf (dirs : List Direction) (nearest farthest : Nat) : List (Direction × Nat) :=
  dirs.flatMap fun d => (List.range' nearest (farthest + 1 - nearest)).map fun k => (d, k)

theorem le_of_mem_stepsOf {dirs : List Direction} {nearest farthest : Nat} {way : Direction × Nat}
    (h : way ∈ stepsOf dirs nearest farthest) : nearest ≤ way.2 := by
  rcases List.mem_flatMap.1 h with ⟨d, -, hway⟩
  rcases List.mem_map.1 hway with ⟨k, hk, rfl⟩
  exact (List.mem_range'_1.1 hk).1

theorem Square.run_natCast (first last : Nat) :
    run first last = (List.range' first (last + 1 - first)).map fun (k : Nat) => (k : Int) := by
  have hlength : ((last : Int) + 1 - first).toNat = last + 1 - first := by omega
  rw [run, hlength, List.range'_eq_map_range, List.map_map]
  simp

theorem Offsets.along_eq_advance (d : Direction) (k : Nat) :
    along d k = Square.origin.advance (d.stepFor .white) k := by
  simp [along, Square.advance, Square.origin, Direction.stepFor, mul_comm]

theorem Offsets.flipY_along (d : Direction) (k : Nat) :
    (along d k).flipY = Square.origin.advance (d.stepFor .black) k := by
  simp [along, Square.advance, Square.origin, Direction.stepFor, Square.flipY, mul_comm]

theorem Game.orient_ray (team : Team) {dirs : List Direction} (once : dirs.Nodup)
    (nearest farthest : Nat) :
    orient team (Shape.ray dirs nearest farthest).compile =
      (stepsOf dirs nearest farthest).map fun way =>
        Square.origin.advance (way.1.stepFor team) way.2 := by
  cases team with
  | white =>
      simp only [orient, Shape.compile, Offsets.ray, distinct_of_nodup once, Square.run_natCast,
        stepsOf, List.map_flatMap, List.map_map, Function.comp_def, Offsets.along_eq_advance]
  | black =>
      simp only [orient, Shape.compile, Offsets.flipVertical, Offsets.ray, distinct_of_nodup once,
        Square.run_natCast, stepsOf, List.map_flatMap, List.map_map, Function.comp_def,
        Offsets.flipY_along]

/-! ## The rule on a ray -/

namespace Game

section Ray

variable {g : Game} {n : PieceNumber} (hn : n ∈ g.inPlay)
  (mobile : g.hasAbility n "Immobile" = false) (bound : g.hasAbility n "Jumping" = false)

include hn mobile bound

/-- On a ray the rule of legal moves asks for free squares from the first step to the last. -/
theorem canMoveBy_advance_iff (hg : Grounded g) {step : Square} (hstep : step.IsStep) {k : Nat}
    (hk : 1 ≤ k) :
    g.CanMoveBy n (Square.origin.advance step k) ↔ g.board.ClearTo (g.squareOf n) step k := by
  have hway : WayClear g.board (g.squareOf n) ((g.squareOf n).advance step k) ↔
      ∀ i, 0 < i → i < k → g.board.pieceAt ((g.squareOf n).advance step i) = none := by
    rw [wayClear_iff]
    constructor
    · intro h i hpos hlt
      have hbetween := (hstep.mem_between_advance (g.squareOf n) hk).2 ⟨i, hpos, hlt, rfl⟩
      exact Board.isOccupied_eq_false_iff.1 (h _ hbetween)
    · intro h s hs
      rcases (hstep.mem_between_advance (g.squareOf n) hk).1 hs with ⟨i, hpos, hlt, rfl⟩
      exact Board.isOccupied_eq_false_iff.2 (h i hpos hlt)
  rw [canMoveBy_iff, Square.add_advance, hway, mobile, bound]
  constructor
  · intro hrule i hik hi
    rcases hrule with ⟨-, hon, hvacant, -, h | hclear⟩
    · cases h
    · constructor
      · exact Board.holds_advance hstep hik (hg.holds n hn) hon
      · rcases Nat.eq_or_lt_of_le hik with rfl | hlt
        · exact hvacant
        · exact hclear i hi hlt
  · intro hclear
    have hlast := hclear k le_rfl hk
    refine ⟨?_, hlast.1, hlast.2, rfl, Or.inr ?_⟩
    · intro heq
      have hzero := Square.advance_injective .origin hstep.ne_origin
        (heq.trans (Square.advance_zero .origin step).symm)
      omega
    · intro i hi hlt
      exact (hclear i hlt.le hi).2

theorem reachable_eq_slide (hg : Grounded g) {dirs : List Direction} (once : dirs.Nodup)
    {nearest farthest : Nat} (away : 1 ≤ nearest) (ordered : nearest ≤ farthest)
    (hray : (g.piece n).movement =
      orient (g.piece n).team (Shape.ray dirs nearest farthest).compile) :
    g.reachable n = dirs.flatMap fun d =>
      (g.board.slide (d.stepFor (g.piece n).team) farthest (g.squareOf n)).drop (nearest - 1) := by
  have hrule : ∀ way ∈ stepsOf dirs nearest farthest,
      decide (g.CanMoveBy n (Square.origin.advance (way.1.stepFor (g.piece n).team) way.2)) =
        decide (g.board.ClearTo (g.squareOf n) (way.1.stepFor (g.piece n).team) way.2) := by
    intro way hway
    have hfar : 1 ≤ way.2 := le_trans away (le_of_mem_stepsOf hway)
    rw [decide_eq_decide]
    exact canMoveBy_advance_iff hn mobile bound hg (way.1.isStep_stepFor _) hfar
  unfold reachable
  rw [hray, orient_ray _ once, List.filter_map, List.map_map]
  simp only [Function.comp_def]
  rw [List.filter_congr hrule]
  simp only [g.board.drop_slide _ _ away ordered, stepsOf, List.filter_flatMap, List.filter_map,
    List.map_flatMap, List.map_map, Function.comp_def, Square.add_advance]

omit hn mobile bound in
theorem mem_stepsOf_iff {dirs : List Direction} {nearest farthest : Nat} {way : Direction × Nat} :
    way ∈ stepsOf dirs nearest farthest ↔
      way.1 ∈ dirs ∧ nearest ≤ way.2 ∧ way.2 ≤ farthest := by
  rcases way with ⟨d, k⟩
  simp only [stepsOf, List.mem_flatMap, List.mem_map, List.mem_range'_1, Prod.mk.injEq]
  constructor
  · rintro ⟨d', hd, k', hk, rfl, rfl⟩
    exact ⟨hd, hk.1, by omega⟩
  · intro h
    exact ⟨d, h.1, k, ⟨h.2.1, by omega⟩, rfl, rfl⟩

/-- The offsets of a ray are checked one by one; which of them pass, the walks tell.  There is no list
if a refusal on the way cannot be put into words; if every square of the board can be written, that is
so if a step of the ray leads off the board to a square that cannot. -/
theorem legalMoves_eq_slide (h : PlainlyReached g) {dirs : List Direction} (once : dirs.Nodup)
    {nearest farthest : Nat} (away : 1 ≤ nearest) (ordered : nearest ≤ farthest)
    (hray : (g.piece n).movement =
      orient (g.piece n).team (Shape.ray dirs nearest farthest).compile) :
    (legalMoves n g =
      if g.movesTellable n then
        .ok (dirs.flatMap fun d =>
          (g.board.slide (d.stepFor (g.piece n).team) farthest (g.squareOf n)).drop (nearest - 1)) g
      else .error .oversizedNumber g) ∧
    (g.board.IsWritable →
      (g.movesTellable n = true ↔
        ∀ d ∈ dirs, ∀ k, nearest ≤ k → k ≤ farthest →
          ¬ g.board.Holds ((g.squareOf n).advance (d.stepFor (g.piece n).team) k) →
          ((g.squareOf n).advance (d.stepFor (g.piece n).team) k).isWritable = true)) := by
  constructor
  · rw [← reachable_eq_slide hn mobile bound h.grounded once away ordered hray]
    exact legalMoves_of_builtIn h.accounted h.builtIn hn
  · intro hboard
    rw [movesTellable_iff h.grounded hboard, movementTargets, hray, orient_ray _ once]
    simp only [List.forall_mem_map, Square.add_advance, mem_stepsOf_iff, Prod.forall]
    exact ⟨fun htold d hd k hnear hfar => htold d k ⟨hd, hnear, hfar⟩,
      fun htold d k hway => htold d hway.1 k hway.2.1 hway.2.2⟩

end Ray

/-- A black piece that slides two to five squares ahead or to the east, and a piece in its way. -/
def lane : List Operation :=
  [.add { walker [] with movement := .object slider } (.str "black") ⟨1, 6⟩,
    .add (walker []) (.str "white") ⟨1, 2⟩]
where
  slider : Fields :=
    [("kind", .str "ray"), ("dirs", .list [.str "N", .str "E"]), ("min", .int 2), ("max", .int 5)]

theorem legalMoves_on_lane :
    legalMoves 1 ((usual .standard).run lane) =
      .ok [⟨1, 4⟩, ⟨1, 3⟩, ⟨3, 6⟩, ⟨4, 6⟩, ⟨5, 6⟩, ⟨6, 6⟩] ((usual .standard).run lane) := by
  have hreached : PlainlyReached ((usual .standard).run lane) :=
    ⟨usual .standard, lane, fresh_usual .standard, Registry.builtIn_standard, rfl⟩
  have hwalks : ([Direction.north, .east].flatMap fun d =>
      (((usual .standard).run lane).board.slide
        (d.stepFor (((usual .standard).run lane).piece 1).team) 5
        (((usual .standard).run lane).squareOf 1)).drop (2 - 1)) =
      [⟨1, 4⟩, ⟨1, 3⟩, ⟨3, 6⟩, ⟨4, 6⟩, ⟨5, 6⟩, ⟨6, 6⟩] := by decide +kernel
  have hray : (((usual .standard).run lane).piece 1).movement =
      orient (((usual .standard).run lane).piece 1).team
        (Shape.ray [.north, .east] 2 5).compile := by decide +kernel
  have htold : ((usual .standard).run lane).movesTellable 1 = true := by decide +kernel
  have hmoves := (legalMoves_eq_slide (by decide +kernel) (by decide +kernel) (by decide +kernel)
    hreached (by decide) (by decide) (by decide) hray).1
  rw [hwalks, if_pos htold] at hmoves
  exact hmoves

/-- A piece that slides to the east, but not less far than can be said, from a square where that leads
beyond. -/
def longLane : List Operation :=
  [.add { walker [] with movement := .object farSlider } (.str "white") ⟨1, 0⟩]
where
  farSlider : Fields :=
    [("kind", .str "ray"), ("dirs", .list [.str "E"]),
      ("min", .int (Nat.pow 10 Text.numeralLimit - 1 : Nat)),
      ("max", .int (Nat.pow 10 Text.numeralLimit - 1 : Nat))]

theorem legalMoves_on_longLane :
    PlainlyReached ((usual .standard).run longLane) ∧
    1 ∈ ((usual .standard).run longLane).inPlay ∧
    ((usual .standard).run longLane).hasAbility 1 "Immobile" = false ∧
    ((usual .standard).run longLane).hasAbility 1 "Jumping" = false ∧
    (((usual .standard).run longLane).piece 1).movement =
      orient .white (Shape.ray [.east] (Nat.pow 10 Text.numeralLimit - 1)
        (Nat.pow 10 Text.numeralLimit - 1)).compile ∧
    ¬ ∃ squares, legalMoves 1 ((usual .standard).run longLane) =
      .ok squares ((usual .standard).run longLane) := by
  have hreached : PlainlyReached ((usual .standard).run longLane) :=
    ⟨usual .standard, longLane, fresh_usual .standard, Registry.builtIn_standard, rfl⟩
  have hmem : 1 ∈ ((usual .standard).run longLane).inPlay := by decide +kernel
  have huntold : ¬ ((usual .standard).run longLane).movesTellable 1 = true := by decide +kernel
  refine ⟨hreached, hmem, by decide +kernel, by decide +kernel, by decide +kernel, ?_⟩
  intro hlisted
  rcases hlisted with ⟨squares, hmoves⟩
  rw [legalMoves_of_builtIn hreached.accounted hreached.builtIn hmem, if_neg huntold] at hmoves
  cases hmoves

end Game
end Boardcraft
