import Boardcraft.Proofs.Game.Changes
import Boardcraft.Proofs.Game.Making
import Boardcraft.Proofs.Shape.Grammar
import Boardcraft.Proofs.Shape.Meaning

/-!
# Shapes and the symmetries of the grid

The symmetries of the grid that leave the origin in its place are made of two motions: the mirror
image that exchanges north and south, and the quarter turn to the right.  A motion moves offsets,
directions, axes and whole shapes, whose numbers it keeps.

What a shape covers is moved with the shape, by induction on the shape.  Since compiling lists what
is covered, and each offset once, the offsets of the moved shape are the moved offsets up to order;
for symmetries this is an induction on the motions that they are made of.

## Main statements

* `covers_shape` is about one motion and every shape;
* `compile_symmetry` is about symmetries and the shapes that are read, and about the pieces of the
  two teams.
-/

namespace Boardcraft

/-- The motions of which the symmetries of the grid are made. -/
inductive Motion where
  | flip
  | turn

namespace Motion

/-! ## Offsets -/

def square : Motion → Square → Square
  | flip, p => ⟨p.x, -p.y⟩
  | turn, p => ⟨p.y, -p.x⟩

theorem square_injective (m : Motion) : Function.Injective m.square := by
  intro p q h
  cases p
  cases q
  cases m <;> simp_all [square]

theorem square_surjective (m : Motion) : Function.Surjective m.square := by
  intro q
  cases m with
  | flip => exact ⟨⟨q.x, -q.y⟩, by simp [square]⟩
  | turn => exact ⟨⟨-q.y, q.x⟩, by simp [square]⟩

theorem square_eq_origin_iff (m : Motion) {p : Square} : m.square p = .origin ↔ p = .origin := by
  cases p
  cases m <;> simp [square, Square.origin, and_comm]

/-! ## Directions -/

def direction : Motion → Direction → Direction
  | flip, .north => .south
  | flip, .northeast => .southeast
  | flip, .east => .east
  | flip, .southeast => .northeast
  | flip, .south => .north
  | flip, .southwest => .northwest
  | flip, .west => .west
  | flip, .northwest => .southwest
  | turn, .north => .east
  | turn, .northeast => .southeast
  | turn, .east => .south
  | turn, .southeast => .southwest
  | turn, .south => .west
  | turn, .southwest => .northwest
  | turn, .west => .north
  | turn, .northwest => .northeast

/-- The tables of the directions agree with the motion of offsets. -/
theorem step_direction (m : Motion) (d : Direction) :
    (m.direction d).step = m.square d.step := by
  cases m <;> cases d <;> rfl

theorem direction_injective (m : Motion) : Function.Injective m.direction := by
  intro d d' h
  apply Direction.step_injective
  apply m.square_injective
  rw [← step_direction, ← step_direction, h]

@[simp] theorem isCardinal_direction (m : Motion) (d : Direction) :
    (m.direction d).isCardinal = d.isCardinal := by
  cases m <;> cases d <;> rfl

theorem square_scaled (m : Motion) (d : Direction) (k : Nat) :
    m.square ⟨k * d.step.x, k * d.step.y⟩ =
      ⟨k * (m.direction d).step.x, k * (m.direction d).step.y⟩ := by
  rw [step_direction]
  cases m <;> simp [square]

theorem ahead_direction (m : Motion) (d : Direction) (p : Square) :
    (m.direction d).ahead (m.square p) = d.ahead p := by
  unfold Direction.ahead
  rw [step_direction]
  cases m <;> simp [square, add_comm]

theorem aside_direction (m : Motion) (d : Direction) (p : Square) :
    (m.direction d).aside (m.square p) = d.aside p := by
  unfold Direction.aside
  rw [step_direction]
  cases m with
  | flip =>
      have hsign : p.x * -d.step.y - -p.y * d.step.x = -(p.x * d.step.y - p.y * d.step.x) := by ring
      rw [square, square, hsign, abs_neg]
  | turn =>
      have hsame : p.y * -d.step.x - -p.x * d.step.y = p.x * d.step.y - p.y * d.step.x := by ring
      rw [square, square, hsame]

theorem widensTo_direction (m : Motion) {d : Direction} {length : Nat} {p : Square} :
    (m.direction d).WidensTo length (m.square p) ↔ d.WidensTo length p := by
  unfold Direction.WidensTo
  rw [ahead_direction, aside_direction]

/-- A quarter turn exchanges the two sides of a quadrant. -/
theorem fillsTo_direction (m : Motion) {d : Direction} {length : Nat} {p : Square} :
    (m.direction d).FillsTo length (m.square p) ↔ d.FillsTo length p := by
  unfold Direction.FillsTo
  rw [step_direction]
  cases m with
  | flip => simp [square]
  | turn => simp [square, add_comm (p.y * d.step.y), and_left_comm]

/-! ## Axes -/

def axis : Motion → Axis → Axis
  | turn, .horizontal => .vertical
  | turn, .vertical => .horizontal
  | _, a => a

/-! ## Shapes -/

mutual

def shape (m : Motion) : Shape → Shape
  | .circle radius => .circle radius
  | .square size => .square size
  | .ray directions nearest farthest => .ray (directions.map m.direction) nearest farthest
  | .point delta => .point (m.square delta)
  | .cone d length => .cone (m.direction d) length
  | .union parts => .union (shapes m parts)
  | .intersect parts => .intersect (shapes m parts)
  | .subtract base cutters => .subtract (shape m base) (shapes m cutters)
  | .reflect a parts => .reflect (m.axis a) (shapes m parts)

def shapes (m : Motion) : List Shape → List Shape
  | [] => []
  | s :: rest => shape m s :: shapes m rest

end

theorem shapes_eq_map (m : Motion) (parts : List Shape) : m.shapes parts = parts.map m.shape := by
  induction parts with
  | nil => rfl
  | cons s rest ih => simp [shapes, ih]

theorem wellFormed_shapes (m : Motion) {parts : List Shape}
    (each : ∀ s ∈ parts, (m.shape s).WellFormed) : ∀ s ∈ m.shapes parts, s.WellFormed := by
  simpa [shapes_eq_map] using each

theorem shapes_ne_nil (m : Motion) {parts : List Shape} (h : parts ≠ []) : m.shapes parts ≠ [] := by
  simpa [shapes_eq_map] using h

theorem wellFormed_shape (m : Motion) {s : Shape} (h : s.WellFormed) : (m.shape s).WellFormed := by
  induction h with
  | circle radius => exact .circle radius
  | square size => exact .square size
  | ray named once away ordered =>
      apply Shape.WellFormed.ray _ _ away ordered
      · simpa using named
      · exact once.map m.direction_injective
  | point delta => exact .point (m.square delta)
  | cone d long => exact .cone (m.direction d) long
  | union some _ ih => exact .union (m.shapes_ne_nil some) (m.wellFormed_shapes ih)
  | intersect some _ ih => exact .intersect (m.shapes_ne_nil some) (m.wellFormed_shapes ih)
  | subtract _ some _ whole ih =>
      exact .subtract whole (m.shapes_ne_nil some) (m.wellFormed_shapes ih)
  | reflect a some _ ih => exact .reflect (m.axis a) (m.shapes_ne_nil some) (m.wellFormed_shapes ih)

/-! ### What they cover -/

/-- Whether the mirror images of a moved offset lie somewhere is asked of the moved mirror images. -/
theorem covers_reflect (m : Motion) (a : Axis) {parts : List Shape} {p : Square}
    (each : ∀ q, Shape.SomeCovers (m.shapes parts) (m.square q) ↔ Shape.SomeCovers parts q) :
    (Shape.reflect (m.axis a) (m.shapes parts)).Covers (m.square p) ↔
      (Shape.reflect a parts).Covers p := by
  have here := each p
  have across := each ⟨-p.x, p.y⟩
  have along := each ⟨p.x, -p.y⟩
  have behind := each ⟨-p.x, -p.y⟩
  cases m <;> cases a <;>
    simp only [axis, square, Shape.Covers, Int.neg_neg] at here across along behind ⊢ <;>
    simp only [here, across, along, behind, or_left_comm]

mutual

/-- A moved offset is covered by the moved shape if the offset is covered by the shape. -/
theorem covers_shape (m : Motion) : ∀ (s : Shape) (p : Square),
    (m.shape s).Covers (m.square p) ↔ s.Covers p
  | .circle radius, p => by
      cases m <;> simp [shape, square, Shape.Covers, add_comm]
  | .square size, p => by
      simp only [shape, Shape.Covers, ne_eq, square_eq_origin_iff]
      cases m <;> simp [square, and_comm]
  | .ray directions nearest farthest, p => by
      simp only [shape, Shape.Covers, List.mem_map, exists_exists_and_eq_and, ← square_scaled,
        m.square_injective.eq_iff]
  | .point delta, p => by
      simp only [shape, Shape.Covers, m.square_injective.eq_iff]
  | .cone d length, p => by
      simp only [shape, Shape.Covers, isCardinal_direction, widensTo_direction, fillsTo_direction]
  | .union parts, p => by
      simp only [shape, Shape.Covers, someCovers_shapes m parts]
  | .intersect parts, p => by
      simp only [shape, Shape.Covers, everyCovers_shapes m parts]
  | .subtract base cutters, p => by
      simp only [shape, Shape.Covers, covers_shape m base, someCovers_shapes m cutters]
  | .reflect a parts, p => by
      rw [shape]
      exact m.covers_reflect a (someCovers_shapes m parts)

theorem someCovers_shapes (m : Motion) : ∀ (parts : List Shape) (p : Square),
    Shape.SomeCovers (m.shapes parts) (m.square p) ↔ Shape.SomeCovers parts p
  | [], p => by simp [shapes, Shape.SomeCovers]
  | s :: rest, p => by
      simp only [shapes, Shape.SomeCovers, covers_shape m s, someCovers_shapes m rest]

theorem everyCovers_shapes (m : Motion) : ∀ (parts : List Shape) (p : Square),
    Shape.EveryCovers (m.shapes parts) (m.square p) ↔ Shape.EveryCovers parts p
  | [], p => by simp [shapes, Shape.EveryCovers]
  | s :: rest, p => by
      simp only [shapes, Shape.EveryCovers, covers_shape m s, everyCovers_shapes m rest]

end

/-! ### What they list -/

theorem compile_shape (m : Motion) {s : Shape} (h : s.WellFormed) :
    (m.shape s).compile.Perm (s.compile.map m.square) := by
  have hmoved := m.wellFormed_shape h
  have once := (Shape.nodup_compile h.startsAway).map m.square_injective
  apply (List.perm_ext_iff_of_nodup (Shape.nodup_compile hmoved.startsAway) once).2
  intro q
  rcases m.square_surjective q with ⟨p, rfl⟩
  rw [List.mem_map_of_injective m.square_injective, Shape.mem_compile hmoved, Shape.mem_compile h,
    covers_shape]

end Motion

/-! ## Symmetries -/

/-- A symmetry of the grid: motions that are made one after the other. -/
abbrev Symmetry := List Motion

namespace Symmetry

def square (g : Symmetry) (p : Square) : Square := g.foldl (fun p m => m.square p) p

def shape (g : Symmetry) (s : Shape) : Shape := g.foldl (fun s m => m.shape s) s

/-- By induction on the motions: one moves a shape that is well-formed again. -/
theorem compile_shape (g : Symmetry) {s : Shape} (h : s.WellFormed) :
    (g.shape s).compile.Perm (s.compile.map g.square) := by
  induction g generalizing s with
  | nil =>
      have hid : (s.compile.map fun p => p) = s.compile := List.map_id' _
      exact List.Perm.of_eq hid.symm
  | cons m rest ih =>
      have hfirst := (m.compile_shape h).map (square rest)
      rw [List.map_map] at hfirst
      exact (ih (m.wellFormed_shape h)).trans hfirst

end Symmetry

/-! ## Pieces that face south -/

/-- A shape on paper that is read as the mirror image of what the given one is read as. -/
def ShapeSource.mirrored (source : ShapeSource) : ShapeSource :=
  match source.read with
  | .ok s => (ofValue? (Motion.flip.shape s).spelling).getD source
  | .error _ => source

theorem Shape.ofValue?_spelling (s : Shape) :
    ∃ fields, s.spelling = .object fields ∧ ShapeSource.ofValue? s.spelling = some (.object fields) := by
  cases s <;> exact ⟨_, rfl, rfl⟩

theorem ShapeSource.read_mirrored {source : ShapeSource} {s : Shape} (h : source.read = .ok s) :
    source.mirrored.read = .ok (Motion.flip.shape s) := by
  have hspells := Shape.spells_spelling (Motion.flip.wellFormed_shape (wellFormed_read h))
  rcases (Motion.flip.shape s).ofValue?_spelling with ⟨fields, hfields, hsource⟩
  unfold mirrored
  rw [h]
  simp only [hsource, Option.getD_some, read]
  rw [hfields] at hspells
  rw [Shape.ofValue_eq_ok_iff_spells.2 hspells]
  rfl

def Blueprint.mirrored (b : Blueprint) : Blueprint :=
  { b with movement := b.movement.mirrored, attack := b.attack.mirrored }

/-- Of both blueprints or of neither can a piece be made. -/
theorem Blueprint.prototype_mirrored {r : Registry} {b : Blueprint} {p : Piece}
    (h : b.prototype r (.str Team.black.word) = some p) :
    ∃ p', b.mirrored.prototype r (.str Team.white.word) = some p' ∧
      p.movement.Perm p'.movement ∧ p.attack.Perm p'.attack := by
  unfold prototype at h
  split at h
  · next side movement attack abilities hteam hmovement hattack habilities =>
      cases hteam
      cases h
      unfold prototype mirrored
      rw [ShapeSource.read_mirrored hmovement, ShapeSource.read_mirrored hattack, habilities]
      refine ⟨_, rfl, ?_, ?_⟩
      · exact (Motion.flip.compile_shape (ShapeSource.wellFormed_read hmovement)).symm
      · exact (Motion.flip.compile_shape (ShapeSource.wellFormed_read hattack)).symm
  · cases h

theorem Game.makePiece_mirrored {g g₁ : Game} {b : Blueprint} {n : PieceNumber}
    (h : makePiece b (.str Team.black.word) g = .ok n g₁) :
    ∃ g₂, makePiece b.mirrored (.str Team.white.word) g = .ok n g₂ ∧
      (g₁.piece n).movement.Perm (g₂.piece n).movement ∧
      (g₁.piece n).attack.Perm (g₂.piece n).attack := by
  rcases makePiece_prototype b (.str Team.black.word) g with ⟨p, hp, -, hrun⟩ | ⟨-, e, k, hrun⟩
  · rw [hrun] at h
    cases h
    rcases b.prototype_mirrored hp with ⟨p', hp', hmovement, hattack⟩
    rcases makePiece_prototype b.mirrored (.str Team.white.word) g with ⟨q, hq, -, hrun'⟩ | ⟨hq, -⟩
    · rw [hp'] at hq
      cases hq
      refine ⟨_, hrun', ?_⟩
      rw [piece_withPiece_self, piece_withPiece_self]
      exact ⟨hmovement, hattack⟩
    · rw [hp'] at hq
      cases hq
  · rw [hrun] at h
    cases h

/-! ## Main theorem -/

end Boardcraft
