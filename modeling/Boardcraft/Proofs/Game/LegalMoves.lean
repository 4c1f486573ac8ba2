import Boardcraft.Proofs.Game.BuiltIn
import Boardcraft.Proofs.Grid.Line
import Boardcraft.Proofs.Shape.Compile

/-!
# The rule of legal moves

With built-in rules only, where a piece may move can be told from the board and from the piece
alone.  `CanMoveBy` is that rule, in which neither listeners nor events occur, and `moveRefusal` adds
why a move is refused.

The squares of a refusal are put into words although nobody reads them when legal moves are
listed.  If one of them has too many digits, the list is not given.

## Main statements

* `checkMove_of_builtIn` says that a check gives the refusal of the rule;
* `movesTellable_iff` says when every refusal can be put into words;
* `legalMoves_eq_filter` says that the legal moves are the offsets of the piece that meet the rule,
  in the order of the offsets and each once, and when there is no list.
-/

namespace Boardcraft
namespace Game

/-!
## The rule
-/

def WayClear (b : Board) (origin target : Square) : Prop :=
  Square.Aligned origin target →
    ∀ s, Square.StrictlyBetween origin target s → b.pieceAt s = none

/-- A piece may move by an offset that leads to another square of the board on which nothing
stands, provided that nothing holds the piece and that it jumps or finds its way clear. -/
structure CanMoveBy (g : Game) (n : PieceNumber) (o : Square) : Prop where
  away : o ≠ Square.origin
  onBoard : g.board.Holds (g.squareOf n + o)
  vacant : g.board.pieceAt (g.squareOf n + o) = none
  mobile : g.hasAbility n "Immobile" = false
  clear : g.hasAbility n "Jumping" = true ∨ WayClear g.board (g.squareOf n) (g.squareOf n + o)

theorem wayClear_iff {b : Board} {origin target : Square} :
    WayClear b origin target ↔ ∀ s ∈ Square.between origin target, b.isOccupied s = false := by
  unfold WayClear
  by_cases haligned : Square.Aligned origin target
  · constructor
    · intro h s hs
      exact Board.isOccupied_eq_false_iff.2
        (h haligned s ((Square.mem_between_iff haligned).1 hs))
    · intro h _ s hs
      exact Board.isOccupied_eq_false_iff.1 (h s ((Square.mem_between_iff haligned).2 hs))
  · rw [Square.between_of_not_aligned haligned]
    constructor
    · intro _ s hs
      cases hs
    · intro _ h
      exact absurd h haligned

instance (b : Board) (origin target : Square) : Decidable (WayClear b origin target) :=
  decidable_of_iff _ wayClear_iff.symm

theorem canMoveBy_iff {g : Game} {n : PieceNumber} {o : Square} :
    g.CanMoveBy n o ↔
      o ≠ Square.origin ∧ g.board.Holds (g.squareOf n + o) ∧
        g.board.pieceAt (g.squareOf n + o) = none ∧ g.hasAbility n "Immobile" = false ∧
        (g.hasAbility n "Jumping" = true ∨
          WayClear g.board (g.squareOf n) (g.squareOf n + o)) :=
  ⟨fun h => ⟨h.away, h.onBoard, h.vacant, h.mobile, h.clear⟩,
    fun h => ⟨h.1, h.2.1, h.2.2.1, h.2.2.2.1, h.2.2.2.2⟩⟩

instance (g : Game) (n : PieceNumber) (o : Square) : Decidable (g.CanMoveBy n o) :=
  decidable_of_iff _ canMoveBy_iff.symm

/-!
## The check
-/

theorem movePrecheck_eq_none_iff {g : Game} {n : PieceNumber} {target : Square} :
    g.movePrecheck n target = none ↔
      g.board.Holds target ∧ target ≠ g.squareOf n ∧ target ∈ g.movementTargets n := by
  unfold movePrecheck
  by_cases hon : g.board.Holds target
  · rw [if_neg (not_not.2 hon)]
    by_cases hsame : target = g.squareOf n
    · rw [if_pos hsame]
      exact iff_of_false (fun h => by cases h) fun h => h.2.1 hsame
    · rw [if_neg hsame, ← List.contains_iff_mem]
      cases hshape : (g.movementTargets n).contains target with
      | true => exact iff_of_true rfl ⟨hon, hsame, rfl⟩
      | false => exact iff_of_false (fun h => by cases h) fun h => by cases h.2.2
  · rw [if_pos hon]
    exact iff_of_false (fun h => by cases h) fun h => hon h.1

/-- What stands in the way of a move that nothing holds back: a piece between its ends, unless the
move is a jump, or a piece on its target. -/
def obstacle (g : Game) (jumps : Bool) (origin target : Square) : Option Refusal :=
  let blocker := if jumps then none else (Square.between origin target).find? g.board.isOccupied
  match blocker with
  | some square => some (.pathBlocked square)
  | none => if g.board.isOccupied target then some (.occupied target) else none

def moveRefusal (g : Game) (n : PieceNumber) (target : Square) : Option Refusal :=
  (g.movePrecheck n target).or <|
    if g.hasAbility n "Immobile" then some (.moveCancelled (g.piece n).id)
    else g.obstacle (g.hasAbility n "Jumping") (g.squareOf n) target

theorem moveVerdict_eq (g : Game) (context : Context) (n : PieceNumber) (origin target : Square) :
    g.moveVerdict context n origin target =
      if context.cancelled then some (.moveCancelled (g.piece n).id)
      else g.obstacle (context.flagIsSet Flag.ignorePathBlocking) origin target := rfl

theorem obstacle_eq_none_iff {g : Game} {jumps : Bool} {origin target : Square} :
    g.obstacle jumps origin target = none ↔
      (jumps = true ∨ WayClear g.board origin target) ∧ g.board.pieceAt target = none := by
  unfold obstacle
  rw [← Board.isOccupied_eq_false_iff]
  cases jumps with
  | true =>
      rw [if_pos rfl]
      dsimp only
      cases htarget : g.board.isOccupied target with
      | true => exact iff_of_false (fun h => by cases h) fun h => by cases h.2
      | false => exact iff_of_true rfl ⟨Or.inl rfl, rfl⟩
  | false =>
      rw [if_neg Bool.false_ne_true, wayClear_iff]
      cases hblocker : (Square.between origin target).find? g.board.isOccupied with
      | some s =>
          have hoccupied := List.find?_some hblocker
          refine iff_of_false (fun h => by cases h) ?_
          intro hrule
          rcases hrule with ⟨h | h, _⟩
          · cases h
          · rw [h s (List.mem_of_find?_eq_some hblocker)] at hoccupied
            cases hoccupied
      | none =>
          have hclear : ∀ s ∈ Square.between origin target, g.board.isOccupied s = false :=
            fun s hs => Bool.eq_false_iff.2 (List.find?_eq_none.1 hblocker s hs)
          dsimp only
          cases htarget : g.board.isOccupied target with
          | true => exact iff_of_false (fun h => by cases h) fun h => by cases h.2
          | false => exact iff_of_true rfl ⟨Or.inr hclear, rfl⟩

theorem moveRefusal_eq_none_iff {g : Game} {n : PieceNumber} {target : Square} :
    g.moveRefusal n target = none ↔
      g.movePrecheck n target = none ∧ g.hasAbility n "Immobile" = false ∧
        (g.hasAbility n "Jumping" = true ∨ WayClear g.board (g.squareOf n) target) ∧
        g.board.pieceAt target = none := by
  unfold moveRefusal
  rw [Option.or_eq_none_iff]
  refine and_congr Iff.rfl ?_
  cases g.hasAbility n "Immobile" with
  | true => exact iff_of_false (fun h => by cases h) fun h => by cases h.1
  | false =>
      rw [if_neg Bool.false_ne_true, obstacle_eq_none_iff]
      exact (and_iff_right rfl).symm

/-- Asked about a move, the abilities of the piece are the only ones with a say: one that holds the
piece cancels, and one that lets it jump sets the flag. -/
theorem announce_moveQuestion {g : Game} (h : Accounted g) (hbuiltIn : g.registry.BuiltIn)
    {n : PieceNumber} (hn : n ∈ g.inPlay) (target : Square) :
    ∃ context, announce (moveQuestion g n target) g = .ok context g ∧
      context.cancelled = g.hasAbility n "Immobile" ∧
      (context.cancelled = false →
        context.flagIsSet Flag.ignorePathBlocking = g.hasAbility n "Jumping") := by
  have hcancelled := cancelled_of_source h.heard hbuiltIn hn (c := moveQuestion g n target) rfl
  refine ⟨_, announce_of_builtIn h hbuiltIn _, hcancelled, ?_⟩
  intro hopen
  have hflag := flagIsSet_of_source h.heard hbuiltIn hn rfl
    (Rule.mem_builtin_iff.2 (Or.inr (Or.inl rfl))) (List.mem_singleton_self Event.moveValidate)
    Flag.ignorePathBlocking true (by decide) hopen
  change _ = if g.hasAbility n "Jumping" = true then true else false at hflag
  rwa [Bool.if_true_left, Bool.or_false, Bool.decide_eq_true] at hflag

theorem checkMove_of_builtIn {g : Game} (h : Accounted g) (hbuiltIn : g.registry.BuiltIn)
    {n : PieceNumber} (hn : n ∈ g.inPlay) (target : Square) :
    checkMove n target g = give (g.moveRefusal n target) g := by
  unfold moveRefusal
  cases hpre : g.movePrecheck n target with
  | some refusal => exact checkMove_of_movePrecheck_some hpre
  | none =>
      rcases announce_moveQuestion h hbuiltIn hn target with ⟨context, hrun, hcancelled, hflag⟩
      rw [checkMove_of_movePrecheck_none hpre, bind_of_eq_ok _ hrun, get_bind, Option.none_or,
        moveVerdict_eq, ← hcancelled]
      cases hfree : context.cancelled with
      | true => rfl
      | false => rw [hflag hfree]

/-!
## Words for refusals
-/

/-- Whether every refusal of a move of a piece can be put into words. -/
def movesTellable (g : Game) (n : PieceNumber) : Bool :=
  (g.movementTargets n).all fun target => (g.moveRefusal n target).all Refusal.isTellable

theorem mem_squares_of_movePrecheck {g : Game} {n : PieceNumber} {target : Square}
    {refusal : Refusal} (h : g.movePrecheck n target = some refusal) {s : Square}
    (hs : s ∈ refusal.squares) : s = target := by
  unfold movePrecheck at h
  split at h
  · cases h
    exact List.mem_singleton.1 hs
  · split at h
    · cases h
      exact List.mem_singleton.1 hs
    · split at h
      · cases h
        exact List.mem_singleton.1 hs
      · cases h

theorem mem_squares_of_obstacle {g : Game} {jumps : Bool} {origin target : Square}
    {refusal : Refusal} (h : g.obstacle jumps origin target = some refusal) {s : Square}
    (hs : s ∈ refusal.squares) :
    s = target ∨ s ∈ Square.between origin target ∧ g.board.isOccupied s = true := by
  unfold obstacle at h
  dsimp only at h
  split at h
  · next square hblocker =>
      cases h
      rw [List.mem_singleton.1 hs]
      cases jumps with
      | true => cases hblocker
      | false => exact Or.inr ⟨List.mem_of_find?_eq_some hblocker, List.find?_some hblocker⟩
  · split at h
    · cases h
      exact Or.inl (List.mem_singleton.1 hs)
    · cases h

theorem mem_squares_of_moveRefusal {g : Game} {n : PieceNumber} {target : Square}
    {refusal : Refusal} (h : g.moveRefusal n target = some refusal) {s : Square}
    (hs : s ∈ refusal.squares) :
    s = target ∨ s ∈ Square.between (g.squareOf n) target ∧ g.board.isOccupied s = true := by
  unfold moveRefusal at h
  cases hpre : g.movePrecheck n target with
  | some pre =>
      rw [hpre] at h
      cases h
      exact Or.inl (mem_squares_of_movePrecheck hpre hs)
  | none =>
      rw [hpre, Option.none_or] at h
      split at h
      · cases h
        cases hs
      · exact mem_squares_of_obstacle h hs

end Game

def Board.IsWritable (b : Board) : Prop := ∀ s, b.Holds s → s.isWritable = true

theorem Text.isWritable_iff {n : Int} :
    isWritable n = true ↔ n.natAbs < Nat.pow 10 numeralLimit := decide_eq_true_iff

theorem Board.isWritable_of_size {b : Board} (hwidth : b.width ≤ Nat.pow 10 Text.numeralLimit)
    (hheight : b.height ≤ Nat.pow 10 Text.numeralLimit) : b.IsWritable := by
  intro s hs
  rcases hs with ⟨⟨hx, hx'⟩, hy, hy'⟩
  rw [Square.isWritable, Bool.and_eq_true, Text.isWritable_iff, Text.isWritable_iff]
  omega

namespace Game

theorem isTellable_offBoard (s : Square) : (Refusal.offBoard s).isTellable = s.isWritable := by
  simp only [Refusal.isTellable, Refusal.squares, List.all_cons, List.all_nil, Bool.and_true]

theorem isTellable_of_squares {refusal : Refusal} (h : ∀ s ∈ refusal.squares, s.isWritable = true) :
    refusal.isTellable = true :=
  List.all_eq_true.2 h

theorem tellable_moveRefusal_iff {g : Game} (hg : Grounded g) (hboard : g.board.IsWritable)
    (n : PieceNumber) (target : Square) :
    (g.moveRefusal n target).all Refusal.isTellable = true ↔
      (¬ g.board.Holds target → target.isWritable = true) := by
  by_cases hon : g.board.Holds target
  · refine iff_of_true ?_ fun hoff => absurd hon hoff
    cases hrefusal : g.moveRefusal n target with
    | none => rfl
    | some refusal =>
        refine isTellable_of_squares fun s hs => hboard s ?_
        rcases mem_squares_of_moveRefusal hrefusal hs with rfl | ⟨_, htaken⟩
        · exact hon
        · rcases Option.isSome_iff_exists.1 htaken with ⟨m, hm⟩
          rw [← hg.square s m hm]
          exact hg.holds m (hg.inPlay s m hm)
  · have hrefusal : g.moveRefusal n target = some (.offBoard target) := by
      unfold moveRefusal movePrecheck
      rw [if_pos hon]
      rfl
    rw [hrefusal, Option.all_some, isTellable_offBoard, imp_iff_right hon]

theorem movesTellable_iff {g : Game} (hg : Grounded g) (hboard : g.board.IsWritable)
    (n : PieceNumber) :
    g.movesTellable n = true ↔
      ∀ s ∈ g.movementTargets n, ¬ g.board.Holds s → s.isWritable = true := by
  unfold movesTellable
  rw [List.all_eq_true]
  exact forall₂_congr fun s _ => tellable_moveRefusal_iff hg hboard n s

/-!
## All moves
-/

/-- If a check gives refusals by a rule, the squares that it lets pass are those that the rule
refuses nothing; there is no list if one of the refusals cannot be told. -/
theorem filterLegal_eq {check : Square → GameM (Option Refusal)} {g : Game}
    {rule : Square → Option Refusal} {l : List Square}
    (h : ∀ s ∈ l, check s g = give (rule s) g) :
    filterLegal check l g =
      if l.all (fun s => (rule s).all Refusal.isTellable) then
        .ok (l.filter fun s => (rule s).isNone) g
      else .error .oversizedNumber g := by
  induction l with
  | nil => rfl
  | cons s rest ih =>
      have hcheck := h s List.mem_cons_self
      have hrest := ih fun s' hs' => h s' (List.mem_cons_of_mem s hs')
      rw [filterLegal, List.all_cons]
      cases htold : (rule s).all Refusal.isTellable with
      | false =>
          rw [give_of_untellable htold] at hcheck
          rw [bind_of_eq_error _ hcheck]
          rfl
      | true =>
          rw [give_of_tellable htold] at hcheck
          rw [bind_of_eq_ok _ hcheck, Bool.true_and]
          cases hall : rest.all fun s' => (rule s').all Refusal.isTellable with
          | false =>
              rw [hall, if_neg Bool.false_ne_true] at hrest
              rw [bind_of_eq_error _ hrest]
              rfl
          | true =>
              rw [hall, if_pos rfl] at hrest
              rw [bind_of_eq_ok _ hrest, List.filter_cons]
              rfl

theorem moveRefusal_offset {g : Game} {n : PieceNumber} {o : Square}
    (ho : o ∈ (g.piece n).movement) :
    g.moveRefusal n (g.squareOf n + o) = none ↔ g.CanMoveBy n o := by
  rw [moveRefusal_eq_none_iff, movePrecheck_eq_none_iff, canMoveBy_iff, Ne, Square.add_eq_self_iff]
  have htarget : g.squareOf n + o ∈ g.movementTargets n := List.mem_map_of_mem ho
  constructor
  · intro hrule
    rcases hrule with ⟨⟨hon, haway, _⟩, hmobile, hclear, hvacant⟩
    exact ⟨haway, hon, hvacant, hmobile, hclear⟩
  · intro hrule
    rcases hrule with ⟨haway, hon, hvacant, hmobile, hclear⟩
    exact ⟨⟨hon, haway, htarget⟩, hmobile, hclear, hvacant⟩

def reachable (g : Game) (n : PieceNumber) : List Square :=
  ((g.piece n).movement.filter fun o => g.CanMoveBy n o).map (g.squareOf n + ·)

theorem filter_movementTargets (g : Game) (n : PieceNumber) :
    ((g.movementTargets n).filter fun s => (g.moveRefusal n s).isNone) = g.reachable n := by
  unfold movementTargets reachable
  rw [List.filter_map]
  refine congrArg (List.map _) (List.filter_congr fun o ho => ?_)
  rw [Function.comp_apply, Bool.eq_iff_iff, Option.isNone_iff_eq_none, moveRefusal_offset ho,
    decide_eq_true_iff]

theorem mem_reachable_iff {g : Game} {n : PieceNumber} {target : Square} :
    target ∈ g.reachable n ↔ g.moveRefusal n target = none := by
  rw [← filter_movementTargets, List.mem_filter, Option.isNone_iff_eq_none, and_iff_right_iff_imp,
    moveRefusal_eq_none_iff, movePrecheck_eq_none_iff]
  exact fun h => h.1.2.2

theorem legalMoves_of_builtIn {g : Game} (h : Accounted g) (hbuiltIn : g.registry.BuiltIn)
    {n : PieceNumber} (hn : n ∈ g.inPlay) :
    legalMoves n g =
      if g.movesTellable n then .ok (g.reachable n) g else .error .oversizedNumber g := by
  unfold legalMoves
  rw [get_bind, filterLegal_eq fun s _ => checkMove_of_builtIn h hbuiltIn hn s,
    filter_movementTargets]
  rfl

theorem nodup_oriented {source : ShapeSource} {team : Team} {offsets : List Square}
    (h : ∃ shape, source.read = .ok shape ∧ offsets = orient team shape.compile) :
    offsets.Nodup := by
  rcases h with ⟨shape, hread, rfl⟩
  cases team with
  | white => exact ShapeSource.nodup_read hread
  | black => exact Offsets.nodup_flipVertical (ShapeSource.nodup_read hread)

def DistinctOffsets (g : Game) : Prop :=
  ∀ n p, g.pieces.find? n = some p → p.movement.Nodup ∧ p.attack.Nodup

theorem PlainlyReached.distinctOffsets {g : Game} (h : PlainlyReached g) : DistinctOffsets g := by
  rcases h with ⟨start, ops, hfresh, _, rfl⟩
  refine pieces_run ?_ hfresh ops
  intro g blueprint team p made
  exact ⟨nodup_oriented made.movement, nodup_oriented made.attack⟩

theorem PlainlyReached.nodup_movement {g : Game} (h : PlainlyReached g) {n : PieceNumber}
    (hn : n ∈ g.inPlay) : (g.piece n).movement.Nodup :=
  (h.distinctOffsets n _ (h.accounted.numbered.find?_piece hn)).1

theorem PlainlyReached.nodup_attack {g : Game} (h : PlainlyReached g) {n : PieceNumber}
    (hn : n ∈ g.inPlay) : (g.piece n).attack.Nodup :=
  (h.distinctOffsets n _ (h.accounted.numbered.find?_piece hn)).2

/-- With built-in rules, the legal moves of a piece in play are the squares to which its offsets
lead it by the rule, in the order of the offsets and each once.  Asking for them leaves the game as
it was.  There is no list if a refusal on the way cannot be put into words; if every square of the
board can be written, that is so if an offset leads off the board to a square that cannot. -/
theorem legalMoves_eq_filter {g : Game} (h : PlainlyReached g) {n : PieceNumber}
    (hn : n ∈ g.inPlay) :
    (legalMoves n g =
      if g.movesTellable n then
        .ok (((g.piece n).movement.filter fun o => g.CanMoveBy n o).map (g.squareOf n + ·)) g
      else .error .oversizedNumber g) ∧
    (((g.piece n).movement.filter fun o => g.CanMoveBy n o).map (g.squareOf n + ·)).Nodup ∧
    (g.board.IsWritable →
      (g.movesTellable n = true ↔
        ∀ o ∈ (g.piece n).movement, ¬ g.board.Holds (g.squareOf n + o) →
          (g.squareOf n + o).isWritable = true)) := by
  refine ⟨legalMoves_of_builtIn h.accounted h.builtIn hn, ?_, ?_⟩
  · exact ((h.nodup_movement hn).filter _).map (Square.add_right_injective (g.squareOf n))
  · intro hboard
    rw [movesTellable_iff h.grounded hboard]
    exact List.forall_mem_map

/-- A walker in the corner, which another of its team keeps from moving along the diagonal. -/
def cornered : List Operation :=
  [.add (walker []) (.str "white") ⟨0, 0⟩,
    .add (walker [{ name := "Immobile" }]) (.str "white") ⟨1, 1⟩]

theorem legalMoves_of_cornered :
    PlainlyReached ((usual .standard).run cornered) ∧
    1 ∈ ((usual .standard).run cornered).inPlay ∧
    legalMoves 1 ((usual .standard).run cornered) =
      .ok [⟨0, 1⟩, ⟨1, 0⟩] ((usual .standard).run cornered) := by
  have hreached : PlainlyReached ((usual .standard).run cornered) :=
    ⟨usual .standard, cornered, fresh_usual .standard, Registry.builtIn_standard, rfl⟩
  have hmem : 1 ∈ ((usual .standard).run cornered).inPlay := by decide +kernel
  have hsquares : ((((usual .standard).run cornered).piece 1).movement.filter fun o =>
      ((usual .standard).run cornered).CanMoveBy 1 o).map
        (((usual .standard).run cornered).squareOf 1 + ·) = [⟨0, 1⟩, ⟨1, 0⟩] := by decide +kernel
  have htold : ((usual .standard).run cornered).movesTellable 1 = true := by decide +kernel
  have hmoves := (legalMoves_eq_filter hreached hmem).1
  rw [hsquares, if_pos htold] at hmoves
  exact ⟨hreached, hmem, hmoves⟩

/-- A shape of one offset, which leads east as far as a numeral can say. -/
def farEast : Fields :=
  [("kind", .str "point"),
    ("delta", .object [("x", .int (Nat.pow 10 Text.numeralLimit - 1 : Nat)), ("y", .int 0)])]

/-- A piece that reaches as far as can be said, from a square where that leads beyond. -/
def overreaching : List Operation :=
  [.add { walker [] with movement := .object farEast, attack := .object farEast } (.str "white")
    ⟨1, 0⟩]

theorem plainlyReached_overreaching : PlainlyReached ((usual .standard).run overreaching) :=
  ⟨usual .standard, overreaching, fresh_usual .standard, Registry.builtIn_standard, rfl⟩

theorem mem_inPlay_overreaching : 1 ∈ ((usual .standard).run overreaching).inPlay := by
  decide +kernel

theorem legalMoves_of_overreaching :
    ¬ ∀ (g : Game) (n : PieceNumber), PlainlyReached g → n ∈ g.inPlay →
      ∃ squares, legalMoves n g = .ok squares g := by
  intro hlisted
  rcases hlisted _ 1 plainlyReached_overreaching mem_inPlay_overreaching with ⟨squares, hmoves⟩
  have huntold : ¬ ((usual .standard).run overreaching).movesTellable 1 = true := by decide +kernel
  rw [legalMoves_of_builtIn plainlyReached_overreaching.accounted
    plainlyReached_overreaching.builtIn mem_inPlay_overreaching, if_neg huntold] at hmoves
  cases hmoves

end Game
end Boardcraft
