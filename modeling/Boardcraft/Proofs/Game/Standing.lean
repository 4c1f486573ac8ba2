import Boardcraft.Proofs.Board
import Boardcraft.Proofs.Game.Identity

/-!
# Where pieces stand

The roster, the cells of the board and the squares that pieces remember are three copies of one
fact.  Two invariants tie them together.  `Grounded` holds in every run, also where a piece was put
on a square that was taken: what stands on a square is in play and remembers that square.
`Settled` adds the converse, that every piece in play is held by the board on the square that it
remembers.  A run keeps it as long as pieces come onto squares that are vacant.

## Main statements

* `grounded_run` says that every run keeps the first invariant;
* `settled_run` says that a run that brings pieces onto vacant squares keeps the second;
* `board_agrees_with_roster` reads off what both say about the pieces in play.
-/

namespace Boardcraft
namespace Game

/-- What stands on a square is in play and remembers the square, and what is in play remembers a
square of the board. -/
structure Grounded (g : Game) : Prop where
  inPlay : ∀ s n, g.board.pieceAt s = some n → n ∈ g.inPlay
  square : ∀ s n, g.board.pieceAt s = some n → g.squareOf n = s
  holds : ∀ n, n ∈ g.inPlay → g.board.Holds (g.squareOf n)

def AllHeld (g : Game) : Prop := ∀ n, n ∈ g.inPlay → g.board.pieceAt (g.squareOf n) = some n

/-!
## Bringing a piece into play
-/

section Adding

variable {g : Game} {p : Piece} {stem : Text} {square : Square}

theorem pieceAt_withPieceOn (s : Square) :
    (g.withPieceOn p square).board.pieceAt s =
      if square = s then some (g.pieceCount + 1) else g.board.pieceAt s :=
  Board.pieceAt_put g.board (g.pieceCount + 1) square s

theorem squareOf_withPieceOn (n : PieceNumber) :
    (g.withPieceOn p square).squareOf n =
      if g.pieceCount + 1 = n then square else g.squareOf n :=
  Board.squareOf_put g.board (g.pieceCount + 1) n square

theorem squareOf_withPieceOn_of_mem (hg : Numbered g) {n : PieceNumber} (hn : n ∈ g.inPlay) :
    (g.withPieceOn p square).squareOf n = g.squareOf n := by
  rw [squareOf_withPieceOn, if_neg ?_]
  intro heq
  subst heq
  exact hg.not_mem_next hn

theorem grounded_withPieceOn (hg : Numbered g) (h : Grounded g)
    (hid : p.id = stem ++ "-" ++ toString (g.pieceCount + 1)) (on : g.board.Holds square) :
    Grounded (g.withPieceOn p square) := by
  constructor
  · intro s n hs
    rw [pieceAt_withPieceOn] at hs
    rw [inPlay_withPieceOn hg hid, List.mem_append]
    split at hs
    · injection hs with hs
      exact Or.inr (List.mem_singleton.2 hs.symm)
    · exact Or.inl (h.inPlay s n hs)
  · intro s n hs
    rw [pieceAt_withPieceOn] at hs
    split at hs
    · next heq =>
        injection hs with hs
        rw [squareOf_withPieceOn, if_pos hs]
        exact heq
    · rw [squareOf_withPieceOn_of_mem hg (h.inPlay s n hs)]
      exact h.square s n hs
  · intro n hn
    rw [inPlay_withPieceOn hg hid, List.mem_append, List.mem_singleton] at hn
    rcases hn with hn | rfl
    · rw [squareOf_withPieceOn_of_mem hg hn]
      exact h.holds n hn
    · rw [squareOf_withPieceOn, if_pos rfl]
      exact on

theorem allHeld_withPieceOn (hg : Numbered g) (h : AllHeld g)
    (hid : p.id = stem ++ "-" ++ toString (g.pieceCount + 1))
    (vacant : g.board.pieceAt square = none) : AllHeld (g.withPieceOn p square) := by
  intro n hn
  rw [inPlay_withPieceOn hg hid, List.mem_append, List.mem_singleton] at hn
  rcases hn with hn | rfl
  · rw [squareOf_withPieceOn_of_mem hg hn, pieceAt_withPieceOn, if_neg ?_]
    · exact h n hn
    · intro heq
      have hheld := h n hn
      rw [← heq, vacant] at hheld
      cases hheld
  · rw [squareOf_withPieceOn, if_pos rfl, pieceAt_withPieceOn, if_pos rfl]

theorem grounded_add (g : Game) (blueprint : Blueprint) (team : Value) (square : Square)
    (hg : Numbered g) (h : Grounded g) :
    Grounded (g.after (addPiece blueprint team square)) := by
  have hadd := adds_after g blueprint team square
  generalize g.after (addPiece blueprint team square) = g' at hadd ⊢
  cases hadd with
  | unmade k => exact ⟨h.inPlay, h.square, h.holds⟩
  | offBoard made _ => exact ⟨h.inPlay, h.square, h.holds⟩
  | placed made on => exact grounded_withPieceOn hg h made.id on

theorem allHeld_add (g : Game) (blueprint : Blueprint) (team : Value) (square : Square)
    (hg : Numbered g) (h : AllHeld g) (vacant : g.board.pieceAt square = none) :
    AllHeld (g.after (addPiece blueprint team square)) := by
  have hadd := adds_after g blueprint team square
  generalize g.after (addPiece blueprint team square) = g' at hadd ⊢
  cases hadd with
  | unmade k => exact h
  | offBoard made _ => exact h
  | placed made on => exact allHeld_withPieceOn hg h made.id vacant

theorem pieceAt_add_of_ne (g : Game) (blueprint : Blueprint) (team : Value) {square s : Square}
    (hne : square ≠ s) :
    (g.after (addPiece blueprint team square)).board.pieceAt s = g.board.pieceAt s := by
  have hadd := adds_after g blueprint team square
  generalize g.after (addPiece blueprint team square) = g' at hadd ⊢
  cases hadd with
  | unmade k => rfl
  | offBoard made _ => rfl
  | placed made on => rw [pieceAt_withPieceOn, if_neg hne]

end Adding

/-!
## Taking a piece out of play
-/

section Removing

variable {g : Game} {id : Text} {n : PieceNumber}

theorem grounded_withoutPiece (hg : Numbered g) (h : Grounded g) (hfind : g.find? id = some n) :
    Grounded { g.withoutPiece id n with board := g.board.clear (g.squareOf n) } := by
  have hmem : ∀ m, m ∈ (g.withoutPiece id n).inPlay ↔ m ∈ g.inPlay ∧ m ≠ n :=
    fun m => mem_inPlay_withoutPiece hg hfind
  constructor
  · intro s m hs
    change (g.board.clear (g.squareOf n)).pieceAt s = some m at hs
    rw [Board.pieceAt_clear] at hs
    split at hs
    · cases hs
    · next hne =>
        refine (hmem m).2 ⟨h.inPlay s m hs, ?_⟩
        intro heq
        subst heq
        exact hne (h.square s m hs)
  · intro s m hs
    change (g.board.clear (g.squareOf n)).pieceAt s = some m at hs
    rw [Board.pieceAt_clear] at hs
    split at hs
    · cases hs
    · exact h.square s m hs
  · intro m hm
    exact h.holds m ((hmem m).1 hm).1

theorem allHeld_withoutPiece (hg : Numbered g) (h : AllHeld g) (hfind : g.find? id = some n) :
    AllHeld { g.withoutPiece id n with board := g.board.clear (g.squareOf n) } := by
  intro m hm
  have hmem := (mem_inPlay_withoutPiece hg hfind).1 hm
  show (g.board.clear (g.squareOf n)).pieceAt (g.squareOf m) = some m
  rw [Board.pieceAt_clear, if_neg ?_]
  · exact h m hmem.1
  · intro heq
    have hn := h n (mem_inPlay_iff.2 ⟨id, hfind⟩)
    rw [heq, h m hmem.1] at hn
    injection hn with hn
    exact hmem.2 hn

theorem grounded_remove {g' : Game} (hg : Numbered g) (h : Grounded g)
    (hremove : Removes g id g') : Grounded g' := by
  cases hremove with
  | absent _ => exact h
  | offBoard hfind off => exact absurd (h.holds _ (mem_inPlay_iff.2 ⟨id, hfind⟩)) off
  | cleared hfind on => exact grounded_withoutPiece hg h hfind

theorem allHeld_remove {g' : Game} (hg : Numbered g) (h : Grounded g) (hheld : AllHeld g)
    (hremove : Removes g id g') : AllHeld g' := by
  cases hremove with
  | absent _ => exact hheld
  | offBoard hfind off => exact absurd (h.holds _ (mem_inPlay_iff.2 ⟨id, hfind⟩)) off
  | cleared hfind on => exact allHeld_withoutPiece hg hheld hfind

end Removing

/-!
## Shifting a piece
-/

section Shifting

variable {g : Game} {origin target : Square} {n : PieceNumber}

theorem pieceAt_shifted (s : Square) :
    ((g.board.clear origin).put n target).pieceAt s =
      if target = s then some n else if origin = s then none else g.board.pieceAt s := by
  rw [Board.pieceAt_put, Board.pieceAt_clear]

theorem squareOf_shifted (m : PieceNumber) :
    ((g.board.clear origin).put n target).squareOf m = if n = m then target else g.squareOf m := by
  rw [Board.squareOf_put, Board.squareOf_clear]
  rfl

theorem grounded_shifted (h : Grounded g) (hn : g.board.pieceAt origin = some n)
    (on : g.board.Holds target) :
    Grounded { g with board := (g.board.clear origin).put n target } := by
  constructor
  · intro s m hs
    change ((g.board.clear origin).put n target).pieceAt s = some m at hs
    rw [pieceAt_shifted] at hs
    split at hs
    · injection hs with hs
      rw [← hs]
      exact h.inPlay origin n hn
    · split at hs
      · cases hs
      · exact h.inPlay s m hs
  · intro s m hs
    change ((g.board.clear origin).put n target).pieceAt s = some m at hs
    show ((g.board.clear origin).put n target).squareOf m = s
    rw [pieceAt_shifted] at hs
    rw [squareOf_shifted]
    split at hs
    · next heq =>
        injection hs with hs
        rw [if_pos hs]
        exact heq
    · split at hs
      · cases hs
      · next hne =>
          rw [if_neg ?_]
          · exact h.square s m hs
          · intro heq
            subst heq
            exact hne ((h.square origin n hn).symm.trans (h.square s n hs))
  · intro m hm
    show (g.board.Holds (((g.board.clear origin).put n target).squareOf m))
    rw [squareOf_shifted]
    split
    · exact on
    · exact h.holds m hm

theorem allHeld_shifted (h : AllHeld g) (hsquare : g.squareOf n = origin)
    (hn : n ∈ g.inPlay) (empty : g.board.pieceAt target = none) :
    AllHeld { g with board := (g.board.clear origin).put n target } := by
  intro m hm
  show ((g.board.clear origin).put n target).pieceAt
    (((g.board.clear origin).put n target).squareOf m) = some m
  rw [squareOf_shifted, pieceAt_shifted]
  by_cases heq : n = m
  · rw [if_pos heq, if_pos rfl, heq]
  · have hheld := h m hm
    rw [if_neg heq, if_neg ?_, if_neg ?_]
    · exact hheld
    · intro horigin
      have hthere := h n hn
      rw [hsquare, horigin, hheld] at hthere
      injection hthere with hthere
      exact heq hthere.symm
    · intro htarget
      rw [← htarget, empty] at hheld
      cases hheld

theorem grounded_shift {g' : Game} (h : Grounded g) (hshift : Shifts g origin target g') :
    Grounded g' := by
  cases hshift with
  | unmoved => exact h
  | moved hn on => exact grounded_shifted h hn on

theorem allHeld_shift {g' : Game} (h : Grounded g) (hheld : AllHeld g)
    (empty : g.board.isOccupied target = false) (hshift : Shifts g origin target g') :
    AllHeld g' := by
  cases hshift with
  | unmoved => exact hheld
  | moved hn on =>
      exact allHeld_shifted hheld (h.square origin _ hn) (h.inPlay origin _ hn)
        (Board.isOccupied_eq_false_iff.1 empty)

end Shifting

/-!
## Steps and runs
-/

/-- A step leaves the board and the roster alone, takes a piece out of play or shifts one to an
empty square. -/
theorem board_cases_of_step {g g' : Game} (h : Step g g') :
    (g'.board = g.board ∧ g'.roster = g.roster) ∨ (∃ id, Removes g id g') ∨
      ∃ origin target, g.board.isOccupied target = false ∧ Shifts g origin target g' := by
  cases h with
  | sight seen => exact Or.inl ⟨rfl, rfl⟩
  | subscribe cast event priority => exact Or.inl ⟨rfl, rfl⟩
  | unsubscribe cast event => exact Or.inl ⟨rfl, rfl⟩
  | afflict id definition =>
      apply Or.inl
      have hafflict := afflicts_after g id definition
      generalize g.after (applyStatus id definition) = g' at hafflict ⊢
      cases hafflict with
      | absent _ => exact ⟨rfl, rfl⟩
      | unmade _ _ k => exact ⟨rfl, rfl⟩
      | begun _ _ _ => exact ⟨rfl, rfl⟩
      | stacked _ _ _ => exact ⟨rfl, rfl⟩
  | remove id => exact Or.inr (Or.inl ⟨id, removes_after g id⟩)
  | turn =>
      rcases tickAll_eq g with ⟨dispatcher, effects, statuses, heq⟩
      rw [heq]
      exact Or.inl ⟨rfl, rfl⟩
  | begin team => exact Or.inl ⟨rfl, rfl⟩
  | shift empty origin => exact Or.inr (Or.inr ⟨origin, _, empty, shifts_after g origin _⟩)
  | win team => exact Or.inl ⟨rfl, rfl⟩

theorem inPlay_of_roster_eq {g g' : Game} (h : g'.roster = g.roster) : g'.inPlay = g.inPlay := by
  unfold inPlay
  rw [h]

theorem squareOf_of_board_eq {g g' : Game} (h : g'.board = g.board) (n : PieceNumber) :
    g'.squareOf n = g.squareOf n := by
  unfold squareOf
  rw [h]

theorem grounded_step {g g' : Game} (h : Step g g') (hg : Numbered g) (hground : Grounded g) :
    Grounded g' := by
  rcases board_cases_of_step h with ⟨hboard, hroster⟩ | ⟨id, hremove⟩ | ⟨origin, target, _, hshift⟩
  · have hplay := inPlay_of_roster_eq hroster
    constructor
    · rw [hboard, hplay]
      exact hground.inPlay
    · intro s n hs
      rw [hboard] at hs
      rw [squareOf_of_board_eq hboard]
      exact hground.square s n hs
    · intro n hn
      rw [hplay] at hn
      rw [squareOf_of_board_eq hboard, hboard]
      exact hground.holds n hn
  · exact grounded_remove hg hground hremove
  · exact grounded_shift hground hshift

theorem allHeld_step {g g' : Game} (h : Step g g') (hg : Numbered g) (hground : Grounded g)
    (hheld : AllHeld g) : AllHeld g' := by
  rcases board_cases_of_step h with
    ⟨hboard, hroster⟩ | ⟨id, hremove⟩ | ⟨origin, target, empty, hshift⟩
  · intro n hn
    rw [inPlay_of_roster_eq hroster] at hn
    rw [squareOf_of_board_eq hboard, hboard]
    exact hheld n hn
  · exact allHeld_remove hg hground hheld hremove
  · exact allHeld_shift hground hheld empty hshift

theorem grounded_fresh {board : Board} (h : ∀ s, board.pieceAt s = none) (registry : Registry) :
    Grounded (fresh board registry) := by
  constructor
  · intro s n hs
    change board.pieceAt s = some n at hs
    rw [h s] at hs
    cases hs
  · intro s n hs
    change board.pieceAt s = some n at hs
    rw [h s] at hs
    cases hs
  · intro n hn
    cases hn

/-- Every run keeps the squares of the pieces in order, whatever abilities do and wherever new
pieces are put. -/
theorem grounded_run {g : Game} (hfresh : Fresh g) (ops : List Operation) :
    Numbered (g.run ops) ∧ Grounded (g.run ops) := by
  rcases hfresh with ⟨width, height, board, registry, hmake, rfl⟩
  refine run_keeps (P := fun g => Numbered g ∧ Grounded g) ?_ ?_ ?_ ops
  · intro g g' hstep hg
    exact ⟨numbered_step g g' hstep hg.1, grounded_step hstep hg.1 hg.2⟩
  · intro g blueprint team square hg
    exact ⟨numbered_add g blueprint team square hg.1,
      grounded_add g blueprint team square hg.1 hg.2⟩
  · exact ⟨numbered_fresh board registry, grounded_fresh (Board.pieceAt_of_make hmake) registry⟩

end Game

/-!
## Runs onto vacant squares
-/

/-- An operation that brings pieces onto vacant squares only.  The squares of a layout are vacant
when each piece comes if they are vacant at first and no two are the same. -/
def Operation.TakesVacant (g : Game) : Operation → Prop
  | add _ _ square => g.board.pieceAt square = none
  | setup _ entries =>
      (entries.map Game.Entry.square).Nodup ∧
        ∀ e ∈ entries, g.board.pieceAt e.square = none
  | _ => True

namespace Game

def RunsOnVacant (g : Game) : List Operation → Prop
  | [] => True
  | op :: rest => op.TakesVacant g ∧ RunsOnVacant (g.after op.perform) rest

theorem RunsOnVacant.concat {g : Game} {ops : List Operation} (h : g.RunsOnVacant ops)
    {op : Operation} (hvacant : op.TakesVacant (g.run ops)) : g.RunsOnVacant (ops ++ [op]) := by
  induction ops generalizing g with
  | nil => exact ⟨hvacant, trivial⟩
  | cons first rest ih => exact ⟨h.1, ih h.2 hvacant⟩

/-- Everything a run onto vacant squares keeps about where pieces stand. -/
structure Settled (g : Game) : Prop where
  numbered : Numbered g
  grounded : Grounded g
  held : AllHeld g

theorem settled_step (g g' : Game) (h : Step g g') (hg : Settled g) : Settled g' :=
  ⟨numbered_step g g' h hg.numbered, grounded_step h hg.numbered hg.grounded,
    allHeld_step h hg.numbered hg.grounded hg.held⟩

theorem settled_add {g : Game} (hg : Settled g) (blueprint : Blueprint) (team : Value)
    {square : Square} (vacant : g.board.pieceAt square = none) :
    Settled (g.after (addPiece blueprint team square)) :=
  ⟨numbered_add g blueprint team square hg.numbered,
    grounded_add g blueprint team square hg.numbered hg.grounded,
    allHeld_add g blueprint team square hg.numbered hg.held vacant⟩

/-- By induction on the layout: each piece leaves the squares of those to come vacant. -/
theorem settled_setup (blueprints : Table Text Blueprint) {entries : List Entry} {g : Game}
    (hg : Settled g) (hnodup : (entries.map Entry.square).Nodup)
    (hvacant : ∀ e ∈ entries, g.board.pieceAt e.square = none) :
    Settled (g.after (setup blueprints entries)) := by
  induction entries generalizing g with
  | nil => exact hg
  | cons e rest ih =>
      rw [List.map_cons, List.nodup_cons] at hnodup
      have hhead := hvacant e List.mem_cons_self
      rcases after_setup_cons g blueprints e rest with heq | ⟨blueprint, _, heq | heq⟩
      · rw [heq]
        exact hg
      · rw [heq]
        exact settled_add hg blueprint e.team hhead
      · rw [heq]
        apply ih (settled_add hg blueprint e.team hhead) hnodup.2
        intro e' he'
        rw [pieceAt_add_of_ne g blueprint e.team ?_]
        · exact hvacant e' (List.mem_cons_of_mem e he')
        · intro heq'
          exact hnodup.1 (heq' ▸ List.mem_map_of_mem he')

theorem settled_operation {g : Game} {op : Operation} (hg : Settled g)
    (hvacant : op.TakesVacant g) : Settled (g.after op.perform) := by
  rcases stepwise_operation op with
    ⟨blueprint, team, square, rfl⟩ | ⟨blueprints, entries, rfl⟩ | hstepwise
  · rw [Operation.perform, after_map]
    exact settled_add hg blueprint team hvacant
  · rw [Operation.perform, after_map]
    exact settled_setup blueprints hg hvacant.1 hvacant.2
  · exact (hstepwise g).induction settled_step hg

theorem settled_fresh {g : Game} (hfresh : Fresh g) : Settled g := by
  have hrun := grounded_run hfresh []
  refine ⟨hrun.1, hrun.2, ?_⟩
  rcases hfresh with ⟨width, height, board, registry, hmake, rfl⟩
  intro n hn
  cases hn

theorem settled_run {g : Game} (hg : Settled g) {ops : List Operation}
    (hvacant : g.RunsOnVacant ops) : Settled (g.run ops) := by
  induction ops generalizing g with
  | nil => exact hg
  | cons op rest ih => exact ih (settled_operation hg hvacant.1) hvacant.2

/-!
## The board and the roster
-/

/-- The board holds each piece in play on the square that the piece remembers, and nothing else. -/
structure BoardAgrees (g : Game) : Prop where
  onBoard : ∀ n ∈ g.inPlay, g.board.Holds (g.squareOf n)
  held : ∀ n ∈ g.inPlay, g.board.pieceAt (g.squareOf n) = some n
  inPlay : ∀ s n, g.board.pieceAt s = some n → n ∈ g.inPlay
  apart : ∀ n ∈ g.inPlay, ∀ m ∈ g.inPlay, g.squareOf n = g.squareOf m → n = m
  count : g.board.pieces.length = g.inPlay.length

theorem nodup_pieces {g : Game} (h : Grounded g) : g.board.pieces.Nodup := by
  apply Table.nodup_values
  intro s s' n hs hs'
  rw [← h.square s n hs, ← h.square s' n hs']

theorem mem_pieces_iff_mem_inPlay {g : Game} (h : Settled g) (n : PieceNumber) :
    n ∈ g.board.pieces ↔ n ∈ g.inPlay := by
  rw [Board.mem_pieces_iff]
  constructor
  · intro hheld
    rcases hheld with ⟨s, hs⟩
    exact h.grounded.inPlay s n hs
  · intro hn
    exact ⟨g.squareOf n, h.held n hn⟩

theorem Settled.boardAgrees {g : Game} (h : Settled g) : BoardAgrees g := by
  refine ⟨h.grounded.holds, h.held, h.grounded.inPlay, ?_, ?_⟩
  · intro n hn m hm heq
    have hheld := h.held n hn
    rw [heq, h.held m hm] at hheld
    injection hheld with hheld
    exact hheld.symm
  · have hperm : g.board.pieces.Perm g.inPlay :=
      (List.perm_ext_iff_of_nodup (nodup_pieces h.grounded) h.numbered.nodup_inPlay).2
        (mem_pieces_iff_mem_inPlay h)
    exact hperm.length_eq

/-- After every run from a fresh game that brings pieces onto vacant squares only, the board and
the roster agree, whatever abilities have done in the meantime and whichever operations have
failed. -/
theorem board_agrees_with_roster {g : Game} (hfresh : Fresh g) {ops : List Operation}
    (hvacant : g.RunsOnVacant ops) : BoardAgrees (g.run ops) :=
  (settled_run (settled_fresh hfresh) hvacant).boardAgrees

def quicksand : Rule :=
  ⟨"Quicksand", [.moveEnd], Rule.usualPriority, .scripted (.when .always [.remove .source])⟩

/-- Two walkers of which one moves and is taken away by the other while it does. -/
def sinking : List Operation :=
  [.add (walker []) (.str "white") ⟨0, 0⟩,
    .add (walker [{ name := "Quicksand" }]) (.str "black") ⟨7, 7⟩,
    .start (.str "white"), .move "white-walker-1" ⟨0, 1⟩]

theorem board_agrees_after_sinking :
    Fresh (usual (Registry.standard.register "Quicksand" quicksand.draft)) ∧
    RunsOnVacant (usual (Registry.standard.register "Quicksand" quicksand.draft)) sinking ∧
    ((usual (Registry.standard.register "Quicksand" quicksand.draft)).run sinking).inPlay = [2] ∧
    BoardAgrees ((usual (Registry.standard.register "Quicksand" quicksand.draft)).run sinking) := by
  have hfresh := fresh_usual (Registry.standard.register "Quicksand" quicksand.draft)
  have hvacant : RunsOnVacant (usual (Registry.standard.register "Quicksand" quicksand.draft))
      sinking := by
    refine ⟨rfl, ?_, trivial, trivial, trivial⟩
    show ((usual _).after _).board.pieceAt ⟨7, 7⟩ = none
    decide +kernel
  exact ⟨hfresh, hvacant, by decide +kernel, board_agrees_with_roster hfresh hvacant⟩

end Game
end Boardcraft
