import Boardcraft.Proofs.Game.Standing

/-!
# Ids are given once

A piece bears its id for good, and no other piece ever bears it: not one that failed to come into
play, not one whose name reads like an id, and not one that comes after the piece has left.  A new
piece is thus registered behind all others and takes the place of none.

## Main statements

* `HasMade.run` and `HasMade.find?_id_run` say what becomes of a piece and of its id in a run;
* `ids_given_once` collects what this says of ids.
-/

namespace Boardcraft
namespace Game

/-!
## Numbers and ids
-/

namespace Numbered

variable {g : Game} {n : PieceNumber} {p : Piece}

/-- The id of a piece tells its number, whether it is in play or not. -/
theorem eq_of_id_eq (h : Numbered g) {m : PieceNumber} {q : Piece}
    (hp : g.pieces.find? n = some p) (hq : g.pieces.find? m = some q) (hid : p.id = q.id) :
    n = m := by
  rcases h.ends n p hp with ⟨stem, hstem⟩
  rcases h.ends m q hq with ⟨stem', hstem'⟩
  exact Text.eq_of_append_numeral (hstem.symm.trans (hid.trans hstem'))

theorem find?_pieces_next (h : Numbered g) : g.pieces.find? (g.pieceCount + 1) = none := by
  cases hfind : g.pieces.find? (g.pieceCount + 1) with
  | none => rfl
  | some p => exact absurd (h.given _ p hfind) (Nat.not_succ_le_self g.pieceCount)

theorem ne_next (h : Numbered g) (hp : g.pieces.find? n = some p) : g.pieceCount + 1 ≠ n := by
  intro heq
  rw [← heq, h.find?_pieces_next] at hp
  cases hp

/-- No piece that has been made has the id that the next piece will have. -/
theorem id_ne_next (h : Numbered g) (hp : g.pieces.find? n = some p) {blueprint : Blueprint}
    {team : Value} {q : Piece} (made : MakesPiece g blueprint team q) : q.id ≠ p.id := by
  rcases h.ends n p hp with ⟨stem, hstem⟩
  intro hid
  -- both ids end in a number, whatever stands before it, and the next number has not been given
  rw [made.id, hstem] at hid
  exact h.ne_next hp (Text.eq_of_append_numeral hid)

theorem nodup_ids (h : Numbered g) : (g.pieces.values.map Piece.id).Nodup := by
  have hvalues : g.pieces.values.Nodup :=
    Table.nodup_values fun n m p hp hq => h.eq_of_id_eq hp hq rfl
  refine hvalues.map_on ?_
  intro p hp q hq hid
  rcases Table.mem_values_iff.1 hp with ⟨n, hn⟩
  rcases Table.mem_values_iff.1 hq with ⟨m, hm⟩
  have hnumber := h.eq_of_id_eq hn hm hid
  subst hnumber
  rw [hn] at hm
  injection hm

end Numbered

theorem Reached.numbered {g : Game} (h : Reached g) : Numbered g := by
  rcases h with ⟨start, ops, fresh, rfl⟩
  exact (grounded_run fresh ops).1

/-!
## What becomes of a piece and of its id
-/

section Made

variable {n : PieceNumber} {p : Piece}

theorem find?_pieces_withPiece {g : Game} (hg : Numbered g) (hp : g.pieces.find? n = some p)
    (q : Piece) : (g.withPiece q).pieces.find? n = some p := by
  show (g.pieces.insert (g.pieceCount + 1) q).find? n = some p
  rw [Table.find?_insert_of_ne _ _ (hg.ne_next hp), hp]

structure HasMade (n : PieceNumber) (p : Piece) (g : Game) : Prop where
  numbered : Numbered g
  found : g.pieces.find? n = some p

theorem hasMade_step (g g' : Game) (h : Step g g') (made : HasMade n p g) : HasMade n p g' := by
  refine ⟨numbered_step g g' h made.numbered, ?_⟩
  rw [(samePieces_step h).pieces]
  exact made.found

theorem hasMade_add (g : Game) (blueprint : Blueprint) (team : Value) (square : Square)
    (made : HasMade n p g) : HasMade n p (g.after (addPiece blueprint team square)) := by
  refine ⟨numbered_add g blueprint team square made.numbered, ?_⟩
  have hadd := adds_after g blueprint team square
  generalize g.after (addPiece blueprint team square) = g' at hadd ⊢
  cases hadd with
  | unmade k => exact made.found
  | offBoard _ _ => exact find?_pieces_withPiece made.numbered made.found _
  | placed _ _ => exact find?_pieces_withPiece made.numbered made.found _

theorem HasMade.run {g : Game} (made : HasMade n p g) (ops : List Operation) :
    HasMade n p (g.run ops) :=
  run_keeps hasMade_step hasMade_add made ops

theorem find?_id_step {g g' : Game} (h : Step g g') {id : Text} (gone : g.find? id = none) :
    g'.find? id = none := by
  cases hfind : g'.find? id with
  | none => rfl
  | some m =>
      rw [(samePieces_step h).roster id m hfind] at gone
      cases gone

/-- A new piece does not take the id of another, whether that one is in play or not. -/
theorem find?_id_add (g : Game) (blueprint : Blueprint) (team : Value) (square : Square)
    (made : HasMade n p g) (gone : g.find? p.id = none) :
    (g.after (addPiece blueprint team square)).find? p.id = none := by
  have hadd := adds_after g blueprint team square
  generalize g.after (addPiece blueprint team square) = g' at hadd ⊢
  cases hadd with
  | unmade k => exact gone
  | offBoard _ _ => exact gone
  | @placed q hq _ =>
      show (g.roster.insert q.id (g.pieceCount + 1)).find? p.id = none
      rw [Table.find?_insert_of_ne _ _ (made.numbered.id_ne_next made.found hq)]
      exact gone

/-- The id of a piece that has been made and is not in play never comes into play again. -/
theorem HasMade.find?_id_run {g : Game} (made : HasMade n p g) (gone : g.find? p.id = none)
    (ops : List Operation) : (g.run ops).find? p.id = none := by
  have hkept : HasMade n p (g.run ops) ∧ (g.run ops).find? p.id = none := by
    refine run_keeps (P := fun g => HasMade n p g ∧ g.find? p.id = none) ?_ ?_ ⟨made, gone⟩ ops
    · intro g g' hstep h
      exact ⟨hasMade_step g g' hstep h.1, find?_id_step hstep h.2⟩
    · intro g blueprint team square h
      exact ⟨hasMade_add g blueprint team square h.1,
        find?_id_add g blueprint team square h.1 h.2⟩
  exact hkept.2

end Made

/-!
## New pieces
-/

/-- From one game to the other a new piece has been registered under its id, behind all that were
registered before and in place of none. -/
structure Registers (g g' : Game) (n : PieceNumber) : Prop where
  unmade : g.pieces.find? n = none
  made : g'.pieces.find? n = some (g'.piece n)
  roster : g'.roster.entries = g.roster.entries ++ [((g'.piece n).id, n)]
  inPlay : g'.inPlay = g.inPlay ++ [n]
  others : ∀ m p, g.pieces.find? m = some p →
    g'.pieces.find? m = some p ∧ (g'.piece n).id ≠ p.id

theorem registers_withPieceOn {g : Game} (hg : Numbered g) {blueprint : Blueprint} {team : Value}
    {p : Piece} (made : MakesPiece g blueprint team p) (square : Square) :
    Registers g (g.withPieceOn p square) (g.pieceCount + 1) := by
  have hfind : (g.withPieceOn p square).pieces.find? (g.pieceCount + 1) = some p :=
    Table.find?_insert_self _ _ _
  have hpiece : (g.withPieceOn p square).piece (g.pieceCount + 1) = p := piece_of_find? hfind
  have hnext : g.find? p.id = none := by
    rw [made.id]
    exact hg.find?_next _
  refine ⟨hg.find?_pieces_next, ?_, ?_, inPlay_withPieceOn hg made.id square, ?_⟩
  · rw [hpiece, hfind]
  · rw [hpiece]
    exact Table.insertIn_of_lookupIn_eq_none hnext
  · intro m q hq
    rw [hpiece]
    exact ⟨find?_pieces_withPiece hg hq p, hg.id_ne_next hq made⟩

theorem registers_of_addPiece {g g' : Game} (hg : Numbered g) {blueprint : Blueprint}
    {team : Value} {square : Square} {n : PieceNumber}
    (h : addPiece blueprint team square g = .ok n g') : Registers g g' n := by
  rcases addPiece_cases g blueprint team square with
    ⟨p, made, _, hrun⟩ | ⟨p, e, _, _, hrun⟩ | ⟨e, k, hrun⟩
  · rw [h] at hrun
    cases hrun
    exact registers_withPieceOn hg made square
  · rw [h] at hrun
    cases hrun
  · rw [h] at hrun
    cases hrun

/-- Whatever has been done to a game, all pieces ever made for it have different ids, those that
failed to come into play among them.  A piece that comes into play is registered behind the others,
a piece that has been made is never made anew, and an id that is out of play stays so. -/
theorem ids_given_once {g : Game} (reached : Reached g) :
    (g.pieces.values.map Piece.id).Nodup ∧
    (∀ blueprint team square n g', addPiece blueprint team square g = .ok n g' →
      Registers g g' n) ∧
    ∀ n p, g.pieces.find? n = some p → ∀ ops,
      (g.run ops).pieces.find? n = some p ∧
      (∀ m q, (g.run ops).pieces.find? m = some q → q.id = p.id → m = n) ∧
      (g.find? p.id = none → (g.run ops).find? p.id = none) := by
  have hg := reached.numbered
  refine ⟨hg.nodup_ids, ?_, ?_⟩
  · intro blueprint team square n g' hadd
    exact registers_of_addPiece hg hadd
  · intro n p hp ops
    have made : HasMade n p g := ⟨hg, hp⟩
    refine ⟨(made.run ops).found, ?_, fun gone => made.find?_id_run gone ops⟩
    intro m q hq hid
    exact (made.run ops).numbered.eq_of_id_eq hq (made.run ops).found hid

def named (name : Text) : Blueprint := { walker [] with name }

/-- Pieces whose names look like ids or differ in letter case only come into play or fail to, and
one of them leaves. -/
def christening : List Operation :=
  [.add (named "A-2") (.str "white") ⟨0, 0⟩, .add (named "a") (.str "white") ⟨1, 0⟩,
    .add (named "A") (.str "white") ⟨9, 9⟩, .add (named "a") (.str "green") ⟨2, 0⟩,
    .add (named "É 1-") (.str "black") ⟨3, 0⟩, .remove "white-a-2",
    .add (named "a") (.str "white") ⟨1, 0⟩]

theorem ids_given_after_christening :
    Reached ((usual .standard).run christening) ∧
    ((usual .standard).run christening).pieces.values.map Piece.id =
      ["white-a-2-1", "white-a-2", "white-a-3", "black-é_1--4", "white-a-5"] ∧
    ((usual .standard).run christening).inPlay = [1, 4, 5] ∧
    (∃ n g', addPiece (named "a") (.str "white") ⟨1, 0⟩ ((usual .standard).run christening) =
      .ok n g' ∧ Registers ((usual .standard).run christening) g' n) ∧
    ((usual .standard).run christening).find? "white-a-2" = none ∧
    ∀ ops, (((usual .standard).run christening).run ops).find? "white-a-2" = none := by
  have reached : Reached ((usual .standard).run christening) :=
    ⟨usual .standard, christening, fresh_usual .standard, rfl⟩
  rcases ids_given_once reached with ⟨-, hadds, hkeeps⟩
  have hsome : ((named "a").prototype ((usual .standard).run christening).registry
      (.str "white")).isSome = true := by decide +kernel
  have hon : ((usual .standard).run christening).board.Holds ⟨1, 0⟩ := by decide +kernel
  have hgone : ((usual .standard).run christening).find? "white-a-2" = none := by decide +kernel
  refine ⟨reached, by decide +kernel, by decide +kernel, ?_, hgone, ?_⟩
  · rcases makePiece_prototype (named "a") (.str "white") ((usual .standard).run christening) with
      ⟨p, -, -, hmade⟩ | ⟨hnone, -⟩
    · have hrun := addPiece_of_holds hmade hon
      exact ⟨_, _, hrun, hadds _ _ _ _ _ hrun⟩
    · rw [hnone] at hsome
      cases hsome
  · intro ops
    have hmade : (((usual .standard).run christening).pieces.find? 2).map Piece.id =
        some "white-a-2" := by decide +kernel
    rcases Option.map_eq_some_iff.1 hmade with ⟨p, hp, hid⟩
    rw [← hid] at hgone ⊢
    exact (hkeeps 2 p hp ops).2.2 hgone

end Game
end Boardcraft
