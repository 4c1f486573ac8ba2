import Boardcraft.Proofs.Game.LegalMoves

/-!
# Which piece a command reaches

Commands name a piece by its id, and the board is changed by squares.  A command for a piece
therefore reaches whatever the board holds on the square that the piece remembers.  That is the
piece itself unless another piece was put on its square in the meantime.

## Main statements

* `board_of_moved` says what a move changes with built-in rules;
* `commands_reach_what_the_board_holds` says which piece is moved, which pieces a removal leaves
  alone, and exactly when these are what the id asks for;
* `not_movesOnly_of_crowded` is a game in which they are not.
-/

namespace Boardcraft

def Outcome.isMoved : Outcome → Bool
  | moved .. => true
  | _ => false

namespace Game

/-- From one game to the other a piece has come to a square and no other piece in play has changed
its square. -/
structure MovesOnly (g g' : Game) (n : PieceNumber) (target : Square) : Prop where
  arrived : g'.squareOf n = target
  held : g'.board.pieceAt target = some n
  others : ∀ m ∈ g.inPlay, m ≠ n → g'.squareOf m = g.squareOf m

/-- From one game to the other, whatever the board held of the pieces in play, apart from one, it
still holds on the same squares. -/
def KeepsOthers (g g' : Game) (n : PieceNumber) : Prop :=
  ∀ m ∈ g.inPlay, m ≠ n → g.board.pieceAt (g.squareOf m) = some m →
    g'.squareOf m = g.squareOf m ∧ g'.board.pieceAt (g.squareOf m) = some m

/-!
## Moves
-/

section Ordered

variable {g : Game} (h : Accounted g) (hbuiltIn : g.registry.BuiltIn) {id : Text} {n : PieceNumber}
  (hcommanded : g.commanded id = .ok n)

include h hbuiltIn hcommanded

theorem move_cancelled_of_immobile (himmobile : g.hasAbility n "Immobile" = true) (target : Square) :
    move id target g = .ok [.refused .move id target (.moveCancelled id)] g := by
  have hn : n ∈ g.inPlay := mem_inPlay_iff.2 ⟨id, find?_of_commanded hcommanded⟩
  have hcancelled := cancelled_of_source h.heard hbuiltIn hn (c := g.moveStart n target) rfl
  rw [move_of_ok hcommanded, bind_of_eq_ok _ (announce_of_builtIn h hbuiltIn _),
    if_pos (hcancelled.trans himmobile)]
  rfl

theorem move_of_mobile (hmobile : g.hasAbility n "Immobile" = false) (target : Square) :
    move id target g =
      (checkMove n target >>= fun refusal =>
        match refusal with
        | some refusal => pure [.refused .move id target refusal]
        | none => carryOutMove n (g.squareOf n) target) g := by
  have hn : n ∈ g.inPlay := mem_inPlay_iff.2 ⟨id, find?_of_commanded hcommanded⟩
  have hcancelled := cancelled_of_source h.heard hbuiltIn hn (c := g.moveStart n target) rfl
  rw [move_of_ok hcommanded, bind_of_eq_ok _ (announce_of_builtIn h hbuiltIn _)]
  exact congrFun (if_neg (Bool.eq_false_iff.1 (hcancelled.trans hmobile))) g

theorem move_of_moveRefusal_some (hmobile : g.hasAbility n "Immobile" = false) {target : Square}
    {refusal : Refusal} (hrefusal : g.moveRefusal n target = some refusal) :
    move id target g =
      if refusal.isTellable then .ok [.refused .move id target refusal] g
      else .error .oversizedNumber g := by
  have hn : n ∈ g.inPlay := mem_inPlay_iff.2 ⟨id, find?_of_commanded hcommanded⟩
  have hcheck := checkMove_of_builtIn h hbuiltIn hn target
  rw [hrefusal] at hcheck
  rw [move_of_mobile h hbuiltIn hcommanded hmobile]
  exact bind_of_give_some _ hcheck

theorem move_of_moveRefusal_none {target : Square} (hlegal : g.moveRefusal n target = none) :
    move id target g = carryOutMove n (g.squareOf n) target g := by
  have hn : n ∈ g.inPlay := mem_inPlay_iff.2 ⟨id, find?_of_commanded hcommanded⟩
  have hcheck := checkMove_of_builtIn h hbuiltIn hn target
  rw [hlegal, give_of_tellable rfl] at hcheck
  rw [move_of_mobile h hbuiltIn hcommanded (moveRefusal_eq_none_iff.1 hlegal).2.1]
  exact bind_of_eq_ok _ hcheck

end Ordered

/-- With built-in rules, a move is refused and changes nothing, cannot be refused in words and changes
nothing, or is carried out. -/
theorem move_of_builtIn {g : Game} (h : Accounted g) (hbuiltIn : g.registry.BuiltIn) (id : Text)
    (target : Square) :
    (∃ refusal, move id target g = .ok [.refused .move id target refusal] g) ∨
    (∃ n refusal, g.find? id = some n ∧ g.moveRefusal n target = some refusal ∧
      refusal.isTellable = false ∧ move id target g = .error .oversizedNumber g) ∨
    ∃ n, g.find? id = some n ∧ g.moveRefusal n target = none ∧
      move id target g = carryOutMove n (g.squareOf n) target g := by
  cases hcommanded : g.commanded id with
  | error refusal => exact Or.inl ⟨refusal, move_of_not_commanded hcommanded target⟩
  | ok n =>
      have hfind := find?_of_commanded hcommanded
      cases hmobile : g.hasAbility n "Immobile" with
      | true => exact Or.inl ⟨_, move_cancelled_of_immobile h hbuiltIn hcommanded hmobile target⟩
      | false =>
          cases hrefusal : g.moveRefusal n target with
          | none =>
              have hrun := move_of_moveRefusal_none h hbuiltIn hcommanded hrefusal
              exact Or.inr (Or.inr ⟨n, hfind, hrefusal, hrun⟩)
          | some refusal =>
              have hrun := move_of_moveRefusal_some h hbuiltIn hcommanded hmobile hrefusal
              split at hrun
              · exact Or.inl ⟨refusal, hrun⟩
              · next huntold =>
                  exact Or.inr (Or.inl
                    ⟨n, refusal, hfind, hrefusal, Bool.eq_false_iff.2 huntold, hrun⟩)

theorem holds_of_moveRefusal {g : Game} {n : PieceNumber} {target : Square}
    (h : g.moveRefusal n target = none) : g.board.Holds target :=
  (movePrecheck_eq_none_iff.1 (moveRefusal_eq_none_iff.1 h).1).1

/-- Carrying out a move shifts what the board holds on the square that is left, if anything. -/
theorem carryOutMove_of_builtIn {g : Game} (h : Accounted g) (hbuiltIn : g.registry.BuiltIn)
    (n : PieceNumber) {m : PieceNumber} {origin target : Square}
    (hm : g.board.pieceAt origin = some m) (on : g.board.Holds target) :
    carryOutMove n origin target g =
      .ok [.moved (g.piece n).id (g.piece n).name (g.piece n).team origin target g.turn]
        { g with board := (g.board.clear origin).put m target }.tickAll.nextTurn := by
  have hshifted : Accounted { g with board := (g.board.clear origin).put m target } :=
    accounted_frame h _ _ _ _ _
  unfold carryOutMove
  rw [bind_of_eq_ok _ (shift_of_pieceAt hm on),
    bind_of_eq_ok _ (announce_of_builtIn hshifted hbuiltIn _), get_bind,
    bind_of_eq_ok _ (endTurn_of_builtIn hshifted hbuiltIn)]
  rfl

theorem carryOutMove_of_vacant {g : Game} (n : PieceNumber) {origin : Square}
    (h : g.board.pieceAt origin = none) (target : Square) :
    carryOutMove n origin target g = .error (.badSquare (.nothingToMove origin)) g := by
  unfold carryOutMove
  exact bind_of_eq_error _ (shift_of_vacant h target)

/-- A move that is reported has shifted what the board held on the square of the piece. -/
theorem board_of_moved {g g' : Game} (h : Accounted g) (hbuiltIn : g.registry.BuiltIn)
    {id : Text} {target : Square} {outcomes : List Outcome}
    (hrun : move id target g = .ok outcomes g')
    (hmoved : ∃ outcome ∈ outcomes, outcome.isMoved = true) :
    ∃ n m, g.find? id = some n ∧ g.board.pieceAt (g.squareOf n) = some m ∧
      g'.board = (g.board.clear (g.squareOf n)).put m target := by
  rcases move_of_builtIn h hbuiltIn id target with
    ⟨refusal, heq⟩ | ⟨_, _, _, _, _, heq⟩ | ⟨n, hfind, hlegal, heq⟩
  · rw [heq] at hrun
    cases hrun
    rcases hmoved with ⟨outcome, hmem, hkind⟩
    rw [List.mem_singleton.1 hmem] at hkind
    cases hkind
  · rw [heq] at hrun
    cases hrun
  · rw [heq] at hrun
    cases hm : g.board.pieceAt (g.squareOf n) with
    | none =>
        rw [carryOutMove_of_vacant n hm target] at hrun
        cases hrun
    | some m =>
        rw [carryOutMove_of_builtIn h hbuiltIn n hm (holds_of_moveRefusal hlegal)] at hrun
        injection hrun with _ hgame
        refine ⟨n, m, hfind, hm, ?_⟩
        rcases tickAll_eq { g with board := (g.board.clear (g.squareOf n)).put m target } with
          ⟨dispatcher, effects, statuses, hticked⟩
        rw [← hgame, hticked]
        rfl

theorem movesOnly_of_shifted {g g' : Game} {n : PieceNumber} {origin target : Square}
    (hboard : g'.board = (g.board.clear origin).put n target) : MovesOnly g g' n target := by
  constructor
  · unfold squareOf
    rw [hboard, squareOf_shifted, if_pos rfl]
  · rw [hboard, pieceAt_shifted, if_pos rfl]
  · intro m _ hne
    unfold squareOf
    rw [hboard, squareOf_shifted, if_neg hne.symm]
    rfl

/-!
## Removals
-/

theorem removePiece_eq_ok {g g' : Game} (hground : Grounded g) {id : Text} {n : PieceNumber}
    (hrun : removePiece id g = .ok n g') :
    g.find? id = some n ∧
      g' = { g.withoutPiece id n with board := g.board.clear (g.squareOf n) } := by
  cases hfind : g.find? id with
  | none =>
      rw [removePiece_of_find?_none hfind] at hrun
      cases hrun
  | some m =>
      have hon := hground.holds m (mem_inPlay_iff.2 ⟨id, hfind⟩)
      rw [removePiece_of_holds hfind hon] at hrun
      cases hrun
      exact ⟨rfl, rfl⟩

theorem keepsOthers_withoutPiece_iff {g : Game} (hground : Grounded g) (id : Text)
    (n : PieceNumber) :
    KeepsOthers g { g.withoutPiece id n with board := g.board.clear (g.squareOf n) } n ↔
      ∀ m, g.board.pieceAt (g.squareOf n) = some m → m = n := by
  constructor
  · intro h m hm
    by_contra hne
    have hsquare := hground.square _ m hm
    have hheld : g.board.pieceAt (g.squareOf m) = some m := by
      rw [hsquare]
      exact hm
    have hstill := (h m (hground.inPlay _ m hm) hne hheld).2
    change (g.board.clear (g.squareOf n)).pieceAt (g.squareOf m) = some m at hstill
    rw [Board.pieceAt_clear, if_pos hsquare.symm] at hstill
    cases hstill
  · intro h m hm hne hheld
    refine ⟨rfl, ?_⟩
    show (g.board.clear (g.squareOf n)).pieceAt (g.squareOf m) = some m
    rw [Board.pieceAt_clear, if_neg ?_]
    · exact hheld
    · intro heq
      rw [← heq] at hheld
      exact hne (h m hheld)

/-!
## What an id asks for
-/

/-- With built-in rules, a reported move moves the piece that the board holds on the square of the
piece that was asked for, and no other.  It is a move of the piece that was asked for exactly if the
board holds that piece there.  A removal leaves all other pieces alone exactly if the board holds no
other piece on the square of the piece that was asked for. -/
theorem commands_reach_what_the_board_holds {g : Game} (h : PlainlyReached g) :
    (∀ id target outcomes g', move id target g = .ok outcomes g' →
      (∃ outcome ∈ outcomes, outcome.isMoved = true) →
      ∃ n m, g.find? id = some n ∧ g.board.pieceAt (g.squareOf n) = some m ∧
        MovesOnly g g' m target ∧
        (MovesOnly g g' n target ↔ g.board.pieceAt (g.squareOf n) = some n)) ∧
    ∀ id n g', removePiece id g = .ok n g' →
      g.find? id = some n ∧
        (KeepsOthers g g' n ↔ ∀ m, g.board.pieceAt (g.squareOf n) = some m → m = n) := by
  constructor
  · intro id target outcomes g' hrun hmoved
    rcases board_of_moved h.accounted h.builtIn hrun hmoved with ⟨n, m, hfind, hm, hboard⟩
    have hmoves := movesOnly_of_shifted hboard
    refine ⟨n, m, hfind, hm, hmoves, ?_⟩
    constructor
    · intro hmoves'
      have hheld := hmoves.held
      rw [hmoves'.held] at hheld
      rw [hm, hheld]
    · intro hn
      rw [hm] at hn
      injection hn with hn
      exact hn ▸ hmoves
  · intro id n g' hrun
    rcases removePiece_eq_ok h.grounded hrun with ⟨hfind, rfl⟩
    exact ⟨hfind, keepsOthers_withoutPiece_iff h.grounded id n⟩

def crowded : Game :=
  (usual .standard).run
    [.add (walker []) (.str "white") ⟨0, 0⟩, .add (walker []) (.str "white") ⟨0, 0⟩,
      .start (.str "white")]

theorem plainlyReached_crowded : PlainlyReached crowded :=
  ⟨usual .standard, _, fresh_usual .standard, Registry.builtIn_standard, rfl⟩

/-- Where the second walker stands on the square of the first, a move of the first that is reported
brings the second to the target. -/
theorem move_of_crowded_reaches_another :
    PlainlyReached crowded ∧
    ∃ outcomes g', move "white-walker-1" ⟨0, 1⟩ crowded = .ok outcomes g' ∧
      (∃ outcome ∈ outcomes, outcome.isMoved = true) ∧
      ∃ n m, crowded.find? "white-walker-1" = some n ∧ MovesOnly crowded g' m ⟨0, 1⟩ ∧
        (MovesOnly crowded g' n ⟨0, 1⟩ ↔ crowded.board.pieceAt (crowded.squareOf n) = some n) := by
  have hrun : (match move "white-walker-1" ⟨0, 1⟩ crowded with
      | .ok outcomes _ => outcomes.any Outcome.isMoved
      | .error _ _ => false) = true := by decide +kernel
  split at hrun
  · next outcomes g' hmove =>
      have hmoved := List.any_eq_true.1 hrun
      rcases (commands_reach_what_the_board_holds plainlyReached_crowded).1 _ _ _ _ hmove hmoved with
        ⟨n, m, hfind, _, hmoves, hexact⟩
      exact ⟨plainlyReached_crowded, outcomes, g', hmove, hmoved, n, m, hfind, hmoves, hexact⟩
  · cases hrun

/-- A command by id does not always act on the piece with that id. -/
theorem not_movesOnly_of_crowded :
    PlainlyReached crowded ∧
    ∃ outcomes g', move "white-walker-1" ⟨0, 1⟩ crowded = .ok outcomes g' ∧
      (∃ outcome ∈ outcomes, outcome.isMoved = true) ∧
      crowded.find? "white-walker-1" = some 1 ∧ ¬ MovesOnly crowded g' 1 ⟨0, 1⟩ := by
  have hrun : (match move "white-walker-1" ⟨0, 1⟩ crowded with
      | .ok outcomes g' => outcomes.any Outcome.isMoved && g'.board.pieceAt ⟨0, 1⟩ == some 2
      | .error _ _ => false) = true := by decide +kernel
  split at hrun
  · next outcomes g' hmove =>
      rw [Bool.and_eq_true] at hrun
      refine ⟨plainlyReached_crowded, outcomes, g', hmove, List.any_eq_true.1 hrun.1,
        by decide +kernel, ?_⟩
      intro hmoves
      have hheld := hmoves.held
      rw [eq_of_beq hrun.2] at hheld
      cases hheld
  · cases hrun

end Game
end Boardcraft
