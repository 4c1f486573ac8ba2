import Boardcraft.Proofs.Game.Addressing
import Boardcraft.Proofs.Mirror.Play

/-!
# Commands in the mirror

What a player orders in the image of a game has the image of the result it has in the game, whether
the order is refused, carried out or fails, unless it is refused for a square that can be written on one
side of the mirror only.

A command changes the game in the middle, and the events that it announces afterwards are about
pieces that it may have moved or taken out of play.  They are told by number as before.
-/

namespace Boardcraft
namespace Game

variable {height : Int} {g : Game}

/-!
## Gates
-/

theorem commanded_mirror (hg : Orderly height g) (id : Text) :
    (g.mirror height).commanded id.mirror =
      (g.commanded id).mapError (Refusal.mirror height) := by
  unfold commanded
  rw [find?_mirror, winner_mirror, toMove_mirror]
  cases hfind : g.find? id with
  | none => rfl
  | some n =>
      have hteam : ((g.mirror height).piece n).team = (g.piece n).team.other :=
        (hg.hasStood (mem_inPlay_iff.2 ⟨id, hfind⟩)).team
      cases g.winner with
      | some winner => rfl
      | none =>
          cases g.toMove with
          | none => rfl
          | some team =>
              dsimp only [Option.map_none, Option.map_some]
              rw [hteam]
              simp only [Team.other_inj]
              split <;> rfl

/-!
## Moves
-/

theorem exists_board_of_changeBoard {α : Type} {change : BoardM α} {g' : Game} {a : α}
    (h : changeBoard change g = .ok a g') : ∃ board, g' = { g with board } := by
  cases hchange : change g.board with
  | error fault board =>
      rw [changeBoard_eq_error hchange] at h
      cases h
  | ok b board =>
      rw [changeBoard_eq_ok hchange] at h
      cases h
      exact ⟨board, rfl⟩

theorem mirrors_carryOutMove (hg : Orderly height g) {n : PieceNumber} (hn : n ∈ g.inPlay)
    (origin : Square) {target : Square} (hempty : g.board.isOccupied target = false) :
    Mirrors height (List.map (Outcome.mirror height)) g (carryOutMove n origin target)
      (carryOutMove n (origin.mirror height) (target.mirror height)) := by
  unfold carryOutMove
  refine Mirrors.bind (mirrors_shift hg.height origin target) fun _ g₁ hshift => ?_
  have hg₁ : Orderly height g₁ := by
    have hstep := orderly_step _ _ (Step.shift g hempty origin) hg
    rwa [after_of_eq_ok hshift] at hstep
  have hn₁ : n ∈ g₁.inPlay := by
    rcases exists_board_of_changeBoard hshift with ⟨board, rfl⟩
    exact hn
  have hstood := hg₁.hasStood hn₁
  refine mirrors_announce_of_source hg₁ rfl hstood.made fun _ _ => ?_
  refine Mirrors.get_bind ?_
  refine Mirrors.bind (mirrors_endTurn hg₁) fun _ g₂ _ => ?_
  rw [id_mirror, name_mirror, hstood.team]
  rfl

theorem mirrorsIf_move (hg : Orderly height g) (id : Text) (target : Square) :
    MirrorsIf (g.board.IsWritable ∧ target.WritesEvenly height) height
      (List.map (Outcome.mirror height)) g (move id target)
      (move id.mirror (target.mirror height)) := by
  unfold move
  refine .get_bind ?_
  dsimp only
  rw [commanded_mirror hg]
  cases hcommanded : g.commanded id with
  | error refusal => exact .of_mirrors rfl
  | ok n =>
      have hn : n ∈ g.inPlay := mem_inPlay_iff.2 ⟨id, find?_of_commanded hcommanded⟩
      have hstood := hg.hasStood hn
      show MirrorsIf _ height _ g _ (announce _ >>= _)
      rw [hstood.squareOf]
      refine mirrorsIf_announce_of_source hg rfl hstood.made fun context => ?_
      rw [Context.cancelled_mirror]
      split
      · exact .of_mirrors rfl
      · refine mirrorsIf_check_bind hg (i := .move n target) hstood ?_ fun hcheck => ?_
        · exact fun refusal => ⟨[.refused .move id target refusal], rfl, rfl⟩
        · exact mirrors_carryOutMove hg hn _ (isOccupied_of_checkMove hcheck)

/-!
## Captures

Who has won is told by what the listeners of a capture have noted.  With built-in rules that is the
team of the captured piece, for anything else would leave white the winner on both sides of the
mirror.
-/

theorem isTruthy_word (t : Team) : (Value.str t.word).isTruthy = true := by
  cases t <;> rfl

theorem isTruthy_mirror (v : Value) : v.mirror.isTruthy = v.isTruthy := by
  cases hteam : Team.ofValue? v with
  | none =>
      unfold Value.mirror
      rw [hteam]
  | some team =>
      rw [Team.eq_word_of_ofValue? hteam, Team.mirror_word, isTruthy_word, isTruthy_word]

theorem endsGame_mirror (context : Context) :
    endsGame (context.mirror height) = endsGame context := by
  unfold endsGame
  rw [Context.find?_payload_mirror]
  cases context.payload.find? Scene.gameOverKey with
  | none => rfl
  | some v => exact isTruthy_mirror v

theorem loserOf_mirror (context : Context) (p : Piece) :
    loserOf (context.mirror height) p.mirror = (loserOf context p).mirror := by
  unfold loserOf
  rw [Context.find?_payload_mirror]
  cases context.payload.find? Scene.losingTeamKey <;> rfl

theorem becomes_of_eq_ok {α : Type} {m : GameM α} (hm : Stepwise m) {g' : Game} {a : α}
    (h : m g = .ok a g') : Becomes g g' := by
  have hsteps := hm g
  rwa [after_of_eq_ok h] at hsteps

theorem Becomes.pieces {g' : Game} (h : Becomes g g') : g'.pieces = g.pieces :=
  h.induction (P := fun g' => g'.pieces = g.pieces)
    (fun _ _ hstep heq => (samePieces_step hstep).pieces.trans heq) rfl

theorem mirrors_capture (hg : Orderly height g) {attacker captured : PieceNumber}
    (hattacker : attacker ∈ g.inPlay) (hcaptured : captured ∈ g.inPlay) :
    Mirrors height (Option.map (Outcome.mirror height)) g (capture attacker captured)
      (capture attacker captured) := by
  have hstood := hg.hasStood hcaptured
  rcases hstood.made with ⟨p, hp⟩
  unfold capture
  refine Mirrors.get_bind ?_
  rw [hstood.squareOf, (hg.hasStood hattacker).squareOf]
  refine mirrors_announce_of_source hg rfl hstood.made fun context hcontext => ?_
  have hloser : loserOf context (g.piece captured) = .str (g.piece captured).team.word := by
    rw [hcontext, loserOf_heedAll rfl rfl, piece_of_find? hp]
    exact hg.marked captured p hp
  rw [id_mirror, endsGame_mirror, piece_mirror hp, loserOf_mirror, hloser]
  refine Mirrors.bind (mirrors_removePiece hg.grounded hg.height _) fun _ g₁ hremove => ?_
  have hsteps := becomes_of_eq_ok (stepwise_removePiece _) hremove
  have hg₁ := hg.becomes hsteps
  split
  · dsimp only
    rw [Team.against_mirror]
    generalize Team.against _ = winner
    refine Mirrors.modify_bind rfl ?_
    exact mirrors_announce_of_source (orderly_step _ _ (Step.win g₁ winner) hg₁) rfl
      ⟨p, hsteps.pieces ▸ hp⟩ fun _ _ => rfl
  · rfl

/-!
## Actions
-/

theorem mirrors_finishAction (hg : Orderly height g) {n : PieceNumber}
    (hmade : ∃ p, g.pieces.find? n = some p) (id action : Text) (origin target : Square)
    (occupant : Option PieceNumber) (targetId : Option Text) (captured : Bool)
    (gameOver : Option Outcome) :
    Mirrors height (List.map (Outcome.mirror height)) g
      (do
        let _ ← announce
          { event := .actionEnd, source := some n, target := occupant, origin := some origin,
            destination := some target, action := some action }
        let acted := Outcome.acted id action target targetId captured (← get).turn
        match gameOver with
        | some outcome => return [acted, outcome]
        | none =>
            endTurn
            return [acted])
      (do
        let _ ← announce
          { event := .actionEnd, source := some n, target := occupant,
            origin := some (origin.mirror height), destination := some (target.mirror height),
            action := some action }
        let acted := Outcome.acted id.mirror action (target.mirror height)
          (targetId.map Text.mirror) captured (← get).turn
        match gameOver.map (Outcome.mirror height) with
        | some outcome => return [acted, outcome]
        | none =>
            endTurn
            return [acted]) := by
  refine mirrors_announce_of_source hg rfl hmade fun _ _ => ?_
  refine Mirrors.get_bind ?_
  cases gameOver with
  | some outcome => rfl
  | none => exact Mirrors.bind (mirrors_endTurn hg) fun _ _ _ => rfl

theorem mirrors_carryOutAction (hg : Orderly height g) {n : PieceNumber} (hn : n ∈ g.inPlay)
    (origin target : Square) (action : Text) :
    Mirrors height (List.map (Outcome.mirror height)) g
      (carryOutAction n origin target (g.board.pieceAt target) action)
      (carryOutAction n (origin.mirror height) (target.mirror height) (g.board.pieceAt target)
        action) := by
  have hstood := hg.hasStood hn
  have hvictim : ((g.board.pieceAt target).filter fun m =>
      ((g.mirror height).piece m).team ≠ ((g.mirror height).piece n).team) =
        (g.board.pieceAt target).filter fun m => (g.piece m).team ≠ (g.piece n).team := by
    cases hoccupant : g.board.pieceAt target with
    | none => rfl
    | some m =>
        have hteam : ((g.mirror height).piece m).team = (g.piece m).team.other :=
          (hg.hasStood (hg.grounded.inPlay target m hoccupant)).team
        rw [Option.filter_some, Option.filter_some, hstood.team, hteam]
        simp only [ne_eq, Team.other_inj]
  have hids : ((g.board.pieceAt target).map fun m => ((g.mirror height).piece m).id) =
      ((g.board.pieceAt target).map fun m => (g.piece m).id).map Text.mirror := by
    rw [Option.map_map]
    exact congrArg (Option.map · _) (funext fun m => id_mirror height g m)
  unfold carryOutAction
  refine Mirrors.get_bind ?_
  dsimp only
  rw [hvictim, hids, id_mirror]
  cases hcaptured : (g.board.pieceAt target).filter fun m =>
      (g.piece m).team ≠ (g.piece n).team with
  | none =>
      refine Mirrors.bind (f := Option.map (Outcome.mirror height)) (m := pure none) rfl ?_
      intro gameOver g₁ hrun
      cases hrun
      exact mirrors_finishAction hg hstood.made _ _ _ _ _ _ _ none
  | some m =>
      -- The capture may end the game, and it is the game after it in which the action ends.
      have hm := (Option.filter_eq_some_iff.1 hcaptured).1
      refine Mirrors.bind (mirrors_capture hg hn (hg.grounded.inPlay target m hm)) ?_
      intro gameOver g₁ hrun
      have hsteps := becomes_of_eq_ok (stepwise_capture n m) hrun
      have hmade₁ : ∃ p, g₁.pieces.find? n = some p := by
        rw [hsteps.pieces]
        exact hstood.made
      exact mirrors_finishAction (hg.becomes hsteps) hmade₁ _ _ _ _ _ _ _ gameOver

theorem mirrorsIf_act (hg : Orderly height g) (id : Text) (target : Square) (action : Text) :
    MirrorsIf (g.board.IsWritable ∧ target.WritesEvenly height) height
      (List.map (Outcome.mirror height)) g (act id target action)
      (act id.mirror (target.mirror height) action) := by
  unfold act
  refine .get_bind ?_
  dsimp only
  rw [commanded_mirror hg]
  cases hcommanded : g.commanded id with
  | error refusal => exact .of_mirrors rfl
  | ok n =>
      have hn : n ∈ g.inPlay := mem_inPlay_iff.2 ⟨id, find?_of_commanded hcommanded⟩
      have hstood := hg.hasStood hn
      show MirrorsIf _ height _ g _ (announce _ >>= _)
      rw [hstood.squareOf, board_mirror, Board.pieceAt_mirror]
      refine mirrorsIf_announce_of_source hg rfl hstood.made fun context => ?_
      rw [Context.cancelled_mirror]
      split
      · exact .of_mirrors rfl
      · refine mirrorsIf_check_bind hg (i := .act n target action) hstood ?_ fun _ => ?_
        · exact fun refusal => ⟨[.refused .action id target refusal], rfl, rfl⟩
        · exact mirrors_carryOutAction hg hn _ target action

/-!
## Beginning
-/

theorem mirrors_start (hg : Orderly height g) (first : Value) :
    Mirrors height (Outcome.mirror height) g (start first) (start first.mirror) := by
  unfold start
  rw [Team.ofValue?_mirror]
  cases Team.ofValue? first with
  | none => rfl
  | some team =>
      have hbegun := orderly_step _ _ (Step.begin g team) hg
      refine Mirrors.modify_bind rfl ?_
      refine mirrors_announce_bind hbegun (fun _ hm => by cases hm) fun _ _ => ?_
      refine mirrors_announce_bind hbegun (fun _ hm => by cases hm) fun _ _ => ?_
      refine Mirrors.get_bind ?_
      show Mirrors height _ _ _ (pure (Outcome.started team.other
        (g.roster.mapKeys Text.mirror Text.mirror_injective).size))
      rw [Table.size_mapKeys]
      rfl

theorem mirrors_setup (blueprints : Table Text Blueprint) (hg : Orderly height g)
    (entries : List Entry) :
    Mirrors height id g (setup blueprints entries)
      (setup blueprints (entries.map (Entry.mirror height))) := by
  induction entries generalizing g with
  | nil => rfl
  | cons e rest ih =>
      have hname : (e.mirror height).blueprint = e.blueprint := rfl
      rw [List.map_cons, setup, setup, hname]
      cases blueprints.find? e.blueprint with
      | none => rfl
      | some blueprint =>
          refine Mirrors.bind (mirrors_addPiece hg.height blueprint e.team e.square) ?_
          intro n g₁ hadd
          apply ih
          have hg₁ := orderly_add g blueprint e.team e.square hg
          rwa [after_of_eq_ok hadd] at hg₁

end Game
end Boardcraft
