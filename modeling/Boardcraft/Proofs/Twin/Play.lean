import Boardcraft.Proofs.Game.Victory
import Boardcraft.Proofs.Twin.Changes
import Boardcraft.Proofs.Twin.Checks

/-!
# Playing twin games

With built-in rules an operation on a game and the operation on the corresponding pieces of its twin
end alike: both succeed or both fail, what they report corresponds, and what they leave behind are
twins again.  So do two runs of such operations.

## Main statements

* `Twins.perform` compares two operations;
* `Twins.run` follows two runs.
-/

namespace Boardcraft

/-- An operation on a game with all its pieces that is addressed to pieces that have been made,
whether or not they are still in play. -/
def Operation.Addresses (g : Game) : Operation → Prop
  | add _ _ _ | setup _ _ => False
  | remove id | move id _ | act id _ _ | applyStatus id _ => g.Names id
  | legalMoves n | legalTargets n _ | checkMove n _ | checkAction n _ _ => g.Made n
  | start _ | endTurn => True

namespace Game

def renameAnswer (c : Renaming) (a : Except GameError Answer) : Except GameError Answer :=
  (a.map (Answer.rename c)).mapError (GameError.rename c)

theorem EndsAlike.after {c : Renaming} {α β : Type} {f : α → β} {g g' : Game} {m : GameM α}
    {m' : GameM β} (h : EndsAlike c f (m g) (m' g')) : Twins c (g.after m) (g'.after m') := by
  unfold Game.after
  generalize m g = result, m' g' = result' at h
  cases h with
  | ok twins => exact twins
  | error twins => exact twins

theorem EndsAlike.answer {c : Renaming} {g g' : Game} {op op' : Operation}
    (h : EndsAlike c (Answer.rename c) (op.perform g) (op'.perform g')) :
    g'.answer op' = renameAnswer c (g.answer op) := by
  unfold Game.answer
  generalize op.perform g = result, op'.perform g' = result' at h
  cases h with
  | ok twins => rfl
  | error twins => rfl

namespace Twins

variable {c : Renaming} {g g' : Game} {n : PieceNumber} (h : Twins c g g') (hg : Accounted g)
  (hg' : Accounted g') (hbuiltIn : g.registry.BuiltIn)

include h hg hg'

/-!
## Leaving, and the end of a turn
-/

theorem removePiece (hground : Grounded g) {id : Text} (hid : g.Names id) :
    EndsAlike c c.number (Game.removePiece id g) (Game.removePiece (c.id id) g') := by
  have hfind' := h.find?_id hg.numbered hg'.numbered hid
  cases hfind : g.find? id with
  | none =>
      rw [hfind] at hfind'
      rw [removePiece_of_find?_none hfind, removePiece_of_find?_none hfind']
      exact .error h
  | some m =>
      rw [hfind] at hfind'
      have hplay := Game.mem_inPlay_iff.2 ⟨id, hfind⟩
      have hon := hground.holds m hplay
      have hon' : g'.board.Holds (g'.squareOf (c.number m)) := by
        rw [h.square m (hg.numbered.made hplay), h.holds]
        exact hon
      rw [removePiece_of_holds hfind hon, removePiece_of_holds hfind' hon']
      exact .ok (h.removed hg hg' hfind)

include hbuiltIn

theorem endTurn : EndsAlike c (fun _ => ()) (Game.endTurn g) (Game.endTurn g') := by
  rw [endTurn_of_builtIn hg hbuiltIn, endTurn_of_builtIn hg' (h.builtIn hbuiltIn)]
  exact .ok (h.ticked hg hg')

/-!
## Beginning
-/

omit h hg' in
theorem start_of_builtIn {first : Value} {team : Team} (hteam : Team.ofValue? first = some team) :
    Game.start first g = .ok (.started team g.roster.size) (g.begun team) := by
  have hbegun : Accounted (g.begun team) := accounted_frame hg _ _ _ _ _
  unfold Game.start
  rw [hteam]
  change (announce { event := .gameStart } >>= fun _ => announce { event := .turnStart } >>= fun _ =>
    get >>= fun k => pure (Outcome.started team k.roster.size) : GameM Outcome) (g.begun team) = _
  rw [bind_of_eq_ok _ (announce_of_builtIn hbegun hbuiltIn _),
    bind_of_eq_ok _ (announce_of_builtIn hbegun hbuiltIn _)]
  rfl

theorem start (first : Value) :
    EndsAlike c (Outcome.rename c) (Game.start first g) (Game.start first g') := by
  cases hteam : Team.ofValue? first with
  | none =>
      unfold Game.start
      rw [hteam]
      exact .error h
  | some team =>
      have hsize : g'.roster.size = g.roster.size := by
        have hlength := h.inPlay.length_eq
        unfold Game.inPlay Table.values at hlength
        rw [List.length_map, List.length_map, List.length_map] at hlength
        exact hlength
      rw [start_of_builtIn hg hbuiltIn hteam, start_of_builtIn hg' (h.builtIn hbuiltIn) hteam, hsize]
      exact .ok (h.begun team)

/-!
## Moving
-/

theorem carryOutMove (hheld : g.board.pieceAt (g.squareOf n) = some n) (hn : g.Made n)
    {target : Square} (hon : g.board.Holds target) :
    EndsAlike c (List.map (Outcome.rename c)) (Game.carryOutMove n (g.squareOf n) target g)
      (Game.carryOutMove (c.number n) (g'.squareOf (c.number n)) target g') := by
  have hheld' : g'.board.pieceAt (g'.squareOf (c.number n)) = some (c.number n) := by
    rw [h.square n hn, h.held, hheld, Option.map_some]
  have hreport : [Outcome.moved (g'.piece (c.number n)).id (g'.piece (c.number n)).name
      (g'.piece (c.number n)).team (g'.squareOf (c.number n)) target g'.turn] =
      [Outcome.moved (g.piece n).id (g.piece n).name (g.piece n).team (g.squareOf n) target
        g.turn].map (Outcome.rename c) := by
    rw [h.id hn, h.name hn, h.team hn, h.square n hn, h.turn.turn]
    rfl
  rw [carryOutMove_of_builtIn hg hbuiltIn n hheld hon,
    carryOutMove_of_builtIn hg' (h.builtIn hbuiltIn) (c.number n) hheld' ((h.holds target).2 hon),
    hreport, h.square n hn]
  have hshifted := h.shifted hn (g.squareOf n) target
  exact .ok (hshifted.ticked (accounted_frame hg _ _ _ _ _) (accounted_frame hg' _ _ _ _ _))

theorem move (hsettled : Settled g) {id : Text} (hid : g.Names id) (target : Square) :
    EndsAlike c (List.map (Outcome.rename c)) (Game.move id target g)
      (Game.move (c.id id) target g') := by
  have hcommanded' := h.commanded hg.numbered hg'.numbered hid
  cases hcommanded : g.commanded id with
  | error refusal =>
      rw [hcommanded] at hcommanded'
      rw [move_of_not_commanded hcommanded, move_of_not_commanded hcommanded']
      exact .ok h
  | ok m =>
      rw [hcommanded] at hcommanded'
      have hplay := Game.mem_inPlay_iff.2 ⟨id, find?_of_commanded hcommanded⟩
      have hm := hg.numbered.made hplay
      have hbuiltIn' := h.builtIn hbuiltIn
      have hability' := h.hasAbility hm "Immobile"
      have hrefusal' := h.moveRefusal hm target
      cases hmobile : g.hasAbility m "Immobile" with
      | true =>
          rw [hmobile] at hability'
          rw [move_cancelled_of_immobile hg hbuiltIn hcommanded hmobile,
            move_cancelled_of_immobile hg' hbuiltIn' hcommanded' hability']
          exact .ok h
      | false =>
          rw [hmobile] at hability'
          cases hrefusal : g.moveRefusal m target with
          | some refusal =>
              rw [hrefusal] at hrefusal'
              rw [move_of_moveRefusal_some hg hbuiltIn hcommanded hmobile hrefusal,
                move_of_moveRefusal_some hg' hbuiltIn' hcommanded' hability' hrefusal',
                refusal.isTellable_rename]
              split
              · exact .ok h
              · exact .error h
          | none =>
              rw [hrefusal] at hrefusal'
              rw [move_of_moveRefusal_none hg hbuiltIn hcommanded hrefusal,
                move_of_moveRefusal_none hg' hbuiltIn' hcommanded' hrefusal']
              exact h.carryOutMove hg hg' hbuiltIn (hsettled.held m hplay) hm
                (holds_of_moveRefusal hrefusal)

/-!
## Acting
-/

theorem finishAction (id : Text) (targetId : Option Text) (captured : Bool) (n : PieceNumber)
    (origin target : Square) (occupant : Option PieceNumber) (n' : PieceNumber)
    (origin' : Square) (occupant' : Option PieceNumber) (action : Text)
    (gameOver : Option Outcome) :
    EndsAlike c (List.map (Outcome.rename c))
      (Game.finishAction id targetId captured n origin target occupant action gameOver g)
      (Game.finishAction (c.id id) (targetId.map c.id) captured n' origin' target occupant' action
        (gameOver.map (Outcome.rename c)) g') := by
  rw [finishAction_of_builtIn hg hbuiltIn, finishAction_of_builtIn hg' (h.builtIn hbuiltIn),
    h.turn.turn]
  cases gameOver with
  | some outcome => exact .ok h
  | none => exact .ok (h.ticked hg hg')

omit hg hg' hbuiltIn in
theorem victimOf (hn : g.Made n) {occupant : Option PieceNumber}
    (hoccupant : ∀ m, occupant = some m → g.Made m) :
    g'.victimOf (c.number n) (occupant.map c.number) = (g.victimOf n occupant).map c.number := by
  unfold Game.victimOf
  cases occupant with
  | none => rfl
  | some m =>
      rw [Option.map_some, Option.filter_some, Option.filter_some, h.team hn,
        h.team (hoccupant m rfl)]
      split <;> rfl

/-- A piece is captured by corresponding pieces: it leaves both games, and both are over if it is a
king. -/
theorem capture (hground : Grounded g) (hground' : Grounded g') (n n' : PieceNumber)
    {m : PieceNumber} (hm : m ∈ g.inPlay) :
    ∃ gameOver k k', Game.capture n m g = .ok gameOver k ∧
      Game.capture n' (c.number m) g' = .ok (gameOver.map (Outcome.rename c)) k' ∧
      Twins c k k' ∧ Accounted k ∧ Accounted k' ∧ k.registry.BuiltIn := by
  have hmade := hg.numbered.made hm
  have hm' := h.mem_inPlay hm
  have hbuiltIn' := h.builtIn hbuiltIn
  rcases announce_capture hg hbuiltIn n hm with ⟨context, hrun, hends, hloser⟩
  rcases announce_capture hg' hbuiltIn' n' hm' with ⟨context', hrun', hends', hloser'⟩
  rcases removePiece_of_builtIn hg hbuiltIn hground hm with ⟨k, hremove, -, hk, hkbuiltIn⟩
  rcases removePiece_of_builtIn hg' hbuiltIn' hground' hm' with
    ⟨k', hremove', -, hk', hkbuiltIn'⟩
  have hremoved := h.removePiece hg hg' hground ⟨m, hmade, rfl⟩
  rw [← h.id hmade, hremove, hremove'] at hremoved
  have htwins : Twins c k k' := by
    generalize hresult' : EStateM.Result.ok (c.number m) k' = result' at hremoved
    cases hremoved with
    | ok twins =>
        cases hresult'
        exact twins
  have hcapture := capture_eq g n m
  rw [bind_of_eq_ok _ hrun, bind_of_eq_ok _ hremove, concludeCapture_of_builtIn hk hkbuiltIn, hends,
    hloser] at hcapture
  have hcapture' := capture_eq g' n' (c.number m)
  rw [bind_of_eq_ok _ hrun', bind_of_eq_ok _ hremove', concludeCapture_of_builtIn hk' hkbuiltIn',
    hends', hloser', h.hasAbility hmade, h.teamMark hmade, htwins.turn.turn] at hcapture'
  cases hking : g.hasAbility m "King" with
  | true =>
      rw [hking, if_pos rfl] at hcapture hcapture'
      exact ⟨_, _, _, hcapture, hcapture', htwins.won _, accounted_frame hk _ _ _ _ _,
        accounted_frame hk' _ _ _ _ _, hkbuiltIn⟩
  | false =>
      rw [hking, if_neg Bool.false_ne_true] at hcapture hcapture'
      exact ⟨_, _, _, hcapture, hcapture', htwins, hk, hk', hkbuiltIn⟩

theorem carryOutAction (hground : Grounded g) (hground' : Grounded g') (hn : g.Made n)
    (origin origin' target : Square) (action : Text) :
    EndsAlike c (List.map (Outcome.rename c))
      (Game.carryOutAction n origin target (g.board.pieceAt target) action g)
      (Game.carryOutAction (c.number n) origin' target (g'.board.pieceAt target) action g') := by
  have hoccupant : ∀ m, g.board.pieceAt target = some m → g.Made m :=
    fun m hm => hg.numbered.made (hground.inPlay target m hm)
  have htargetId : (g'.board.pieceAt target).map (fun m => (g'.piece m).id) =
      ((g.board.pieceAt target).map fun m => (g.piece m).id).map c.id := by
    rw [h.held]
    cases hm : g.board.pieceAt target with
    | none => rfl
    | some m => exact congrArg some (h.id (hoccupant m hm))
  have hvictim' := h.victimOf hn hoccupant
  rw [← h.held] at hvictim'
  cases hvictim : g.victimOf n (g.board.pieceAt target) with
  | none =>
      rw [hvictim] at hvictim'
      rw [carryOutAction_of_no_victim hvictim, carryOutAction_of_no_victim hvictim', h.id hn,
        htargetId]
      exact h.finishAction hg hg' hbuiltIn _ _ _ _ _ _ _ _ _ _ _ none
  | some m =>
      rw [hvictim] at hvictim'
      have hm := hground.inPlay target m (victimOf_eq_some_iff.1 hvictim).1
      rcases h.capture hg hg' hbuiltIn hground hground' n (c.number n) hm with
        ⟨gameOver, k, k', hrun, hrun', htwins, hk, hk', hkbuiltIn⟩
      rw [carryOutAction_of_victim hvictim, carryOutAction_of_victim hvictim', h.id hn, htargetId,
        bind_of_eq_ok _ hrun, bind_of_eq_ok _ hrun']
      exact htwins.finishAction hk hk' hkbuiltIn _ _ _ _ _ _ _ _ _ _ _ gameOver

theorem act (hground : Grounded g) (hground' : Grounded g') {id : Text} (hid : g.Names id)
    (target : Square) (action : Text) :
    EndsAlike c (List.map (Outcome.rename c)) (Game.act id target action g)
      (Game.act (c.id id) target action g') := by
  have hcommanded' := h.commanded hg.numbered hg'.numbered hid
  cases hcommanded : g.commanded id with
  | error refusal =>
      rw [hcommanded] at hcommanded'
      rw [act_of_not_commanded hcommanded, act_of_not_commanded hcommanded']
      exact .ok h
  | ok m =>
      rw [hcommanded] at hcommanded'
      have hm := hg.numbered.made (Game.mem_inPlay_iff.2 ⟨id, find?_of_commanded hcommanded⟩)
      have hbuiltIn' := h.builtIn hbuiltIn
      have hoccupant : ∀ k, g.board.pieceAt target = some k → g.Made k :=
        fun k hk => hg.numbered.made (hground.inPlay target k hk)
      have hrefusal' := h.actionRefusal hm hoccupant action
      cases hrefusal : g.actionRefusal m target action with
      | some refusal =>
          rw [hrefusal] at hrefusal'
          rw [act_of_actionRefusal_some hg hbuiltIn hcommanded hrefusal,
            act_of_actionRefusal_some hg' hbuiltIn' hcommanded' hrefusal',
            refusal.isTellable_rename]
          split
          · exact .ok h
          · exact .error h
      | none =>
          rw [hrefusal] at hrefusal'
          rw [act_of_actionRefusal_none hg hbuiltIn hcommanded hrefusal,
            act_of_actionRefusal_none hg' hbuiltIn' hcommanded' hrefusal']
          exact h.carryOutAction hg hg' hbuiltIn hground hground' hm _ _ target action

end Twins

/-!
## Operations and runs
-/

section Runs

variable {c : Renaming} {g g' : Game}

theorem Twins.perform (h : Twins c g g') (hg : NeatlyReached g) (hg' : NeatlyReached g')
    {op : Operation} (hop : op.Addresses g) :
    EndsAlike c (Answer.rename c) (op.perform g) ((op.rename c).perform g') := by
  have haccounted := hg.plainly.accounted
  have haccounted' := hg'.plainly.accounted
  have hbuiltIn := hg.plainly.builtIn
  have hground := hg.plainly.grounded
  have hground' := hg'.plainly.grounded
  cases op with
  | add blueprint team square => cases hop
  | setup blueprints entries => cases hop
  | remove id =>
      exact EndsAlike.map Answer.piece Answer.piece (fun _ => rfl)
        (h.removePiece haccounted haccounted' hground hop)
  | start first =>
      exact EndsAlike.map (fun outcome => Answer.outcomes [outcome])
        (fun outcome => Answer.outcomes [outcome]) (fun _ => rfl)
        (h.start haccounted haccounted' hbuiltIn first)
  | move id target =>
      exact EndsAlike.map Answer.outcomes Answer.outcomes (fun _ => rfl)
        (h.move haccounted haccounted' hbuiltIn hg.settled hop target)
  | act id target action =>
      exact EndsAlike.map Answer.outcomes Answer.outcomes (fun _ => rfl)
        (h.act haccounted haccounted' hbuiltIn hground hground' hop target action)
  | applyStatus id definition =>
      exact EndsAlike.map Answer.effect Answer.effect (fun _ => rfl)
        (h.applyStatus haccounted haccounted' hop definition)
  | endTurn =>
      exact EndsAlike.map (fun _ => Answer.nothing) (fun _ => Answer.nothing) (fun _ => rfl)
        (h.endTurn haccounted haccounted' hbuiltIn)
  | legalMoves m =>
      exact EndsAlike.map Answer.squares Answer.squares (fun _ => rfl)
        (h.legalMoves haccounted haccounted' hbuiltIn hop)
  | legalTargets m action =>
      exact EndsAlike.map Answer.squares Answer.squares (fun _ => rfl)
        (h.legalTargets haccounted haccounted' hbuiltIn hground hop action)
  | checkMove m target =>
      rcases h.checkMove haccounted haccounted' hbuiltIn hop target with ⟨verdict, hrun, hrun'⟩
      have hgiven := h.give verdict
      rw [← hrun, ← hrun'] at hgiven
      exact EndsAlike.map Answer.verdict Answer.verdict (fun _ => rfl) hgiven
  | checkAction m target action =>
      rcases h.checkAction haccounted haccounted' hbuiltIn hground hop target action with
        ⟨verdict, hrun, hrun'⟩
      have hgiven := h.give verdict
      rw [← hrun, ← hrun'] at hgiven
      exact EndsAlike.map Answer.verdict Answer.verdict (fun _ => rfl) hgiven

theorem addresses_iff {k : Game} (hpieces : k.pieces = g.pieces) (op : Operation) :
    op.Addresses k ↔ op.Addresses g := by
  have hmade : ∀ n, k.Made n ↔ g.Made n := by
    intro n
    unfold Made
    rw [hpieces]
  have hnames : ∀ id, k.Names id ↔ g.Names id := by
    intro id
    unfold Names Made piece
    rw [hpieces]
  cases op with
  | add | setup | start | endTurn => exact Iff.rfl
  | remove id | move id _ | act id _ _ | applyStatus id _ => exact hnames id
  | legalMoves n | legalTargets n _ | checkMove n _ | checkAction n _ _ => exact hmade n

theorem takesVacant_of_addresses {k : Game} {op : Operation} (hop : op.Addresses k) (g : Game) :
    op.TakesVacant g := by
  cases op with
  | add | setup => cases hop
  | _ => trivial

theorem takesVacant_rename {k : Game} {op : Operation} (hop : op.Addresses k) (c : Renaming)
    (g : Game) : (op.rename c).TakesVacant g := by
  cases op with
  | add | setup => cases hop
  | _ => trivial

theorem pieces_perform {op : Operation} (hop : op.Addresses g) :
    (g.after op.perform).pieces = g.pieces := by
  rcases stepwise_operation op with
    ⟨blueprint, team, square, rfl⟩ | ⟨blueprints, entries, rfl⟩ | hstepwise
  · cases hop
  · cases hop
  · refine (hstepwise g).induction (P := fun k => k.pieces = g.pieces) ?_ rfl
    intro k k' hstep hk
    exact (samePieces_step hstep).pieces.trans hk

/-- Two runs of operations on corresponding pieces lead from twins to twins, and answer alike. -/
theorem Twins.run (h : Twins c g g') (hg : NeatlyReached g) (hg' : NeatlyReached g')
    {ops : List Operation} (hops : ∀ op ∈ ops, op.Addresses g) :
    Twins c (g.run ops) (g'.run (ops.map (Operation.rename c))) ∧
      g'.answers (ops.map (Operation.rename c)) = (g.answers ops).map (renameAnswer c) := by
  induction ops generalizing g g' with
  | nil => exact ⟨h, rfl⟩
  | cons op rest ih =>
      have hop := hops op List.mem_cons_self
      have hends := h.perform hg hg' hop
      have hrest : ∀ op' ∈ rest, op'.Addresses (g.after op.perform) := by
        intro op' hop'
        rw [addresses_iff (pieces_perform hop)]
        exact hops op' (List.mem_cons_of_mem op hop')
      rcases ih hends.after (hg.perform (takesVacant_of_addresses hop g))
        (hg'.perform (takesVacant_rename hop c g')) hrest with ⟨htwins, hanswers⟩
      refine ⟨htwins, ?_⟩
      rw [List.map_cons, Game.answers, Game.answers, List.map_cons, hends.answer, hanswers]

end Runs

end Game
end Boardcraft
