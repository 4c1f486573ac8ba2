import Boardcraft.Proofs.Game.Chronicle

/-!
# Following operations

Equations for checks and commands that say what each of them does once its gates are passed, and
from them that every full chronicle holds of every operation and its deeds.

## Main statements

* `move_of_ok`, `act_of_ok`, `carryOutAction_of_victim` and `capture_eq` take the commands apart;
* `FullChronicle.operation` follows every operation but those that bring pieces into play.
-/

namespace Boardcraft
namespace Game

/-!
## Verdicts

A verdict is given unless it is a refusal for which there are no words.
-/

section Verdicts

variable {verdict : Option Refusal}

theorem give_of_tellable (h : verdict.all Refusal.isTellable = true) (g : Game) :
    give verdict g = .ok verdict g := by
  unfold give
  rw [if_pos h]
  rfl

theorem give_of_untellable (h : verdict.all Refusal.isTellable = false) (g : Game) :
    give verdict g = .error .oversizedNumber g := by
  unfold give
  rw [if_neg (Bool.eq_false_iff.1 h)]
  rfl

theorem give_eq (verdict : Option Refusal) (g : Game) :
    give verdict g =
      if verdict.all Refusal.isTellable then .ok verdict g else .error .oversizedNumber g := by
  unfold give
  split <;> rfl

theorem give_some (refusal : Refusal) (g : Game) :
    give (some refusal) g =
      if refusal.isTellable then .ok (some refusal) g else .error .oversizedNumber g := by
  rw [give_eq, Option.all_some]

theorem give_cases (verdict : Option Refusal) (g : Game) :
    give verdict g = .ok verdict g ∨ give verdict g = .error .oversizedNumber g := by
  cases h : verdict.all Refusal.isTellable with
  | true => exact Or.inl (give_of_tellable h g)
  | false => exact Or.inr (give_of_untellable h g)

theorem give_eq_ok {given : Option Refusal} {g g' : Game} (h : give verdict g = .ok given g') :
    verdict = given ∧ g = g' := by
  rcases give_cases verdict g with hgive | hgive
  · rw [h] at hgive
    cases hgive
    exact ⟨rfl, rfl⟩
  · rw [h] at hgive
    cases hgive

theorem give_eq_error {e : GameError} {g g' : Game} (h : give verdict g = .error e g') :
    e = .oversizedNumber ∧ ∃ refusal, verdict = some refusal ∧ refusal.isTellable = false := by
  cases verdict with
  | none => cases h
  | some refusal =>
      rw [give_some] at h
      split at h
      · cases h
      · next huntold =>
          cases h
          exact ⟨rfl, refusal, rfl, Bool.eq_false_iff.2 huntold⟩

theorem bind_of_give_some {α : Type} {m : GameM (Option Refusal)} (k : Option Refusal → GameM α)
    {refusal : Refusal} {g g' : Game} (h : m g = give (some refusal) g') :
    (m >>= k) g =
      if refusal.isTellable then k (some refusal) g' else .error .oversizedNumber g' := by
  rw [give_some] at h
  split at h
  · next htold => rw [bind_of_eq_ok _ h, if_pos htold]
  · next huntold => rw [bind_of_eq_error _ h, if_neg huntold]

theorem after_give (verdict : Option Refusal) (g : Game) : g.after (give verdict) = g := by
  rcases give_cases verdict g with hgive | hgive
  · exact after_of_eq_ok hgive
  · exact after_of_eq_error hgive

theorem after_bind_get_give {α : Type} (g : Game) (m : GameM α)
    (f : α → Game → Option Refusal) :
    g.after (m >>= fun a => (get : GameM Game) >>= fun g' => give (f a g')) = g.after m := by
  cases h : m g with
  | ok a g' => rw [after_bind_of_eq_ok _ h, after_of_eq_ok h, after_get_bind, after_give]
  | error e g' => rw [after_bind_of_eq_error _ h, after_of_eq_error h]

end Verdicts

/-!
## Checks
-/

theorem checkMove_of_movePrecheck_some {g : Game} {n : PieceNumber} {target : Square}
    {refusal : Refusal} (h : g.movePrecheck n target = some refusal) :
    checkMove n target g = give (some refusal) g := by
  unfold checkMove
  rw [get_bind, h]

theorem checkMove_of_movePrecheck_none {g : Game} {n : PieceNumber} {target : Square}
    (h : g.movePrecheck n target = none) :
    checkMove n target g =
      (announce (moveQuestion g n target) >>= fun context => get >>= fun g' =>
        give (g'.moveVerdict context n (g.squareOf n) target)) g := by
  unfold checkMove
  rw [get_bind, h]
  rfl

theorem checkAction_of_actionPrecheck_some {g : Game} {n : PieceNumber} {target : Square}
    {action : Text} {refusal : Refusal} (h : g.actionPrecheck n target action = some refusal) :
    checkAction n target action g = give (some refusal) g := by
  unfold checkAction
  rw [get_bind, h]

theorem checkAction_of_actionPrecheck_none {g : Game} {n : PieceNumber} {target : Square}
    {action : Text} (h : g.actionPrecheck n target action = none) :
    checkAction n target action g =
      (announce (actionQuestion g n target action) >>= fun context => get >>= fun g' =>
        give (g'.actionVerdict context n target (g.board.pieceAt target) action)) g := by
  unfold checkAction
  rw [get_bind, h]
  rfl

/-- The gates before the question to the abilities are open to a move that is legal. -/
theorem movePrecheck_of_checkMove {g g' : Game} {n : PieceNumber} {target : Square}
    (h : checkMove n target g = .ok none g') : g.movePrecheck n target = none := by
  cases hpre : g.movePrecheck n target with
  | none => rfl
  | some refusal =>
      rw [checkMove_of_movePrecheck_some hpre] at h
      cases (give_eq_ok h).1

theorem actionPrecheck_of_checkAction {g g' : Game} {n : PieceNumber} {target : Square}
    {action : Text} (h : checkAction n target action g = .ok none g') :
    g.actionPrecheck n target action = none := by
  cases hpre : g.actionPrecheck n target action with
  | none => rfl
  | some refusal =>
      rw [checkAction_of_actionPrecheck_some hpre] at h
      cases (give_eq_ok h).1

theorem isOccupied_of_moveVerdict {g : Game} {context : Context} {n : PieceNumber}
    {origin target : Square} (h : g.moveVerdict context n origin target = none) :
    g.board.isOccupied target = false := by
  unfold moveVerdict at h
  split at h
  · cases h
  · dsimp only at h
    split at h
    · cases h
    · split at h
      · cases h
      · next hfree => exact Bool.eq_false_iff.2 hfree

/-- A square to which a move is legal is empty when the abilities have had their say. -/
theorem isOccupied_of_checkMove {g g' : Game} {n : PieceNumber} {target : Square}
    (h : checkMove n target g = .ok none g') : g'.board.isOccupied target = false := by
  rw [checkMove_of_movePrecheck_none (movePrecheck_of_checkMove h)] at h
  cases hrun : announce (moveQuestion g n target) g with
  | error e g'' =>
      rw [bind_of_eq_error _ hrun] at h
      cases h
  | ok context g'' =>
      rw [bind_of_eq_ok _ hrun, get_bind] at h
      rcases give_eq_ok h with ⟨hverdict, rfl⟩
      exact isOccupied_of_moveVerdict hverdict

/-!
## Commands
-/

theorem find?_of_commanded {g : Game} {id : Text} {n : PieceNumber}
    (h : g.commanded id = .ok n) : g.find? id = some n := by
  unfold commanded at h
  split at h
  · cases h
  · next m hfind =>
      split at h
      · cases h
      · cases h
      · split at h
        · injection h with h
          rw [hfind, h]
        · cases h

theorem move_of_not_commanded {g : Game} {id : Text} {refusal : Refusal}
    (h : g.commanded id = .error refusal) (target : Square) :
    move id target g = .ok [.refused .move id target refusal] g := by
  unfold move
  rw [get_bind]
  dsimp only
  rw [h]
  rfl

/-- A move that is ordered in turn is announced, then checked, then carried out. -/
theorem move_of_ok {g : Game} {id : Text} {n : PieceNumber} (h : g.commanded id = .ok n)
    (target : Square) :
    move id target g =
      (announce (g.moveStart n target) >>= fun context =>
        if context.cancelled then pure [.refused .move id target (.moveCancelled id)]
        else checkMove n target >>= fun refusal =>
          match refusal with
          | some refusal => pure [.refused .move id target refusal]
          | none => carryOutMove n (g.squareOf n) target) g := by
  unfold move
  rw [get_bind]
  dsimp only
  rw [h]
  rfl

theorem carryOutMove_eq (n : PieceNumber) (origin target : Square) :
    carryOutMove n origin target =
      shift origin target >>= fun _ => announce (moveEnd n origin target) >>= fun _ =>
        get >>= fun g => endTurn >>= fun _ =>
          pure [.moved (g.piece n).id (g.piece n).name (g.piece n).team origin target g.turn] := rfl

theorem act_of_not_commanded {g : Game} {id : Text} {refusal : Refusal}
    (h : g.commanded id = .error refusal) (target : Square) (action : Text) :
    act id target action g = .ok [.refused .action id target refusal] g := by
  unfold act
  rw [get_bind]
  dsimp only
  rw [h]
  rfl

/-- An action that is ordered in turn is announced, then checked, then carried out upon the piece
that stood on the target at first. -/
theorem act_of_ok {g : Game} {id : Text} {n : PieceNumber} (h : g.commanded id = .ok n)
    (target : Square) (action : Text) :
    act id target action g =
      (announce (g.actionStart n target action) >>= fun context =>
        if context.cancelled then pure [.refused .action id target (.actionCancelled action id)]
        else checkAction n target action >>= fun refusal =>
          match refusal with
          | some refusal => pure [.refused .action id target refusal]
          | none => carryOutAction n (g.squareOf n) target (g.board.pieceAt target) action) g := by
  unfold act
  rw [get_bind]
  dsimp only
  rw [h]
  rfl

/-- The end of the capture of a piece that has been taken out of play: the game is over if a
listener of the capture has noted so. -/
def concludeCapture (attacker captured : PieceNumber) (p : Piece) (context : Context) :
    GameM (Option Outcome) :=
  if endsGame context then do
    modify fun g => g.won (Team.against (loserOf context p))
    let _ ← announce (gameOverOf attacker captured)
    return some (.over (Team.against (loserOf context p)) (loserOf context p) (← get).turn)
  else pure none

theorem capture_eq (g : Game) (attacker captured : PieceNumber) :
    capture attacker captured g =
      (announce (g.captureOf attacker captured) >>= fun context =>
        removePiece (g.piece captured).id >>= fun _ =>
          concludeCapture attacker captured (g.piece captured) context) g := rfl

def finishAction (id : Text) (targetId : Option Text) (captured : Bool) (n : PieceNumber)
    (origin target : Square) (occupant : Option PieceNumber) (action : Text)
    (gameOver : Option Outcome) : GameM (List Outcome) := do
  let _ ← announce (actionEnd n origin target occupant action)
  let acted : Outcome := .acted id action target targetId captured (← get).turn
  match gameOver with
  | some outcome => return [acted, outcome]
  | none =>
      endTurn
      return [acted]

theorem carryOutAction_of_victim {g : Game} {n m : PieceNumber} {occupant : Option PieceNumber}
    (h : g.victimOf n occupant = some m) (origin target : Square) (action : Text) :
    carryOutAction n origin target occupant action g =
      (capture n m >>= finishAction (g.piece n).id (occupant.map fun m => (g.piece m).id) true n
        origin target occupant action) g := by
  unfold victimOf at h
  unfold carryOutAction
  rw [get_bind, h]
  rfl

theorem carryOutAction_of_no_victim {g : Game} {n : PieceNumber} {occupant : Option PieceNumber}
    (h : g.victimOf n occupant = none) (origin target : Square) (action : Text) :
    carryOutAction n origin target occupant action g =
      finishAction (g.piece n).id (occupant.map fun m => (g.piece m).id) false n origin target
        occupant action none g := by
  unfold victimOf at h
  unfold carryOutAction
  rw [get_bind, h]
  rfl

/-!
## Chronicles of checks
-/

section Checks

variable {R : Game → List Deed → Game → Prop} (h : Chronicle (fun _ => True) R)

include h

theorem Chronicle.checkMove (n : PieceNumber) (target : Square) (g : Game) :
    R g (checkMoveDeeds n target g) (g.after (Game.checkMove n target)) := by
  unfold checkMoveDeeds
  cases hpre : g.movePrecheck n target with
  | some refusal =>
      rw [after_congr (checkMove_of_movePrecheck_some hpre), after_give]
      exact h.still g
  | none =>
      rw [after_congr (checkMove_of_movePrecheck_none hpre), after_bind_get_give]
      exact h.announce _ g

theorem Chronicle.checkAction (n : PieceNumber) (target : Square) (action : Text) (g : Game) :
    R g (checkActionDeeds n target action g) (g.after (Game.checkAction n target action)) := by
  unfold checkActionDeeds
  cases hpre : g.actionPrecheck n target action with
  | some refusal =>
      rw [after_congr (checkAction_of_actionPrecheck_some hpre), after_give]
      exact h.still g
  | none =>
      rw [after_congr (checkAction_of_actionPrecheck_none hpre), after_bind_get_give]
      exact h.announce _ g

theorem Chronicle.filterLegal {check : Square → GameM (Option Refusal)}
    {deeds : Square → Game → List Deed}
    (hcheck : ∀ s (g : Game), R g (deeds s g) (g.after (check s))) (l : List Square) (g : Game) :
    R g (filterLegalDeeds check deeds l g) (g.after (Game.filterLegal check l)) := by
  induction l generalizing g with
  | nil => exact h.still g
  | cons s rest ih =>
      rw [Game.filterLegal, filterLegalDeeds]
      refine h.bind (hcheck s g) fun refusal g' _ => ?_
      rw [after_bind_pure]
      exact ih g'

theorem Chronicle.legalMoves (n : PieceNumber) (g : Game) :
    R g (legalMovesDeeds n g) (g.after (Game.legalMoves n)) :=
  h.filterLegal (h.checkMove n) (g.movementTargets n) g

theorem Chronicle.legalTargets (n : PieceNumber) (action : Text) (g : Game) :
    R g (legalTargetsDeeds n action g) (g.after (Game.legalTargets n action)) :=
  h.filterLegal (fun s => h.checkAction n s action) (g.attackTargets n) g

end Checks

/-!
## Chronicles of commands
-/

namespace FullChronicle

variable {R : Game → List Deed → Game → Prop} (h : FullChronicle R)

include h

theorem start (first : Value) (g : Game) : R g (startDeeds first g) (g.after (Game.start first)) := by
  unfold Game.start startDeeds
  cases Team.ofValue? first with
  | none => exact h.still g
  | some team =>
      dsimp only
      rw [after_modify_bind]
      refine h.chain (h.begin g team) ?_
      refine h.bind (h.announce _ (g.begun team)) fun _ g' _ => ?_
      rw [after_bind_get_pure]
      exact h.announce _ g'

theorem carryOutMove {g : Game} {target : Square} (hempty : g.board.isOccupied target = false)
    (n : PieceNumber) (origin : Square) :
    R g (carryOutMoveDeeds n origin target g) (g.after (Game.carryOutMove n origin target)) := by
  refine h.bind (h.shift g origin target hempty) fun _ g' _ => ?_
  refine h.bind (h.announce _ g') fun _ g'' _ => ?_
  rw [after_get_bind, after_bind_pure]
  exact h.endTurn g''

theorem move (id : Text) (target : Square) (g : Game) :
    R g (moveDeeds id target g) (g.after (Game.move id target)) := by
  unfold moveDeeds
  cases hgate : g.commanded id with
  | error refusal =>
      rw [after_of_eq_ok (move_of_not_commanded hgate target)]
      exact h.still g
  | ok n =>
      rw [after_congr (move_of_ok hgate target)]
      refine h.bind (h.announce _ g) fun context g' _ => ?_
      split
      · exact h.still g'
      · refine h.bind (h.checkMove n target g') fun refusal g'' hcheck => ?_
        cases refusal with
        | some refusal => exact h.still g''
        | none => exact h.carryOutMove (isOccupied_of_checkMove hcheck) n _

theorem concludeCapture (attacker captured : PieceNumber) (p : Piece) (context : Context)
    (g : Game) : R g (concludeCaptureDeeds attacker captured p context g)
      (g.after (Game.concludeCapture attacker captured p context)) := by
  unfold Game.concludeCapture concludeCaptureDeeds
  split
  · rw [after_modify_bind]
    refine h.chain (h.win g (Team.against (loserOf context p))) ?_
    rw [after_bind_get_pure]
    exact h.announce _ _
  · exact h.still g

theorem capture (attacker captured : PieceNumber) (g : Game) :
    R g (captureDeeds attacker captured g) (g.after (Game.capture attacker captured)) := by
  rw [after_congr (capture_eq g attacker captured)]
  refine h.bind (h.announce _ g) fun context g' _ => ?_
  refine h.bind (h.remove g' .source _ trivial) fun _ g'' _ => ?_
  exact h.concludeCapture attacker captured _ context g''

theorem finishAction (id : Text) (targetId : Option Text) (captured : Bool) (n : PieceNumber)
    (origin target : Square) (occupant : Option PieceNumber) (action : Text)
    (gameOver : Option Outcome) (g : Game) :
    R g (finishActionDeeds n origin target occupant action gameOver g)
      (g.after (Game.finishAction id targetId captured n origin target occupant action gameOver)) := by
  refine h.bind (h.announce _ g) fun _ g' _ => ?_
  rw [after_get_bind]
  cases gameOver with
  | some outcome => exact h.still g'
  | none =>
      dsimp only
      rw [after_bind_pure]
      exact h.endTurn g'

theorem carryOutAction (n : PieceNumber) (origin target : Square) (occupant : Option PieceNumber)
    (action : Text) (g : Game) :
    R g (carryOutActionDeeds n origin target occupant action g)
      (g.after (Game.carryOutAction n origin target occupant action)) := by
  unfold carryOutActionDeeds
  cases hvictim : g.victimOf n occupant with
  | some m =>
      rw [after_congr (carryOutAction_of_victim hvictim origin target action)]
      exact h.bind (h.capture n m g) fun gameOver g' _ => h.finishAction _ _ true n _ _ _ _ gameOver g'
  | none =>
      rw [after_congr (carryOutAction_of_no_victim hvictim origin target action)]
      exact h.finishAction _ _ false n _ _ _ _ none g

theorem act (id : Text) (target : Square) (action : Text) (g : Game) :
    R g (actDeeds id target action g) (g.after (Game.act id target action)) := by
  unfold actDeeds
  cases hgate : g.commanded id with
  | error refusal =>
      rw [after_of_eq_ok (act_of_not_commanded hgate target action)]
      exact h.still g
  | ok n =>
      rw [after_congr (act_of_ok hgate target action)]
      refine h.bind (h.announce _ g) fun context g' _ => ?_
      split
      · exact h.still g'
      · refine h.bind (h.checkAction n target action g') fun refusal g'' _ => ?_
        cases refusal with
        | some refusal => exact h.still g''
        | none => exact h.carryOutAction n _ target _ action g''

end FullChronicle

end Game

/-!
## Operations
-/

namespace Operation

def Recruits : Operation → Prop
  | add _ _ _ | setup _ _ => True
  | _ => False

end Operation

namespace Game

/-- Every operation but those that bring pieces into play. -/
theorem FullChronicle.operation {R : Game → List Deed → Game → Prop} (h : FullChronicle R)
    {op : Operation} (hop : ¬ op.Recruits) (g : Game) : R g (op.deeds g) (g.after op.perform) := by
  cases op with
  | add blueprint team square => exact absurd trivial hop
  | setup blueprints entries => exact absurd trivial hop
  | remove id =>
      rw [Operation.perform, after_map]
      exact h.remove g .source id trivial
  | start first =>
      rw [Operation.perform, after_map]
      exact h.start first g
  | move id target =>
      rw [Operation.perform, after_map]
      exact h.move id target g
  | act id target action =>
      rw [Operation.perform, after_map]
      exact h.act id target action g
  | applyStatus id definition =>
      rw [Operation.perform, after_map]
      exact h.afflict g .source default id definition trivial
  | endTurn =>
      rw [Operation.perform, after_map]
      exact h.endTurn g
  | legalMoves n =>
      rw [Operation.perform, after_map]
      exact h.legalMoves n g
  | legalTargets n action =>
      rw [Operation.perform, after_map]
      exact h.legalTargets n action g
  | checkMove n target =>
      rw [Operation.perform, after_map]
      exact h.checkMove n target g
  | checkAction n target action =>
      rw [Operation.perform, after_map]
      exact h.checkAction n target action g

end Game
end Boardcraft
