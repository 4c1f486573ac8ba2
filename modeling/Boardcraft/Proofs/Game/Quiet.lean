import Boardcraft.Proofs.Game.Turn

/-!
# Orders among quiet abilities

Abilities that cancel events, set flags and leave notes, and do no more than that, cannot make an
announcement fail.  So the report of an order to a piece that is carried out among them tells in which
turn it was.

## Main statements

* `announce_of_marksContext` and `endTurn_of_marksContext` say that events are announced and turns end
  without fail;
* `orderAnswered_carryOut` lists the ways in which an order ends, each with its report.
-/

namespace Boardcraft

/-- A reaction to the context of an event only, which cannot fail. -/
def Reaction.MarksContext : Reaction → Prop
  | cancel | setFlag _ _ | note _ _ => True
  | _ => False

theorem Reaction.MarksContext.touchesContext {r : Reaction} (h : r.MarksContext) :
    r.TouchesContext := by
  cases r <;> first | exact trivial | cases h

/-- The id of the piece that has been moved or has acted, and the turn in which it did, if an outcome
reports that. -/
def Outcome.applied? : Outcome → Option (Text × Nat)
  | moved id _ _ _ _ turn => some (id, turn)
  | acted id _ _ _ _ turn => some (id, turn)
  | _ => none

def Outcome.isOver : Outcome → Bool
  | .over .. => true
  | _ => false

theorem Outcome.isOver_of_applied {outcome : Outcome} {done : Text × Nat}
    (h : outcome.applied? = some done) : outcome.isOver = false := by
  cases outcome <;> first | rfl | cases h

@[simp] theorem PieceOrder.applied?_refused (order : PieceOrder) (refusal : Refusal) :
    (order.refused refusal).applied? = none := by
  cases order <;> rfl

@[simp] theorem PieceOrder.isOver_refused (order : PieceOrder) (refusal : Refusal) :
    (order.refused refusal).isOver = false := by
  cases order <;> rfl

/-!
## Announcements
-/

namespace Scene

variable {endTurn : GameM Unit} {a : Ability}

theorem performAll_of_marksContext {rs : List Reaction} (hrs : ∀ r ∈ rs, r.MarksContext)
    (s : Scene) : ∃ s', performAll endTurn a rs s = .ok () s' := by
  induction rs generalizing s with
  | nil => exact ⟨s, rfl⟩
  | cons r rest ih =>
      have hrest := ih fun r' hr' => hrs r' (List.mem_cons_of_mem r hr')
      have hr := hrs r List.mem_cons_self
      cases r with
      | cancel => exact hrest { s with context := s.context.cancel }
      | setFlag name value => exact hrest { s with context := s.context.setFlag name value }
      | note key value => exact hrest { s with context := s.context.note key value }
      | _ => cases hr

theorem hear_of_marksContext (ha : a.rule.ReactsBy Reaction.MarksContext) (s : Scene) :
    ∃ s', hear endTurn a s = .ok () s' := by
  unfold hear
  rw [get_bind]
  cases hbehaviour : a.rule.behaviour with
  | immobile =>
      dsimp only
      split <;> exact ⟨_, rfl⟩
  | jumping =>
      dsimp only
      split <;> exact ⟨_, rfl⟩
  | alliesOnly =>
      dsimp only
      split <;> exact ⟨_, rfl⟩
  | king =>
      dsimp only
      cases s.context.source with
      | none => exact ⟨_, rfl⟩
      | some captured =>
          dsimp only
          split <;> exact ⟨_, rfl⟩
  | scripted script =>
      dsimp only
      cases hscript : script ⟨a.host, s.game.board, s.context, s.game.journal.length⟩ with
      | none => exact ⟨_, rfl⟩
      | some reactions =>
          exact performAll_of_marksContext (ha script hbehaviour _ reactions hscript) (s.seen a)

theorem notify_of_marksContext (event : Event) {l : List Subscription}
    (hl : ∀ entry ∈ l, entry.ability.rule.ReactsBy Reaction.MarksContext) (s : Scene) :
    ∃ s', notify endTurn event l s = .ok () s' := by
  induction l generalizing s with
  | nil => exact ⟨s, rfl⟩
  | cons entry rest ih =>
      rw [notify_cons]
      split
      · exact ⟨s, rfl⟩
      · rcases hear_of_marksContext (hl entry List.mem_cons_self) s with ⟨s', hrun⟩
        rw [hrun]
        exact ih (fun e he => hl e (List.mem_cons_of_mem entry he)) s'

end Scene

namespace Game

variable {g g' : Game}

theorem ListenersReactBy.touchesContext (h : ListenersReactBy Reaction.MarksContext g) :
    ListenersReactBy Reaction.TouchesContext g := by
  intro s hs script hscript situation reactions hreactions r hr
  exact (h s hs script hscript situation reactions hreactions r hr).touchesContext

theorem announceWith_of_marksContext (h : ListenersReactBy Reaction.MarksContext g)
    (endTurn : GameM Unit) (c : Context) :
    ∃ context g', announceWith endTurn c g = .ok context g' ∧ SameButJournal g g' := by
  rcases announceWith_of_touchesContext h.touchesContext endTurn c with
    ⟨g', hsame, ⟨context, hrun⟩ | ⟨kind, cause, hrun⟩⟩
  · exact ⟨context, g', hrun, hsame⟩
  · have hnotify : ∃ s', Scene.notify endTurn c.event (g.dispatcher.listeners c.event) ⟨g, c⟩ =
        .ok () s' := Scene.notify_of_marksContext c.event (h.mem_listeners c.event) ⟨g, c⟩
    rcases hnotify with ⟨s', hnotify⟩
    unfold announceWith Scene.announce at hrun
    rw [hnotify] at hrun
    cases hrun

theorem announce_of_marksContext (h : ListenersReactBy Reaction.MarksContext g) (c : Context) :
    ∃ context g', announce c g = .ok context g' ∧ SameButJournal g g' :=
  announceWith_of_marksContext h endTurn c

/-- When a turn has ended, the announcement of the next has changed nothing. -/
theorem endTurn_sameButJournal (h : ListenersReactBy Reaction.MarksContext g) :
    ∃ g', endTurn g = .ok () g' ∧ SameButJournal g.tickAll.nextTurn g' := by
  rcases announceWith_of_marksContext h.turn (endTurnWithin 999) { event := .turnStart } with
    ⟨context, g', hrun, hsame⟩
  refine ⟨g', ?_, hsame⟩
  rw [endTurn_eq, bind_of_eq_ok _ hrun]
  rfl

theorem endTurn_of_marksContext (h : ListenersReactBy Reaction.MarksContext g) :
    ∃ g', endTurn g = .ok () g' ∧ TurnPassed g g' := by
  rcases endTurn_sameButJournal h with ⟨g', hrun, hsame⟩
  exact ⟨g', hrun, (turnPassed_turn g).of_sameButJournal hsame⟩

/-!
## Questions
-/

theorem sameButJournal_filterLegal {check : Square → GameM (Option Refusal)}
    (hcheck : ∀ s (g : Game), ListenersReactBy Reaction.MarksContext g →
      SameButJournal g (g.after (check s)))
    (l : List Square) (h : ListenersReactBy Reaction.MarksContext g) :
    SameButJournal g (g.after (filterLegal check l)) := by
  induction l generalizing g with
  | nil => exact .refl g
  | cons s rest ih =>
      have hsame := hcheck s g h
      rw [filterLegal]
      cases hrun : check s g with
      | error e g' =>
          rw [after_of_eq_error hrun] at hsame
          rwa [after_bind_of_eq_error _ hrun]
      | ok refusal g' =>
          rw [after_of_eq_ok hrun] at hsame
          rw [after_bind_of_eq_ok _ hrun, after_bind_pure]
          exact hsame.trans (ih (hsame.listeners h))

theorem sameButJournal_question {op : Operation} (hop : op.Asks)
    (h : ListenersReactBy Reaction.MarksContext g) : SameButJournal g (g.after op.perform) := by
  cases op with
  | legalMoves n =>
      rw [Operation.perform, after_map]
      exact sameButJournal_filterLegal (fun s _ hg => Inquiry.sameButJournal_check hg.touchesContext (.move n s))
        (g.movementTargets n) h
  | legalTargets n action =>
      rw [Operation.perform, after_map]
      exact sameButJournal_filterLegal (fun s _ hg => Inquiry.sameButJournal_check hg.touchesContext (.act n s action))
        (g.attackTargets n) h
  | checkMove n target =>
      rw [Operation.perform, after_map]
      exact Inquiry.sameButJournal_check h.touchesContext (.move n target)
  | checkAction n target action =>
      rw [Operation.perform, after_map]
      exact Inquiry.sameButJournal_check h.touchesContext (.act n target action)
  | _ => cases hop

/-!
## Orders
-/

/-- The ways in which an order to a piece ends among quiet abilities, and what is reported then. -/
inductive OrderAnswered (g : Game) (order : PieceOrder) :
    EStateM.Result GameError Game (List Outcome) → Prop where
  | refused {g' : Game} (same : SameTurn g g') (refusal : Refusal) :
      OrderAnswered g order (.ok [order.refused refusal] g')
  /-- The board does not hold the piece any more, as another has been put on its square, or there are
  no words for the refusal of the order. -/
  | failed {g' : Game} (same : SameTurn g g') (e : GameError) :
      OrderAnswered g order (.error e g')
  | passed {g' : Game} {outcome : Outcome} (applied : outcome.applied? = some (order.id, g.turn))
      (passed : TurnPassed g g') : OrderAnswered g order (.ok [outcome] g')
  | won {g' : Game} {outcome : Outcome} (applied : outcome.applied? = some (order.id, g.turn))
      (winner : Team) (loser : Value) (turn : Nat) (won : g'.isOver = true) :
      OrderAnswered g order (.ok [outcome, .over winner loser turn] g')

/-!
### Orders that are carried out

The order was given in the game `g`, and by now the game has come to `g'`, in the same turn.
-/

section CarryingOut

variable (h : ListenersReactBy Reaction.MarksContext g') (same : SameTurn g g')
  {order : PieceOrder}

include h same

theorem orderAnswered_endTurn {outcome : Outcome}
    (applied : outcome.applied? = some (order.id, g.turn)) :
    OrderAnswered g order ((endTurn >>= fun _ => pure [outcome]) g') := by
  rcases endTurn_of_marksContext h with ⟨g'', hrun, hpassed⟩
  rw [bind_of_eq_ok _ hrun]
  exact .passed applied (same.passed hpassed)

theorem orderAnswered_carryOutMove {n : PieceNumber} (hid : (g'.piece n).id = order.id)
    (origin : Square) {target : Square} (on : g'.board.Holds target) :
    OrderAnswered g order (carryOutMove n origin target g') := by
  rw [carryOutMove_eq]
  cases hm : g'.board.pieceAt origin with
  | none =>
      rw [bind_of_eq_error _ (shift_of_vacant hm target)]
      exact .failed same _
  | some m =>
      rw [bind_of_eq_ok _ (shift_of_pieceAt hm on)]
      have hshifted : ListenersReactBy Reaction.MarksContext
          { g' with board := (g'.board.clear origin).put m target } := h
      have hturn : SameTurn g { g' with board := (g'.board.clear origin).put m target } :=
        same.trans ⟨rfl, rfl, rfl⟩
      rcases announce_of_marksContext hshifted (moveEnd n origin target) with
        ⟨context, g'', hrun, hsame⟩
      rw [bind_of_eq_ok _ hrun, get_bind]
      have hturn' := hturn.trans hsame.sameTurn
      apply orderAnswered_endTurn (hsame.listeners hshifted) hturn'
      have hid' : (g''.piece n).id = order.id := by
        rw [hsame.piece]
        exact hid
      simp [Outcome.applied?, hid', hturn'.turn]

section Actions

variable (targetId : Option Text) (captured : Bool) (n : PieceNumber) (origin target : Square)
  (occupant : Option PieceNumber) (action : Text)

theorem orderAnswered_finishAction :
    OrderAnswered g order
      (finishAction order.id targetId captured n origin target occupant action none g') := by
  unfold finishAction
  rcases announce_of_marksContext h (actionEnd n origin target occupant action) with
    ⟨context, g'', hrun, hsame⟩
  rw [bind_of_eq_ok _ hrun, get_bind]
  have hturn := same.trans hsame.sameTurn
  apply orderAnswered_endTurn (hsame.listeners h) hturn
  simp [Outcome.applied?, hturn.turn]

omit same in
theorem orderAnswered_finishAction_of_over (hturn : g'.turn = g.turn) (hover : g'.isOver = true)
    (winner : Team) (loser : Value) (turn : Nat) :
    OrderAnswered g order
      (finishAction order.id targetId captured n origin target occupant action
        (some (.over winner loser turn)) g') := by
  unfold finishAction
  rcases announce_of_marksContext h (actionEnd n origin target occupant action) with
    ⟨context, g'', hrun, hsame⟩
  rw [bind_of_eq_ok _ hrun, get_bind]
  apply OrderAnswered.won _ winner loser turn (hsame.isOver_eq.trans hover)
  simp [Outcome.applied?, hsame.sameTurn.turn, hturn]

theorem orderAnswered_concludeCapture (m : PieceNumber) (p : Piece) (context : Context) :
    OrderAnswered g order
      ((concludeCapture n m p context >>=
        finishAction order.id targetId true n origin target occupant action) g') := by
  by_cases hends : endsGame context = true
  · have hwon : ListenersReactBy Reaction.MarksContext
        (g'.won (Team.against (loserOf context p))) := h
    rcases announce_of_marksContext hwon (gameOverOf n m) with ⟨context', g'', hrun, hsame⟩
    have hconclude : concludeCapture n m p context g' =
        .ok (some (.over (Team.against (loserOf context p)) (loserOf context p) g''.turn)) g'' := by
      unfold concludeCapture
      rw [if_pos hends]
      exact bind_of_eq_ok _ hrun
    rw [bind_of_eq_ok _ hconclude]
    apply orderAnswered_finishAction_of_over (hsame.listeners hwon)
    · exact hsame.sameTurn.turn.trans same.turn
    · exact hsame.isOver_eq
  · have hconclude : concludeCapture n m p context g' = .ok none g' := by
      unfold concludeCapture
      rw [if_neg hends]
      rfl
    rw [bind_of_eq_ok _ hconclude]
    exact orderAnswered_finishAction h same targetId true n origin target occupant action

theorem orderAnswered_capture (haccount : Accounted g') (hground : Grounded g') {m : PieceNumber}
    (hm : m ∈ g'.inPlay) :
    OrderAnswered g order
      ((capture n m >>= finishAction order.id targetId true n origin target occupant action) g') := by
  have hcapture := capture_eq g' n m
  rcases announce_of_marksContext h (g'.captureOf n m) with ⟨context, g'', hrun, hsame⟩
  rcases removePiece_of_inPlay (hsame.accounted haccount) (hsame.grounded hground)
    (hsame.inPlay ▸ hm) with ⟨g₁, hremove, hremoved, hlisten⟩
  rw [hsame.piece m] at hremove
  rw [bind_of_eq_ok _ hrun, bind_of_eq_ok _ hremove] at hcapture
  rw [bind_of_run_eq _ hcapture]
  have hleft := hlisten Reaction.MarksContext (hsame.listeners h)
  have hturn := (same.trans hsame.sameTurn).trans hremoved
  exact orderAnswered_concludeCapture hleft hturn targetId n origin target occupant action m _ context

end Actions

theorem orderAnswered_carryOutAction (haccount : Accounted g') (hground : Grounded g')
    {n : PieceNumber} (hid : (g'.piece n).id = order.id) (origin target : Square)
    {occupant : Option PieceNumber} (hoccupant : ∀ m, occupant = some m → m ∈ g'.inPlay)
    (action : Text) : OrderAnswered g order (carryOutAction n origin target occupant action g') := by
  cases hvictim : g'.victimOf n occupant with
  | some m =>
      have hm : m ∈ g'.inPlay := hoccupant m (Option.filter_eq_some_iff.1 hvictim).1
      rw [carryOutAction_of_victim hvictim, hid]
      exact orderAnswered_capture h same _ n origin target occupant action haccount hground hm
  | none =>
      rw [carryOutAction_of_no_victim hvictim, hid]
      exact orderAnswered_finishAction h same _ false n origin target occupant action

end CarryingOut

/-!
### All orders
-/

theorem orderAnswered_execute {g₁ g₂ : Game} (h : ListenersReactBy Reaction.MarksContext g₂)
    (haccount : Accounted g) (hground : Grounded g) {order : PieceOrder} {n : PieceNumber}
    (hid : (g.piece n).id = order.id) (started : SameButJournal g g₁)
    (checked : SameButJournal g₁ g₂) (allowed : (order.inquiry n).check g₁ = .ok none g₂) :
    OrderAnswered g order (order.execute g n g₂) := by
  have hsame := started.trans checked
  rw [← hsame.piece] at hid
  cases order with
  | move id target =>
      have hon : g₂.board.Holds target := checked.board ▸ holds_of_checkMove allowed
      exact orderAnswered_carryOutMove h hsame.sameTurn hid _ hon
  | act id target action =>
      refine orderAnswered_carryOutAction h hsame.sameTurn (hsame.accounted haccount)
        (hsame.grounded hground) hid _ target ?_ action
      intro m hm
      rw [hsame.inPlay]
      exact hground.inPlay target m hm

theorem orderAnswered_carryOut (hreached : Reached g)
    (h : AbilitiesReactBy Reaction.MarksContext g) (order : PieceOrder) :
    OrderAnswered g order (order.carryOut g) := by
  have hquiet := h.listeners hreached.accounted
  have hlisten := hquiet.touchesContext
  have hcourse := proceeds g order
  generalize order.carryOut g = result at hcourse ⊢
  cases hcourse with
  | forbidden gate => exact .refused (.refl g) _
  | @unannounced n e g₁ commanded failed =>
      rcases announce_of_marksContext hquiet (order.start g n) with ⟨context, g', hrun, _⟩
      cases failed.symm.trans hrun
  | @cancelled n context g₁ commanded announced cancelled =>
      have hsame := sameButJournal_announce hlisten (order.start g n)
      rw [after_of_eq_ok announced] at hsame
      exact .refused hsame.sameTurn _
  | unchecked begins failed =>
      have hchecked := begins.sameButJournal_check hlisten
      rw [after_of_eq_error failed] at hchecked
      exact .failed ((begins.sameButJournal hlisten).trans hchecked).sameTurn _
  | refused begins checked =>
      have hchecked := begins.sameButJournal_check hlisten
      rw [after_of_eq_ok checked] at hchecked
      exact .refused ((begins.sameButJournal hlisten).trans hchecked).sameTurn _
  | executed begins allowed run =>
      have hstarted := begins.sameButJournal hlisten
      have hchecked := begins.sameButJournal_check hlisten
      rw [after_of_eq_ok allowed] at hchecked
      have hid := hreached.accounted.numbered.id_eq (find?_of_commanded begins.commanded)
      rw [← run]
      exact orderAnswered_execute ((hstarted.trans hchecked).listeners hquiet) hreached.accounted
        hreached.grounded hid hstarted hchecked allowed

end Game
end Boardcraft
