import Boardcraft.Proofs.Game.Course
import Boardcraft.Proofs.Game.Restraint

/-!
# How orders end

An order to a piece is announced and checked before it changes anything, and announced again and
followed by the end of the turn afterwards.  Where abilities keep to the context of events, this
leaves few ways in which an order can end, and each says what has become of the game.

## Main statements

* `orderEnds_carryOut` says that every order ends in one of these ways;
* `refused_orders_change_nothing` is about orders that end before they change the board;
* `changing_orders_use_the_turn` is about orders that end later.
-/

namespace Boardcraft

def Outcome.isRefused : Outcome → Bool
  | refused .. => true
  | _ => false

/-- The events that an order announces before it changes anything. -/
def Event.opening : List Event := [moveStart, moveValidate, actionStart, actionValidate, capture]

/-- The events that an order announces when it has changed what it will, before the turn ends. -/
def Event.closing : List Event := [moveEnd, actionEnd]

namespace Game

/-!
## The ways in which an order ends
-/

structure SameTurn (g g' : Game) : Prop where
  turn : g'.turn = g.turn
  toMove : g'.toMove = g.toMove
  winner : g'.winner = g.winner

/-- From one game to the other nobody has won and the turn has passed to the other team. -/
structure TurnPassed (g g' : Game) : Prop where
  turn : g'.turn = g.turn + 1
  toMove : g'.toMove = g.toMove.map Team.other
  winner : g'.winner = g.winner

/-- The result of an order that was carried out and has led to a game.  Something else is reported
than a refusal, or an ability has failed that was heard when the board had been changed. -/
inductive CarriedOut (g' : Game) : EStateM.Result GameError Game (List Outcome) → Prop where
  | reported {outcome : Outcome} (done : outcome.isRefused = false) (rest : List Outcome) :
      CarriedOut g' (.ok (outcome :: rest) g')
  | failed {event : Event} (late : event ∉ Event.opening) (kind : Text) (cause : GameError) :
      CarriedOut g' (.error (.abilityFailed kind event cause) g')

inductive OrderEnds (g : Game) : EStateM.Result GameError Game (List Outcome) → Prop where
  | refused {g' : Game} (same : SameButJournal g g') (command : Command) (id : Text)
      (target : Square) (refusal : Refusal) :
      OrderEnds g (.ok [.refused command id target refusal] g')
  | failedBefore {g' : Game} (same : SameButJournal g g') {event : Event}
      (early : event ∈ Event.opening) (kind : Text) (cause : GameError) :
      OrderEnds g (.error (.abilityFailed kind event cause) g')
  /-- The order is refused for a square that cannot be written down. -/
  | untold {g' : Game} (same : SameButJournal g g') : OrderEnds g (.error .oversizedNumber g')
  /-- The board does not hold the piece any more, as another has been put on its square. -/
  | astray {g' : Game} (same : SameButJournal g g') (s : Square) :
      OrderEnds g (.error (.badSquare (.nothingToMove s)) g')
  | failedAfter {g' : Game} (same : SameTurn g g') {event : Event} (late : event ∈ Event.closing)
      (kind : Text) (cause : GameError) : OrderEnds g (.error (.abilityFailed kind event cause) g')
  | won {result : EStateM.Result GameError Game (List Outcome)} {g' : Game}
      (done : CarriedOut g' result) (won : g'.isOver = true) : OrderEnds g result
  | passed {result : EStateM.Result GameError Game (List Outcome)} {g' : Game}
      (done : CarriedOut g' result) (passed : TurnPassed g g') : OrderEnds g result

namespace SameTurn

variable {g g' g'' : Game}

theorem trans (h : SameTurn g g') (h' : SameTurn g' g'') : SameTurn g g'' :=
  ⟨h'.turn.trans h.turn, h'.toMove.trans h.toMove, h'.winner.trans h.winner⟩

theorem passed (h : SameTurn g g') (h' : TurnPassed g' g'') : TurnPassed g g'' := by
  refine ⟨?_, ?_, h'.winner.trans h.winner⟩
  · rw [h'.turn, h.turn]
  · rw [h'.toMove, h.toMove]

end SameTurn

theorem SameButJournal.sameTurn {g g' : Game} (h : SameButJournal g g') : SameTurn g g' := by
  rcases h with ⟨journal, rfl⟩
  exact ⟨rfl, rfl, rfl⟩

theorem SameButJournal.isOver_eq {g g' : Game} (h : SameButJournal g g') : g'.isOver = g.isOver := by
  rcases h with ⟨journal, rfl⟩
  rfl

theorem turnPassed_turn (g : Game) : TurnPassed g g.tickAll.nextTurn := by
  rcases tickAll_eq g with ⟨dispatcher, effects, statuses, heq⟩
  rw [heq]
  exact ⟨rfl, rfl, rfl⟩

theorem TurnPassed.of_sameButJournal {g g' g'' : Game} (h : TurnPassed g g')
    (h' : SameButJournal g' g'') : TurnPassed g g'' := by
  rcases h' with ⟨journal, rfl⟩
  exact ⟨h.turn, h.toMove, h.winner⟩

/-!
## Checks
-/

section Checks

variable {g : Game}

theorem holds_of_checkMove {g' : Game} {n : PieceNumber} {target : Square}
    (h : checkMove n target g = .ok none g') : g.board.Holds target :=
  (movePrecheck_eq_none_iff.1 (movePrecheck_of_checkMove h)).1

/-- A check that lets abilities touch the context only leaves the game alone. -/
theorem Inquiry.sameButJournal_check (h : ListenersReactBy Reaction.TouchesContext g)
    (i : Inquiry) : SameButJournal g (g.after i.check) := by
  cases hpre : i.precheck g with
  | some refusal =>
      rw [after_congr (check_of_precheck_some hpre), after_give]
      exact .refl g
  | none =>
      rw [after_congr (check_of_precheck_none hpre), after_bind_get_give]
      exact sameButJournal_announce h (i.question g)

end Checks

/-!
## Removals
-/

theorem removePiece_of_inPlay {g : Game} (haccount : Accounted g) (hground : Grounded g)
    {m : PieceNumber} (hm : m ∈ g.inPlay) :
    ∃ g', removePiece (g.piece m).id g = .ok m g' ∧ SameTurn g g' ∧
      ∀ P, ListenersReactBy P g → ListenersReactBy P g' := by
  refine ⟨_, removePiece_of_holds (haccount.numbered.find?_id hm) (hground.holds m hm), ?_, ?_⟩
  · rcases withoutPiece_eq g (g.piece m).id m with ⟨dispatcher, effects, heq⟩
    rw [heq]
    exact ⟨rfl, rfl, rfl⟩
  · intro P h
    exact h.withoutPiece haccount.attached (g.piece m).id m

/-!
## Orders that are carried out

The order was given in the game `g`, and by now the game has come to `g'`, in the same turn.
-/

section CarryingOut

variable {g g' : Game} (h : ListenersReactBy Reaction.TouchesContext g')

include h

theorem orderEnds_endTurn (same : SameTurn g g') {outcome : Outcome}
    (done : outcome.isRefused = false) :
    OrderEnds g ((endTurn >>= fun _ => pure [outcome]) g') := by
  rcases endTurn_of_touchesContext h with ⟨g'', hsame, hrun | ⟨kind, cause, hrun⟩⟩
  · have hpassed := same.passed ((turnPassed_turn g').of_sameButJournal hsame)
    rw [bind_of_eq_ok _ hrun]
    exact .passed (.reported done []) hpassed
  · have hpassed := same.passed ((turnPassed_turn g').of_sameButJournal hsame)
    rw [bind_of_eq_error _ hrun]
    exact .passed (.failed (by decide) kind cause) hpassed

theorem orderEnds_carryOutMove (same : SameButJournal g g') (n : PieceNumber) (origin : Square)
    {target : Square} (on : g'.board.Holds target) :
    OrderEnds g (carryOutMove n origin target g') := by
  rw [carryOutMove_eq]
  cases hm : g'.board.pieceAt origin with
  | none =>
      rw [bind_of_eq_error _ (shift_of_vacant hm target)]
      exact .astray same origin
  | some m =>
      rw [bind_of_eq_ok _ (shift_of_pieceAt hm on)]
      have hshifted : ListenersReactBy Reaction.TouchesContext
          { g' with board := (g'.board.clear origin).put m target } := h
      have hturn : SameTurn g { g' with board := (g'.board.clear origin).put m target } :=
        same.sameTurn.trans ⟨rfl, rfl, rfl⟩
      rcases announce_of_touchesContext hshifted (moveEnd n origin target) with
        ⟨g'', hsame, ⟨context, hrun⟩ | ⟨kind, cause, hrun⟩⟩
      · rw [bind_of_eq_ok _ hrun, get_bind]
        refine orderEnds_endTurn (hsame.listeners hshifted) (hturn.trans hsame.sameTurn) ?_
        rfl
      · rw [bind_of_eq_error _ hrun]
        have hlate : Event.moveEnd ∈ Event.closing := by decide
        exact .failedAfter (hturn.trans hsame.sameTurn) hlate kind cause

section Actions

variable (id : Text) (targetId : Option Text) (captured : Bool) (n : PieceNumber)
  (origin target : Square) (occupant : Option PieceNumber) (action : Text)

theorem orderEnds_finishAction (same : SameTurn g g') :
    OrderEnds g
      (finishAction id targetId captured n origin target occupant action none g') := by
  unfold finishAction
  rcases announce_of_touchesContext h (actionEnd n origin target occupant action) with
    ⟨g'', hsame, ⟨context, hrun⟩ | ⟨kind, cause, hrun⟩⟩
  · rw [bind_of_eq_ok _ hrun, get_bind]
    refine orderEnds_endTurn (hsame.listeners h) (same.trans hsame.sameTurn) ?_
    rfl
  · rw [bind_of_eq_error _ hrun]
    have hlate : Event.actionEnd ∈ Event.closing := by decide
    exact .failedAfter (same.trans hsame.sameTurn) hlate kind cause

/-- An action that has ended the game stays the last, also where an ability fails that is heard at
its end. -/
theorem orderEnds_finishAction_of_over (hover : g'.isOver = true) (outcome : Outcome) :
    OrderEnds g
      (finishAction id targetId captured n origin target occupant action (some outcome) g') := by
  unfold finishAction
  rcases announce_of_touchesContext h (actionEnd n origin target occupant action) with
    ⟨g'', hsame, ⟨context, hrun⟩ | ⟨kind, cause, hrun⟩⟩
  · rw [bind_of_eq_ok _ hrun, get_bind]
    exact .won (.reported rfl [outcome]) (hsame.isOver_eq.trans hover)
  · have hlate : Event.actionEnd ∉ Event.opening := by decide
    rw [bind_of_eq_error _ hrun]
    exact .won (.failed hlate kind cause) (hsame.isOver_eq.trans hover)

theorem orderEnds_concludeCapture (same : SameTurn g g') (m : PieceNumber) (p : Piece)
    (context : Context) :
    OrderEnds g
      ((concludeCapture n m p context >>=
        finishAction id targetId true n origin target occupant action) g') := by
  by_cases hends : endsGame context = true
  · have hwon : ListenersReactBy Reaction.TouchesContext
        (g'.won (Team.against (loserOf context p))) := h
    have hconclude : concludeCapture n m p context g' =
        (announce (gameOverOf n m) >>= fun _ => get >>= fun g'' =>
          pure (some (.over (Team.against (loserOf context p)) (loserOf context p) g''.turn)))
          (g'.won (Team.against (loserOf context p))) := by
      unfold concludeCapture
      rw [if_pos hends]
      rfl
    rcases announce_of_touchesContext hwon (gameOverOf n m) with
      ⟨g'', hsame, ⟨context', hrun⟩ | ⟨kind, cause, hrun⟩⟩
    · have hover : g''.isOver = true := hsame.isOver_eq
      rw [bind_of_eq_ok _ hrun] at hconclude
      rw [bind_of_eq_ok _ hconclude]
      exact orderEnds_finishAction_of_over (hsame.listeners hwon) _ _ _ _ _ _ _ _ hover _
    · have hover : g''.isOver = true := hsame.isOver_eq
      have hlate : Event.gameOver ∉ Event.opening := by decide
      rw [bind_of_eq_error _ hrun] at hconclude
      rw [bind_of_eq_error _ hconclude]
      exact .won (.failed hlate kind cause) hover
  · have hconclude : concludeCapture n m p context g' = .ok none g' := by
      unfold concludeCapture
      rw [if_neg hends]
      rfl
    rw [bind_of_eq_ok _ hconclude]
    exact orderEnds_finishAction h _ _ _ _ _ _ _ _ same

end Actions

theorem orderEnds_capture (same : SameButJournal g g') (haccount : Accounted g')
    (hground : Grounded g') {m : PieceNumber} (hm : m ∈ g'.inPlay) (id : Text)
    (targetId : Option Text) (n : PieceNumber) (origin target : Square)
    (occupant : Option PieceNumber) (action : Text) :
    OrderEnds g
      ((capture n m >>= finishAction id targetId true n origin target occupant action) g') := by
  have hcapture := capture_eq g' n m
  rcases announce_of_touchesContext h (g'.captureOf n m) with
    ⟨g'', hsame, ⟨context, hrun⟩ | ⟨kind, cause, hrun⟩⟩
  · rcases removePiece_of_inPlay (hsame.accounted haccount) (hsame.grounded hground)
      (hsame.inPlay ▸ hm) with ⟨g₁, hremove, hremoved, hlisten⟩
    rw [hsame.piece m] at hremove
    rw [bind_of_eq_ok _ hrun, bind_of_eq_ok _ hremove] at hcapture
    have hleft := hlisten Reaction.TouchesContext (hsame.listeners h)
    have hturn := (same.trans hsame).sameTurn.trans hremoved
    rw [bind_of_run_eq _ hcapture]
    exact orderEnds_concludeCapture hleft _ _ _ _ _ _ _ hturn m (g'.piece m) context
  · have hearly : Event.capture ∈ Event.opening := by decide
    rw [bind_of_eq_error _ hrun] at hcapture
    rw [bind_of_eq_error _ hcapture]
    exact .failedBefore (same.trans hsame) hearly kind cause

theorem orderEnds_carryOutAction (same : SameButJournal g g') (haccount : Accounted g')
    (hground : Grounded g') (n : PieceNumber) (origin target : Square)
    {occupant : Option PieceNumber} (hoccupant : ∀ m, occupant = some m → m ∈ g'.inPlay)
    (action : Text) : OrderEnds g (carryOutAction n origin target occupant action g') := by
  cases hvictim : g'.victimOf n occupant with
  | some m =>
      have hm : m ∈ g'.inPlay := hoccupant m (Option.filter_eq_some_iff.1 hvictim).1
      rw [carryOutAction_of_victim hvictim]
      exact orderEnds_capture h same haccount hground hm _ _ _ _ _ _ _
  | none =>
      rw [carryOutAction_of_no_victim hvictim]
      exact orderEnds_finishAction h _ _ _ _ _ _ _ _ same.sameTurn

end CarryingOut

/-!
## All orders
-/

theorem Reached.accounted {g : Game} (h : Reached g) : Accounted g := by
  rcases h with ⟨start, ops, hfresh, rfl⟩
  exact accounted_run hfresh ops

theorem Reached.grounded {g : Game} (h : Reached g) : Grounded g := by
  rcases h with ⟨start, ops, hfresh, rfl⟩
  exact (grounded_run hfresh ops).2

theorem OrderEnds.of_refused {g g' : Game} (same : SameButJournal g g') (order : PieceOrder)
    (refusal : Refusal) : OrderEnds g (.ok [order.refused refusal] g') := by
  cases order with
  | move id target => exact .refused same .move id target refusal
  | act id target action => exact .refused same .action id target refusal

theorem event_start_mem_opening (order : PieceOrder) (g : Game) (n : PieceNumber) :
    (order.start g n).event ∈ Event.opening := by
  cases order <;> exact of_decide_eq_true rfl

theorem Inquiry.event_mem_opening (i : Inquiry) : i.event ∈ Event.opening := by
  cases i <;> exact of_decide_eq_true rfl

section Orders

variable {g g₁ g₂ : Game} {order : PieceOrder} {n : PieceNumber}

theorem Begins.sameButJournal (hbegins : Begins g order n g₁)
    (h : ListenersReactBy Reaction.TouchesContext g) : SameButJournal g g₁ := by
  rcases hbegins.announced with ⟨context, hrun, _⟩
  exact after_of_eq_ok hrun ▸ sameButJournal_announce h (order.start g n)

theorem Begins.sameButJournal_check (hbegins : Begins g order n g₁)
    (h : ListenersReactBy Reaction.TouchesContext g) :
    SameButJournal g₁ (g₁.after (order.inquiry n).check) :=
  Inquiry.sameButJournal_check ((hbegins.sameButJournal h).listeners h) (order.inquiry n)

theorem orderEnds_execute (h : ListenersReactBy Reaction.TouchesContext g₂) (haccount : Accounted g)
    (hground : Grounded g) (started : SameButJournal g g₁) (checked : SameButJournal g₁ g₂)
    (allowed : (order.inquiry n).check g₁ = .ok none g₂) :
    OrderEnds g (order.execute g n g₂) := by
  have hsame := started.trans checked
  cases order with
  | move id target =>
      have hon : g₂.board.Holds target := checked.board ▸ holds_of_checkMove allowed
      exact orderEnds_carryOutMove h hsame n _ hon
  | act id target action =>
      refine orderEnds_carryOutAction h hsame (hsame.accounted haccount) (hsame.grounded hground) n _
        target ?_ action
      intro m hm
      rw [hsame.inPlay]
      exact hground.inPlay target m hm

end Orders

/-- In a game whose abilities keep to the context of events, every order ends in one of these
ways. -/
theorem orderEnds_carryOut {g : Game} (hreached : Reached g)
    (h : AbilitiesReactBy Reaction.TouchesContext g) (order : PieceOrder) :
    OrderEnds g (order.carryOut g) := by
  have hlisten := h.listeners hreached.accounted
  have hcourse := proceeds g order
  generalize order.carryOut g = result at hcourse ⊢
  cases hcourse with
  | forbidden gate => exact .of_refused (.refl g) order _
  | @unannounced n e g₁ commanded failed =>
      have hsame := sameButJournal_announce hlisten (order.start g n)
      rw [after_of_eq_error failed] at hsame
      rcases announce_eq_error failed with ⟨kind, cause, rfl⟩
      exact .failedBefore hsame (event_start_mem_opening order g n) kind cause
  | @cancelled n context g₁ commanded announced cancelled =>
      have hsame := sameButJournal_announce hlisten (order.start g n)
      rw [after_of_eq_ok announced] at hsame
      exact .of_refused hsame order _
  | unchecked begins failed =>
      have hchecked := begins.sameButJournal_check hlisten
      rw [after_of_eq_error failed] at hchecked
      have hsame := (begins.sameButJournal hlisten).trans hchecked
      rcases Inquiry.check_eq_error failed with hquestion | ⟨rfl, _⟩
      · rcases announce_eq_error hquestion with ⟨kind, cause, rfl⟩
        rw [Inquiry.event_question]
        exact .failedBefore hsame (Inquiry.event_mem_opening _) kind cause
      · exact .untold hsame
  | refused begins checked =>
      have hchecked := begins.sameButJournal_check hlisten
      rw [after_of_eq_ok checked] at hchecked
      exact .of_refused ((begins.sameButJournal hlisten).trans hchecked) order _
  | executed begins allowed run =>
      have hstarted := begins.sameButJournal hlisten
      have hchecked := begins.sameButJournal_check hlisten
      rw [after_of_eq_ok allowed] at hchecked
      rw [← run]
      exact orderEnds_execute ((hstarted.trans hchecked).listeners hlisten) hreached.accounted
        hreached.grounded hstarted hchecked allowed

/-!
## Orders that change nothing
-/

/-- Whether a result tells that an order was refused, or that an ability has failed that was heard
before the order changed anything. -/
def endsEarly : EStateM.Result GameError Game (List Outcome) → Bool
  | .ok [outcome] _ => outcome.isRefused
  | .error (.abilityFailed _ event _) _ => event ∈ Event.opening
  | _ => false

theorem CarriedOut.not_endsEarly {g : Game} {result : EStateM.Result GameError Game (List Outcome)}
    (h : CarriedOut g result) : endsEarly result = false := by
  cases h with
  | reported done rest =>
      cases rest with
      | nil => exact done
      | cons next others => rfl
  | failed late kind cause => exact decide_eq_false late

/-- An order that is refused, or at whose beginning an ability fails, leaves everything as it was:
the board, who is in play, the effects, the listeners and the turn.  Nothing is different but what
scripted abilities have seen. -/
theorem refused_orders_change_nothing {g : Game} (hreached : Reached g)
    (h : AbilitiesReactBy Reaction.TouchesContext g) (order : PieceOrder)
    (hearly : endsEarly (order.carryOut g) = true) :
    ∃ journal, g.after order.carryOut = { g with journal } := by
  have hends := orderEnds_carryOut hreached h order
  unfold after
  generalize order.carryOut g = result at hends hearly ⊢
  cases hends with
  | refused same command id target refusal => exact same
  | failedBefore same early kind cause => exact same
  | untold same => cases hearly
  | astray same s => cases hearly
  | failedAfter same late kind cause =>
      have hboth : ∀ event ∈ Event.closing, event ∉ Event.opening := by decide
      exact absurd (of_decide_eq_true hearly) (hboth _ late)
  | won done won => rw [done.not_endsEarly] at hearly; cases hearly
  | passed done passed => rw [done.not_endsEarly] at hearly; cases hearly

def balking (event : Event) : Rule :=
  ⟨"Balk", [event], Rule.usualPriority, .scripted (.when .always [.fail "balks"])⟩

def facing (event : Event) : Game :=
  (usual (Registry.standard.register "Balk" (balking event).draft)).run
    [.add (walker []) (.str "white") ⟨0, 0⟩,
      .add (walker [{ name := "Balk" }]) (.str "black") ⟨1, 1⟩, .start (.str "white")]

theorem reached_facing (event : Event) : Reached (facing event) :=
  ⟨_, _, fresh_usual _, rfl⟩

theorem abilitiesReactBy_facing (event : Event) :
    AbilitiesReactBy Reaction.TouchesContext (facing event) := by
  refine abilitiesReactBy_run (fresh_usual _) (fun rule hoffers => ?_) _
  refine Rule.reactsBy_of_offers Registry.builtIn_standard (Rule.reactsBy_when ?_) hoffers
  intro x hx
  rw [List.mem_singleton.1 hx]
  trivial

theorem balked_capture_changes_nothing :
    Reached (facing .capture) ∧ AbilitiesReactBy Reaction.TouchesContext (facing .capture) ∧
    endsEarly ((PieceOrder.act "white-walker-1" ⟨1, 1⟩ "attack").carryOut (facing .capture)) = true ∧
    ∃ journal,
      (facing .capture).after (PieceOrder.act "white-walker-1" ⟨1, 1⟩ "attack").carryOut =
        { facing .capture with journal } := by
  have hearly : endsEarly
      ((PieceOrder.act "white-walker-1" ⟨1, 1⟩ "attack").carryOut (facing .capture)) = true := by
    decide +kernel
  exact ⟨reached_facing _, abilitiesReactBy_facing _, hearly,
    refused_orders_change_nothing (reached_facing _) (abilitiesReactBy_facing _) _ hearly⟩

/-!
## Orders that change the position
-/

/-- The board holds the same pieces on the same squares, and the same pieces are in play. -/
def SamePosition (g g' : Game) : Prop :=
  (∀ s, g'.board.pieceAt s = g.board.pieceAt s) ∧ ∀ n, n ∈ g'.inPlay ↔ n ∈ g.inPlay

theorem SameButJournal.samePosition {g g' : Game} (h : SameButJournal g g') : SamePosition g g' := by
  rcases h with ⟨journal, rfl⟩
  exact ⟨fun _ => rfl, fun _ => Iff.rfl⟩

/-- Whether an ability has failed that was heard when an order had changed what it would, before
the turn ended. -/
def failsLate : EStateM.Result GameError Game (List Outcome) → Bool
  | .error (.abilityFailed _ event _) _ => event ∈ Event.closing
  | _ => false

/-- Only the team to move can give orders, while nobody has won. -/
theorem turn_of_commanded {g : Game} {id : Text} {n : PieceNumber} (h : g.commanded id = .ok n) :
    g.winner = none ∧ g.toMove = some (g.piece n).team := by
  unfold commanded at h
  split at h
  · cases h
  · split at h
    · cases h
    · cases h
    · next team hwinner hteam =>
        split at h
        · next hsame =>
            injection h with h
            rw [hwinner, hteam, ← h, hsame]
            exact ⟨rfl, rfl⟩
        · cases h

/-- An order that changes the position was given to a piece of the team to move, in a game that
nobody had won. -/
theorem commanded_of_not_samePosition {g : Game} {order : PieceOrder}
    (h : ¬ SamePosition g (g.after order.carryOut)) :
    ∃ n, g.find? order.id = some n ∧ g.winner = none ∧ g.toMove = some (g.piece n).team := by
  cases hgate : g.commanded order.id with
  | ok n => exact ⟨n, find?_of_commanded hgate, turn_of_commanded hgate⟩
  | error refusal =>
      rw [after_of_eq_ok (carryOut_of_not_commanded hgate)] at h
      exact absurd (SameButJournal.refl g).samePosition h

theorem CarriedOut.after {g g' : Game} {m : GameM (List Outcome)} (h : CarriedOut g' (m g)) :
    g.after m = g' := by
  unfold Game.after
  generalize m g = result at h ⊢
  cases h with
  | reported done rest => rfl
  | failed late kind cause => rfl

theorem turn_of_changing_order {g : Game} {order : PieceOrder}
    (hends : OrderEnds g (order.carryOut g))
    (hchanged : ¬ SamePosition g (g.after order.carryOut)) :
    TurnPassed g (g.after order.carryOut) ∨ (g.after order.carryOut).isOver = true ∨
      (failsLate (order.carryOut g) = true ∧ SameTurn g (g.after order.carryOut)) := by
  generalize hresult : order.carryOut g = result at hends ⊢
  cases hends with
  | refused same command id target refusal =>
      rw [after_of_eq_ok hresult] at hchanged
      exact absurd same.samePosition hchanged
  | failedBefore same early kind cause =>
      rw [after_of_eq_error hresult] at hchanged
      exact absurd same.samePosition hchanged
  | untold same =>
      rw [after_of_eq_error hresult] at hchanged
      exact absurd same.samePosition hchanged
  | astray same s =>
      rw [after_of_eq_error hresult] at hchanged
      exact absurd same.samePosition hchanged
  | failedAfter same late kind cause =>
      rw [after_of_eq_error hresult]
      exact Or.inr (Or.inr ⟨decide_eq_true late, same⟩)
  | won done won =>
      rw [← hresult] at done
      rw [done.after]
      exact Or.inr (Or.inl won)
  | passed done passed =>
      rw [← hresult] at done
      rw [done.after]
      exact Or.inl passed

/-- An order that changes the position uses up the turn or ends the game, unless an ability fails
that is heard after the change: then the turn is as it was.  Apart from that, an order that directly
follows and changes the position as well is one to a piece of the other team. -/
theorem changing_orders_use_the_turn {g : Game} (hreached : Reached g)
    (h : AbilitiesReactBy Reaction.TouchesContext g) {team : Team} (hbegun : g.toMove = some team)
    (hopen : g.winner = none) (order : PieceOrder)
    (hchanged : ¬ SamePosition g (g.after order.carryOut)) :
    (((g.after order.carryOut).turn = g.turn + 1 ∧
        (g.after order.carryOut).toMove = some team.other) ∨
      (g.after order.carryOut).isOver = true ∨
      (failsLate (order.carryOut g) = true ∧ (g.after order.carryOut).turn = g.turn ∧
        (g.after order.carryOut).toMove = some team ∧ (g.after order.carryOut).winner = none)) ∧
    ((failsLate (order.carryOut g) = true → (g.after order.carryOut).isOver = true) →
      ∀ next : PieceOrder,
        ¬ SamePosition (g.after order.carryOut) ((g.after order.carryOut).after next.carryOut) →
        ∃ n, (g.after order.carryOut).find? next.id = some n ∧
          ((g.after order.carryOut).piece n).team = team.other) := by
  have hturn := turn_of_changing_order (orderEnds_carryOut hreached h order) hchanged
  generalize g.after order.carryOut = g' at hturn ⊢
  constructor
  · rcases hturn with hpassed | hover | ⟨hlate, hsame⟩
    · exact Or.inl ⟨hpassed.turn, by rw [hpassed.toMove, hbegun, Option.map_some]⟩
    · exact Or.inr (Or.inl hover)
    · exact Or.inr (Or.inr ⟨hlate, hsame.turn, hsame.toMove.trans hbegun, hsame.winner.trans hopen⟩)
  · intro hlate next hnext
    rcases commanded_of_not_samePosition hnext with ⟨n, hfind, hwinner, hmover⟩
    have hgoing : ¬ g'.isOver = true := by
      unfold isOver
      rw [hwinner]
      exact Bool.false_ne_true
    rcases hturn with hpassed | hover | ⟨hfailed, _⟩
    · rw [hpassed.toMove, hbegun, Option.map_some] at hmover
      injection hmover with hteam
      exact ⟨n, hfind, hteam.symm⟩
    · exact absurd hover hgoing
    · exact absurd (hlate hfailed) hgoing

/-- A step of the walker, at whose end a listener balks at the start of the next turn. -/
def steppedFacing : Game :=
  (facing .turnStart).after (PieceOrder.move "white-walker-1" ⟨0, 1⟩).carryOut

/-- The turn passes with the step although the listener balks, and the step that follows is one of the
other team. -/
theorem steps_use_the_turn_in_facing :
    Reached (facing .turnStart) ∧ AbilitiesReactBy Reaction.TouchesContext (facing .turnStart) ∧
    (facing .turnStart).toMove = some .white ∧ (facing .turnStart).winner = none ∧
    ¬ SamePosition (facing .turnStart) steppedFacing ∧ steppedFacing.toMove = some .black ∧
    ¬ SamePosition steppedFacing
      (steppedFacing.after (PieceOrder.move "black-walker-2" ⟨1, 2⟩).carryOut) ∧
    ∃ n, steppedFacing.find? "black-walker-2" = some n ∧ (steppedFacing.piece n).team = .black := by
  have hreached := reached_facing .turnStart
  have habilities := abilitiesReactBy_facing .turnStart
  have hturn : (facing .turnStart).toMove = some .white := by decide +kernel
  have hopen : (facing .turnStart).winner = none := by decide +kernel
  have hchanged : ¬ SamePosition (facing .turnStart) steppedFacing := by
    intro hsame
    exact absurd (hsame.1 ⟨0, 1⟩) (by decide +kernel)
  have hchanged' : ¬ SamePosition steppedFacing
      (steppedFacing.after (PieceOrder.move "black-walker-2" ⟨1, 2⟩).carryOut) := by
    intro hsame
    exact absurd (hsame.1 ⟨1, 2⟩) (by decide +kernel)
  have hpunctual : failsLate
      ((PieceOrder.move "white-walker-1" ⟨0, 1⟩).carryOut (facing .turnStart)) = false := by
    decide +kernel
  rcases changing_orders_use_the_turn hreached habilities hturn hopen _ hchanged with
    ⟨huse, hnext⟩
  refine ⟨hreached, habilities, hturn, hopen, hchanged, ?_, hchanged', ?_⟩
  · rcases huse with ⟨_, hpassed⟩ | hover | ⟨hlate, _⟩
    · exact hpassed
    · exact absurd hover (by decide +kernel)
    · rw [hpunctual] at hlate
      cases hlate
  · refine hnext (fun hlate => ?_) (PieceOrder.move "black-walker-2" ⟨1, 2⟩) hchanged'
    rw [hpunctual] at hlate
    cases hlate

/-- An order that changes the position does not always use up the turn: a listener may balk when the
piece has moved. -/
theorem step_keeps_the_turn_in_facing :
    Reached (facing .moveEnd) ∧ AbilitiesReactBy Reaction.TouchesContext (facing .moveEnd) ∧
    (facing .moveEnd).toMove = some .white ∧ (facing .moveEnd).winner = none ∧
    ¬ SamePosition (facing .moveEnd)
      ((facing .moveEnd).after (PieceOrder.move "white-walker-1" ⟨0, 1⟩).carryOut) ∧
    ¬ (((facing .moveEnd).after (PieceOrder.move "white-walker-1" ⟨0, 1⟩).carryOut).turn =
        (facing .moveEnd).turn + 1 ∧
      ((facing .moveEnd).after (PieceOrder.move "white-walker-1" ⟨0, 1⟩).carryOut).toMove =
        some Team.white.other) ∧
    ((facing .moveEnd).after (PieceOrder.move "white-walker-1" ⟨0, 1⟩).carryOut).isOver = false := by
  refine ⟨reached_facing _, abilitiesReactBy_facing _, by decide +kernel, by decide +kernel, ?_,
    by decide +kernel, by decide +kernel⟩
  intro hsame
  exact absurd (hsame.1 ⟨0, 1⟩) (by decide +kernel)

end Game
end Boardcraft
