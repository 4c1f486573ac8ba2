import Boardcraft.Proofs.Game.Losses
import Boardcraft.Proofs.Game.Ticking
import Boardcraft.Proofs.Game.Victory

/-!
# What an order leaves behind

An order that is carried out moves a piece or captures one, and then ends the turn unless it has ended
the game.  Among quiet abilities this is all that it does.  This module says what has become of each
square, each piece in play, each effect and each list of listeners when the order has been carried out.

`Spared` describes the changes of an order before the turn ends, from the point of view of those who
stay in play: nothing has happened to their effects, and some abilities of others have stopped
listening.  `Spared.aftermath_of_turnEnded` adds the end of the turn to that.

## Main statements

* `captured_withoutPiece` is about a piece that is captured;
* `applied_orders_leave` is about all orders that are carried out.
-/

namespace Boardcraft
namespace Game

variable {g g' k : Game} {n m : PieceNumber} {gone : List Ability}

/-! ## Those who stay -/

/-- The pieces that are in play in the second game were in the first, under the same effects, and in
the meantime nobody has stopped listening but some abilities. -/
structure Spared (g : Game) (gone : List Ability) (k : Game) : Prop where
  turn : k.turn = g.turn
  toMove : k.toMove = g.toMove
  piece : ∀ n, k.piece n = g.piece n
  effects : ∀ n ∈ k.inPlay, SameEffects g k n
  dispatcher : g.dispatcher.Without gone k.dispatcher

/-- What is left of effects, listeners and the turn when an order has been carried out.  If it has
decided the game, the effects on those who are left have not counted down. -/
structure Aftermath (g : Game) (decided : Bool) (gone : List Ability) (g' : Game) : Prop where
  turn : g'.turn = if decided then g.turn else g.turn + 1
  toMove : g'.toMove = if decided then g.toMove else g.toMove.map Team.other
  piece : ∀ n, g'.piece n = g.piece n
  statuses : ∀ n ∈ g'.inPlay, g'.statusesOf n =
    if decided then g.statusesOf n else (g.statusesOf n).filter g.outlasts
  effects : ∀ n ∈ g'.inPlay, ∀ e ∈ g.statusesOf n, g'.effect? e =
    if decided then g.effect? e else (g.effect? e).map Effect.countDown
  listeners : g.dispatcher.Without (gone ++ if decided then [] else g'.inPlay.flatMap g.losing)
    g'.dispatcher

/-- What stands where has no part in it. -/
theorem spared_frame (g : Game) (board : Board) : Spared g [] { g with board } :=
  ⟨rfl, rfl, fun _ => rfl, fun _ _ => ⟨rfl, fun _ _ => rfl⟩, Dispatcher.without_nil _⟩

theorem SameButJournal.spared (h : SameButJournal g g') (h' : Spared g' gone k) :
    Spared g gone k := by
  rcases h with ⟨journal, rfl⟩
  exact ⟨h'.turn, h'.toMove, h'.piece,
    fun n hn => ⟨(h'.effects n hn).statuses, (h'.effects n hn).effects⟩, h'.dispatcher⟩

theorem Spared.frame (h : Spared g gone k) (winner : Option Team) (journal : List Sighting) :
    Spared g gone { k with winner, journal } :=
  ⟨h.turn, h.toMove, h.piece,
    fun n hn => ⟨(h.effects n hn).statuses, (h.effects n hn).effects⟩, h.dispatcher⟩

theorem Spared.aftermath_of_turnEnded (h : Spared g gone k) (h' : TurnEnded k g') :
    Aftermath g false gone g' := by
  have hplay : g'.inPlay = k.inPlay := inPlay_of_roster_eq h'.roster
  refine ⟨?_, ?_, ?_, ?_, ?_, ?_⟩
  · simp [h'.passed.turn, h.turn]
  · simp [h'.passed.toMove, h.toMove]
  · intro n
    rw [h'.piece, h.piece]
  · intro n hn
    have hsame := h.effects n (hplay ▸ hn)
    rw [h'.statuses, hsame.statuses]
    exact List.filter_congr fun e he => outlasts_congr (hsame.effects e he)
  · intro n hn e he
    have hsame := h.effects n (hplay ▸ hn)
    rw [h'.effects n e (hsame.statuses ▸ he), hsame.effects e he]
    rfl
  · have hlosing : k.inPlay.flatMap k.losing = g'.inPlay.flatMap g.losing := by
      rw [hplay]
      exact List.flatMap_congr fun n hn => (h.effects n hn).losing
    have hlisteners := h.dispatcher.trans h'.dispatcher
    rw [hlosing] at hlisteners
    exact hlisteners

theorem Spared.aftermath_of_over (h : Spared g gone k) (h' : SameButJournal k g') :
    Aftermath g true gone g' := by
  rcases h' with ⟨journal, rfl⟩
  refine ⟨h.turn, h.toMove, h.piece, ?_, ?_, ?_⟩
  · exact fun n hn => (h.effects n hn).statuses
  · exact fun n hn e he => (h.effects n hn).effects e he
  · rw [if_pos rfl, List.append_nil]
    exact h.dispatcher

theorem SameButJournal.aftermath {decided : Bool} (h : SameButJournal g k)
    (h' : Aftermath k decided gone g') : Aftermath g decided gone g' := by
  rcases h with ⟨journal, rfl⟩
  exact ⟨h'.turn, h'.toMove, h'.piece, h'.statuses, h'.effects, h'.listeners⟩

/-! ## The piece that leaves -/

theorem isActive_expire_self (g : Game) (e : EffectNumber) : (g.expire e).isActive e = false := by
  unfold expire
  cases found : g.effect? e with
  | none => simp [isActive, found]
  | some effect =>
      by_cases hactive : effect.active = true
      · simp [hactive, isActive, effect?_setEffect]
      · simp [hactive, isActive, found]

theorem isActive_foldl_expire {l : List EffectNumber} {e : EffectNumber} (g : Game)
    (h : e ∈ l ∨ g.isActive e = false) : (l.foldl expire g).isActive e = false := by
  induction l generalizing g with
  | nil => exact h.resolve_left List.not_mem_nil
  | cons e' rest ih =>
      rw [List.foldl_cons]
      apply ih
      by_cases heq : e' = e
      · subst heq
        exact Or.inr (isActive_expire_self g e')
      · rcases h with h | h
        · exact Or.inl ((List.mem_cons.1 h).resolve_left (Ne.symm heq))
        · apply Or.inr
          unfold isActive
          rw [effect?_expire_of_ne g heq]
          exact h

/-- A piece has left the roster and its square, and the effects on it have ended.  The board and the
roster are otherwise as they were. -/
structure Captured (g : Game) (m : PieceNumber) (k : Game) : Prop where
  roster : k.roster = g.roster.erase (g.piece m).id
  inPlay : ∀ n, n ∈ k.inPlay ↔ n ∈ g.inPlay ∧ n ≠ m
  vacant : k.board.pieceAt (g.squareOf m) = none
  cells : ∀ s, s ≠ g.squareOf m → k.board.pieceAt s = g.board.pieceAt s
  squares : ∀ n, k.squareOf n = g.squareOf n
  statuses : k.statusesOf m = []
  ended : ∀ e ∈ g.statusesOf m, k.isActive e = false

theorem SameButJournal.captured (h : SameButJournal g g') (h' : Captured g' m k) :
    Captured g m k := by
  rcases h with ⟨journal, rfl⟩
  exact ⟨h'.roster, h'.inPlay, h'.vacant, h'.cells, h'.squares, h'.statuses, h'.ended⟩

theorem Captured.frame (h : Captured g m k) (winner : Option Team) (journal : List Sighting) :
    Captured g m { k with winner, journal } :=
  ⟨h.roster, h.inPlay, h.vacant, h.cells, h.squares, h.statuses, h.ended⟩

/-- The end of the turn neither brings the captured piece back nor the effects on it. -/
theorem Captured.turnEnded (h : Captured g m k) (hspared : Spared g gone k) (hg : Accounted g)
    (hk : Accounted k) (h' : TurnEnded k g') : Captured g m g' := by
  have hplay : g'.inPlay = k.inPlay := inPlay_of_roster_eq h'.roster
  refine ⟨h'.roster.trans h.roster, ?_, ?_, ?_, ?_, ?_, ?_⟩
  · rw [hplay]
    exact h.inPlay
  · rw [h'.board]
    exact h.vacant
  · rw [h'.board]
    exact h.cells
  · intro n
    rw [squareOf_of_board_eq h'.board]
    exact h.squares n
  · rw [h'.statuses, h.statuses]
    rfl
  · intro e he
    have hdetached : ∀ n, e ∉ k.statusesOf n := by
      intro n hn
      have hstays := hk.attached.inPlay n e hn
      rw [(hspared.effects n hstays).statuses] at hn
      exact hg.attached.ne_of_mem hn he ((h.inPlay n).1 hstays).2.symm rfl
    unfold isActive
    rw [h'.detached e hdetached]
    exact h.ended e he

section Leaving

variable (hg : Accounted g) (hm : m ∈ g.inPlay)

include hg hm

theorem captured_withoutPiece :
    Captured g m { g.withoutPiece (g.piece m).id m with board := g.board.clear (g.squareOf m) } := by
  have hplay : ∀ n, n ∈ (g.withoutPiece (g.piece m).id m).inPlay ↔ n ∈ g.inPlay ∧ n ≠ m :=
    fun n => mem_inPlay_withoutPiece hg.numbered (hg.numbered.find?_id hm)
  have hended : ∀ e ∈ g.statusesOf m, (g.withoutPiece (g.piece m).id m).isActive e = false :=
    fun e he => isActive_foldl_expire _ (Or.inl he)
  have hstatuses : (g.withoutPiece (g.piece m).id m).statusesOf m = [] := by
    rw [statusesOf_withoutPiece, if_pos rfl]
  have hcells := Board.pieceAt_clear g.board (g.squareOf m)
  rcases withoutPiece_eq g (g.piece m).id m with ⟨dispatcher, effects, heq⟩
  rw [heq] at hplay hended hstatuses ⊢
  refine ⟨rfl, hplay, ?_, ?_, fun _ => rfl, hstatuses, hended⟩
  · exact (hcells _).trans (if_pos rfl)
  · intro s hs
    exact (hcells s).trans (if_neg hs.symm)

theorem spared_withoutPiece :
    Spared g (g.abilitiesOf m)
      { g.withoutPiece (g.piece m).id m with board := g.board.clear (g.squareOf m) } := by
  have hdispatcher : g.dispatcher.Without (g.abilitiesOf m)
      (g.withoutPiece (g.piece m).id m).dispatcher := by
    rw [dispatcher_withoutPiece hg.attached]
    exact hg.heard.hears.without fun a ha => List.mem_flatMap.2 ⟨m, hm, ha⟩
  have hsame : ∀ n ∈ (g.withoutPiece (g.piece m).id m).inPlay,
      SameEffects g (g.withoutPiece (g.piece m).id m) n := by
    intro n hn
    have hne := ((mem_inPlay_withoutPiece hg.numbered (hg.numbered.find?_id hm)).1 hn).2
    constructor
    · rw [statusesOf_withoutPiece, if_neg hne.symm]
    · intro e he
      exact effect?_withoutPiece _ fun he' => hg.attached.ne_of_mem he' he hne rfl
  rcases withoutPiece_eq g (g.piece m).id m with ⟨dispatcher, effects, heq⟩
  rw [heq] at hdispatcher hsame ⊢
  exact ⟨rfl, rfl, fun _ => rfl, fun n hn => ⟨(hsame n hn).statuses, (hsame n hn).effects⟩,
    hdispatcher⟩

end Leaving

/-! ## Following orders -/

theorem not_applied_of_refused (order : PieceOrder) (refusal : Refusal) :
    ¬ ∃ outcome ∈ [order.refused refusal], outcome.applied?.isSome = true := by
  rintro ⟨outcome, houtcome, hdone⟩
  rw [List.mem_singleton.1 houtcome, PieceOrder.applied?_refused] at hdone
  cases hdone

section Following

variable (h : ListenersReactBy Reaction.MarksContext g) (hg : Accounted g)

include h hg

theorem carryOutMove_of_pieceAt {origin target : Square} (hn : g.board.pieceAt origin = some n)
    (on : g.board.Holds target) :
    ∃ outcome g', carryOutMove n origin target g = .ok [outcome] g' ∧ outcome.isOver = false ∧
      TurnEnded { g with board := (g.board.clear origin).put n target } g' := by
  have hshifted : ListenersReactBy Reaction.MarksContext
      { g with board := (g.board.clear origin).put n target } := h
  have haccount : Accounted { g with board := (g.board.clear origin).put n target } :=
    accounted_frame hg _ _ _ _ _
  rcases announce_of_marksContext hshifted (moveEnd n origin target) with ⟨context, g₁, hrun, hsame⟩
  rcases turnEnded_of_endTurn (hsame.listeners hshifted) (hsame.accounted haccount) with
    ⟨g₂, hend, hended⟩
  have hmoves : carryOutMove n origin target g =
      .ok [.moved (g₁.piece n).id (g₁.piece n).name (g₁.piece n).team origin target g₁.turn] g₂ := by
    rw [carryOutMove_eq, bind_of_eq_ok _ (shift_of_pieceAt hn on), bind_of_eq_ok _ hrun, get_bind,
      bind_of_eq_ok _ hend]
    rfl
  exact ⟨_, g₂, hmoves, rfl, hsame.turnEnded hended⟩

section Finishing

variable (id : Text) (targetId : Option Text) (captured : Bool) (n : PieceNumber)
  (origin target : Square) (occupant : Option PieceNumber) (action : Text)

theorem finishAction_of_going :
    ∃ outcome g', finishAction id targetId captured n origin target occupant action none g =
      .ok [outcome] g' ∧ outcome.isOver = false ∧ TurnEnded g g' := by
  rcases announce_of_marksContext h (actionEnd n origin target occupant action) with
    ⟨context, g₁, hrun, hsame⟩
  rcases turnEnded_of_endTurn (hsame.listeners h) (hsame.accounted hg) with ⟨g₂, hend, hended⟩
  have hfinishes : finishAction id targetId captured n origin target occupant action none g =
      .ok [.acted id action target targetId captured g₁.turn] g₂ := by
    unfold finishAction
    rw [bind_of_eq_ok _ hrun, get_bind]
    exact bind_of_eq_ok _ hend
  exact ⟨_, g₂, hfinishes, rfl, hsame.turnEnded hended⟩

omit hg in
theorem finishAction_of_over (ending : Outcome) :
    ∃ outcome g', finishAction id targetId captured n origin target occupant action (some ending) g =
      .ok [outcome, ending] g' ∧ SameButJournal g g' := by
  rcases announce_of_marksContext h (actionEnd n origin target occupant action) with
    ⟨context, g₁, hrun, hsame⟩
  have hfinishes : finishAction id targetId captured n origin target occupant action (some ending) g =
      .ok [.acted id action target targetId captured g₁.turn, ending] g₁ := by
    unfold finishAction
    rw [bind_of_eq_ok _ hrun, get_bind]
    rfl
  exact ⟨_, g₁, hfinishes, hsame⟩

end Finishing

/-- A piece in play is captured, and nothing else happens but that the game may be won. -/
theorem capture_of_marksContext (hground : Grounded g) (hm : m ∈ g.inPlay) (n : PieceNumber) :
    ∃ gameOver k, capture n m g = .ok gameOver k ∧ Captured g m k ∧ Spared g (g.abilitiesOf m) k ∧
      ListenersReactBy Reaction.MarksContext k ∧ Accounted k ∧
      ∀ outcome, gameOver = some outcome → outcome.isOver = true := by
  rcases announce_of_marksContext h (g.captureOf n m) with ⟨context, g₁, hrun, hsame⟩
  have hg₁ := hsame.accounted hg
  have hm₁ : m ∈ g₁.inPlay := hsame.inPlay ▸ hm
  have hfind := hg₁.numbered.find?_id hm₁
  have hremove := removePiece_of_holds hfind ((hsame.grounded hground).holds m hm₁)
  have hcaptured := hsame.captured (captured_withoutPiece hg₁ hm₁)
  have habilities : g₁.abilitiesOf m = g.abilitiesOf m := by
    rcases hsame with ⟨journal, rfl⟩
    rfl
  have hspared := hsame.spared (spared_withoutPiece hg₁ hm₁)
  have hlisten := (hsame.listeners h).withoutPiece hg₁.attached (g₁.piece m).id m
  have haccount := accounted_withoutPiece hg₁ hfind
  rw [habilities] at hspared
  rw [hsame.piece m] at hremove hcaptured hspared hlisten haccount
  have hcapture := capture_eq g n m
  rw [bind_of_eq_ok _ hrun, bind_of_eq_ok _ hremove] at hcapture
  rw [hcapture]
  unfold concludeCapture
  split
  · have hwon : ListenersReactBy Reaction.MarksContext
        ({ g₁.withoutPiece (g.piece m).id m with board := g₁.board.clear (g₁.squareOf m) }.won
          (Team.against (loserOf context (g.piece m)))) := hlisten
    rcases announce_of_marksContext hwon (gameOverOf n m) with ⟨context', g₂, hrun', hsame'⟩
    have hlisten₂ := hsame'.listeners hwon
    have haccount₂ := hsame'.accounted (accounted_frame haccount _ _ _ _ _)
    rcases hsame' with ⟨journal, rfl⟩
    refine ⟨_, _, bind_of_eq_ok _ hrun', hcaptured.frame _ journal, hspared.frame _ journal, hlisten₂,
      haccount₂, ?_⟩
    intro outcome houtcome
    cases houtcome
    rfl
  · refine ⟨none, _, rfl, hcaptured, hspared, hlisten, accounted_frame haccount _ _ _ _ _, ?_⟩
    intro outcome houtcome
    cases houtcome

/-- An action upon a piece of the other team captures it, and either ends the game or the turn. -/
theorem carryOutAction_of_capture (hground : Grounded g) {occupant : Option PieceNumber}
    (victim : g.victimOf n occupant = some m) (hm : m ∈ g.inPlay) (origin target : Square)
    (action : Text) :
    ∃ outcomes g', carryOutAction n origin target occupant action g = .ok outcomes g' ∧
      Captured g m g' ∧ Aftermath g (outcomes.any Outcome.isOver) (g.abilitiesOf m) g' := by
  rcases capture_of_marksContext h hg hground hm n with
    ⟨gameOver, k, hcapture, hcaptured, hspared, hlisten, haccount, hover⟩
  rw [carryOutAction_of_victim victim, bind_of_eq_ok _ hcapture]
  cases gameOver with
  | some ending =>
      rcases finishAction_of_over hlisten (g.piece n).id (occupant.map fun m => (g.piece m).id) true n
        origin target occupant action ending with ⟨outcome, g', hrun, hsame⟩
      have hends : [outcome, ending].any Outcome.isOver = true := by simp [hover ending rfl]
      refine ⟨_, g', hrun, ?_, ?_⟩
      · rcases hsame with ⟨journal, rfl⟩
        exact hcaptured.frame k.winner journal
      · rw [hends]
        exact hspared.aftermath_of_over hsame
  | none =>
      rcases finishAction_of_going hlisten haccount (g.piece n).id
        (occupant.map fun m => (g.piece m).id) true n origin target occupant action with
        ⟨outcome, g', hrun, hgoing, hended⟩
      have hends : [outcome].any Outcome.isOver = false := by simp [hgoing]
      refine ⟨_, g', hrun, hcaptured.turnEnded hspared hg haccount hended, ?_⟩
      rw [hends]
      exact hspared.aftermath_of_turnEnded hended

theorem carryOutAction_of_no_capture {occupant : Option PieceNumber}
    (victim : g.victimOf n occupant = none) (origin target : Square) (action : Text) :
    ∃ outcomes g', carryOutAction n origin target occupant action g = .ok outcomes g' ∧
      outcomes.any Outcome.isOver = false ∧ TurnEnded g g' := by
  rw [carryOutAction_of_no_victim victim]
  rcases finishAction_of_going h hg (g.piece n).id (occupant.map fun m => (g.piece m).id) false n
    origin target occupant action with ⟨outcome, g', hrun, hgoing, hended⟩
  exact ⟨_, g', hrun, by simp [hgoing], hended⟩

omit hg

/-- An order whose report is not a refusal has been found legal and has been carried out. -/
theorem executed_of_applied (order : PieceOrder) {outcomes : List Outcome}
    (hrun : order.carryOut g = .ok outcomes g')
    (happlied : ∃ outcome ∈ outcomes, outcome.applied?.isSome = true) :
    ∃ n g₁ g₂, g.commanded order.id = .ok n ∧ SameButJournal g g₁ ∧
      (order.inquiry n).check g₁ = .ok none g₂ ∧ SameButJournal g g₂ ∧
      order.execute g n g₂ = .ok outcomes g' := by
  have hlisten := h.touchesContext
  have hcourse := proceeds g order
  rw [hrun] at hcourse
  cases hcourse with
  | forbidden gate => exact absurd happlied (not_applied_of_refused order _)
  | cancelled commanded announced cancelled => exact absurd happlied (not_applied_of_refused order _)
  | refused begins checked => exact absurd happlied (not_applied_of_refused order _)
  | @executed n g₁ g₂ _ begins allowed run =>
      have hstarted := begins.sameButJournal hlisten
      have hchecked := begins.sameButJournal_check hlisten
      rw [after_of_eq_ok allowed] at hchecked
      exact ⟨n, g₁, g₂, begins.commanded, hstarted, allowed, hstarted.trans hchecked, run⟩

end Following

/-! ## Orders that are carried out -/

theorem VacantlyReached.reached (h : VacantlyReached g) : Reached g := by
  rcases h with ⟨start, ops, hfresh, -, heq⟩
  exact ⟨start, ops, hfresh, heq⟩

/-- A piece has moved to a square, and the board and the roster are otherwise as they were. -/
structure Moved (g : Game) (n : PieceNumber) (target : Square) (g' : Game) : Prop where
  arrived : g'.board.pieceAt target = some n
  square : g'.squareOf n = target
  left : g'.board.pieceAt (g.squareOf n) = none
  cells : ∀ s, s ≠ target → s ≠ g.squareOf n → g'.board.pieceAt s = g.board.pieceAt s
  squares : ∀ m, m ≠ n → g'.squareOf m = g.squareOf m
  roster : g'.roster = g.roster

theorem TurnEnded.moved {target : Square}
    (h : TurnEnded { g with board := (g.board.clear (g.squareOf n)).put n target } g')
    (haway : target ≠ g.squareOf n) : Moved g n target g' := by
  have hcells : ∀ s, g'.board.pieceAt s =
      if target = s then some n else if g.squareOf n = s then none else g.board.pieceAt s := by
    intro s
    rw [h.board]
    exact pieceAt_shifted s
  have hsquares : ∀ m, g'.squareOf m = if n = m then target else g.squareOf m := by
    intro m
    rw [squareOf_of_board_eq h.board]
    exact squareOf_shifted m
  refine ⟨?_, ?_, ?_, ?_, ?_, h.roster⟩
  · rw [hcells, if_pos rfl]
  · rw [hsquares, if_pos rfl]
  · rw [hcells, if_neg haway, if_pos rfl]
  · intro s htarget horigin
    rw [hcells, if_neg htarget.symm, if_neg horigin.symm]
  · intro m hm
    rw [hsquares, if_neg hm.symm]

theorem move_leaves (h : ListenersReactBy Reaction.MarksContext g) (hg : Accounted g)
    (hheld : AllHeld g) {id : Text} {target : Square} {outcomes : List Outcome}
    (hrun : move id target g = .ok outcomes g')
    (happlied : ∃ outcome ∈ outcomes, outcome.applied?.isSome = true) :
    ∃ n, g.commanded id = .ok n ∧ outcomes.any Outcome.isOver = false ∧ Moved g n target g' ∧
      Aftermath g false [] g' := by
  rcases executed_of_applied h (.move id target) hrun happlied with
    ⟨n, g₁, k, hgate, hstarted, hallowed, hsame, hcarry⟩
  rcases hstarted with ⟨journal₁, rfl⟩
  rcases movePrecheck_eq_none_iff.1 (movePrecheck_of_checkMove hallowed) with ⟨hon, haway, -⟩
  have hn : g.board.pieceAt (g.squareOf n) = some n :=
    hheld n (mem_inPlay_iff.2 ⟨id, find?_of_commanded hgate⟩)
  rcases carryOutMove_of_pieceAt (hsame.listeners h) (hsame.accounted hg) (hsame.board ▸ hn)
    (hsame.board ▸ hon) with ⟨outcome, g₁, hmoves, hgoing, hended⟩
  cases hcarry.symm.trans hmoves
  rcases hsame with ⟨journal, rfl⟩
  have hended' : TurnEnded { g with board := (g.board.clear (g.squareOf n)).put n target } g' :=
    SameButJournal.turnEnded ⟨journal, rfl⟩ hended
  have hany : [outcome].any Outcome.isOver = false := by simp [hgoing]
  exact ⟨n, hgate, hany, hended'.moved haway,
    (spared_frame g _).aftermath_of_turnEnded hended'⟩

theorem act_leaves (h : ListenersReactBy Reaction.MarksContext g) (hg : Accounted g)
    (hground : Grounded g) {id : Text} {target : Square} {action : Text} {outcomes : List Outcome}
    (hrun : act id target action g = .ok outcomes g')
    (happlied : ∃ outcome ∈ outcomes, outcome.applied?.isSome = true) :
    ∃ n, g.commanded id = .ok n ∧
      ((∃ m, g.victimOf n (g.board.pieceAt target) = some m ∧ Captured g m g' ∧
          Aftermath g (outcomes.any Outcome.isOver) (g.abilitiesOf m) g') ∨
        (g.victimOf n (g.board.pieceAt target) = none ∧ outcomes.any Outcome.isOver = false ∧
          TurnEnded g g')) := by
  rcases executed_of_applied h (.act id target action) hrun happlied with
    ⟨n, g₁, k, hgate, -, -, hsame, hcarry⟩
  have hlisten := hsame.listeners h
  have haccount := hsame.accounted hg
  refine ⟨n, hgate, ?_⟩
  rcases hsame with ⟨journal, rfl⟩
  cases victim : g.victimOf n (g.board.pieceAt target) with
  | some m =>
      have hm : m ∈ g.inPlay := hground.inPlay target m (victimOf_eq_some_iff.1 victim).1
      rcases carryOutAction_of_capture hlisten haccount
        ⟨hground.inPlay, hground.square, hground.holds⟩ victim hm (g.squareOf n) target action with
        ⟨outcomes', g₁, hacts, hcaptured, hafter⟩
      cases hcarry.symm.trans hacts
      have hsame : SameButJournal g { g with journal } := ⟨journal, rfl⟩
      exact Or.inl ⟨m, rfl, hsame.captured hcaptured, hsame.aftermath hafter⟩
  | none =>
      rcases carryOutAction_of_no_capture hlisten haccount victim (g.squareOf n) target action with
        ⟨outcomes', g₁, hacts, hgoing, hended⟩
      cases hcarry.symm.trans hacts
      exact Or.inr ⟨rfl, hgoing, SameButJournal.turnEnded ⟨journal, rfl⟩ hended⟩

/-- What orders leave behind that are carried out.  A move brings its piece to the target, and changes
no other square.  An action moves nobody; it takes the piece on its target away if that is one of the
other team, and else changes neither the board nor the roster.  Then every effect on those who are left
counts down once, those that end are dropped together with their listeners, and the turn passes to the
other team; or the action has ended the game, and neither happens. -/
theorem applied_orders_leave {g : Game} (hreached : VacantlyReached g)
    (h : AbilitiesReactBy Reaction.MarksContext g) (order : PieceOrder) {outcomes : List Outcome}
    {g' : Game} (hrun : order.carryOut g = .ok outcomes g')
    (happlied : ∃ outcome ∈ outcomes, outcome.applied?.isSome = true) :
    ∃ n, g.find? order.id = some n ∧ g.toMove = some (g.piece n).team ∧
      match order with
      | .move _ target =>
          outcomes.any Outcome.isOver = false ∧ Moved g n target g' ∧ Aftermath g false [] g'
      | .act _ target _ =>
          (∀ m ∈ g'.inPlay, g'.squareOf m = g.squareOf m) ∧
          (∀ m, g.board.pieceAt target = some m → (g.piece m).team ≠ (g.piece n).team →
            g.squareOf m = target ∧ Captured g m g' ∧
              Aftermath g (outcomes.any Outcome.isOver) (g.abilitiesOf m) g') ∧
          ((∀ m, g.board.pieceAt target = some m → (g.piece m).team = (g.piece n).team) →
            g'.roster = g.roster ∧ g'.board = g.board ∧ outcomes.any Outcome.isOver = false ∧
              Aftermath g false [] g') := by
  have haccount := hreached.reached.accounted
  have hsettled := hreached.settled
  have hlisten := h.listeners haccount
  cases order with
  | move id target =>
      rcases move_leaves hlisten haccount hsettled.held hrun happlied with
        ⟨n, hgate, hgoing, hmoved, hafter⟩
      exact ⟨n, find?_of_commanded hgate, (turn_of_commanded hgate).2, hgoing, hmoved, hafter⟩
  | act id target action =>
      rcases act_leaves hlisten haccount hsettled.grounded hrun happlied with
        ⟨n, hgate, ⟨m, victim, hcaptured, hafter⟩ | ⟨victim, hgoing, hended⟩⟩
      · rcases victimOf_eq_some_iff.1 victim with ⟨hstands, hteam⟩
        refine ⟨n, find?_of_commanded hgate, (turn_of_commanded hgate).2,
          fun m' _ => hcaptured.squares m', ?_, ?_⟩
        · intro m' hstands' _
          rw [hstands] at hstands'
          cases hstands'
          exact ⟨hsettled.grounded.square target m hstands, hcaptured, hafter⟩
        · intro hsame
          exact absurd (hsame m hstands) hteam
      · refine ⟨n, find?_of_commanded hgate, (turn_of_commanded hgate).2,
          fun m' _ => squareOf_of_board_eq hended.board m', ?_, ?_⟩
        · intro m hstands hteam
          rw [victimOf_eq_some_iff.2 ⟨hstands, hteam⟩] at victim
          cases victim
        · intro _
          exact ⟨hended.roster, hended.board, hgoing,
            (spared_frame g g.board).aftermath_of_turnEnded hended⟩

/-- A white walker beside a black one, and another black one that is held for two turns. -/
def besideTwo : List Operation :=
  [.add (walker []) (.str "white") ⟨0, 0⟩, .add (walker [{ name := "Jumping" }]) (.str "black") ⟨1, 1⟩,
    .add (walker []) (.str "black") ⟨5, 5⟩, .start (.str "white"),
    .applyStatus "black-walker-3" (lending "Immobile" 1)]

theorem capture_leaves_in_besideTwo :
    VacantlyReached ((usual .standard).run besideTwo) ∧
    AbilitiesReactBy Reaction.MarksContext ((usual .standard).run besideTwo) ∧
    ∃ outcomes g', act "white-walker-1" ⟨1, 1⟩ "attack" ((usual .standard).run besideTwo) =
        .ok outcomes g' ∧
      Captured ((usual .standard).run besideTwo) 2 g' ∧
      Aftermath ((usual .standard).run besideTwo) (outcomes.any Outcome.isOver)
        (((usual .standard).run besideTwo).abilitiesOf 2) g' := by
  have hreached : VacantlyReached ((usual .standard).run besideTwo) := by
    refine ⟨_, besideTwo, fresh_usual .standard, ⟨rfl, ?_, ?_, trivial, trivial, trivial⟩, rfl⟩
    · show Board.pieceAt _ _ = none
      decide +kernel
    · show Board.pieceAt _ _ = none
      decide +kernel
  have habilities : AbilitiesReactBy Reaction.MarksContext ((usual .standard).run besideTwo) := by
    refine abilitiesReactBy_run (fresh_usual .standard) ?_ besideTwo
    intro rule hoffers
    exact Rule.reactsBy_of_mem_builtin (Registry.builtIn_standard rule hoffers)
  have hacts : (match (PieceOrder.act "white-walker-1" ⟨1, 1⟩ "attack").carryOut
        ((usual .standard).run besideTwo) with
      | .ok outcomes _ => outcomes.any fun outcome => outcome.applied?.isSome
      | .error _ _ => false) = true := by decide +kernel
  refine ⟨hreached, habilities, ?_⟩
  cases hrun : (PieceOrder.act "white-walker-1" ⟨1, 1⟩ "attack").carryOut
      ((usual .standard).run besideTwo) with
  | error e g' =>
      rw [hrun] at hacts
      cases hacts
  | ok outcomes g' =>
      rw [hrun] at hacts
      rcases applied_orders_leave hreached habilities _ hrun (List.any_eq_true.1 hacts) with
        ⟨n, hfind, -, -, hcapture, -⟩
      have hfirst : ((usual .standard).run besideTwo).find? "white-walker-1" = some 1 := by
        decide +kernel
      cases hfind.symm.trans hfirst
      exact ⟨outcomes, g', hrun, (hcapture 2 (by decide +kernel) (by decide +kernel)).2⟩

end Game
end Boardcraft
