import Boardcraft.Proofs.Game.ActionTargets
import Boardcraft.Proofs.Game.Addressing

/-!
# Commands do what the lists of legal squares promise

Before a player orders a move or an action, the legal squares can be asked for.  The order goes
another way than the question: its start is announced as well, and it changes the board in the end.
With built-in rules only, and as long as pieces came onto vacant squares, both ways agree: an order
is carried out if its square is one that the rule lists, and refused if it is not.  Neither the
question nor the order fails unless a refusal names a square that cannot be written.

## Main statements

* `commands_agree_with_queries` says so for every square and every name of an action.
-/

namespace Boardcraft
namespace Game

/-!
## Games reached over vacant squares
-/

/-- A game to which a run from a fresh one has led that brought pieces onto vacant squares only, with
nothing but built-in rules on offer. -/
def NeatlyReached (g : Game) : Prop :=
  ∃ (start : Game) (ops : List Operation),
    Fresh start ∧ start.registry.BuiltIn ∧ start.RunsOnVacant ops ∧ g = start.run ops

namespace NeatlyReached

variable {g : Game}

theorem plainly (h : NeatlyReached g) : PlainlyReached g := by
  rcases h with ⟨start, ops, hfresh, hbuiltIn, _, heq⟩
  exact ⟨start, ops, hfresh, hbuiltIn, heq⟩

theorem settled (h : NeatlyReached g) : Settled g := by
  rcases h with ⟨start, ops, hfresh, _, hvacant, rfl⟩
  exact settled_run (settled_fresh hfresh) hvacant

theorem perform (h : NeatlyReached g) {op : Operation} (hvacant : op.TakesVacant g) :
    NeatlyReached (g.after op.perform) := by
  rcases h with ⟨start, ops, hfresh, hbuiltIn, hvacant', rfl⟩
  refine ⟨start, ops ++ [op], hfresh, hbuiltIn, hvacant'.concat hvacant, ?_⟩
  unfold run
  rw [List.foldl_concat]

end NeatlyReached

/-!
## Orders
-/

theorem commanded_of_turn {g : Game} (hg : Numbered g) {n : PieceNumber} (hn : n ∈ g.inPlay)
    (hopen : g.winner = none) (hturn : g.toMove = some (g.piece n).team) :
    g.commanded (g.piece n).id = .ok n := by
  unfold commanded
  rw [hg.find?_id hn, hopen, hturn]
  dsimp only
  rw [if_pos rfl]

section Ordered

variable {g : Game} (h : Accounted g) (hbuiltIn : g.registry.BuiltIn) {id : Text} {n : PieceNumber}
  (hcommanded : g.commanded id = .ok n)

include h hbuiltIn hcommanded

/-- With built-in rules, nothing cancels the start of an action, and it comes to its check. -/
theorem act_of_builtIn (target : Square) (action : Text) :
    act id target action g =
      (checkAction n target action >>= fun refusal =>
        match refusal with
        | some refusal => pure [.refused .action id target refusal]
        | none => carryOutAction n (g.squareOf n) target (g.board.pieceAt target) action) g := by
  have hn : n ∈ g.inPlay := mem_inPlay_iff.2 ⟨id, find?_of_commanded hcommanded⟩
  have hopen := cancelled_of_source h.heard hbuiltIn hn (c := g.actionStart n target action) rfl
  rw [act_of_ok hcommanded, bind_of_eq_ok _ (announce_of_builtIn h hbuiltIn _)]
  exact congrFun (if_neg (Bool.eq_false_iff.1 hopen)) g

theorem act_of_actionRefusal_some {target : Square} {action : Text} {refusal : Refusal}
    (hrefusal : g.actionRefusal n target action = some refusal) :
    act id target action g =
      if refusal.isTellable then .ok [.refused .action id target refusal] g
      else .error .oversizedNumber g := by
  have hn : n ∈ g.inPlay := mem_inPlay_iff.2 ⟨id, find?_of_commanded hcommanded⟩
  have hcheck := checkAction_of_builtIn h hbuiltIn hn target action
  rw [hrefusal] at hcheck
  rw [act_of_builtIn h hbuiltIn hcommanded]
  exact bind_of_give_some _ hcheck

theorem act_of_actionRefusal_none {target : Square} {action : Text}
    (hlegal : g.actionRefusal n target action = none) :
    act id target action g =
      carryOutAction n (g.squareOf n) target (g.board.pieceAt target) action g := by
  have hn : n ∈ g.inPlay := mem_inPlay_iff.2 ⟨id, find?_of_commanded hcommanded⟩
  have hcheck := checkAction_of_builtIn h hbuiltIn hn target action
  rw [hlegal, give_of_tellable rfl] at hcheck
  rw [act_of_builtIn h hbuiltIn hcommanded]
  exact bind_of_eq_ok _ hcheck

end Ordered

theorem capture_of_builtIn {g : Game} (h : Accounted g) (hbuiltIn : g.registry.BuiltIn)
    (hground : Grounded g) (attacker : PieceNumber) {captured : PieceNumber}
    (hcaptured : captured ∈ g.inPlay) :
    ∃ gameOver g', capture attacker captured g = .ok gameOver g' ∧ Accounted g' ∧
      g'.registry = g.registry := by
  have hfind := h.numbered.find?_id hcaptured
  have hremove := removePiece_of_holds hfind (hground.holds captured hcaptured)
  have hstep := Step.remove g (g.piece captured).id
  rw [after_of_eq_ok hremove] at hstep
  have hgone := accounted_step _ _ hstep h
  have hregistry := (samePieces_step hstep).registry
  unfold capture
  rw [get_bind, bind_of_eq_ok _ (announce_of_builtIn h hbuiltIn _), bind_of_eq_ok _ hremove]
  generalize ({ g.withoutPiece (g.piece captured).id captured with
    board := g.board.clear (g.squareOf captured) } : Game) = gone at hgone hregistry ⊢
  split
  · dsimp only
    generalize Team.against _ = winner
    have hover : Accounted { gone with winner := some winner } :=
      accounted_frame hgone _ _ _ _ _
    have hannounce := announce_of_builtIn hover (hregistry ▸ hbuiltIn)
      { event := .gameOver, source := some captured, target := some attacker }
    exact ⟨some (.over winner _ gone.turn), _, bind_of_eq_ok _ hannounce, hover, hregistry⟩
  · exact ⟨none, gone, rfl, hgone, hregistry⟩

/-- With built-in rules, an action that has passed the check is carried out without fail.  It
captures the piece of the other team that stands on the target, if there is one. -/
theorem carryOutAction_of_builtIn {g : Game} (h : Accounted g) (hbuiltIn : g.registry.BuiltIn)
    (hground : Grounded g) (n : PieceNumber) (origin target : Square) (action : Text) :
    ∃ targetId captured turn rest g',
      carryOutAction n origin target (g.board.pieceAt target) action g =
        .ok (.acted (g.piece n).id action target targetId captured turn :: rest) g' ∧
      (captured = true ↔
        ∃ m, g.board.pieceAt target = some m ∧ (g.piece m).team ≠ (g.piece n).team) := by
  have hcaptured : ((g.board.pieceAt target).filter fun m =>
      (g.piece m).team ≠ (g.piece n).team).isSome = true ↔
      ∃ m, g.board.pieceAt target = some m ∧ (g.piece m).team ≠ (g.piece n).team := by
    rw [Option.isSome_filter, Option.any_eq_true]
    simp only [decide_eq_true_eq]
  unfold carryOutAction
  rw [get_bind]
  dsimp only
  cases hvictim : (g.board.pieceAt target).filter fun m =>
      (g.piece m).team ≠ (g.piece n).team with
  | none =>
      rw [hvictim] at hcaptured
      dsimp only
      rw [bind_of_eq_ok (m := pure none) _ rfl, bind_of_eq_ok _ (announce_of_builtIn h hbuiltIn _),
        get_bind]
      dsimp only
      rw [bind_of_eq_ok _ (endTurn_of_builtIn h hbuiltIn)]
      exact ⟨_, _, _, _, _, rfl, hcaptured⟩
  | some m =>
      have hm := (Option.filter_eq_some_iff.1 hvictim).1
      rw [hvictim] at hcaptured
      rcases capture_of_builtIn h hbuiltIn hground n (hground.inPlay target m hm) with
        ⟨gameOver, g', hcapture, h', hregistry⟩
      have hbuiltIn' : g'.registry.BuiltIn := hregistry ▸ hbuiltIn
      dsimp only
      rw [bind_of_eq_ok _ hcapture, bind_of_eq_ok _ (announce_of_builtIn h' hbuiltIn' _), get_bind]
      cases gameOver with
      | some outcome => exact ⟨_, _, _, _, _, rfl, hcaptured⟩
      | none =>
          dsimp only
          rw [bind_of_eq_ok _ (endTurn_of_builtIn h' hbuiltIn')]
          exact ⟨_, _, _, _, _, rfl, hcaptured⟩

/-!
## Agreement
-/

section Agreement

variable {g : Game} {n : PieceNumber}

theorem move_of_mem_reachable (h : NeatlyReached g) (hn : n ∈ g.inPlay)
    (hcommanded : g.commanded (g.piece n).id = .ok n) {target : Square}
    (hlisted : target ∈ g.reachable n) :
    ∃ g', move (g.piece n).id target g =
      .ok [.moved (g.piece n).id (g.piece n).name (g.piece n).team (g.squareOf n) target g.turn]
        g' := by
  have haccount := h.plainly.accounted
  have hbuiltIn := h.plainly.builtIn
  have hlegal := mem_reachable_iff.1 hlisted
  have hrun := move_of_moveRefusal_none haccount hbuiltIn hcommanded hlegal
  exact ⟨_, hrun.trans (carryOutMove_of_builtIn haccount hbuiltIn n (h.settled.held n hn)
    (holds_of_moveRefusal hlegal))⟩

theorem move_of_not_mem_reachable (h : NeatlyReached g)
    (hcommanded : g.commanded (g.piece n).id = .ok n) {target : Square}
    (hunlisted : target ∉ g.reachable n) :
    ∃ refusal : Refusal, move (g.piece n).id target g =
      if refusal.isTellable then .ok [.refused .move (g.piece n).id target refusal] g
      else .error .oversizedNumber g := by
  have haccount := h.plainly.accounted
  have hbuiltIn := h.plainly.builtIn
  cases hmobile : g.hasAbility n "Immobile" with
  | true =>
      exact ⟨.moveCancelled (g.piece n).id,
        move_cancelled_of_immobile haccount hbuiltIn hcommanded hmobile target⟩
  | false =>
      cases hrefusal : g.moveRefusal n target with
      | none => exact absurd (mem_reachable_iff.2 hrefusal) hunlisted
      | some refusal =>
          exact ⟨refusal, move_of_moveRefusal_some haccount hbuiltIn hcommanded hmobile hrefusal⟩

theorem act_of_mem_targetable (h : NeatlyReached g)
    (hcommanded : g.commanded (g.piece n).id = .ok n) {target : Square}
    (hlisted : target ∈ g.targetable n) (action : Text) :
    ∃ targetId captured turn rest g',
      act (g.piece n).id target action g =
        .ok (.acted (g.piece n).id action target targetId captured turn :: rest) g' ∧
      (captured = true ↔
        ∃ m, g.board.pieceAt target = some m ∧ (g.piece m).team ≠ (g.piece n).team) := by
  have haccount := h.plainly.accounted
  have hbuiltIn := h.plainly.builtIn
  have hrun := act_of_actionRefusal_none haccount hbuiltIn hcommanded
    ((mem_targetable_iff action).1 hlisted)
  rcases carryOutAction_of_builtIn haccount hbuiltIn h.settled.grounded n (g.squareOf n) target
    action with ⟨targetId, captured, turn, rest, g', hcarried, hcaptured⟩
  exact ⟨targetId, captured, turn, rest, g', hrun.trans hcarried, hcaptured⟩

theorem act_of_not_mem_targetable (h : NeatlyReached g)
    (hcommanded : g.commanded (g.piece n).id = .ok n) {target : Square}
    (hunlisted : target ∉ g.targetable n) (action : Text) :
    ∃ refusal : Refusal, act (g.piece n).id target action g =
      if refusal.isTellable then .ok [.refused .action (g.piece n).id target refusal] g
      else .error .oversizedNumber g := by
  cases hrefusal : g.actionRefusal n target action with
  | none => exact absurd ((mem_targetable_iff action).2 hrefusal) hunlisted
  | some refusal =>
      exact ⟨refusal,
        act_of_actionRefusal_some h.plainly.accounted h.plainly.builtIn hcommanded hrefusal⟩

theorem refusing_fails_iff {m : GameM (List Outcome)} {told : Bool} {outcomes : List Outcome}
    (hrun : m g = if told then .ok outcomes g else .error .oversizedNumber g) :
    (∃ e g', m g = .error e g') ↔ told = false := by
  rw [hrun]
  cases told with
  | true =>
      refine iff_of_false ?_ Bool.noConfusion
      rintro ⟨e, g', herror⟩
      cases herror
  | false => exact iff_of_true ⟨_, _, rfl⟩ rfl

/-- On a board whose squares can all be written, an order to move fails if it leads a piece that
nothing holds off the board, to a square that cannot. -/
theorem move_fails_iff (h : NeatlyReached g) (hn : n ∈ g.inPlay)
    (hcommanded : g.commanded (g.piece n).id = .ok n) (hboard : g.board.IsWritable)
    (target : Square) :
    (∃ e g', move (g.piece n).id target g = .error e g') ↔
      g.hasAbility n "Immobile" = false ∧ ¬ g.board.Holds target ∧ target.isWritable = false := by
  have haccount := h.plainly.accounted
  have hbuiltIn := h.plainly.builtIn
  cases hmobile : g.hasAbility n "Immobile" with
  | true =>
      rw [move_cancelled_of_immobile haccount hbuiltIn hcommanded hmobile]
      refine iff_of_false ?_ fun hrule => by cases hrule.1
      rintro ⟨e, g', herror⟩
      cases herror
  | false =>
      cases hrefusal : g.moveRefusal n target with
      | none =>
          have hlisted := mem_reachable_iff.2 hrefusal
          rcases move_of_mem_reachable h hn hcommanded hlisted with ⟨g', hrun⟩
          rw [hrun]
          refine iff_of_false ?_ fun hrule => hrule.2.1 (holds_of_moveRefusal hrefusal)
          rintro ⟨e, g', herror⟩
          cases herror
      | some refusal =>
          have htold := tellable_moveRefusal_iff h.plainly.grounded hboard n target
          rw [hrefusal, Option.all_some] at htold
          rw [refusing_fails_iff
            (move_of_moveRefusal_some haccount hbuiltIn hcommanded hmobile hrefusal),
            and_iff_right rfl, ← Bool.not_eq_true, htold, Classical.not_imp, Bool.not_eq_true]

theorem act_fails_iff (h : NeatlyReached g) (hcommanded : g.commanded (g.piece n).id = .ok n)
    (hboard : g.board.IsWritable) (target : Square) (action : Text) :
    (∃ e g', act (g.piece n).id target action g = .error e g') ↔
      ¬ g.board.Holds target ∧ target.isWritable = false := by
  have haccount := h.plainly.accounted
  have hbuiltIn := h.plainly.builtIn
  cases hrefusal : g.actionRefusal n target action with
  | none =>
      have hlisted := (mem_targetable_iff action).2 hrefusal
      have hon := (actionPrecheck_eq_none_iff.1 (actionRefusal_eq_none_iff.1 hrefusal).1).1
      rcases act_of_mem_targetable h hcommanded hlisted action with ⟨_, _, _, _, g', hrun, _⟩
      rw [hrun]
      refine iff_of_false ?_ fun hrule => hrule.1 hon
      rintro ⟨e, g', herror⟩
      cases herror
  | some refusal =>
      have htold := tellable_actionRefusal_iff hboard n target action
      rw [hrefusal, Option.all_some] at htold
      rw [refusing_fails_iff (act_of_actionRefusal_some haccount hbuiltIn hcommanded hrefusal),
        ← Bool.not_eq_true, htold, Classical.not_imp, Bool.not_eq_true]

end Agreement

/-- In a game that is going on, the piece of the team to move that is ordered to a square moves
there if the square is one of its legal moves, and else the order is refused.  Ordered to act, it
does if the square is one of its legal targets, and else the order is refused; it captures exactly
if a piece of the other team stands there.

A question or an order whose refusal names a square that cannot be written fails and changes nothing.
If every square of the board can be written, these are the questions with an offset to such a square
and the orders to one, but for moves of a piece that is held. -/
theorem commands_agree_with_queries {g : Game} (h : NeatlyReached g) {n : PieceNumber}
    (hn : n ∈ g.inPlay) (hopen : g.winner = none) (hturn : g.toMove = some (g.piece n).team) :
    ((legalMoves n g =
        if g.movesTellable n then .ok (g.reachable n) g else .error .oversizedNumber g) ∧
      ∀ target,
        (target ∈ g.reachable n → ∃ g', move (g.piece n).id target g =
          .ok [.moved (g.piece n).id (g.piece n).name (g.piece n).team (g.squareOf n) target g.turn]
            g') ∧
        (target ∉ g.reachable n → ∃ refusal : Refusal, move (g.piece n).id target g =
          if refusal.isTellable then .ok [.refused .move (g.piece n).id target refusal] g
          else .error .oversizedNumber g)) ∧
    (∀ action,
      (legalTargets n action g =
        if g.targetsTellable n then .ok (g.targetable n) g else .error .oversizedNumber g) ∧
      ∀ target,
        (target ∈ g.targetable n → ∃ targetId captured turn rest g',
          act (g.piece n).id target action g =
            .ok (.acted (g.piece n).id action target targetId captured turn :: rest) g' ∧
          (captured = true ↔
            ∃ m, g.board.pieceAt target = some m ∧ (g.piece m).team ≠ (g.piece n).team)) ∧
        (target ∉ g.targetable n → ∃ refusal : Refusal, act (g.piece n).id target action g =
          if refusal.isTellable then .ok [.refused .action (g.piece n).id target refusal] g
          else .error .oversizedNumber g)) ∧
    (g.board.IsWritable →
      (g.movesTellable n = true ↔
        ∀ s ∈ g.movementTargets n, ¬ g.board.Holds s → s.isWritable = true) ∧
      (g.targetsTellable n = true ↔
        ∀ s ∈ g.attackTargets n, ¬ g.board.Holds s → s.isWritable = true) ∧
      ∀ target,
        ((∃ e g', move (g.piece n).id target g = .error e g') ↔
          g.hasAbility n "Immobile" = false ∧ ¬ g.board.Holds target ∧
            target.isWritable = false) ∧
        ∀ action, (∃ e g', act (g.piece n).id target action g = .error e g') ↔
          ¬ g.board.Holds target ∧ target.isWritable = false) := by
  have haccount := h.plainly.accounted
  have hbuiltIn := h.plainly.builtIn
  have hcommanded := commanded_of_turn haccount.numbered hn hopen hturn
  refine ⟨⟨legalMoves_of_builtIn haccount hbuiltIn hn, ?_⟩, ?_, ?_⟩
  · intro target
    exact ⟨move_of_mem_reachable h hn hcommanded, move_of_not_mem_reachable h hcommanded⟩
  · intro action
    refine ⟨legalTargets_of_builtIn haccount hbuiltIn hn action, ?_⟩
    intro target
    exact ⟨fun hlisted => act_of_mem_targetable h hcommanded hlisted action,
      fun hunlisted => act_of_not_mem_targetable h hcommanded hunlisted action⟩
  · intro hboard
    refine ⟨movesTellable_iff h.plainly.grounded hboard n, targetsTellable_iff hboard n, ?_⟩
    intro target
    exact ⟨move_fails_iff h hn hcommanded hboard target, act_fails_iff h hcommanded hboard target⟩

def besieging : List Operation :=
  [.add (walker []) (.str "white") ⟨0, 0⟩,
    .add (walker [{ name := "King" }]) (.str "black") ⟨1, 1⟩, .start (.str "white")]

/-- The walker captures the king when it acts upon its square, and may not move there. -/
theorem orders_after_besieging :
    NeatlyReached ((usual .standard).run besieging) ∧
    1 ∈ ((usual .standard).run besieging).inPlay ∧
    ((usual .standard).run besieging).winner = none ∧
    ((usual .standard).run besieging).toMove =
      some (((usual .standard).run besieging).piece 1).team ∧
    (∃ refusal g', move "white-walker-1" ⟨1, 1⟩ ((usual .standard).run besieging) =
      .ok [.refused .move "white-walker-1" ⟨1, 1⟩ refusal] g') ∧
    ∃ targetId captured turn rest g',
      act "white-walker-1" ⟨1, 1⟩ "attack" ((usual .standard).run besieging) =
        .ok (.acted "white-walker-1" "attack" ⟨1, 1⟩ targetId captured turn :: rest) g' ∧
      captured = true := by
  have hvacant : RunsOnVacant (usual .standard) besieging := by
    refine ⟨rfl, ?_, trivial, trivial⟩
    show ((usual _).after _).board.pieceAt ⟨1, 1⟩ = none
    decide +kernel
  have hreached : NeatlyReached ((usual .standard).run besieging) :=
    ⟨usual .standard, besieging, fresh_usual .standard, Registry.builtIn_standard, hvacant, rfl⟩
  have hmem : 1 ∈ ((usual .standard).run besieging).inPlay := by decide +kernel
  have hopen : ((usual .standard).run besieging).winner = none := by decide +kernel
  have hturn : ((usual .standard).run besieging).toMove =
      some (((usual .standard).run besieging).piece 1).team := by decide +kernel
  have hid : (((usual .standard).run besieging).piece 1).id = "white-walker-1" := by decide +kernel
  have hmoves : (⟨1, 1⟩ : Square) ∉ ((usual .standard).run besieging).reachable 1 := by
    decide +kernel
  have htargets : (⟨1, 1⟩ : Square) ∈ ((usual .standard).run besieging).targetable 1 := by
    decide +kernel
  have hboard : ((usual .standard).run besieging).board.IsWritable :=
    Board.isWritable_of_size (by decide +kernel) (by decide +kernel)
  have hon : ((usual .standard).run besieging).board.Holds ⟨1, 1⟩ := by decide +kernel
  have hcaptured : ∃ m, ((usual .standard).run besieging).board.pieceAt ⟨1, 1⟩ = some m ∧
      (((usual .standard).run besieging).piece m).team ≠
        (((usual .standard).run besieging).piece 1).team := ⟨2, by decide +kernel⟩
  rcases commands_agree_with_queries hreached hmem hopen hturn with ⟨hmove, hact, hfails⟩
  rw [hid] at hmove hact hfails
  refine ⟨hreached, hmem, hopen, hturn, ?_, ?_⟩
  · rcases (hmove.2 ⟨1, 1⟩).2 hmoves with ⟨refusal, hrun⟩
    rcases hrefused : refusal.isTellable with _ | _
    · rw [hrefused, if_neg Bool.false_ne_true] at hrun
      exact absurd hon (((hfails hboard).2.2 ⟨1, 1⟩).1.1 ⟨_, _, hrun⟩).2.1
    · rw [hrefused, if_pos rfl] at hrun
      exact ⟨refusal, _, hrun⟩
  · rcases ((hact "attack").2 ⟨1, 1⟩).1 htargets with
      ⟨targetId, captured, turn, rest, g', hrun, hexact⟩
    exact ⟨targetId, captured, turn, rest, g', hrun, hexact.2 hcaptured⟩

def overreachingToMove : Game := (usual .standard).run (overreaching ++ [.start (.str "white")])

theorem orders_unanswered_after_overreaching :
    ¬ ∀ (g : Game) (n : PieceNumber), NeatlyReached g → n ∈ g.inPlay → g.winner = none →
      g.toMove = some (g.piece n).team →
      (∃ squares g', legalMoves n g = .ok squares g') ∧
        ∀ target, ∃ outcomes g', move (g.piece n).id target g = .ok outcomes g' := by
  intro hanswered
  have hvacant : RunsOnVacant (usual .standard) (overreaching ++ [.start (.str "white")]) :=
    ⟨rfl, trivial, trivial⟩
  have hreached : NeatlyReached overreachingToMove :=
    ⟨usual .standard, _, fresh_usual .standard, Registry.builtIn_standard, hvacant, rfl⟩
  have hmem : 1 ∈ overreachingToMove.inPlay := by decide +kernel
  rcases (hanswered _ 1 hreached hmem (by decide +kernel) (by decide +kernel)).1 with
    ⟨squares, g', hmoves⟩
  have huntold : ¬ overreachingToMove.movesTellable 1 = true := by decide +kernel
  rw [legalMoves_of_builtIn hreached.plainly.accounted hreached.plainly.builtIn hmem,
    if_neg huntold] at hmoves
  cases hmoves

end Game
end Boardcraft
