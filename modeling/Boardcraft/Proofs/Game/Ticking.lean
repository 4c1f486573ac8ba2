import Boardcraft.Proofs.Game.Quiet
import Boardcraft.Proofs.Twin.Changes

/-!
# What the end of a turn does to effects and listeners

When a turn ends, every effect on a piece in play counts down once.  Those that end by it are taken
off their pieces, and the abilities that they lent stop listening.  Nothing else becomes of effects and
listeners.

Effects count down one after the other, and each sees what those before it have left behind.  As an
effect stands on one piece only, and once, none finds itself changed by another.

## Main statements

* `effect?_tickAll` and `statusesOf_tickAll` are about the effects on a piece in play;
* `dispatcher_tickAll` is about those who listen;
* `turnEnded_of_endTurn` puts them together for a turn that ends among quiet abilities.
-/

namespace Boardcraft
namespace Game

variable {g g' : Game} {n m : PieceNumber} {e e' : EffectNumber}

/-! ## Who stops -/

def takenBy (g : Game) (e : EffectNumber) : List Ability :=
  if g.outlasts e then [] else g.lentBy e

def losing (g : Game) (n : PieceNumber) : List Ability := (g.statusesOf n).flatMap g.takenBy

theorem takenBy_congr (h : g'.effect? e = g.effect? e) : g'.takenBy e = g.takenBy e := by
  unfold takenBy
  rw [outlasts_congr h, lentBy_of_effect?_eq h]

theorem SameEffects.losing (h : SameEffects g g' n) : g'.losing n = g.losing n := by
  unfold Game.losing
  rw [h.statuses]
  exact List.flatMap_congr fun e he => takenBy_congr (h.effects e he)

theorem mem_abilitiesOf_of_losing {a : Ability} (h : a ∈ g.losing n) : a ∈ g.abilitiesOf n := by
  rcases List.mem_flatMap.1 h with ⟨e, he, ha⟩
  rw [abilitiesOf_eq]
  apply List.mem_append_right
  apply List.mem_flatMap.2
  unfold takenBy at ha
  split at ha
  · cases ha
  · exact ⟨e, he, ha⟩

theorem takenBy_of_effect? {effect : Effect} (found : g.effect? e = some effect) :
    g.takenBy e = if effect.countDown.active then [] else effect.lent := by
  unfold takenBy outlasts lentBy
  rw [found]
  rfl

theorem dispatcher_tick (g : Game) (e : EffectNumber) :
    (g.tick e).dispatcher = (g.takenBy e).foldl Dispatcher.unsubscribeAbility g.dispatcher := by
  unfold tick
  cases found : g.effect? e with
  | none =>
      unfold takenBy outlasts lentBy
      rw [found]
      rfl
  | some effect =>
      rw [takenBy_of_effect? found]
      unfold Effect.countDown Effect.lent
      dsimp only
      by_cases hactive : effect.active = true
      · rw [if_pos hactive, if_pos hactive, if_pos hactive]
        by_cases hover : effect.remaining - 1 ≤ 0
        · have hlent : (g.setEffect e { effect with remaining := effect.remaining - 1 }).lentBy e =
              effect.children := by
            unfold lentBy
            rw [effect?_setEffect, if_pos rfl]
            exact if_pos hactive
          rw [if_pos hover, if_pos hover, dispatcher_expire, hlent]
          rfl
        · rw [if_neg hover, if_neg hover, if_pos hactive]
          rfl
      · rw [if_neg hactive, if_neg hactive, if_neg hactive, if_neg hactive]
        rfl

theorem dispatcher_foldl_tick {l : List EffectNumber} (hnodup : l.Nodup) (g : Game) :
    (l.foldl tick g).dispatcher =
      (l.flatMap g.takenBy).foldl Dispatcher.unsubscribeAbility g.dispatcher := by
  induction l generalizing g with
  | nil => rfl
  | cons e rest ih =>
      rw [List.nodup_cons] at hnodup
      have hrest : rest.flatMap (g.tick e).takenBy = rest.flatMap g.takenBy := by
        apply List.flatMap_congr
        intro e' he'
        apply takenBy_congr
        apply effect?_tick_of_ne
        rintro rfl
        exact hnodup.1 he'
      rw [List.foldl_cons, ih hnodup.2, hrest, dispatcher_tick, List.flatMap_cons,
        List.foldl_append]

theorem dispatcher_tickStatuses (hg : Attached g) (n : PieceNumber) :
    (g.tickStatuses n).2.dispatcher =
      (g.losing n).foldl Dispatcher.unsubscribeAbility g.dispatcher :=
  dispatcher_foldl_tick (hg.nodup n) g

/-- By induction on the pieces whose effects count down. -/
theorem dispatcher_foldl_tickStatuses {l : List PieceNumber} (hnodup : l.Nodup) (hg : Accounted g) :
    (l.foldl (fun g n => (g.tickStatuses n).2) g).dispatcher =
      (l.flatMap g.losing).foldl Dispatcher.unsubscribeAbility g.dispatcher := by
  induction l generalizing g with
  | nil => rfl
  | cons m rest ih =>
      rw [List.nodup_cons] at hnodup
      have hrest : rest.flatMap (g.tickStatuses m).2.losing = rest.flatMap g.losing := by
        apply List.flatMap_congr
        intro n hn
        apply (sameEffects_tickStatuses hg.attached _).losing
        rintro rfl
        exact hnodup.1 hn
      rw [List.foldl_cons, ih hnodup.2 (accounted_tickStatuses hg m), hrest,
        dispatcher_tickStatuses hg.attached, List.flatMap_cons, List.foldl_append]

theorem dispatcher_tickAll (hg : Accounted g) :
    g.tickAll.dispatcher =
      (g.inPlay.flatMap g.losing).foldl Dispatcher.unsubscribeAbility g.dispatcher :=
  dispatcher_foldl_tickStatuses hg.numbered.nodup_inPlay hg

/-! ## What counts down -/

theorem statusesOf_tickStatuses_subset (h : e ∉ g.statusesOf n) (m : PieceNumber) :
    e ∉ (g.tickStatuses m).2.statusesOf n := by
  rw [statusesOf_tickStatuses]
  split
  · next heq =>
      subst heq
      exact fun he => h (List.mem_filter.1 he).1
  · exact h

theorem effect?_foldl_tickStatuses_of_not_mem {l : List PieceNumber} (hg : Accounted g)
    (h : ∀ n ∈ l, e ∉ g.statusesOf n) :
    (l.foldl (fun g n => (g.tickStatuses n).2) g).effect? e = g.effect? e := by
  induction l generalizing g with
  | nil => rfl
  | cons m rest ih =>
      have hrest : ∀ n ∈ rest, e ∉ (g.tickStatuses m).2.statusesOf n := by
        intro n hn
        exact statusesOf_tickStatuses_subset (h n (List.mem_cons_of_mem m hn)) m
      rw [List.foldl_cons, ih (accounted_tickStatuses hg m) hrest,
        effect?_tickStatuses (hg.attached.nodup m), if_neg (h m List.mem_cons_self)]

theorem effect?_foldl_tickStatuses {l : List PieceNumber} (hnodup : l.Nodup) (hg : Accounted g)
    (hn : n ∈ l) (he : e ∈ g.statusesOf n) :
    (l.foldl (fun g n => (g.tickStatuses n).2) g).effect? e = (g.effect? e).map Effect.countDown := by
  induction l generalizing g with
  | nil => cases hn
  | cons m rest ih =>
      rw [List.nodup_cons] at hnodup
      rw [List.foldl_cons]
      have haccount := accounted_tickStatuses hg m
      by_cases heq : n = m
      · subst heq
        have hrest : ∀ m ∈ rest, e ∉ (g.tickStatuses n).2.statusesOf m := by
          intro m hm
          apply statusesOf_tickStatuses_subset
          intro he'
          exact hg.attached.ne_of_mem he he' (fun heq => hnodup.1 (heq ▸ hm)) rfl
        rw [effect?_foldl_tickStatuses_of_not_mem haccount hrest,
          effect?_tickStatuses (hg.attached.nodup n), if_pos he]
      · have hsame := sameEffects_tickStatuses hg.attached (Ne.symm heq)
        rw [ih hnodup.2 haccount ((List.mem_cons.1 hn).resolve_left heq) (hsame.statuses ▸ he),
          hsame.effects e he]

theorem effect?_tickAll (hg : Accounted g) (he : e ∈ g.statusesOf n) :
    g.tickAll.effect? e = (g.effect? e).map Effect.countDown :=
  effect?_foldl_tickStatuses hg.numbered.nodup_inPlay hg (hg.attached.inPlay n e he) he

theorem effect?_tickAll_of_not_mem (hg : Accounted g) (h : ∀ n, e ∉ g.statusesOf n) :
    g.tickAll.effect? e = g.effect? e :=
  effect?_foldl_tickStatuses_of_not_mem hg fun n _ => h n

theorem statusesOf_tickAll (hg : Accounted g) (n : PieceNumber) :
    g.tickAll.statusesOf n = (g.statusesOf n).filter g.outlasts := by
  by_cases hn : n ∈ g.inPlay
  · exact (countedDown_tickAll hg hn).statuses
  · have hn' : n ∉ g.tickAll.inPlay := by
      rw [inPlay_tickAll]
      exact hn
    rw [hg.attached.statusesOf_eq_nil hn, (accounted_tickAll hg).attached.statusesOf_eq_nil hn']
    rfl

/-! ## A turn ends -/

/-- From one game to the other a turn has ended: effects have counted down, those that ended by it are
gone together with their listeners, and the other team is to move.  Nothing else has changed. -/
structure TurnEnded (g g' : Game) : Prop where
  board : g'.board = g.board
  roster : g'.roster = g.roster
  piece : ∀ n, g'.piece n = g.piece n
  statuses : ∀ n, g'.statusesOf n = (g.statusesOf n).filter g.outlasts
  effects : ∀ n, ∀ e ∈ g.statusesOf n, g'.effect? e = (g.effect? e).map Effect.countDown
  detached : ∀ e, (∀ n, e ∉ g.statusesOf n) → g'.effect? e = g.effect? e
  dispatcher : g.dispatcher.Without (g.inPlay.flatMap g.losing) g'.dispatcher
  passed : TurnPassed g g'

theorem turnEnded_turn (hg : Accounted g) : TurnEnded g g.tickAll.nextTurn := by
  have hdispatcher : g.dispatcher.Without (g.inPlay.flatMap g.losing) g.tickAll.dispatcher := by
    rw [dispatcher_tickAll hg]
    apply hg.heard.hears.without
    intro a ha
    rcases List.mem_flatMap.1 ha with ⟨n, hn, hlost⟩
    exact List.mem_flatMap.2 ⟨n, hn, mem_abilitiesOf_of_losing hlost⟩
  have hframe : g.tickAll.board = g.board ∧ g.tickAll.roster = g.roster ∧
      ∀ n, g.tickAll.piece n = g.piece n := by
    rcases tickAll_eq g with ⟨dispatcher, effects, statuses, heq⟩
    rw [heq]
    exact ⟨rfl, rfl, fun _ => rfl⟩
  exact ⟨hframe.1, hframe.2.1, hframe.2.2, statusesOf_tickAll hg, fun n e he => effect?_tickAll hg he,
    fun e he => effect?_tickAll_of_not_mem hg he, hdispatcher, turnPassed_turn g⟩

theorem TurnEnded.of_sameButJournal {g'' : Game} (h : TurnEnded g g') (h' : SameButJournal g' g'') :
    TurnEnded g g'' := by
  rcases h' with ⟨journal, rfl⟩
  exact { h with passed := ⟨h.passed.turn, h.passed.toMove, h.passed.winner⟩ }

theorem SameButJournal.turnEnded {g'' : Game} (h : SameButJournal g g') (h' : TurnEnded g' g'') :
    TurnEnded g g'' := by
  rcases h with ⟨journal, rfl⟩
  exact { h' with passed := ⟨h'.passed.turn, h'.passed.toMove, h'.passed.winner⟩ }

/-- Among quiet abilities a turn ends without fail, and does no more than that. -/
theorem turnEnded_of_endTurn (h : ListenersReactBy Reaction.MarksContext g) (hg : Accounted g) :
    ∃ g', endTurn g = .ok () g' ∧ TurnEnded g g' := by
  rcases endTurn_sameButJournal h with ⟨g', hrun, hsame⟩
  exact ⟨g', hrun, (turnEnded_turn hg).of_sameButJournal hsame⟩

end Game
end Boardcraft
