import Boardcraft.Proofs.Game.Listening
import Boardcraft.Proofs.Status.Timer

/-!
# Effects that show timers

An effect that is in force on a piece shows a timer: the definition that it was made from and the
turns that are left.  This module follows the list of effects on one piece beside a list of timers,
when an effect is applied once more and when the effects count down.

## Main statements

* `shows_again`: the effect in force changes as its timer does;
* `shows_countDown`: the effects that are still active when a turn has passed are those whose timers
  still run.
-/

namespace Boardcraft

def Effect.countDown (e : Effect) : Effect :=
  if e.active then
    if e.remaining - 1 ≤ 0 then
      { e with remaining := e.remaining - 1, children := [], active := false }
    else { e with remaining := e.remaining - 1 }
  else e

theorem Effect.countDown_of_left {e : Effect} (hactive : e.active = true)
    (hleft : 0 < e.remaining - 1) :
    e.countDown = { e with remaining := e.remaining - 1 } := by
  rw [Effect.countDown, if_pos hactive, if_neg (Int.not_le.2 hleft)]

theorem Effect.active_countDown_of_over {e : Effect} (hover : ¬ 0 < e.remaining - 1) :
    e.countDown.active = false := by
  rw [Effect.countDown, if_pos (Int.not_lt.1 hover)]
  split
  · rfl
  · next hinactive => exact Bool.eq_false_iff.2 hinactive

namespace Game

/-- An effect is in force on a piece and shows a timer: it was made from the definition of the timer,
has as many turns left, and lends the abilities that the definition names, made for the piece. -/
def Shows (g : Game) (n : PieceNumber) (e : EffectNumber) (t : Timer) : Prop :=
  ∃ children, g.effect? e = some
      { definition := t.definition, host := n, remaining := t.remaining, active := true, children } ∧
    List.Forall₂ (g.registry.Makes n) t.definition.abilities children

def bears (g : Game) (name : Text) (e : EffectNumber) : Bool :=
  match g.effect? e with
  | some effect => effect.active && effect.name == name
  | none => false

section Showing

variable {g g' : Game} {n : PieceNumber} {e : EffectNumber} {t : Timer}
  {effects : List EffectNumber} {timers : List Timer}

theorem Shows.congr (h : g.Shows n e t) (heffect : g'.effect? e = g.effect? e)
    (hregistry : g'.registry = g.registry) : g'.Shows n e t := by
  unfold Shows
  rw [heffect, hregistry]
  exact h

theorem Shows.bears (h : g.Shows n e t) (name : Text) : g.bears name e = (t.name == name) := by
  rcases h with ⟨children, heffect, -⟩
  unfold Game.bears
  rw [heffect]
  rfl

theorem Shows.isActive (h : g.Shows n e t) : g.isActive e = true := by
  rcases h with ⟨children, heffect, -⟩
  unfold Game.isActive
  rw [heffect]

theorem shows_congr (h : List.Forall₂ (g.Shows n) effects timers)
    (heffect : ∀ e ∈ effects, g'.effect? e = g.effect? e) (hregistry : g'.registry = g.registry) :
    List.Forall₂ (g'.Shows n) effects timers := by
  have hboth := (List.forall₂_and_left effects timers).2 ⟨heffect, h⟩
  exact hboth.imp fun e t he => he.2.congr he.1 hregistry

/-!
## Another application
-/

/-- An effect of a name is in force as long as a timer of that name runs. -/
theorem runs_eq_any_bears (h : List.Forall₂ (g.Shows n) effects timers) (name : Text) :
    Timer.runs name timers = effects.any (g.bears name) := by
  unfold Timer.runs
  induction h with
  | nil => rfl
  | cons hfirst _ ih => rw [List.any_cons, List.any_cons, hfirst.bears, ih]

theorem runs_of_find?_some {name : Text} {m : EffectNumber}
    (h : List.Forall₂ (g.Shows n) effects timers) (hfind : effects.find? (g.bears name) = some m) :
    Timer.runs name timers = true := by
  rw [runs_eq_any_bears h, List.any_eq_true]
  exact ⟨m, List.mem_of_find?_eq_some hfind, List.find?_some hfind⟩

theorem runs_of_find?_none {name : Text} (h : List.Forall₂ (g.Shows n) effects timers)
    (hfind : effects.find? (g.bears name) = none) : Timer.runs name timers = false := by
  rw [runs_eq_any_bears h, List.any_eq_false]
  exact List.find?_eq_none.1 hfind

theorem Shows.again (h : g.Shows n e t) {effect : Effect} (found : g.effect? e = some effect)
    (definition : StatusDefinition) :
    (g.setEffect e (effect.stack definition)).Shows n e (t.again definition) := by
  rcases h with ⟨children, heffect, hmakes⟩
  rw [heffect] at found
  injection found with found
  refine ⟨children, ?_, ?_⟩
  · rw [effect?_setEffect, if_pos rfl, ← found]
    unfold Effect.stack Timer.again
    cases definition.stacking <;> rfl
  · rw [Timer.definition_again]
    exact hmakes

/-- By induction on the lists: the first effect of the name is the only one, as no two timers have
one name, and no effect stands in the list twice. -/
theorem shows_again (h : List.Forall₂ (g.Shows n) effects timers) (hnodup : effects.Nodup)
    (hnames : (timers.map Timer.name).Nodup) {definition : StatusDefinition} {m : EffectNumber}
    {effect : Effect} (hfind : effects.find? (g.bears definition.name) = some m)
    (found : g.effect? m = some effect) :
    List.Forall₂ ((g.setEffect m (effect.stack definition)).Shows n) effects
      (timers.map fun t => if t.name == definition.name then t.again definition else t) := by
  induction h with
  | nil => cases hfind
  | @cons e t rest others hfirst hrest ih =>
      rw [List.nodup_cons] at hnodup
      rw [List.map_cons, List.nodup_cons] at hnames
      rw [List.map_cons]
      by_cases hname : (t.name == definition.name) = true
      · rw [List.find?_cons_of_pos (by rw [hfirst.bears, hname])] at hfind
        injection hfind with hfind
        subst hfind
        have hothers : (others.map fun t =>
            if t.name == definition.name then t.again definition else t) = others := by
          refine (List.map_congr_left ?_).trans (List.map_id others)
          intro t' ht'
          rw [if_neg ?_, id_eq]
          intro hname'
          have hsame : t'.name = t.name := (beq_iff_eq.1 hname').trans (beq_iff_eq.1 hname).symm
          exact hnames.1 (hsame ▸ List.mem_map_of_mem ht')
        rw [if_pos hname, hothers]
        refine List.Forall₂.cons (hfirst.again found definition) (shows_congr hrest ?_ rfl)
        intro e' he'
        rw [effect?_setEffect, if_neg ?_]
        intro heq
        exact hnodup.1 (heq ▸ he')
      · rw [List.find?_cons_of_neg (by rw [hfirst.bears]; exact hname)] at hfind
        rw [if_neg hname]
        refine List.Forall₂.cons (hfirst.congr ?_ rfl) (ih hnodup.2 hnames.2 hfind)
        rw [effect?_setEffect, if_neg ?_]
        intro heq
        exact hnodup.1 (heq ▸ List.mem_of_find?_eq_some hfind)

/-!
## Counting down
-/

theorem effect?_tick_self (g : Game) (e : EffectNumber) :
    (g.tick e).effect? e = (g.effect? e).map Effect.countDown := by
  unfold tick
  cases found : g.effect? e with
  | none => exact found
  | some effect =>
      dsimp only
      rw [Option.map_some, Effect.countDown]
      by_cases hactive : effect.active = true
      · have hset : (g.setEffect e { effect with remaining := effect.remaining - 1 }).effect? e =
            some { effect with remaining := effect.remaining - 1 } := by
          rw [effect?_setEffect, if_pos rfl]
        rw [if_pos hactive, if_pos hactive]
        by_cases hover : effect.remaining - 1 ≤ 0
        · rw [if_pos hover, if_pos hover]
          unfold expire
          rw [hset]
          dsimp only
          rw [if_pos hactive, effect?_setEffect, if_pos rfl]
        · rw [if_neg hover, if_neg hover]
          exact hset
      · rw [if_neg hactive, if_neg hactive]
        exact found

theorem effect?_tick_of_ne {e e' : EffectNumber} (g : Game) (hne : e ≠ e') :
    (g.tick e).effect? e' = g.effect? e' := by
  unfold tick
  cases found : g.effect? e with
  | none => rfl
  | some effect =>
      have hset : (g.setEffect e { effect with remaining := effect.remaining - 1 }).effect? e' =
          g.effect? e' := by
        rw [effect?_setEffect, if_neg hne]
      dsimp only
      split
      · split
        · rw [effect?_expire_of_ne _ hne, hset]
        · exact hset
      · rfl

theorem effect?_foldl_tick {l : List EffectNumber} (hnodup : l.Nodup) (g : Game)
    (e : EffectNumber) :
    (l.foldl tick g).effect? e =
      if e ∈ l then (g.effect? e).map Effect.countDown else g.effect? e := by
  induction l generalizing g with
  | nil => rw [List.foldl_nil, if_neg List.not_mem_nil]
  | cons e' rest ih =>
      rw [List.nodup_cons] at hnodup
      rw [List.foldl_cons, ih hnodup.2]
      by_cases heq : e' = e
      · subst heq
        rw [if_neg hnodup.1, if_pos List.mem_cons_self, effect?_tick_self]
      · have hmem : e ∈ e' :: rest ↔ e ∈ rest := by
          rw [List.mem_cons]
          exact or_iff_right (Ne.symm heq)
        rw [effect?_tick_of_ne g heq]
        exact if_congr hmem.symm rfl rfl

theorem Shows.countDown (h : g.Shows n e t)
    (heffect : g'.effect? e = (g.effect? e).map Effect.countDown)
    (hregistry : g'.registry = g.registry) (hleft : 0 < t.less.remaining) :
    g'.Shows n e t.less := by
  rcases h with ⟨children, hshown, hmakes⟩
  refine ⟨children, ?_, hregistry ▸ hmakes⟩
  rw [heffect, hshown, Option.map_some]
  exact congrArg some (Effect.countDown_of_left rfl hleft)

theorem Shows.ends (h : g.Shows n e t)
    (heffect : g'.effect? e = (g.effect? e).map Effect.countDown)
    (hover : ¬ 0 < t.less.remaining) : g'.isActive e = false := by
  rcases h with ⟨children, hshown, -⟩
  unfold Game.isActive
  rw [heffect, hshown, Option.map_some]
  exact Effect.active_countDown_of_over hover

theorem shows_countDown (h : List.Forall₂ (g.Shows n) effects timers)
    (heffect : ∀ e ∈ effects, g'.effect? e = (g.effect? e).map Effect.countDown)
    (hregistry : g'.registry = g.registry) :
    List.Forall₂ (g'.Shows n) (effects.filter g'.isActive) (Timer.countDown timers) := by
  induction h with
  | nil => exact List.Forall₂.nil
  | @cons e t rest others hfirst _ ih =>
      have hself := heffect e List.mem_cons_self
      have hrest := ih fun e' he' => heffect e' (List.mem_cons_of_mem e he')
      unfold Timer.countDown at hrest ⊢
      rw [List.map_cons, List.filter_cons, List.filter_cons]
      by_cases hleft : 0 < t.less.remaining
      · have hshows := hfirst.countDown hself hregistry hleft
        rw [if_pos hshows.isActive, if_pos (decide_eq_true hleft)]
        exact List.Forall₂.cons hshows hrest
      · have hended := hfirst.ends hself hleft
        rw [if_neg (Bool.eq_false_iff.1 hended), if_neg (by rw [decide_eq_true_eq]; exact hleft)]
        exact hrest

/-!
## The effects on one piece count down
-/

theorem effect?_tickStatuses (hnodup : (g.statusesOf n).Nodup) (e : EffectNumber) :
    (g.tickStatuses n).2.effect? e =
      if e ∈ g.statusesOf n then (g.effect? e).map Effect.countDown else g.effect? e :=
  effect?_foldl_tick hnodup g e

theorem statusesOf_tickStatuses (g : Game) (n m : PieceNumber) :
    (g.tickStatuses n).2.statusesOf m =
      if n = m then (g.statusesOf n).filter (g.tickStatuses n).2.isActive
      else g.statusesOf m := by
  have hsame : ∀ m, ((g.statusesOf n).foldl tick g).statusesOf m = g.statusesOf m := by
    intro m
    rcases foldl_tick_eq (g.statusesOf n) g with ⟨dispatcher, effects, heq⟩
    rw [heq]
    rfl
  unfold tickStatuses
  dsimp only
  rw [statusesOf_setStatuses, hsame, hsame]
  rfl

theorem registry_tickStatuses (g : Game) (n : PieceNumber) :
    (g.tickStatuses n).2.registry = g.registry := by
  rcases tickStatuses_eq g n with ⟨dispatcher, effects, statuses, heq⟩
  rw [heq]

end Showing

end Game
end Boardcraft
