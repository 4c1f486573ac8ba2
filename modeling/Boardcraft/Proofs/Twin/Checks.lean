import Boardcraft.Proofs.Twin.Game

/-!
# Checks in twin games

In twin games listeners are heard in another order.  With built-in rules that does not show: whether
an event is cancelled, and which flags are set when it is not, depends on who listens and not on who
is heard first.  So a check in one game refuses what the corresponding check in the other refuses,
and the lists of legal squares are the same in the same order.

Checks are also asked about pieces that are out of play, which no listener works for.

## Main statements

* `readsAlike_announce` compares what is made of corresponding contexts;
* `checkMove`, `checkAction`, `legalMoves` and `legalTargets` compare the answers.
-/

namespace Boardcraft

/-- Every flag is set by one built-in rule, always to the same value, or by none. -/
theorem Behaviour.setting?_cases (name : Text) :
    (∃ rule ∈ Rule.builtin, ∃ value, ∀ r ∈ Rule.builtin,
      r.behaviour.setting? name = if r.kind == rule.kind then some value else none) ∨
    ∀ r ∈ Rule.builtin, r.behaviour.setting? name = none := by
  by_cases hjumping : Flag.ignorePathBlocking = name
  · subst hjumping
    exact Or.inl ⟨.jumping, Rule.mem_builtin_iff.2 (by simp), true, by decide⟩
  · by_cases hally : Flag.allowTargetAlly = name
    · subst hally
      exact Or.inl ⟨.alliesOnly, Rule.mem_builtin_iff.2 (by simp), true, by decide⟩
    · by_cases henemy : Flag.allowTargetEnemy = name
      · subst henemy
        exact Or.inl ⟨.alliesOnly, Rule.mem_builtin_iff.2 (by simp), false, by decide⟩
      · apply Or.inr
        intro r hr
        rcases Rule.mem_builtin_iff.1 hr with rfl | rfl | rfl | rfl
        · rfl
        · exact if_neg hjumping
        · exact (if_neg henemy).trans (if_neg hally)
        · rfl

namespace Game

theorem any_listeners_of_not_mem_inPlay {g : Game} (h : Heard g) {n : PieceNumber}
    (hn : n ∉ g.inPlay) (rule : Rule) (event : Event) :
    (((g.dispatcher.listeners event).map Subscription.ability).any fun a =>
      a.kind == rule.kind && a.appliesTo (some n)) = false := by
  rw [List.any_eq_false]
  intro a ha hfits
  rw [Bool.and_eq_true] at hfits
  have hlistens := h.hears.exists_mem_listeners_iff.1 (List.mem_map.1 ha)
  rcases List.mem_flatMap.1 hlistens.1 with ⟨m, hm, ham⟩
  have happlies := hfits.2
  unfold Ability.appliesTo at happlies
  rw [(h.made m hm a ham).host] at happlies
  have heq : n = m := eq_of_beq happlies
  exact hn (heq ▸ hm)

/-- What is read off two contexts when their listeners have been heard is the same. -/
structure ReadsAlike (context context' : Context) : Prop where
  cancelled : context'.cancelled = context.cancelled
  flags : context.cancelled = false →
    ∀ name, context'.flagIsSet name = context.flagIsSet name

namespace Twins

variable {c : Renaming} {g g' : Game} {n : PieceNumber} (h : Twins c g g')

include h

/-!
## Gates before the abilities are asked
-/

theorem movePrecheck (hn : g.Made n) (target : Square) :
    g'.movePrecheck (c.number n) target = (g.movePrecheck n target).map (Refusal.rename c) := by
  unfold Game.movePrecheck
  rw [h.square n hn, h.movementTargets hn, h.name hn]
  simp only [h.holds]
  split
  · rfl
  · split
    · rfl
    · split <;> rfl

theorem actionPrecheck (hn : g.Made n) (target : Square) (action : Text) :
    g'.actionPrecheck (c.number n) target action =
      (g.actionPrecheck n target action).map (Refusal.rename c) := by
  unfold Game.actionPrecheck
  rw [h.square n hn, h.attackTargets hn, h.name hn, h.id hn, h.held]
  simp only [h.holds, Option.map_eq_none_iff]
  split
  · rfl
  · split
    · rfl
    · split <;> rfl

/-!
## What the built-in rules refuse
-/

theorem obstacle (jumps : Bool) (origin target : Square) :
    g'.obstacle jumps origin target =
      (g.obstacle jumps origin target).map (Refusal.rename c) := by
  have hoccupied : g'.board.isOccupied = g.board.isOccupied := funext h.isOccupied
  unfold Game.obstacle
  rw [hoccupied]
  dsimp only
  split
  · rfl
  · split <;> rfl

theorem moveRefusal (hn : g.Made n) (target : Square) :
    g'.moveRefusal (c.number n) target = (g.moveRefusal n target).map (Refusal.rename c) := by
  unfold Game.moveRefusal
  rw [h.movePrecheck hn, h.hasAbility hn, h.hasAbility hn, h.id hn, h.square n hn, h.obstacle,
    Option.map_or]
  split <;> rfl

theorem targetRefusal (alliesOnly : Bool) (hn : g.Made n) {m : PieceNumber} (hm : g.Made m)
    (action : Text) :
    g'.targetRefusal alliesOnly (c.number n) (c.number m) action =
      (g.targetRefusal alliesOnly n m action).map (Refusal.rename c) := by
  unfold Game.targetRefusal
  dsimp only
  rw [h.id hn, h.id hm, h.team hn, h.team hm]
  simp only [h.number_inj hm hn]
  split
  · rfl
  · split
    · split <;> rfl
    · split <;> rfl

theorem actionRefusal (hn : g.Made n) {target : Square}
    (hoccupant : ∀ m, g.board.pieceAt target = some m → g.Made m) (action : Text) :
    g'.actionRefusal (c.number n) target action =
      (g.actionRefusal n target action).map (Refusal.rename c) := by
  unfold Game.actionRefusal
  rw [h.actionPrecheck hn, h.hasAbility hn, h.held, Option.map_or]
  cases hheld : g.board.pieceAt target with
  | none => rfl
  | some m =>
      dsimp only [Option.map_some]
      rw [h.targetRefusal _ hn (hoccupant m hheld)]

/-!
## Verdicts
-/

theorem moveVerdict (hn : g.Made n) {context context' : Context}
    (reads : ReadsAlike context context') (origin target : Square) :
    g'.moveVerdict context' (c.number n) origin target =
      (g.moveVerdict context n origin target).map (Refusal.rename c) := by
  rw [moveVerdict_eq, moveVerdict_eq, reads.cancelled, h.id hn, h.obstacle]
  cases hcancelled : context.cancelled with
  | true => rfl
  | false => rw [reads.flags hcancelled]; rfl

theorem targetingVerdict (hn : g.Made n) {m : PieceNumber} (hm : g.Made m)
    {context context' : Context} (hflags : ∀ name, context'.flagIsSet name = context.flagIsSet name)
    (action : Text) :
    g'.targetingVerdict context' (c.number n) (c.number m) action =
      (g.targetingVerdict context n m action).map (Refusal.rename c) := by
  unfold Game.targetingVerdict
  dsimp only
  rw [h.id hn, h.id hm, h.team hn, h.team hm, hflags, hflags, hflags]
  simp only [h.number_inj hm hn]
  split
  · split <;> rfl
  · split
    · split <;> rfl
    · split <;> rfl

theorem actionVerdict (hn : g.Made n) {occupant : Option PieceNumber}
    (hoccupant : ∀ m, occupant = some m → g.Made m) {context context' : Context}
    (reads : ReadsAlike context context') (target : Square) (action : Text) :
    g'.actionVerdict context' (c.number n) target (occupant.map c.number) action =
      (g.actionVerdict context n target occupant action).map (Refusal.rename c) := by
  unfold Game.actionVerdict
  rw [reads.cancelled, h.id hn]
  cases hcancelled : context.cancelled with
  | true => rfl
  | false =>
      rw [if_neg Bool.false_ne_true, if_neg Bool.false_ne_true, reads.flags hcancelled]
      split
      · rfl
      · cases occupant with
        | none => rfl
        | some m => exact h.targetingVerdict hn (hoccupant m rfl) (reads.flags hcancelled) action

/-!
## Announcements
-/

theorem builtIn (hbuiltIn : g.registry.BuiltIn) : g'.registry.BuiltIn := h.registry ▸ hbuiltIn

section BuiltIn

variable (hg : Accounted g) (hg' : Accounted g') (hbuiltIn : g.registry.BuiltIn)

include hg hg' hbuiltIn

theorem any_listeners (hn : g.Made n) {rule : Rule} (hrule : rule ∈ Rule.builtin)
    (event : Event) :
    (((g'.dispatcher.listeners event).map Subscription.ability).any fun a =>
      a.kind == rule.kind && a.appliesTo (some (c.number n))) =
    ((g.dispatcher.listeners event).map Subscription.ability).any fun a =>
      a.kind == rule.kind && a.appliesTo (some n) := by
  have hbuiltIn' := h.builtIn hbuiltIn
  by_cases hevent : event ∈ rule.triggers
  · by_cases hplay : n ∈ g.inPlay
    · rw [any_listeners_eq_hasAbility hg'.heard hbuiltIn' (h.mem_inPlay hplay) hrule hevent,
        any_listeners_eq_hasAbility hg.heard hbuiltIn hplay hrule hevent, h.hasAbility hn]
    · have hplay' := mt (h.mem_inPlay_iff hg.numbered hn).1 hplay
      rw [any_listeners_of_not_mem_inPlay hg'.heard hplay',
        any_listeners_of_not_mem_inPlay hg.heard hplay]
  · rw [any_listeners_of_not_mem_triggers hg'.heard hbuiltIn' hrule hevent,
      any_listeners_of_not_mem_triggers hg.heard hbuiltIn hrule hevent]

/-- Corresponding events that are announced read the same when their listeners have been heard. -/
theorem readsAlike_announce (hn : g.Made n) (context context' : Context)
    (hevent : context'.event = context.event) (hsource : context.source = some n)
    (hsource' : context'.source = some (c.number n))
    (hcancelled : context'.cancelled = context.cancelled)
    (hflags : context'.flags = context.flags) :
    ∃ heard heard', announce context g = .ok heard g ∧ announce context' g' = .ok heard' g' ∧
      ReadsAlike heard heard' := by
  have hbuiltIn' := h.builtIn hbuiltIn
  have hrules := listener_mem_builtin hg.heard hbuiltIn context.event
  have hrules' := listener_mem_builtin hg'.heard hbuiltIn' context.event
  refine ⟨_, _, announce_of_builtIn hg hbuiltIn context,
    announce_of_builtIn hg' hbuiltIn' context', ?_⟩
  rw [hevent]
  have hsame : (g'.heedAll ((g'.dispatcher.listeners context.event).map Subscription.ability)
      context').cancelled =
      (g.heedAll ((g.dispatcher.listeners context.event).map Subscription.ability)
        context).cancelled := by
    rw [cancelled_heedAll hrules, cancelled_heedAll hrules', hcancelled, hsource, hsource',
      h.any_listeners hg hg' hbuiltIn hn (Rule.mem_builtin_iff.2 (Or.inl rfl))]
  refine ⟨hsame, ?_⟩
  intro hopen name
  have hinitial : context'.flagIsSet name = context.flagIsSet name := by
    unfold Context.flagIsSet
    rw [hflags]
  rcases Behaviour.setting?_cases name with ⟨rule, hrule, value, hsetting⟩ | hunset
  · rw [flagIsSet_heedAll hsetting hrules hopen,
      flagIsSet_heedAll hsetting hrules' (hsame.trans hopen), hsource, hsource',
      h.any_listeners hg hg' hbuiltIn hn hrule, hinitial]
  · rw [flagIsSet_heedAll_of_unset hunset hrules, flagIsSet_heedAll_of_unset hunset hrules',
      hinitial]

/-!
## Checks
-/

theorem checkMove (hn : g.Made n) (target : Square) :
    ∃ verdict, Game.checkMove n target g = give verdict g ∧
      Game.checkMove (c.number n) target g' = give (verdict.map (Refusal.rename c)) g' := by
  have hpre := h.movePrecheck hn target
  cases hrefusal : g.movePrecheck n target with
  | some refusal =>
      rw [hrefusal] at hpre
      exact ⟨_, checkMove_of_movePrecheck_some hrefusal, checkMove_of_movePrecheck_some hpre⟩
  | none =>
      rw [hrefusal] at hpre
      rcases h.readsAlike_announce hg hg' hbuiltIn hn (g.moveQuestion n target)
        (g'.moveQuestion (c.number n) target) rfl rfl rfl rfl rfl with
        ⟨heard, heard', hrun, hrun', reads⟩
      refine ⟨g.moveVerdict heard n (g.squareOf n) target, ?_, ?_⟩
      · rw [checkMove_of_movePrecheck_none hrefusal, bind_of_eq_ok _ hrun, get_bind]
      · rw [checkMove_of_movePrecheck_none hpre, bind_of_eq_ok _ hrun', get_bind,
          h.square n hn, h.moveVerdict hn reads]

theorem checkAction (hground : Grounded g) (hn : g.Made n) (target : Square) (action : Text) :
    ∃ verdict, Game.checkAction n target action g = give verdict g ∧
      Game.checkAction (c.number n) target action g' =
        give (verdict.map (Refusal.rename c)) g' := by
  have hpre := h.actionPrecheck hn target action
  cases hrefusal : g.actionPrecheck n target action with
  | some refusal =>
      rw [hrefusal] at hpre
      exact ⟨_, checkAction_of_actionPrecheck_some hrefusal, checkAction_of_actionPrecheck_some hpre⟩
  | none =>
      rw [hrefusal] at hpre
      rcases h.readsAlike_announce hg hg' hbuiltIn hn (g.actionQuestion n target action)
        (g'.actionQuestion (c.number n) target action) rfl rfl rfl rfl rfl with
        ⟨heard, heard', hrun, hrun', reads⟩
      have hoccupant : ∀ m, g.board.pieceAt target = some m → g.Made m :=
        fun m hm => hg.numbered.made (hground.inPlay target m hm)
      refine ⟨g.actionVerdict heard n target (g.board.pieceAt target) action, ?_, ?_⟩
      · rw [checkAction_of_actionPrecheck_none hrefusal, bind_of_eq_ok _ hrun, get_bind]
      · rw [checkAction_of_actionPrecheck_none hpre, bind_of_eq_ok _ hrun', get_bind, h.held,
          h.actionVerdict hn hoccupant reads]

end BuiltIn

/-! A refusal of a corresponding piece is about the same squares, so that there are words for both or
for neither. -/

omit h in
theorem tellable_map_rename (c : Renaming) (verdict : Option Refusal) :
    (verdict.map (Refusal.rename c)).all Refusal.isTellable = verdict.all Refusal.isTellable := by
  cases verdict with
  | none => rfl
  | some refusal => exact refusal.isTellable_rename c

theorem give (verdict : Option Refusal) :
    EndsAlike c (Option.map (Refusal.rename c)) (Game.give verdict g)
      (Game.give (verdict.map (Refusal.rename c)) g') := by
  rw [give_eq, give_eq, tellable_map_rename]
  split
  · exact .ok h
  · exact .error h

/-!
## All targets
-/

theorem filterLegal {check check' : Square → GameM (Option Refusal)}
    (hcheck : ∀ s, ∃ verdict, check s g = Game.give verdict g ∧
      check' s g' = Game.give (verdict.map (Refusal.rename c)) g') (l : List Square) :
    EndsAlike c (fun squares => squares) (Game.filterLegal check l g)
      (Game.filterLegal check' l g') := by
  choose rule hrule hrule' using hcheck
  rw [filterLegal_eq fun s _ => hrule s, filterLegal_eq fun s _ => hrule' s]
  simp only [tellable_map_rename, Option.isNone_map]
  split
  · exact .ok h
  · exact .error h

variable (hg : Accounted g) (hg' : Accounted g') (hbuiltIn : g.registry.BuiltIn)

include hg hg' hbuiltIn

theorem legalMoves (hn : g.Made n) :
    EndsAlike c (fun squares => squares) (Game.legalMoves n g)
      (Game.legalMoves (c.number n) g') := by
  have hfilter := h.filterLegal (h.checkMove hg hg' hbuiltIn hn) (g.movementTargets n)
  unfold Game.legalMoves
  rw [get_bind, get_bind, h.movementTargets hn]
  exact hfilter

theorem legalTargets (hground : Grounded g) (hn : g.Made n) (action : Text) :
    EndsAlike c (fun squares => squares) (Game.legalTargets n action g)
      (Game.legalTargets (c.number n) action g') := by
  have hfilter := h.filterLegal
    (fun s => h.checkAction hg hg' hbuiltIn hground hn s action) (g.attackTargets n)
  unfold Game.legalTargets
  rw [get_bind, get_bind, h.attackTargets hn]
  exact hfilter

end Twins

end Game
end Boardcraft
