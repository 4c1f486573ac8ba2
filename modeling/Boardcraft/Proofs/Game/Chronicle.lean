import Boardcraft.Proofs.Game.Deeds

/-!
# Following a game through its computations

Whatever abilities do while events are announced, and whatever a command does in between, a game
only ever changes in a few ways.  A chronicle is a relation between a game, the deeds that are done
and the game that they lead to, which holds of each of these changes and of one change after
another.  The theorems follow the definitions of the operations and show that every chronicle holds
of every operation and its deeds, whether the operation succeeds or fails.

What is true of all changes is thus shown for each change once, and nothing about announcements has
to be opened again.
-/

namespace Boardcraft

/-- A rule whose scripts answer with reactions of some kind only. -/
def Rule.ReactsBy (P : Reaction → Prop) (r : Rule) : Prop :=
  ∀ script, r.behaviour = .scripted script →
    ∀ s reactions, script s = some reactions → ∀ x ∈ reactions, P x

namespace Game

/-- A relation that holds of every change that reactions of some kind bring about, and of changes in
a row.  A reaction may name abilities of the cast only. -/
structure Chronicle (P : Reaction → Prop) (R : Game → List Deed → Game → Prop) : Prop where
  still : ∀ g, R g [] g
  chain : ∀ {g g' g'' first next}, R g first g' → R g' next g'' → R g (first ++ next) g''
  sight : ∀ g (seen : Sighting), R g [] { g with journal := g.journal ++ [seen] }
  subscribe : ∀ g name given priority event a, P (.subscribe name given priority) →
    g.cast.find? name = some a → R g [] (g.withDispatcher fun d => d.subscribe event a priority)
  unsubscribe : ∀ g name given event a, P (.unsubscribe name given) →
    g.cast.find? name = some a → R g [] (g.withDispatcher fun d => d.unsubscribe event a)
  afflict : ∀ g who draft id definition, P (.afflict who draft) →
    R g [.afflict id definition] (g.after (applyStatus id definition))
  remove : ∀ g who id, P (.remove who) → R g [.leave id] (g.after (removePiece id))
  turn : P .endTurn → ∀ g, R g [.turn] g.tickAll.nextTurn

/-- A chronicle of everything that can happen in a game but that a piece comes into play.  Pieces
only move to squares that are empty. -/
structure FullChronicle (R : Game → List Deed → Game → Prop) : Prop
    extends Chronicle (fun _ => True) R where
  begin : ∀ g team, R g [] (g.begun team)
  shift : ∀ g origin target, g.board.isOccupied target = false →
    R g [] (g.after (shift origin target))
  win : ∀ (g : Game) team, R g [] (g.won team)

namespace Chronicle

variable {P : Reaction → Prop} {R : Game → List Deed → Game → Prop}

/-- What comes second need only be followed where the first has succeeded. -/
theorem bind (h : Chronicle P R) {α β : Type} {g : Game} {m : GameM α} {f : α → GameM β}
    {first : List Deed} {next : α → Game → List Deed} (hm : R g first (g.after m))
    (hf : ∀ a g', m g = .ok a g' → R g' (next a g') (g'.after (f a))) :
    R g (andThen m first next g) (g.after (m >>= f)) := by
  unfold andThen
  cases hrun : m g with
  | ok a g' =>
      rw [after_of_eq_ok hrun] at hm
      rw [after_bind_of_eq_ok f hrun]
      exact h.chain hm (hf a g' hrun)
  | error e g' =>
      rw [after_of_eq_error hrun] at hm
      rw [after_bind_of_eq_error f hrun]
      exact hm

end Chronicle

end Game

/-!
## Announcements
-/

namespace Scene

open Game

def after {α : Type} (s : Scene) (m : SceneM α) : Scene :=
  match m s with
  | .ok _ s' => s'
  | .error _ s' => s'

theorem game_after_onGame {α : Type} (s : Scene) (m : GameM α) :
    (s.after (onGame m)).game = s.game.after m := by
  unfold after onGame Game.after
  cases m s.game <;> rfl

theorem get_bind {α : Type} (s : Scene) (f : Scene → SceneM α) :
    ((get : SceneM Scene) >>= f) s = f s s := rfl

theorem after_get_bind {α : Type} (s : Scene) (f : Scene → SceneM α) :
    s.after ((get : SceneM Scene) >>= f) = s.after (f s) := rfl

section Following

variable {P : Reaction → Prop} {R : Game → List Deed → Game → Prop} (h : Chronicle P R)
  {endTurn : GameM Unit} {endTurnDeeds : Game → List Deed}
  (hend : P .endTurn → ∀ g : Game, R g (endTurnDeeds g) (g.after endTurn))

include h

theorem follows_bind {α β : Type} {s : Scene} {m : SceneM α} {f : α → SceneM β}
    {first : List Deed} {next : α → Scene → List Deed} (hm : R s.game first (s.after m).game)
    (hf : ∀ a s', R s'.game (next a s') (s'.after (f a)).game) :
    R s.game (andThen m first next s) (s.after (m >>= f)).game := by
  unfold after at hm
  show R s.game _ (s.after (EStateM.bind m f)).game
  unfold andThen after EStateM.bind
  cases hrun : m s with
  | ok a s' =>
      rw [hrun] at hm
      exact h.chain hm (hf a s')
  | error e s' =>
      rw [hrun] at hm
      exact hm

theorem follows_requireAbility_bind (given : Value) (name : Text)
    {change : Event → Ability → Game → Game}
    (hchange : ∀ (g : Game) (event : Event) (a : Ability), g.cast.find? name = some a →
      R g [] (change event a g)) (g : Game) :
    R g [] (g.after (requireEvent given >>= fun event => requireAbility name >>= fun a =>
      modify (change event a))) := by
  unfold requireEvent
  cases Event.ofValue given with
  | error fault => exact h.still g
  | ok event =>
      show R g [] (g.after (requireAbility name >>= _))
      cases hcast : g.cast.find? name with
      | none =>
          have hrun : requireAbility name g = .error (.unknownAbility name) g := by
            unfold requireAbility
            rw [Game.get_bind, hcast]
            rfl
          rw [after_bind_of_eq_error _ hrun]
          exact h.still g
      | some a =>
          have hrun : requireAbility name g = .ok a g := by
            unfold requireAbility
            rw [Game.get_bind, hcast]
            rfl
          rw [after_bind_of_eq_ok _ hrun]
          exact hchange g event a hcast

include hend

theorem follows_perform (a : Ability) {r : Reaction} (hr : P r) (s : Scene) :
    R s.game (performDeeds endTurnDeeds a s r) (s.after (perform endTurn a r)).game := by
  cases r with
  | cancel => exact h.still s.game
  | setFlag name value => exact h.still s.game
  | note key value => exact h.still s.game
  | fail message => exact h.still s.game
  | subscribe name given priority =>
      rw [perform, game_after_onGame]
      exact follows_requireAbility_bind h given name
        (fun g event b cast => h.subscribe g name given priority event b hr cast) s.game
  | unsubscribe name given =>
      rw [perform, game_after_onGame]
      exact follows_requireAbility_bind h given name
        (fun g event b cast => h.unsubscribe g name given event b hr cast) s.game
  | afflict who draft =>
      rw [perform, performDeeds, after_get_bind]
      cases hplaying : playing s.context a who with
      | none => exact h.still s.game
      | some n =>
          dsimp only
          rw [game_after_onGame]
          cases draft.check with
          | error fault => exact h.still s.game
          | ok definition =>
              dsimp only
              rw [Game.after_get_bind, after_bind_pure]
              exact h.afflict s.game who draft _ definition hr
  | remove who =>
      rw [perform, performDeeds, after_get_bind]
      cases hplaying : playing s.context a who with
      | none => exact h.still s.game
      | some n =>
          dsimp only
          rw [game_after_onGame]
          rw [Game.after_get_bind, after_bind_pure]
          exact h.remove s.game who _ hr
  | endTurn =>
      rw [perform, performDeeds, game_after_onGame]
      exact hend hr s.game

theorem follows_performAll (a : Ability) {rs : List Reaction} (hrs : ∀ r ∈ rs, P r) (s : Scene) :
    R s.game (performAllDeeds endTurn endTurnDeeds a rs s)
      (s.after (performAll endTurn a rs)).game := by
  induction rs generalizing s with
  | nil => exact h.still s.game
  | cons r rest ih =>
      rw [performAll, performAllDeeds]
      refine follows_bind h (follows_perform h hend a (hrs r List.mem_cons_self) s) ?_
      intro _ s'
      exact ih (fun r' hr' => hrs r' (List.mem_cons_of_mem r hr')) s'

theorem follows_hear {a : Ability} (ha : a.rule.ReactsBy P) (s : Scene) :
    R s.game (hearDeeds endTurn endTurnDeeds a s) (s.after (hear endTurn a)).game := by
  unfold hear hearDeeds
  rw [after_get_bind]
  cases hbehaviour : a.rule.behaviour with
  | immobile =>
      dsimp only
      split <;> exact h.still s.game
  | jumping =>
      dsimp only
      split <;> exact h.still s.game
  | alliesOnly =>
      dsimp only
      split <;> exact h.still s.game
  | king =>
      dsimp only
      split
      · split <;> exact h.still s.game
      · exact h.still s.game
  | scripted script =>
      dsimp only
      cases hscript : script ⟨a.host, s.game.board, s.context, s.game.journal.length⟩ with
      | none => exact h.still s.game
      | some reactions =>
          have hreacts := ha script hbehaviour _ reactions hscript
          exact h.chain (h.sight s.game _) (follows_performAll h hend a hreacts (s.seen a))

omit h hend in
theorem notify_cons (event : Event) (entry : Subscription) (rest : List Subscription) (s : Scene) :
    notify endTurn event (entry :: rest) s =
      if s.context.cancelled then .ok () s
      else
        match hear endTurn entry.ability s with
        | .ok _ s' => notify endTurn event rest s'
        | .error e s' => .error (.abilityFailed entry.ability.kind event e) s' := rfl

/-- By induction on the listeners that are still to be heard. -/
theorem follows_notify (event : Event) {l : List Subscription}
    (hl : ∀ entry ∈ l, entry.ability.rule.ReactsBy P) (s : Scene) :
    R s.game (notifyDeeds endTurn endTurnDeeds l s) (s.after (notify endTurn event l)).game := by
  induction l generalizing s with
  | nil => exact h.still s.game
  | cons entry rest ih =>
      have hfirst := follows_hear h hend (hl entry List.mem_cons_self) s
      unfold after at hfirst ⊢
      rw [notify_cons, notifyDeeds]
      by_cases hcancelled : s.context.cancelled = true
      · rw [if_pos hcancelled, if_pos hcancelled]
        exact h.still s.game
      · rw [if_neg hcancelled, if_neg hcancelled]
        unfold andThen
        cases hrun : hear endTurn entry.ability s with
        | ok u s' =>
            rw [hrun] at hfirst
            exact h.chain hfirst (ih (fun e he => hl e (List.mem_cons_of_mem entry he)) s')
        | error e s' =>
            rw [hrun] at hfirst
            exact hfirst

end Following

end Scene

namespace Game

section Announcing

variable {P : Reaction → Prop} {R : Game → List Deed → Game → Prop}

theorem after_announceWith (endTurn : GameM Unit) (context : Context) (g : Game) :
    g.after (announceWith endTurn context) =
      ((⟨g, context⟩ : Scene).after (Scene.announce endTurn context.event)).game := by
  unfold after Scene.after Game.announceWith
  cases Scene.announce endTurn context.event ⟨g, context⟩ <;> rfl

theorem Chronicle.announceWith (h : Chronicle P R) {endTurn : GameM Unit}
    (endTurnDeeds : Game → List Deed)
    (hend : P .endTurn → ∀ g : Game, R g (endTurnDeeds g) (g.after endTurn)) (context : Context)
    {g : Game} (hg : ∀ s ∈ g.dispatcher.listeners context.event, s.ability.rule.ReactsBy P) :
    R g (announceWithDeeds endTurn endTurnDeeds context g)
      (g.after (announceWith endTurn context)) := by
  rw [after_announceWith]
  exact Scene.follows_notify h hend context.event hg ⟨g, context⟩

end Announcing

section Free

variable {R : Game → List Deed → Game → Prop} (h : Chronicle (fun _ => True) R)

include h

/-- By induction on how many endings of turns may lie within each other. -/
theorem Chronicle.endTurnWithin (n : Nat) (g : Game) :
    R g (endTurnWithinDeeds n g) (g.after (Game.endTurnWithin n)) := by
  induction n generalizing g with
  | zero => exact h.still g
  | succ n ih =>
      rw [endTurnWithinDeeds, Game.endTurnWithin, after_modify_bind]
      refine h.chain (h.turn trivial g) ?_
      rw [after_bind_pure]
      exact h.announceWith (endTurnWithinDeeds n) (fun _ => ih) _ fun s _ => fun _ _ _ _ _ _ _ => trivial

theorem Chronicle.endTurn (g : Game) : R g (endTurnDeeds g) (g.after Game.endTurn) :=
  h.endTurnWithin nestingLimit g

theorem Chronicle.announce (context : Context) (g : Game) :
    R g (announceDeeds context g) (g.after (Game.announce context)) :=
  h.announceWith endTurnDeeds (fun _ => h.endTurn) context fun _ _ _ _ _ _ _ _ _ => trivial

end Free

end Game
end Boardcraft
