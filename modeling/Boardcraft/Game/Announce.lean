import Boardcraft.Game.Roster

/-!
# Announcing events

What happens when an event is announced: everyone who listens to it is heard in turn, until one of
them has cancelled the event or has failed.  Those who are heard are the ones that listened when the
announcement began.

A listener may end the turn, which announces another event.  The definitions therefore take the
ending of a turn as an argument.
-/

namespace Boardcraft

/-- A game in the middle of an announcement, with the context that the listeners share. -/
structure Scene where
  game : Game
  context : Context

abbrev SceneM := EStateM GameError Scene

namespace Scene

def onGame {α : Type} (m : GameM α) : SceneM α := fun s =>
  match m s.game with
  | .ok a game => .ok a { s with game }
  | .error e game => .error e { s with game }

def change (f : Context → Context) : SceneM Unit :=
  modify fun s => { s with context := f s.context }

/-! ## Reactions -/

def playing (context : Context) (a : Ability) : Role → Option PieceNumber
  | .source => context.source
  | .target => context.target
  | .host => a.host
  | .piece n => some n

/-- Performs one reaction of a scripted ability.  A reaction to a piece that is not there does
nothing. -/
def perform (endTurn : GameM Unit) (a : Ability) : Reaction → SceneM Unit
  | .cancel => change Context.cancel
  | .setFlag name value => change fun c => c.setFlag name value
  | .note key value => change fun c => c.note key value
  | .fail message => throw (.raised message)
  | .subscribe name event priority => onGame do
      let event ← Game.requireEvent event
      let b ← Game.requireAbility name
      modify fun g => g.withDispatcher fun d => d.subscribe event b priority
  | .unsubscribe name event => onGame do
      let event ← Game.requireEvent event
      let b ← Game.requireAbility name
      modify fun g => g.withDispatcher fun d => d.unsubscribe event b
  | .afflict who draft => do
      match playing (← get).context a who with
      | none => pure ()
      | some n => onGame do
          match draft.check with
          | .ok definition =>
              let _ ← Game.applyStatus ((← get).piece n).id definition
          | .error fault => throw (.badDefinition fault)
  | .remove who => do
      match playing (← get).context a who with
      | none => pure ()
      | some n => onGame do
          let _ ← Game.removePiece ((← get).piece n).id
  | .endTurn => onGame endTurn

def performAll (endTurn : GameM Unit) (a : Ability) : List Reaction → SceneM Unit
  | [] => pure ()
  | r :: rest => do
      perform endTurn a r
      performAll endTurn a rest

/-! ## Hearing -/

/-- The note that the capture of a piece ends the game. -/
def gameOverKey : Text := "game_over_triggered"

/-- The note that tells which team has lost. -/
def losingTeamKey : Text := "losing_team"

/-- What an ability does when it is heard. -/
def hear (endTurn : GameM Unit) (a : Ability) : SceneM Unit := do
  let s ← get
  match a.rule.behaviour with
  | .immobile => if a.appliesTo s.context.source then change Context.cancel
  | .jumping =>
      if a.appliesTo s.context.source then
        change fun c => c.setFlag Flag.ignorePathBlocking (.bool true)
  | .alliesOnly =>
      if a.appliesTo s.context.source then
        change fun c =>
          (c.setFlag Flag.allowTargetAlly (.bool true)).setFlag Flag.allowTargetEnemy (.bool false)
  | .king =>
      match s.context.source with
      | some captured =>
          if a.appliesTo (some captured) then
            change fun c =>
              (c.note gameOverKey (.bool true)).note losingTeamKey (s.game.piece captured).teamMark
      | none => pure ()
  | .scripted script =>
      match script ⟨a.host, s.game.board, s.context, s.game.journal.length⟩ with
      | some reactions =>
          onGame (modify fun g => { g with journal := g.journal ++ [⟨a, s.context⟩] })
          performAll endTurn a reactions
      | none => pure ()

/-- Hears listeners in turn until the event is cancelled.  The failure of a listener ends the
announcement and tells whose it was. -/
def notify (endTurn : GameM Unit) (event : Event) : List Subscription → SceneM Unit
  | [] => pure ()
  | entry :: rest => fun s =>
      if s.context.cancelled then .ok () s
      else
        match hear endTurn entry.ability s with
        | .ok _ s => notify endTurn event rest s
        | .error e s => .error (.abilityFailed entry.ability.kind event e) s

def announce (endTurn : GameM Unit) (event : Event) : SceneM Unit := fun s =>
  notify endTurn event (s.game.dispatcher.listeners event) s

end Scene

namespace Game

def announceWith (endTurn : GameM Unit) (context : Context) : GameM Context := fun g =>
  match Scene.announce endTurn context.event ⟨g, context⟩ with
  | .ok _ s => .ok s.context s.game
  | .error e s => .error e s.game

/-! ## The end of a turn -/

/-- How many endings of turns may lie within each other.  The number stands in for the size of the
machine's stack, which these endings use up, and on which no rule of the game depends. -/
def nestingLimit : Nat := 1000

def tickAll (g : Game) : Game :=
  g.inPlay.foldl (fun g n => (g.tickStatuses n).2) g

/-- The game in which the other team is to move, if it has begun. -/
def nextTurn (g : Game) : Game :=
  { g with toMove := g.toMove.map Team.other, turn := g.turn + 1 }

/-- Ends the turn, with room for so many endings within this one: effects count down, the other
team is to move, and the new turn is announced. -/
def endTurnWithin : Nat → GameM Unit
  | 0 => throw .nestedTooDeep
  | n + 1 => do
      modify fun g => g.tickAll.nextTurn
      let _ ← announceWith (endTurnWithin n) { event := .turnStart }

def endTurn : GameM Unit := endTurnWithin nestingLimit

def announce (context : Context) : GameM Context := announceWith endTurn context

end Game

end Boardcraft
