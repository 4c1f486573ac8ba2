import Boardcraft.Game.State

/-!
# Status effects in a game

Putting effects in force, counting them down and taking them off.  An effect in force has made the
abilities that it lends, and these listen until the effect ends.
-/

namespace Boardcraft

namespace Game

/-! ## Making abilities -/

def makeAbility (host : PieceNumber) (spec : AbilitySpec) : GameM Ability := do
  let g ← get
  match g.registry.make spec.name spec.params g.abilityCount (some host) with
  | .ok ability =>
      set { g with abilityCount := g.abilityCount + 1 }
      return ability
  | .error fault => throw (.badAbility fault)

def makeAbilities (host : PieceNumber) : List AbilitySpec → GameM (List Ability)
  | [] => pure []
  | spec :: rest => do
      let a ← makeAbility host spec
      let as ← makeAbilities host rest
      return a :: as

def subscribeAll (g : Game) (abilities : List Ability) : Game :=
  g.withDispatcher fun d => abilities.foldl Dispatcher.subscribeAbility d

def unsubscribeAll (g : Game) (abilities : List Ability) : Game :=
  g.withDispatcher fun d => abilities.foldl Dispatcher.unsubscribeAbility d

/-! ## One effect -/

def makeEffect (definition : StatusDefinition) (host : PieceNumber) : GameM EffectNumber := do
  let g ← get
  set { g.setEffect g.effectCount (.make definition host) with effectCount := g.effectCount + 1 }
  return g.effectCount

/-- Puts an effect in force.  All abilities are made before the first of them listens, so that one
that cannot be made changes no listener. -/
def activate (n : EffectNumber) : GameM Unit := do
  match (← get).effect? n with
  | some e =>
      if !e.active then
        let children ← makeAbilities e.host e.definition.abilities
        modify fun g => (g.subscribeAll children).setEffect n { e with children, active := true }
  | none => pure ()

def expire (g : Game) (n : EffectNumber) : Game :=
  match g.effect? n with
  | some e =>
      if e.active then (g.unsubscribeAll e.children).setEffect n { e with children := [], active := false }
      else g
  | none => g

/-- The game in which an effect has counted down a turn, and has ended if none is left. -/
def tick (g : Game) (n : EffectNumber) : Game :=
  match g.effect? n with
  | some e =>
      if e.active then
        let g := g.setEffect n { e with remaining := e.remaining - 1 }
        if e.remaining - 1 ≤ 0 then g.expire n else g
      else g
  | none => g

/-! ## The effects on a piece -/

def inForce? (g : Game) (host : PieceNumber) (name : Text) : Option EffectNumber :=
  (g.statusesOf host).find? fun n =>
    match g.effect? n with
    | some e => e.active && e.name == name
    | none => false

/-- Applies an effect to its host and tells which effect is now in force.  Where one of its name is
in force already, the definition's rule decides what becomes of that one. -/
def applyEffect (n : EffectNumber) : GameM EffectNumber := do
  let g ← get
  match g.effect? n with
  | none => return n
  | some e =>
      match g.inForce? e.host e.name with
      | none =>
          activate n
          modify fun g => g.setStatuses e.host (g.statusesOf e.host ++ [n])
          return n
      | some m =>
          match g.effect? m with
          | some existing => set (g.setEffect m (existing.stack e.definition))
          | none => pure ()
          return m

/-- The game in which every effect on a piece has counted down a turn and those that ended are
taken off, and the effects that ended. -/
def tickStatuses (g : Game) (n : PieceNumber) : List EffectNumber × Game :=
  let ticked := (g.statusesOf n).foldl tick g
  let effects := ticked.statusesOf n
  (effects.filter fun e => !ticked.isActive e, ticked.setStatuses n (effects.filter ticked.isActive))

def clearStatuses (g : Game) (n : PieceNumber) : Game :=
  ((g.statusesOf n).foldl expire g).setStatuses n []

def applyStatus (id : Text) (definition : StatusDefinition) : GameM EffectNumber := do
  let host ← require id
  let n ← makeEffect definition host
  applyEffect n

end Game

end Boardcraft
