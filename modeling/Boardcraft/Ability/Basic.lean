import Boardcraft.Board
import Boardcraft.Status.Definition

/-!
# Abilities

An ability is a listener that a piece, or a status effect on a piece, brings into the game.  A rule
says which events it listens to, how early it is heard, and what it does; an ability is a rule put
to work for one host.

Beside the built-in rules there are scripted ones.  A script looks at the situation in which its
ability is heard and answers with a list of reactions, or lets the event pass.
-/

namespace Boardcraft

/-- A piece seen from an event that an ability reacts to. -/
inductive Role where
  | source
  | target
  | host
  /-- A piece that has no part in the event and is known by its number. -/
  | piece (n : PieceNumber)
  deriving DecidableEq, Inhabited, Repr

inductive Reaction where
  | cancel
  | setFlag (name : Text) (value : Value)
  | note (key : Text) (value : Value)
  | fail (message : Text)
  /-- Lets the ability of a name listen to the event that a value names. -/
  | subscribe (ability : Text) (event : Value) (priority : Int)
  /-- Stops the ability of a name from listening to the event that a value names. -/
  | unsubscribe (ability : Text) (event : Value)
  /-- Puts a piece under a status effect. -/
  | afflict (who : Role) (draft : StatusDefinition.Draft)
  | remove (who : Role)
  | endTurn
  deriving Inhabited

/-! ## Scripts -/

/-- What a scripted ability goes by when it is heard: its host, the board, and the context of the
event.  The moment counts the reactions of the game so far, so that a script may answer one context
now this way and now that, as an ability with a memory would. -/
structure Situation where
  host : Option PieceNumber
  board : Board
  context : Context
  moment : Nat

/-- How a scripted ability answers a situation: with reactions in order, or not at all. -/
abbrev Script := Situation → Option (List Reaction)

/-- Whether a piece is a host.  Where either is missing it is not. -/
def isHost (host piece : Option PieceNumber) : Bool :=
  match piece, host with
  | some p, some h => p == h
  | _, _ => false

/-- When the simplest scripts react: always, or only if the host has a given part in the event. -/
inductive Condition where
  | always
  | hostIsSource
  | hostIsTarget
  deriving DecidableEq, Inhabited, Repr

def Condition.holds (s : Situation) : Condition → Bool
  | always => true
  | hostIsSource => isHost s.host s.context.source
  | hostIsTarget => isHost s.host s.context.target

def Script.when (condition : Condition) (reactions : List Reaction) : Script := fun s =>
  if condition.holds s then some reactions else none

/-! ## Rules -/

/-- What an ability does when it is heard. -/
inductive Behaviour where
  /-- The host cannot move. -/
  | immobile
  /-- The host moves past pieces that stand in its way. -/
  | jumping
  /-- The host acts on its own team and not on the other. -/
  | alliesOnly
  /-- The game ends when the host is captured. -/
  | king
  /-- The reactions with which the script answers are performed in order. -/
  | scripted (script : Script)
  deriving Inhabited

structure Rule where
  kind : Text
  triggers : List Event
  /-- Abilities with a lower number are heard earlier. -/
  priority : Int
  behaviour : Behaviour
  deriving Inhabited

def Rule.usualPriority : Int := 50

/-- A rule that has not been checked: its triggers are values that may name no event. -/
structure Rule.Draft where
  kind : Text
  triggers : List Value
  priority : Int := Rule.usualPriority
  behaviour : Behaviour
  deriving Inhabited

def Rule.Draft.check (d : Draft) : Except UnknownEvent Rule := do
  let triggers ← d.triggers.mapM Event.ofValue
  return { kind := d.kind, triggers, priority := d.priority, behaviour := d.behaviour }

def Rule.draft (r : Rule) : Rule.Draft :=
  { kind := r.kind, triggers := r.triggers.map fun e => .str e.name, priority := r.priority,
    behaviour := r.behaviour }

@[simp] theorem Rule.check_draft (r : Rule) : r.draft.check = .ok r := by
  simp only [Rule.Draft.check, Rule.draft, Event.mapM_ofValue_name]
  rfl

/-- A rule at work for a host, with a serial number that no other ability has. -/
structure Ability where
  serial : Nat
  rule : Rule
  params : Fields := []
  host : Option PieceNumber := none
  deriving Inhabited

namespace Ability

def kind (a : Ability) : Text := a.rule.kind

def triggers (a : Ability) : List Event := a.rule.triggers

def priority (a : Ability) : Int := a.rule.priority

def appliesTo (a : Ability) (piece : Option PieceNumber) : Bool := isHost a.host piece

end Ability

/-! ## Built-in rules -/

namespace Rule

/-- The host cannot move.  The rule is heard ahead of those that help to move. -/
def immobile : Rule := ⟨"Immobile", [.moveStart, .moveValidate], 10, .immobile⟩

def jumping : Rule := ⟨"Jumping", [.moveValidate], 50, .jumping⟩

def alliesOnly : Rule := ⟨"TargetAlliesOnly", [.actionValidate], 50, .alliesOnly⟩

def king : Rule := ⟨"King", [.capture], 100, .king⟩

def builtin : List Rule := [immobile, jumping, alliesOnly, king]

def ofName? (name : Text) : Option Rule := builtin.find? fun r => r.kind == name

def behaviourName? (r : Rule) : Option Text :=
  match r.behaviour with
  | .immobile => some immobile.kind
  | .jumping => some jumping.kind
  | .alliesOnly => some alliesOnly.kind
  | .king => some king.kind
  | .scripted _ => none

end Rule

/-- The text that shows an ability of a built-in rule, given the id of its host. -/
def Ability.text? (a : Ability) (hostId : Option Text) : Option Text :=
  a.rule.behaviourName?.map fun name =>
    name ++ "(kind=" ++ a.kind.quoted ++ ", host=" ++
      (match hostId with
        | some id => id.quoted
        | none => "None") ++ ")"

end Boardcraft
