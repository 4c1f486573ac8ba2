import Boardcraft.Data.Literal

/-!
# Status effect definitions

A status effect lends abilities to a piece for a number of turns.  Its definition says for how
many, which abilities, and what happens if the effect is applied to a piece that is under it
already.
-/

namespace Boardcraft

/-- An ability by name, with what is given as its parameters. -/
structure AbilitySpec where
  name : Text
  params : Value := .object []
  deriving Inhabited

inductive Stacking where
  | refresh
  | extend
  | ignore
  deriving DecidableEq, Inhabited, Repr

namespace Stacking

def all : List Stacking := [refresh, extend, ignore]

def word : Stacking → String
  | refresh => "refresh"
  | extend => "stack_duration"
  | ignore => "ignore"

def ofWord? (word : Text) : Option Stacking := all.find? fun s => s.word == word

def ofValue? : Value → Option Stacking
  | .str word => ofWord? word
  | _ => none

def words : String := "('refresh', 'stack_duration', 'ignore')"

end Stacking

structure StatusDefinition where
  name : Text
  duration : Int
  stacking : Stacking := .refresh
  abilities : List AbilitySpec := []
  duration_pos : 1 ≤ duration

namespace StatusDefinition

inductive Fault where
  | shortDuration (name : Text)
  | badStacking (name : Text) (given : Value)

def Fault.message : Fault → Text
  | shortDuration name => name ++ ": base_duration must be >= 1"
  | badStacking name given =>
      name ++ ": stack_behavior must be one of " ++ Stacking.words ++ ", got " ++ given.literal

structure Draft where
  name : Text
  duration : Int
  stacking : Value := .str Stacking.refresh.word
  abilities : List AbilitySpec := []
  deriving Inhabited

/-- The definition that a draft describes, if it lasts for a turn at least and names a rule. -/
def Draft.check (d : Draft) : Except Fault StatusDefinition :=
  if h : 1 ≤ d.duration then
    match Stacking.ofValue? d.stacking with
    | some stacking =>
        .ok { name := d.name, duration := d.duration, stacking, abilities := d.abilities,
              duration_pos := h }
    | none => .error (.badStacking d.name d.stacking)
  else .error (.shortDuration d.name)

end StatusDefinition

end Boardcraft
