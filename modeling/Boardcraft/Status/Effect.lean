import Boardcraft.Ability.Basic

/-!
# Status effects

An effect on one piece: a definition, the turns that are left, and the abilities that it lends
while it is in force.
-/

namespace Boardcraft

/-- Effects are numbered from zero in the order in which they are made. -/
abbrev EffectNumber := Nat

structure Effect where
  definition : StatusDefinition
  host : PieceNumber
  remaining : Int
  active : Bool := false
  /-- The abilities that the effect lends while it is in force. -/
  children : List Ability := []

namespace Effect

def name (e : Effect) : Text := e.definition.name

def make (definition : StatusDefinition) (host : PieceNumber) : Effect :=
  { definition, host, remaining := definition.duration }

def lent (e : Effect) : List Ability := if e.active then e.children else []

/-- An effect after another application of the same kind, under the rule of that one. -/
def stack (e : Effect) (again : StatusDefinition) : Effect :=
  match again.stacking with
  | .refresh => { e with remaining := again.duration }
  | .extend => { e with remaining := e.remaining + again.duration }
  | .ignore => e

def text (e : Effect) (hostId : Text) : String :=
  "StatusEffectInstance(" ++ e.name.quoted ++ ", host=" ++ hostId.quoted ++
    ", remaining=" ++ toString e.remaining ++ ")"

end Effect

end Boardcraft
