import Boardcraft.Game.Legality

/-!
# Outcomes

What a command reports: what it has brought about, or why it was refused.
-/

namespace Boardcraft

inductive Command where
  | move
  | action
  deriving DecidableEq, Inhabited, Repr

def Command.word : Command → String
  | move => "move"
  | action => "action"

/-- One report of a command. -/
inductive Outcome where
  | started (firstTeam : Team) (pieceCount : Nat)
  | moved (id name : Text) (team : Team) (origin destination : Square) (turn : Nat)
  | acted (id action : Text) (target : Square) (targetId : Option Text) (captured : Bool)
      (turn : Nat)
  | refused (command : Command) (id : Text) (target : Square) (refusal : Refusal)
  /-- A team has won.  Who lost is what the capture's listeners have noted. -/
  | over (winner : Team) (loser : Value) (turn : Nat)

end Boardcraft
