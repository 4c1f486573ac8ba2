import Boardcraft.Event.Basic
import Boardcraft.Grid.Square

/-!
# Event contexts

The record that the listeners of one event share.  What happened is fixed when the record is made;
listeners may cancel the event, set flags and leave notes in the payload.
-/

namespace Boardcraft

/-- Pieces are numbered from one in the order in which they are made. -/
abbrev PieceNumber := Nat

/-- What an event is about and what its listeners have made of it. -/
structure Context where
  event : Event
  source : Option PieceNumber := none
  target : Option PieceNumber := none
  origin : Option Square := none
  destination : Option Square := none
  action : Option Text := none
  params : Fields := []
  cancelled : Bool := false
  flags : Table Text Value := event.defaultFlags
  payload : Table Text Value := .empty

namespace Context

/-- The context of an event that has been cancelled.  Nothing takes a cancellation back. -/
def cancel (c : Context) : Context := { c with cancelled := true }

def setFlag (c : Context) (name : Text) (value : Value) : Context :=
  { c with flags := c.flags.insert name value }

def note (c : Context) (key : Text) (value : Value) : Context :=
  { c with payload := c.payload.insert key value }

def flag (c : Context) (name : Text) (missing : Value := .null) : Value :=
  (c.flags.find? name).getD missing

/-- Whether a flag holds exactly the true value. -/
def flagIsSet (c : Context) (name : Text) : Bool :=
  match c.flags.find? name with
  | some (.bool true) => true
  | _ => false

def squareText : Option Square → String
  | some s => s.text
  | none => "None"

def text (c : Context) : String :=
  "EventContext(" ++ c.event.name ++ ", from=" ++ squareText c.origin ++ ", to=" ++
    squareText c.destination ++ ", cancelled=" ++ (if c.cancelled then "True" else "False") ++ ")"

end Context

end Boardcraft
