import Boardcraft.Session.Command

/-!
# Consoles

A session hands what it shows to a console, one thing after the other.  What a console draws is its
own affair, except that there may be things it cannot show: text whose markup is out of order, or
text that the encoding of the terminal has no form for.  Then it raises an error, which nothing in a
session catches.
-/

namespace Boardcraft

structure Console where
  /-- Whether the console can show a thing. -/
  shows : Item → Bool

/-- The console that takes down whatever it is handed. -/
def Console.recorder : Console := ⟨fun _ => true⟩

namespace Session

/-- Why a line is not answered. -/
inductive Failure where
  | game (error : GameError)
  /-- A thing cannot be shown; those before it are on the screen already. -/
  | unshowable (before : List Item) (item : Item)

/-- Carries out a line and shows the answer.  What the line has changed stays changed if the answer
cannot be shown. -/
def handleOn (console : Console) (line : Text) : EStateM Failure Game Answer := fun g =>
  match handle line g with
  | .error e g => .error (.game e) g
  | .ok answer g =>
      match answer.1.find? fun item => !console.shows item with
      | some item => .error (.unshowable (answer.1.takeWhile console.shows) item) g
      | none => .ok answer g

end Session

end Boardcraft
