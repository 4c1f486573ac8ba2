import Boardcraft.Ability.Registry
import Boardcraft.Blueprint.Basic
import Boardcraft.Board
import Boardcraft.Layout
import Boardcraft.Team
import Boardcraft.Text.Numeral

/-!
# Errors of a game

Why an operation on a game fails.  A refused command is no error: it is an outcome.
-/

namespace Boardcraft

inductive GameError where
  /-- A piece was to be made for something that is no team. -/
  | badTeam (given : Value)
  /-- A game was to begin with something that is no team. -/
  | badFirstTeam (given : Value)
  | badShape (error : Shape.DocumentError)
  | badAbility (fault : MakingFault)
  /-- A square cannot be taken or left. -/
  | badSquare (fault : Board.Fault)
  | unknownPiece (id : Text)
  /-- A reaction names an ability that is not there. -/
  | unknownAbility (name : Text)
  /-- A reaction names an event that is not there. -/
  | unknownEvent (error : UnknownEvent)
  /-- A layout names a blueprint that is not there. -/
  | unknownBlueprint (name : Text)
  | badDefinition (fault : StatusDefinition.Fault)
  | smallBoard (error : Layout.TooSmall)
  /-- A scripted ability fails of its own accord. -/
  | raised (message : Text)
  /-- Turns end within the ending of turns without an end in sight. -/
  | nestedTooDeep
  /-- A number is to be written down that has more digits than a numeral may have. -/
  | oversizedNumber
  /-- An ability failed while it was heard. -/
  | abilityFailed (kind : Text) (event : Event) (cause : GameError)

namespace GameError

/-- The error as it is reported.  What was looked up in vain is quoted. -/
def message : GameError → Text
  | badTeam given => "team must be one of " ++ Team.words ++ ", got " ++ given.literal
  | badFirstTeam given => "first_team must be one of " ++ Team.words ++ ", got " ++ given.literal
  | badShape error => error.message
  | badAbility fault => fault.message
  | badSquare fault => fault.message
  | unknownPiece id => id.quoted
  | unknownAbility name => name.quoted
  | unknownEvent error => error.message
  | unknownBlueprint name => Text.quoted ("Layout references unknown blueprint '" ++ name ++ "'")
  | badDefinition fault => fault.message
  | smallBoard error => error.message
  | raised message => message
  | nestedTooDeep => "maximum recursion depth exceeded"
  | oversizedNumber => Text.unwritable
  | abilityFailed kind event cause =>
      "[" ++ kind ++ "] failed during " ++ event.name ++ ": " ++ cause.message

end GameError

end Boardcraft
