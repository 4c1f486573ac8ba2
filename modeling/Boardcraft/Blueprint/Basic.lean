import Boardcraft.Shape.Reader
import Boardcraft.Status.Definition

/-!
# Blueprints

A blueprint is the description from which pieces are made: a name and an emoji, the shapes of its
moves and its attacks, and the abilities it is born with.  Shapes stay as they were written until
a piece is made.
-/

namespace Boardcraft

/-- A shape as a blueprint holds it: as text or as an object. -/
inductive ShapeSource where
  | text (text : Text)
  | object (fields : Fields)
  deriving Inhabited

namespace ShapeSource

def ofValue? : Value → Option ShapeSource
  | .str s => some (.text s)
  | .object fields => some (.object fields)
  | _ => none

def read : ShapeSource → Except Shape.DocumentError Shape
  | text s => Shape.ofText s
  | object fields => (Shape.ofValue .shape (.object fields)).mapError .malformed

end ShapeSource

structure Blueprint where
  name : Text
  emoji : Text
  movement : ShapeSource
  attack : ShapeSource
  abilities : List AbilitySpec := []
  deriving Inhabited

namespace Blueprint

/-! ## Faults -/

inductive Fault where
  | notAnObject (given : Value)
  | emptyField (field : String)
  | notAShape (blueprint : Text) (field : String)
  | notAList (blueprint : Text)
  | badParams (blueprint : Text)
  | badEntry (blueprint : Text)
  | invalidJson (fault : Json.Fault)
  | inFile (file : Text) (fault : Fault)

def Fault.message : Fault → Text
  | notAnObject given => "Blueprint must be an object, got " ++ given.kindWord
  | emptyField field => "Blueprint field '" ++ field ++ "' must be a non-empty string"
  | notAShape blueprint field =>
      "Blueprint '" ++ blueprint ++ "': '" ++ field ++ "' must be shape JSON (string or object)"
  | notAList blueprint => "Blueprint '" ++ blueprint ++ "': 'abilities' must be a list"
  | badParams blueprint => "Blueprint '" ++ blueprint ++ "': ability params must be an object"
  | badEntry blueprint =>
      "Blueprint '" ++ blueprint ++ "': ability entries must be names or \x7bname, params\x7d objects"
  | invalidJson fault => "Blueprint is not valid JSON: " ++ fault.message
  | inFile file fault => file ++ ": " ++ fault.message

/-- Why no blueprint can be read: a fault, or a number that no document may hold. -/
inductive Error where
  | malformed (fault : Fault)
  | oversizedNumber (digits : Nat)

def Error.message : Error → Text
  | malformed fault => fault.message
  | oversizedNumber digits => (Json.Fault.oversizedNumber digits).message

/-! ## Reading -/

def readName (fields : Fields) (field : String) : Except Fault Text :=
  match fields.get? field with
  | some (.str s) => if s.isEmpty then .error (.emptyField field) else .ok s
  | _ => .error (.emptyField field)

def readShape (blueprint : Text) (fields : Fields) (field : String) : Except Fault ShapeSource :=
  match (fields.get? field).bind ShapeSource.ofValue? with
  | some source => .ok source
  | none => .error (.notAShape blueprint field)

/-- One entry of the list of abilities: a name, or a name with parameters.  Parameters that do not
count as present are none at all. -/
def readAbility (blueprint : Text) : Value → Except Fault AbilitySpec
  | .str name => .ok { name }
  | .object fields =>
      match Fields.get? fields "name" with
      | some (.str name) =>
          let params := (Fields.get? fields "params").getD .null
          if params.isTruthy then
            match params with
            | .object params => .ok { name, params := .object params }
            | _ => .error (.badParams blueprint)
          else .ok { name }
      | _ => .error (.badEntry blueprint)
  | _ => .error (.badEntry blueprint)

def readAbilities (blueprint : Text) (fields : Fields) : Except Fault (List AbilitySpec) :=
  match fields.get? "abilities" with
  | none => .ok []
  | some (.list entries) => entries.mapM (readAbility blueprint)
  | some _ => .error (.notAList blueprint)

def ofValue : Value → Except Fault Blueprint
  | .object fields => do
      let name ← readName fields "name"
      let emoji ← readName fields "emoji"
      let movement ← readShape name fields "movement"
      let attack ← readShape name fields "attack"
      let abilities ← readAbilities name fields
      return { name, emoji, movement, attack, abilities }
  | given => .error (.notAnObject given)

def ofText (text : Text) : Except Error Blueprint :=
  match Json.read text with
  | .ok v => (ofValue v).mapError .malformed
  | .error (.oversizedNumber digits) => .error (.oversizedNumber digits)
  | .error fault => .error (.malformed (.invalidJson fault))

end Blueprint

end Boardcraft
