import Boardcraft.Data.Literal
import Boardcraft.Json.Reader
import Boardcraft.Shape.Basic

/-!
# Reading shapes

Reading a shape from a decoded value or from JSON.  Fields are checked in a fixed order and the
first fault ends the reading; it is reported with the path that leads from the root to the field
at fault.
-/

namespace Boardcraft

namespace Shape

/-! ## Paths -/

inductive PathStep where
  | field (name : String)
  | item (index : Nat)
  deriving DecidableEq, Repr

def PathStep.text : PathStep → String
  | field name => "." ++ name
  | item index => "[" ++ toString index ++ "]"

/-- A place in a value: the name of the root and the steps from there. -/
structure Path where
  root : Text
  steps : List PathStep := []
  deriving DecidableEq, Repr

namespace Path

def field (p : Path) (name : String) : Path := ⟨p.root, p.steps ++ [.field name]⟩

def item (p : Path) (index : Nat) : Path := ⟨p.root, p.steps ++ [.item index]⟩

def text (p : Path) : Text := p.root ++ String.join (p.steps.map PathStep.text)

def shape : Path := ⟨"shape", []⟩

end Path

/-! ## Faults -/

inductive Fault where
  | invalidJson (fault : Json.Fault)
  | undecodable (fault : Json.DecodeFault)
  | notAnObject (given : Value)
  | missingKind
  | unknownKind (kind : Text)
  | notANumber (given : Value)
  | notWhole (given : Binary64)
  | belowMinimum (minimum given : Int)
  | belowNearest (nearest farthest : Int)
  | noDirections
  | notADirection (given : Value)
  | notADelta
  | notAnAxis (given : Value)
  | tooFewParts (kind : Text) (minimum : Nat)

def Fault.message : Fault → Text
  | invalidJson fault => "invalid JSON (" ++ fault.message ++ ")"
  | undecodable fault => "undecodable JSON bytes (" ++ fault.message ++ ")"
  | notAnObject given => "shape node must be an object, got " ++ given.kindWord
  | missingKind => "missing \"kind\" string"
  | unknownKind kind => "unknown shape kind \"" ++ kind ++ "\""
  | notANumber given => "must be a number, got " ++ given.literal
  | notWhole given => "must be a whole number, got " ++ given.text
  | belowMinimum minimum given =>
      "must be >= " ++ toString minimum ++ ", got " ++ toString given
  | belowNearest nearest farthest =>
      "must be >= min (" ++ toString nearest ++ "), got " ++ toString farthest
  | noDirections => "must be a non-empty array of directions"
  | notADirection given => "must be one of " ++ Direction.tokens ++ ", got " ++ given.literal
  | notADelta => "must be an object \x7bx, y\x7d"
  | notAnAxis given => "must be one of " ++ Axis.words ++ ", got " ++ given.literal
  | tooFewParts kind minimum =>
      kind ++ " needs an array of at least " ++ toString minimum ++
        (if minimum = 1 then " node" else " nodes")

/-- A fault at a place, which is why no shape can be read. -/
structure Error where
  path : Path
  fault : Fault

def Error.message (e : Error) : Text := e.path.text ++ ": " ++ e.fault.message

/-! ## Fields -/

/-- The whole number of a field, which must not be below a minimum where one is given. -/
def readInt (path : Path) (fields : Fields) (name : String) (minimum : Option Int := none) :
    Except Error Int :=
  let fail (fault : Fault) : Except Error Int := .error ⟨path.field name, fault⟩
  let bounded (n : Int) : Except Error Int :=
    match minimum with
    | some least => if n < least then fail (.belowMinimum least n) else .ok n
    | none => .ok n
  match (fields.get? name).getD .null with
  | .int n => bounded n
  | .float x =>
      match x.whole? with
      | some n => bounded n
      | none => fail (.notWhole x)
  | given => fail (.notANumber given)

def direction? : Value → Option Direction
  | .str token => Direction.ofToken? token
  | _ => none

def axis? : Value → Option Axis
  | .str word => Axis.ofWord? word
  | _ => none

/-- The directions of a list, the first of which has the given index. -/
def readDirectionsFrom (path : Path) (index : Nat) : List Value → Except Error (List Direction)
  | [] => .ok []
  | v :: rest =>
      match direction? v with
      | some d => do
          let ds ← readDirectionsFrom path (index + 1) rest
          return d :: ds
      | none => .error ⟨path.item index, (.notADirection v)⟩

def readDirections (path : Path) (fields : Fields) : Except Error (List Direction) :=
  match fields.get? "dirs" with
  | some (.list (v :: rest)) => do
      let ds ← readDirectionsFrom (path.field "dirs") 0 (v :: rest)
      return distinct ds
  | _ => .error ⟨path.field "dirs", .noDirections⟩

/-! ## Patterns -/

/-- The primitive shape of a kind, if the kind is that of one. -/
def readPrimitive? (path : Path) (fields : Fields) (kind : Text) :
    Option (Except Error Shape) :=
  match kind.string? with
  | some "circle" => some do
      let radius ← readInt path fields "radius" (some 0)
      return circle radius.toNat
  | some "square" => some do
      let size ← readInt path fields "size" (some 0)
      return square size.toNat
  | some "ray" => some do
      let directions ← readDirections path fields
      let nearest ← readInt path fields "min" (some 1)
      let farthest ← readInt path fields "max" (some 1)
      if farthest < nearest then
        throw ⟨path.field "max", (.belowNearest nearest farthest)⟩
      return ray directions nearest.toNat farthest.toNat
  | some "point" => some do
      match fields.get? "delta" with
      | some (.object delta) =>
          let x ← readInt (path.field "delta") delta "x"
          let y ← readInt (path.field "delta") delta "y"
          return point ⟨x, y⟩
      | _ => throw ⟨path.field "delta", .notADelta⟩
  | some "cone" => some do
      let given := (fields.get? "dir").getD .null
      match direction? given with
      | some d =>
          let length ← readInt path fields "length" (some 1)
          return cone d length.toNat
      | none => throw ⟨path.field "dir", (.notADirection given)⟩
  | _ => none

/-! ## Combinations -/

inductive Join where
  | union
  | intersect
  | subtract
  | reflect (axis : Axis)
  deriving DecidableEq, Repr

namespace Join

def minimum : Join → Nat
  | subtract => 2
  | _ => 1

/-- The combination of parts.  The first part of a subtraction is the base. -/
def assemble : Join → List Shape → Shape
  | union, parts => .union parts
  | intersect, parts => .intersect parts
  | subtract, base :: cutters => .subtract base cutters
  | subtract, [] => .union []
  | reflect axis, parts => .reflect axis parts

end Join

/-- The combination of a kind, if the kind is that of one. -/
def readJoin? (path : Path) (fields : Fields) (kind : Text) : Option (Except Error Join) :=
  match kind.string? with
  | some "union" => some (.ok .union)
  | some "intersect" => some (.ok .intersect)
  | some "subtract" => some (.ok .subtract)
  | some "reflect" =>
      let given := (fields.get? "axis").getD .null
      match axis? given with
      | some axis => some (.ok (.reflect axis))
      | none => some (.error ⟨path.field "axis", (.notAnAxis given)⟩)
  | _ => none

mutual

/-- The shape that a value describes.  A combination's own fields are read before its parts, and
every part as a whole before the next. -/
def ofValue (path : Path) (v : Value) : Except Error Shape :=
  match v with
  | .object fields =>
      match Fields.get? fields "kind" with
      | some (.str kind) =>
          match readPrimitive? path fields kind with
          | some result => result
          | none =>
              match readJoin? path fields kind with
              | none => .error ⟨path.field "kind", (.unknownKind kind)⟩
              | some (.error e) => .error e
              | some (.ok join) =>
                  let place := path.field "shapes"
                  let fault : Error := ⟨place, .tooFewParts kind join.minimum⟩
                  match h : Fields.get? fields "shapes" with
                  | some (.list parts) =>
                      have := Fields.sizeOf_get? h
                      if parts.length < join.minimum then .error fault
                      else do
                        let shapes ← ofValues place 0 parts
                        return join.assemble shapes
                  | _ => .error fault
      | _ => .error ⟨path.field "kind", .missingKind⟩
  | given => .error ⟨path, .notAnObject given⟩
termination_by sizeOf v
decreasing_by
  simp only [Value.object.sizeOf_spec, Value.list.sizeOf_spec] at this ⊢
  omega

/-- The shapes that the items of a list describe, the first of which has the given index. -/
def ofValues (path : Path) (index : Nat) (vs : List Value) : Except Error (List Shape) :=
  match vs with
  | [] => .ok []
  | v :: rest => do
      let s ← ofValue (path.item index) v
      let ss ← ofValues path (index + 1) rest
      return s :: ss
termination_by sizeOf vs

end

/-! ## Documents -/

/-- Why a document holds no shape: a fault at a place, or a number that no document may hold. -/
inductive DocumentError where
  | malformed (error : Error)
  | oversizedNumber (digits : Nat)

namespace DocumentError

def message : DocumentError → Text
  | malformed error => error.message
  | oversizedNumber digits => (Json.Fault.oversizedNumber digits).message

def ofJson : Json.Fault → DocumentError
  | .oversizedNumber digits => oversizedNumber digits
  | fault => malformed ⟨.shape, .invalidJson fault⟩

end DocumentError

def ofDocument (result : Except Json.Fault Value) : Except DocumentError Shape :=
  match result with
  | .ok v => (ofValue .shape v).mapError .malformed
  | .error fault => .error (.ofJson fault)

def ofText (text : Text) : Except DocumentError Shape := ofDocument (Json.read text)

def ofBytes (bytes : Json.Bytes) : Except DocumentError Shape :=
  match Json.decodeBytes bytes with
  | .ok cs => ofDocument (Json.document cs)
  | .error fault => .error (.malformed ⟨.shape, .undecodable fault⟩)

end Shape

end Boardcraft
