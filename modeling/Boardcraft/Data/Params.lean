import Boardcraft.Data.Value
import Boardcraft.Number.Shortest

/-!
# Parameters

Abilities and events may come with parameters: named values, each name once.  They are given as one
value.  An object gives its fields; anything else that has items gives the pairs of a name and a
value that its items are.  A value that does not count as present gives no parameters.
-/

namespace Boardcraft

namespace Params

inductive Fault where
  /-- The value has no items. -/
  | noItems (given : Value)
  /-- An item has no items of its own. -/
  | notAPair (index : Nat)
  /-- An item has not exactly two items. -/
  | badLength (index length : Nat)
  /-- The first of two items cannot be a name. -/
  | badName (given : Value)

def Fault.message : Fault → String
  | noItems given => "'" ++ given.kindWord ++ "' object is not iterable"
  | notAPair index =>
      "cannot convert dictionary update sequence element #" ++ toString index ++ " to a sequence"
  | badLength index length =>
      "dictionary update sequence element #" ++ toString index ++ " has length " ++
        toString length ++ "; 2 is required"
  | badName given => "unhashable type: '" ++ given.kindWord ++ "'"

/-- Whether a fault lies in the number of items that something has, and not in what it is. -/
def Fault.isAboutLength : Fault → Bool
  | badLength .. => true
  | _ => false

/-- The items of a value: those of a list, the characters of a text, the names of an object. -/
def items? : Value → Option (List Value)
  | .list items => some items
  | .str s => some (s.points.map fun c => .str ⟨[c]⟩)
  | .object fields => some (fields.map fun f => .str f.1)
  | _ => none

/-- The name that a value can be: a text, or the way in which a document writes a value without
items. -/
def name? : Value → Option Text
  | .str s => some s
  | .null => some "null"
  | .bool true => some "true"
  | .bool false => some "false"
  | .int n => some (toString n)
  | .float x => some x.text
  | .list _ => none
  | .object _ => none

def readPair (index : Nat) (item : Value) : Except Fault (Text × Value) :=
  match items? item with
  | none => .error (.notAPair index)
  | some [first, second] =>
      match name? first with
      | some name => .ok (name, second)
      | none => .error (.badName first)
  | some parts => .error (.badLength index parts.length)

def readPairs (index : Nat) : List Value → Except Fault (List (Text × Value))
  | [] => .ok []
  | item :: rest => do
      let pair ← readPair index item
      let pairs ← readPairs (index + 1) rest
      return pair :: pairs

/-- The parameters that a value gives.  Of two pairs with one name the latter counts. -/
def ofValue (given : Value) : Except Fault Fields :=
  match given with
  | .object fields => .ok fields
  | given =>
      if given.isTruthy then
        match items? given with
        | none => .error (.noItems given)
        | some items => (readPairs 0 items).map fun pairs => (Table.ofList pairs).entries
      else .ok []

@[simp] theorem ofValue_object (fields : Fields) : ofValue (.object fields) = .ok fields := rfl

theorem ofValue_of_not_isTruthy {given : Value} (h : given.isTruthy = false) : ofValue given = .ok [] := by
  cases given with
  | object fields =>
      cases fields with
      | nil => rfl
      | cons _ _ => simp [Value.isTruthy] at h
  | _ => simp [ofValue, h]

end Params

end Boardcraft
