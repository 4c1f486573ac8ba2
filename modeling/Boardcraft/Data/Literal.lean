import Boardcraft.Data.Value
import Boardcraft.Number.Shortest
import Boardcraft.Text.Numeral
import Boardcraft.Text.Quoted

/-!
# Values in messages

The text of a value where a message quotes what it was given: texts stand between quotes, lists in
brackets and objects in braces, with the entries parted by a comma and a blank.  A value with a
number in it that has too many digits has no text.
-/

namespace Boardcraft

namespace Value

mutual

def literal : Value → String
  | null => "None"
  | bool true => "True"
  | bool false => "False"
  | int n => toString n
  | float x => x.text
  | str s => s.quoted
  | list items => "[" ++ ", ".intercalate (literals items) ++ "]"
  | object fields => "\x7b" ++ ", ".intercalate (fieldLiterals fields) ++ "\x7d"

def literals : List Value → List String
  | [] => []
  | v :: rest => literal v :: literals rest

def fieldLiterals : List (Text × Value) → List String
  | [] => []
  | (name, v) :: rest => (name.quoted ++ ": " ++ literal v) :: fieldLiterals rest

end

mutual

/-- Whether a value has a text, as every number in it can be written. -/
def isWritable : Value → Bool
  | int n => Text.isWritable n
  | list items => allWritable items
  | object fields => fieldsWritable fields
  | _ => true

def allWritable : List Value → Bool
  | [] => true
  | v :: rest => isWritable v && allWritable rest

def fieldsWritable : List (Text × Value) → Bool
  | [] => true
  | (_, v) :: rest => isWritable v && fieldsWritable rest

end

/-- The text of a value on its own: a text stands for itself, any other value for its literal
text. -/
def plain : Value → Text
  | str s => s
  | v => v.literal

end Value

end Boardcraft
