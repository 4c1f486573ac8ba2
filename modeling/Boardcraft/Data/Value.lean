import Boardcraft.Number.Binary64
import Boardcraft.Data.Table
import Boardcraft.Text.Basic

/-!
# Decoded values

The value of a document once its notation has been read: what a shape, a blueprint, a
configuration or the parameters of an ability may hold before anything is known about them.
-/

namespace Boardcraft

/-- A decoded value.  The fields of an object stand in the order of the document, each name
once. -/
inductive Value where
  | null
  | bool (b : Bool)
  | int (n : Int)
  | float (x : Binary64)
  | str (s : Text)
  | list (items : List Value)
  | object (fields : List (Text × Value))
  deriving Inhabited

abbrev Fields := List (Text × Value)

def Fields.get? (fields : Fields) (name : Text) : Option Value :=
  Table.lookupIn name fields

theorem Fields.sizeOf_get? {fields : Fields} {name : Text} {v : Value}
    (h : fields.get? name = some v) : sizeOf v < sizeOf fields := by
  induction fields with
  | nil => simp [get?, Table.lookupIn] at h
  | cons e rest ih =>
      obtain ⟨k, a⟩ := e
      simp only [get?, Table.lookupIn] at h
      split at h
      · cases h
        simp only [List.cons.sizeOf_spec, Prod.mk.sizeOf_spec]
        omega
      · have := ih h
        simp only [List.cons.sizeOf_spec]
        omega

namespace Value

def kindWord : Value → String
  | null => "NoneType"
  | bool _ => "bool"
  | int _ => "int"
  | float _ => "float"
  | str _ => "str"
  | list _ => "list"
  | object _ => "dict"

/-- Whether a value counts as present: the null value, the false one, zeros and everything empty
do not. -/
def isTruthy : Value → Bool
  | null => false
  | bool b => b
  | int n => n ≠ 0
  | float x => !x.isZero
  | str s => !s.isEmpty
  | list items => !items.isEmpty
  | object fields => !fields.isEmpty

/-- The fields of an object; no fields where the value is no object. -/
def fields : Value → Fields
  | object fields => fields
  | _ => []

def field (v : Value) (name : Text) : Value :=
  (v.fields.get? name).getD null

end Value

end Boardcraft
