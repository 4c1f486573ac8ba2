import Boardcraft.Data.Value

/-!
# Teams

The two sides of a game.
-/

namespace Boardcraft

inductive Team where
  | white
  | black
  deriving DecidableEq, Inhabited, Repr

namespace Team

def all : List Team := [white, black]

def word : Team → String
  | white => "white"
  | black => "black"

def words : String := "('white', 'black')"

def other : Team → Team
  | white => black
  | black => white

@[simp] theorem other_other (t : Team) : t.other.other = t := by
  cases t <;> rfl

def ofWord? (word : Text) : Option Team := all.find? fun t => t.word == word

@[simp] theorem ofWord?_word (t : Team) : ofWord? t.word = some t := by
  cases t <;> decide

def ofValue? : Value → Option Team
  | .str s => ofWord? s
  | _ => none

/-- The side that plays against the one a value names.  White plays against everything that does
not name white. -/
def against (v : Value) : Team :=
  if ofValue? v = some white then black else white

end Team

end Boardcraft
