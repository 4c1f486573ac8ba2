import Boardcraft.Text.Basic

/-!
# Blanks

The characters that part words from each other, in every script, and the words of a line.
-/

namespace Boardcraft

namespace Text

def blanks : List Nat :=
  [0x9, 0xA, 0xB, 0xC, 0xD, 0x1C, 0x1D, 0x1E, 0x1F, 0x20, 0x85, 0xA0, 0x1680, 0x2000, 0x2001,
   0x2002, 0x2003, 0x2004, 0x2005, 0x2006, 0x2007, 0x2008, 0x2009, 0x200A, 0x2028, 0x2029, 0x202F,
   0x205F, 0x3000]

def isBlank (c : CodePoint) : Bool := blanks.contains c.value

/-- The words of a list of code points, after those of a word that has begun, last one first. -/
def wordsFrom (begun : List CodePoint) : List CodePoint → List Text
  | [] => if begun.isEmpty then [] else [⟨begun.reverse⟩]
  | c :: rest =>
      if isBlank c then
        if begun.isEmpty then wordsFrom [] rest
        else ⟨begun.reverse⟩ :: wordsFrom [] rest
      else wordsFrom (c :: begun) rest

/-- The words of a line: its longest stretches without a blank, in order. -/
def words (line : Text) : List Text := wordsFrom [] line.points

end Text

end Boardcraft
