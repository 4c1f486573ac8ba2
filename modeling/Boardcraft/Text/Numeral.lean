import Boardcraft.Text.Blank

/-!
# Whole numbers in text

Reading a whole number from a text.  A numeral is an optional sign and decimal digits of any
script, with single underscores allowed between digits; blanks around it do not count.  No numeral
has more digits than a limit, whether it is read or written.
-/

namespace Boardcraft

namespace Text

/-- The code points of the digit zero in every script; the digits one to nine follow each. -/
def digitZeros : List Nat :=
  [0x30, 0x660, 0x6F0, 0x7C0, 0x966, 0x9E6, 0xA66, 0xAE6, 0xB66, 0xBE6, 0xC66, 0xCE6, 0xD66,
   0xDE6, 0xE50, 0xED0, 0xF20, 0x1040, 0x1090, 0x17E0, 0x1810, 0x1946, 0x19D0, 0x1A80, 0x1A90,
   0x1B50, 0x1BB0, 0x1C40, 0x1C50, 0xA620, 0xA8D0, 0xA900, 0xA9D0, 0xA9F0, 0xAA50, 0xABF0,
   0xFF10, 0x104A0, 0x10D30, 0x11066, 0x110F0, 0x11136, 0x111D0, 0x112F0, 0x11450, 0x114D0,
   0x11650, 0x116C0, 0x11730, 0x118E0, 0x11950, 0x11C50, 0x11D50, 0x11DA0, 0x16A60, 0x16AC0,
   0x16B50, 0x1D7CE, 0x1D7D8, 0x1D7E2, 0x1D7EC, 0x1D7F6, 0x1E140, 0x1E2F0, 0x1E950, 0x1FBF0]

def digit? (c : CodePoint) : Option Nat :=
  (digitZeros.find? fun z => z ≤ c.value && c.value ≤ z + 9).map fun z => c.value - z

def numeralLimit : Nat := 4300

/-- Whether a number has no more digits than a numeral may have. -/
def isWritable (n : Int) : Bool := n.natAbs < Nat.pow 10 numeralLimit

def unwritable : String :=
  "Exceeds the limit (" ++ toString numeralLimit ++
    " digits) for integer string conversion; use sys.set_int_max_str_digits() to increase " ++
    "the limit"

/-- Whether a code point may stand around a numeral: a blank, but no information separator. -/
def isNumeralBlank (c : CodePoint) : Bool :=
  isBlank c && !(0x1C ≤ c.value && c.value ≤ 0x1F)

/-- The code points of a text without the blanks around it. -/
def trimNumeral (cs : List CodePoint) : List CodePoint :=
  ((cs.dropWhile isNumeralBlank).reverse.dropWhile isNumeralBlank).reverse

/-- The digits of a numeral without its sign.  `fresh` holds where an underscore may not stand: at
the start and after an underscore. -/
def readDigits? (fresh : Bool) : List CodePoint → Option (List Nat)
  | [] => if fresh then none else some []
  | c :: rest =>
      if c = '_' then
        if fresh then none else readDigits? true rest
      else
        match digit? c with
        | some d => (readDigits? false rest).map (d :: ·)
        | none => none

def ofDigits (digits : List Nat) : Nat :=
  digits.foldl (fun n d => 10 * n + d) 0

/-- The natural number that a numeral without a sign stands for. -/
def readNat? (cs : List CodePoint) : Option Nat :=
  match readDigits? true cs with
  | some digits => if digits.length ≤ numeralLimit then some (ofDigits digits) else none
  | none => none

def readInt? (t : Text) : Option Int :=
  match trimNumeral t.points with
  | .char '-' :: cs => (readNat? cs).map fun (n : Nat) => -(n : Int)
  | .char '+' :: cs => (readNat? cs).map fun (n : Nat) => (n : Int)
  | cs => (readNat? cs).map fun (n : Nat) => (n : Int)

end Text

end Boardcraft
