import Boardcraft.Text.Basic
import Boardcraft.Text.Printable

/-!
# Quoted text

The form in which messages show a text: between quotes, with every code point that cannot be
printed written as an escape, so that the form is a string even where the text holds halves of
surrogate pairs.  Single quotes are used unless the text holds a single quote and no double one.
-/

namespace Boardcraft

namespace Text

/-- The lower-case hexadecimal digits of a number, at least as many as the given width. -/
def hexadecimal (width n : Nat) : List Char :=
  let digits := Nat.toDigits 16 n
  List.replicate (width - digits.length) '0' ++ digits

def quoteFor (t : Text) : Char :=
  if t.points.contains '\'' && !t.points.contains '"' then '"' else '\''

def numberEscape (n : Nat) : List Char :=
  if n ≤ 0xFF then '\\' :: 'x' :: hexadecimal 2 n
  else if n ≤ 0xFFFF then '\\' :: 'u' :: hexadecimal 4 n
  else '\\' :: 'U' :: hexadecimal 8 n

/-- The form of one character between the given quotes. -/
def escapeChar (quote c : Char) : List Char :=
  if c = quote || c = '\\' then ['\\', c]
  else if c = '\n' then ['\\', 'n']
  else if c = '\r' then ['\\', 'r']
  else if c = '\t' then ['\\', 't']
  else if isPrintable c then [c]
  else numberEscape c.toNat

def escape (quote : Char) : CodePoint → List Char
  | .char c => escapeChar quote c
  | c => numberEscape c.value

def quoted (t : Text) : String :=
  let quote := quoteFor t
  String.ofList (quote :: (t.points.flatMap (escape quote) ++ [quote]))

end Text

end Boardcraft
