import Boardcraft.Data.Value
import Boardcraft.Json.Encoding

/-!
# Reading JSON

Reading a value from the text of a document.  Beside the standard notation the words `NaN`,
`Infinity` and `-Infinity` are numbers.  A number with a fraction or an exponent is a binary
floating-point number, any other a whole number.  Of two fields of one name the last counts, in
the place of the first.

The reader stops at the first fault and names it.
-/

namespace Boardcraft

namespace Json

inductive Fault where
  | expectingValue
  | expectingName
  | expectingColon
  | expectingComma
  | unterminatedString
  | controlCharacter
  | badEscape
  | badUnicodeEscape
  | extraData
  | byteOrderMark
  | oversizedNumber (digits : Nat)
  deriving DecidableEq, Repr

def numberLimit : Nat := 4300

def Fault.message : Fault → String
  | expectingValue => "Expecting value"
  | expectingName => "Expecting property name enclosed in double quotes"
  | expectingColon => "Expecting ':' delimiter"
  | expectingComma => "Expecting ',' delimiter"
  | unterminatedString => "Unterminated string starting at"
  | controlCharacter => "Invalid control character at"
  | badEscape => "Invalid \\escape"
  | badUnicodeEscape => "Invalid \\uXXXX escape"
  | extraData => "Extra data"
  | byteOrderMark => "Unexpected UTF-8 BOM (decode using utf-8-sig)"
  | oversizedNumber digits =>
      "Exceeds the limit (" ++ toString numberLimit ++
        " digits) for integer string conversion: value has " ++ toString digits ++
        " digits; use sys.set_int_max_str_digits() to increase the limit"

def isSpace (c : CodePoint) : Bool := c = ' ' || c = '\t' || c = '\n' || c = '\r'

def skipSpaces (cs : List CodePoint) : List CodePoint := cs.dropWhile isSpace

/-! ## Strings -/

def hexDigit? : CodePoint → Option Nat
  | .char c =>
      if '0' ≤ c ∧ c ≤ '9' then some (c.toNat - '0'.toNat)
      else if 'a' ≤ c ∧ c ≤ 'f' then some (c.toNat - 'a'.toNat + 10)
      else if 'A' ≤ c ∧ c ≤ 'F' then some (c.toNat - 'A'.toNat + 10)
      else none
  | .half _ => none

def hexUnit? : List CodePoint → Option Nat
  | a :: b :: c :: d :: _ => do
      return (((← hexDigit? a) * 16 + (← hexDigit? b)) * 16 + (← hexDigit? c)) * 16 + (← hexDigit? d)
  | _ => none

/-- The character that a single letter stands for after a backslash. -/
def letterEscape? : CodePoint → Option Char
  | .char '"' => some '"'
  | .char '\\' => some '\\'
  | .char '/' => some '/'
  | .char 'b' => some '\x08'
  | .char 'f' => some '\x0c'
  | .char 'n' => some '\n'
  | .char 'r' => some '\r'
  | .char 't' => some '\t'
  | _ => none

/-- The code point that an escape by number stands for, and the length of the escape after its
`u`.  Two escapes that form a surrogate pair stand for one character.  At least one code point has
to follow an escape, since the string has to end. -/
def unicodeEscape (cs : List CodePoint) : Except Fault (CodePoint × Nat) :=
  if (cs.drop 4).isEmpty then .error .badUnicodeEscape
  else
    match hexUnit? cs with
    | none => .error .badUnicodeEscape
    | some high =>
        match isHighSurrogate high, cs.drop 4 with
        | true, .char '\\' :: .char 'u' :: rest =>
            if (rest.drop 4).isEmpty then .ok (.ofNat high, 4)
            else
              match hexUnit? rest with
              | none => .error .badUnicodeEscape
              | some low =>
                  if isLowSurrogate low then .ok (.ofNat (joinSurrogates high low), 10)
                  else .ok (.ofNat high, 4)
        | _, _ => .ok (.ofNat high, 4)

/-- The rest of a string after its opening quote and the code points read so far, last first. -/
def stringFrom (read : List CodePoint) : List CodePoint → Except Fault (Text × List CodePoint)
  | [] => .error .unterminatedString
  | .char '"' :: rest => .ok (⟨read.reverse⟩, rest)
  | [.char '\\'] => .error .unterminatedString
  | .char '\\' :: .char 'u' :: rest =>
      match unicodeEscape rest with
      | .ok (c, used) => stringFrom (c :: read) (rest.drop used)
      | .error fault => .error fault
  | .char '\\' :: c :: rest =>
      match letterEscape? c with
      | some c' => stringFrom (.char c' :: read) rest
      | none => .error .badEscape
  | c :: rest =>
      if c.value < 0x20 then .error .controlCharacter else stringFrom (c :: read) rest
termination_by cs => cs.length
decreasing_by all_goals simp only [List.length_cons, List.length_drop]; omega

/-! ## Numbers -/

def isDigit (c : CodePoint) : Bool := '0'.toNat ≤ c.value && c.value ≤ '9'.toNat

def ofDigits (digits : List CodePoint) : Nat :=
  digits.foldl (fun n c => 10 * n + (c.value - '0'.toNat)) 0

/-- The digits of a fraction and the rest.  A point without a digit after it does not belong to
the number. -/
def fraction : List CodePoint → List CodePoint × List CodePoint
  | .char '.' :: rest =>
      let digits := rest.takeWhile isDigit
      if digits.isEmpty then ([], .char '.' :: rest) else (digits, rest.dropWhile isDigit)
  | cs => ([], cs)

/-- The exponent and the rest.  A mark without a digit after it does not belong to the number. -/
def exponent? (cs : List CodePoint) : Option Int × List CodePoint :=
  match cs with
  | mark :: rest =>
      if mark = 'e' || mark = 'E' then
        let (negative, rest) : Bool × List CodePoint :=
          match rest with
          | .char '-' :: rest => (true, rest)
          | .char '+' :: rest => (false, rest)
          | rest => (false, rest)
        let digits := rest.takeWhile isDigit
        if digits.isEmpty then (none, cs)
        else (some (Binary64.signed negative (ofDigits digits)), rest.dropWhile isDigit)
      else (none, cs)
  | [] => (none, cs)

def wholeDigits : List CodePoint → List CodePoint × List CodePoint
  | .char '0' :: rest => (['0'], rest)
  | cs => (cs.takeWhile isDigit, cs.dropWhile isDigit)

def unsignedNumber (negative : Bool) (cs : List CodePoint) : Except Fault (Value × List CodePoint) :=
  let (digits, rest) := wholeDigits cs
  if digits.isEmpty then .error .expectingValue
  else
    let (places, rest) := fraction rest
    let (power, rest) := exponent? rest
    if places.isEmpty && power.isNone then
      if numberLimit < digits.length then .error (.oversizedNumber digits.length)
      else .ok (.int (Binary64.signed negative (ofDigits digits)), rest)
    else
      .ok (.float (Binary64.ofDecimal negative (ofDigits (digits ++ places))
        (power.getD 0 - places.length)), rest)

def number : List CodePoint → Except Fault (Value × List CodePoint)
  | .char '-' :: rest => unsignedNumber true rest
  | cs => unsignedNumber false cs

/-! ## Values -/

def words : List (Text × Value) :=
  [("null", .null), ("true", .bool true), ("false", .bool false), ("NaN", .float .nan),
   ("Infinity", .float (.infinite false)), ("-Infinity", .float (.infinite true))]

def word? (cs : List CodePoint) : Option (Value × List CodePoint) :=
  words.findSome? fun (w, v) =>
    if w.points.isPrefixOf cs then some (v, cs.drop w.points.length) else none

mutual

/-- The value at the front of a text, which starts with no space.  The first argument bounds the
number of nested steps. -/
def value : Nat → List CodePoint → Except Fault (Value × List CodePoint)
  | 0, _ => .error .expectingValue
  | n + 1, cs =>
      match cs with
      | .char '"' :: rest => do
          let (s, rest) ← stringFrom [] rest
          return (.str s, rest)
      | .char '[' :: rest =>
          match skipSpaces rest with
          | .char ']' :: rest => .ok (.list [], rest)
          | rest => do
              let (items, rest) ← items n rest
              return (.list items, rest)
      | .char '\x7b' :: rest =>
          match skipSpaces rest with
          | .char '\x7d' :: rest => .ok (.object [], rest)
          | rest => do
              let (fields, rest) ← members n .empty rest
              return (.object fields.entries, rest)
      | cs =>
          match word? cs with
          | some found => .ok found
          | none => number cs

def items : Nat → List CodePoint → Except Fault (List Value × List CodePoint)
  | 0, _ => .error .expectingValue
  | n + 1, cs => do
      let (v, rest) ← value n cs
      match skipSpaces rest with
      | .char ']' :: rest => return ([v], rest)
      | .char ',' :: rest => do
          let (vs, rest) ← items n (skipSpaces rest)
          return (v :: vs, rest)
      | _ => throw .expectingComma

/-- The fields of an object up to its closing brace, after those read so far. -/
def members : Nat → Table Text Value → List CodePoint →
    Except Fault (Table Text Value × List CodePoint)
  | 0, _, _ => .error .expectingValue
  | n + 1, read, cs =>
      match cs with
      | .char '"' :: rest => do
          let (name, rest) ← stringFrom [] rest
          match skipSpaces rest with
          | .char ':' :: rest => do
              let (v, rest) ← value n (skipSpaces rest)
              let read := read.insert name v
              match skipSpaces rest with
              | .char '\x7d' :: rest => return (read, rest)
              | .char ',' :: rest => members n read (skipSpaces rest)
              | _ => throw .expectingComma
          | _ => throw .expectingColon
      | _ => .error .expectingName

end

/-- The value of a document.  Of any two nested steps at least one takes a code point, so that twice
the length of the text bounds their number. -/
def document (cs : List CodePoint) : Except Fault Value := do
  let (v, rest) ← value (2 * cs.length + 2) (skipSpaces cs)
  if (skipSpaces rest).isEmpty then return v else throw .extraData

/-- The value of a document given as text, which has no byte order mark. -/
def read (text : Text) : Except Fault Value :=
  match text.points with
  | .char '\ufeff' :: _ => .error .byteOrderMark
  | cs => document cs

end Json

end Boardcraft
