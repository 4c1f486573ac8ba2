import Boardcraft.Text.Basic

/-!
# Text encodings of JSON documents

A document given as bytes is text in one of the Unicode encodings.  A byte order mark tells which;
without one the zero bytes among the first four do, since a document starts with two characters of
the ASCII range.

Half of a surrogate pair that stands alone is accepted in every encoding.  In units of two bytes
two halves that follow each other make one character; in the other encodings they stay apart.
-/

namespace Boardcraft

namespace Json

/-- Bytes are natural numbers below 256. -/
abbrev Bytes := List Nat

inductive Encoding where
  | utf8
  | utf16 (bigEndian : Bool)
  | utf32 (bigEndian : Bool)
  deriving DecidableEq, Repr

inductive DecodeFault where
  | invalidStart
  | invalidContinuation
  | unexpectedEnd
  | truncated
  | outOfRange
  deriving DecidableEq, Repr

def DecodeFault.message : DecodeFault → String
  | invalidStart => "invalid start byte"
  | invalidContinuation => "invalid continuation byte"
  | unexpectedEnd => "unexpected end of data"
  | truncated => "truncated data"
  | outOfRange => "code point not in range(0x110000)"

/-! ## Detection -/

def detect : Bytes → Encoding × Bytes
  | 0x00 :: 0x00 :: 0xFE :: 0xFF :: rest => (.utf32 true, rest)
  | 0xFF :: 0xFE :: 0x00 :: 0x00 :: rest => (.utf32 false, rest)
  | 0xFE :: 0xFF :: rest => (.utf16 true, rest)
  | 0xFF :: 0xFE :: rest => (.utf16 false, rest)
  | 0xEF :: 0xBB :: 0xBF :: rest => (.utf8, rest)
  | bytes => (unmarked bytes, bytes)
where
  /-- The encoding of bytes without a byte order mark. -/
  unmarked : Bytes → Encoding
    | a :: b :: c :: d :: _ =>
        if a = 0 then (if b = 0 then .utf32 true else .utf16 true)
        else if b = 0 then (if c = 0 ∧ d = 0 then .utf32 false else .utf16 false)
        else .utf8
    | [a, b] => if a = 0 then .utf16 true else if b = 0 then .utf16 false else .utf8
    | _ => .utf8

/-! ## Decoding -/

def isTail (b : Nat) : Bool := 0x80 ≤ b && b ≤ 0xBF

/-- The least second byte after a first byte, which rules out forms longer than needed. -/
def leastSecond (a : Nat) : Nat :=
  if a = 0xE0 then 0xA0 else if a = 0xF0 then 0x90 else 0x80

/-- The greatest second byte after a first byte, which rules out code points beyond the last. -/
def greatestSecond (a : Nat) : Nat :=
  if a = 0xF4 then 0x8F else 0xBF

/-- Whether a second byte may follow a first byte.  The second byte of a half is allowed only
where the third is there and continues it. -/
def secondFits (a b : Nat) (rest : Bytes) : Bool :=
  leastSecond a ≤ b && b ≤ greatestSecond a &&
    (!(a == 0xED && 0xA0 ≤ b) || match rest with
      | c :: _ => isTail c
      | [] => false)

/-- Decodes text in one to four bytes a character. -/
def decodeUtf8 : Bytes → Except DecodeFault (List CodePoint)
  | [] => .ok []
  | a :: rest =>
      if a < 0x80 then do
        return CodePoint.ofNat a :: (← decodeUtf8 rest)
      else if a < 0xC2 ∨ 0xF4 < a then .error .invalidStart
      else
        match rest with
        | [] => .error .unexpectedEnd
        | b :: rest =>
            if !secondFits a b rest then .error .invalidContinuation
            else if a < 0xE0 then do
              return CodePoint.ofNat ((a % 0x20) * 0x40 + b % 0x40) :: (← decodeUtf8 rest)
            else
              match rest with
              | [] => .error .unexpectedEnd
              | c :: rest =>
                  if !isTail c then .error .invalidContinuation
                  else if a < 0xF0 then do
                    return CodePoint.ofNat ((a % 0x10) * 0x1000 + (b % 0x40) * 0x40 + c % 0x40) ::
                      (← decodeUtf8 rest)
                  else
                    match rest with
                    | [] => .error .unexpectedEnd
                    | d :: rest =>
                        if !isTail d then .error .invalidContinuation
                        else do
                          return CodePoint.ofNat ((a % 0x8) * 0x40000 + (b % 0x40) * 0x1000 +
                            (c % 0x40) * 0x40 + d % 0x40) :: (← decodeUtf8 rest)

def units16 (bigEndian : Bool) : Bytes → Except DecodeFault (List Nat)
  | [] => .ok []
  | [_] => .error .truncated
  | a :: b :: rest => do
      return (if bigEndian then a * 0x100 + b else b * 0x100 + a) :: (← units16 bigEndian rest)

def isHighSurrogate (n : Nat) : Bool := 0xD800 ≤ n && n ≤ 0xDBFF

def isLowSurrogate (n : Nat) : Bool := 0xDC00 ≤ n && n ≤ 0xDFFF

def joinSurrogates (high low : Nat) : Nat :=
  0x10000 + (high - 0xD800) * 0x400 + (low - 0xDC00)

def pointsOfUnits16 : List Nat → List CodePoint
  | [] => []
  | [a] => [CodePoint.ofNat a]
  | a :: b :: rest =>
      if isHighSurrogate a && isLowSurrogate b then
        CodePoint.ofNat (joinSurrogates a b) :: pointsOfUnits16 rest
      else CodePoint.ofNat a :: pointsOfUnits16 (b :: rest)

def decodeUtf32 (bigEndian : Bool) : Bytes → Except DecodeFault (List CodePoint)
  | [] => .ok []
  | a :: b :: c :: d :: rest =>
      let n :=
        if bigEndian then ((a * 0x100 + b) * 0x100 + c) * 0x100 + d
        else ((d * 0x100 + c) * 0x100 + b) * 0x100 + a
      if 0x110000 ≤ n then .error .outOfRange
      else do
        return CodePoint.ofNat n :: (← decodeUtf32 bigEndian rest)
  | _ => .error .truncated

def decodeBytes (bytes : Bytes) : Except DecodeFault (List CodePoint) :=
  match detect bytes with
  | (.utf8, rest) => decodeUtf8 rest
  | (.utf16 bigEndian, rest) => (units16 bigEndian rest).map pointsOfUnits16
  | (.utf32 bigEndian, rest) => decodeUtf32 bigEndian rest

end Json

end Boardcraft
