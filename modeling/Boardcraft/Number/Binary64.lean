/-!
# Binary floating-point numbers

The numbers of the 64-bit binary format, kept exactly: a finite one is a sign, a significand and
a power of two.  Documents write such numbers in decimal, so the module rounds a decimal to the
nearest of them; the neighbour with the even significand wins where two are equally near.

## Contents

The type, rounding of a quotient and of a decimal, and the whole number that a finite one is or
is cut to.
-/

namespace Boardcraft

/-- A number of the 64-bit binary format.  A finite one stands for its significand times two to
the power of its exponent, below zero if it is negative. -/
inductive Binary64 where
  | nan
  | infinite (negative : Bool)
  | finite (negative : Bool) (significand : Nat) (exponent : Int)
  deriving DecidableEq, Inhabited, Repr

namespace Binary64

/-! ## The format -/

def significandBits : Nat := 53

def leastExponent : Int := -1074

def greatestExponent : Int := 971

/-! ## Powers -/

def twoTo (n : Nat) : Nat := Nat.pow 2 n

def tenTo (n : Nat) : Nat := Nat.pow 10 n

/-! ## Rounding -/

/-- The whole number nearest to a quotient; of two equally near ones the even one. -/
def roundQuotient (num den : Nat) : Nat :=
  let q := num / den
  let r := num % den
  if 2 * r < den then q
  else if den < 2 * r then q + 1
  else if q % 2 = 0 then q
  else q + 1

def roundUnits (num den : Nat) (e : Int) : Nat :=
  if 0 ≤ e then roundQuotient num (den * twoTo e.toNat)
  else roundQuotient (num * twoTo (-e).toNat) den

/-- The exponent whose unit leaves the quotient `num / den` with a full significand, or the least
one where the format ends. -/
def unitExponent (num den : Nat) : Int :=
  let e : Int := (num.log2 : Int) - (den.log2 : Int) - significandBits
  let full : Bool :=
    if 0 ≤ e then decide (den * twoTo e.toNat * twoTo significandBits ≤ num)
    else decide (den * twoTo significandBits ≤ num * twoTo (-e).toNat)
  max leastExponent (if full then e + 1 else e)

def ofQuotient (negative : Bool) (num den : Nat) : Binary64 :=
  if num = 0 then finite negative 0 leastExponent
  else
    let e := unitExponent num den
    let m := roundUnits num den e
    let (m, e) := if m = twoTo significandBits then (twoTo (significandBits - 1), e + 1) else (m, e)
    if greatestExponent < e then infinite negative else finite negative m e

/-- Decimals whose first digit stands beyond this place are infinite, and zero as far on the other
side of the point. -/
def decimalReach : Int := 400

def ofDecimal (negative : Bool) (digits : Nat) (exponent : Int) : Binary64 :=
  let place : Int := exponent + (toString digits).length
  if digits = 0 then finite negative 0 leastExponent
  else if decimalReach < place then infinite negative
  else if place < -decimalReach then finite negative 0 leastExponent
  else if 0 ≤ exponent then ofQuotient negative (digits * tenTo exponent.toNat) 1
  else ofQuotient negative digits (tenTo (-exponent).toNat)

/-! ## Whole numbers -/

def signed (negative : Bool) (n : Nat) : Int :=
  if negative then -(n : Int) else n

/-- The whole number that a finite number equals, if it equals one. -/
def whole? : Binary64 → Option Int
  | finite negative m e =>
      if 0 ≤ e then some (signed negative (m * twoTo e.toNat))
      else if m % twoTo (-e).toNat = 0 then some (signed negative (m / twoTo (-e).toNat))
      else none
  | _ => none

/-- The whole number left of a finite number when its fraction is cut off. -/
def truncate? : Binary64 → Option Int
  | finite negative m e =>
      if 0 ≤ e then some (signed negative (m * twoTo e.toNat))
      else some (signed negative (m / twoTo (-e).toNat))
  | _ => none

def isZero : Binary64 → Bool
  | finite _ m _ => m == 0
  | _ => false

end Binary64

end Boardcraft
