import Boardcraft.Number.Binary64

/-!
# The shortest decimal of a binary number

A binary number is written with the fewest decimal digits that still read back as the same number;
among the decimals with that many digits the nearest one is taken.

A decimal reads back as a number if it lies in the interval of all quantities that round to it.
For a growing count of digits the two neighbours of the number among the decimals with that count
are tried; the first count with a neighbour in the interval is the fewest.
-/

namespace Boardcraft

namespace Binary64

/-! ## The interval of a number

Quantities are compared as natural numbers after both have been scaled to whole units.  The unit
is a quarter of the spacing at the number, so that the ends of the interval are whole.
-/

/-- A number's place and the ends of the interval that rounds to it, over a common denominator. -/
structure Interval where
  low : Nat
  value : Nat
  high : Nat
  den : Nat
  /-- Whether the ends themselves round to the number. -/
  closed : Bool

/-- The interval of the positive number `m` times two to the power `e`.  Below a power of two the
numbers lie twice as close, unless the format has none finer. -/
def interval (m : Nat) (e : Int) : Interval :=
  let up := if 0 ≤ e then twoTo e.toNat else 1
  let den := if 0 ≤ e then 4 else 4 * twoTo (-e).toNat
  let below := if m = twoTo (significandBits - 1) ∧ leastExponent < e then 1 else 2
  ⟨(4 * m - below) * up, 4 * m * up, (4 * m + 2) * up, den, m % 2 == 0⟩

def Interval.holds (i : Interval) (num den : Nat) : Bool :=
  let q := num * i.den
  if i.closed then decide (i.low * den ≤ q) && decide (q ≤ i.high * den)
  else decide (i.low * den < q) && decide (q < i.high * den)

/-! ## Digits -/

structure Decimal where
  digits : Nat
  exponent : Int

def power10 (k : Int) : Nat × Nat :=
  if 0 ≤ k then (tenTo k.toNat, 1) else (1, tenTo (-k).toNat)

/-- The place of the first digit of the positive quotient `num / den`: the greatest power of ten
that does not exceed it. -/
def leadingPlace (num den : Nat) : Int :=
  let guess : Int := ((toString num).length : Int) - ((toString den).length : Int)
  let (p, q) := power10 guess
  if den * p ≤ num * q then guess else guess - 1

/-- The nearer of the two neighbours of a number with the given count of digits that lies in the
number's interval. -/
def neighbour? (i : Interval) (place : Int) (count : Nat) : Option Decimal :=
  let k : Int := place - (count : Int) + 1
  let (p, q) := power10 k
  let lower := i.value * q / (i.den * p)
  let upper := lower + 1
  let lowerIn := i.holds (lower * p) q
  let upperIn := i.holds (upper * p) q
  -- Twice the distance of the number above the lower neighbour, against one digit.
  let twice := 2 * (i.value * q - lower * (i.den * p))
  let lowerNearer : Bool :=
    decide (twice < i.den * p) || (twice == i.den * p && lower % 2 == 0)
  match lowerIn, upperIn with
  | true, true => some ⟨if lowerNearer then lower else upper, k⟩
  | true, false => some ⟨lower, k⟩
  | false, true => some ⟨upper, k⟩
  | false, false => none

def digitLimit : Nat := 17

def shortest (m : Nat) (e : Int) : Decimal :=
  let i := interval m e
  let place := leadingPlace i.value i.den
  ((List.range digitLimit).findSome? fun n => neighbour? i place (n + 1)).getD ⟨0, 0⟩

/-! ## Written form -/

/-- A decimal is written with its point in place from this power of ten of its first digit on. -/
def leastPositional : Int := -4

/-- A decimal is written with its point in place below this power of ten of its first digit. -/
def positionalEnd : Int := 16

def trimZeros (digits : List Char) : List Char :=
  (digits.reverse.dropWhile (· == '0')).reverse

/-- The exponent after its mark, with a sign and at least two digits. -/
def exponentText (place : Int) : String :=
  let digits := toString place.natAbs
  (if place < 0 then "e-" else "e+") ++ (if digits.length < 2 then "0" ++ digits else digits)

/-- A decimal in positional form, with at least one digit after the point, or with an exponent
where its first digit stands too far from the point. -/
def Decimal.text (d : Decimal) : String :=
  let all := (toString d.digits).toList
  let place : Int := d.exponent + (all.length : Int) - 1
  let digits := trimZeros all
  if leastPositional ≤ place ∧ place < positionalEnd then
    if place < 0 then
      "0." ++ String.ofList (List.replicate (-place - 1).toNat '0' ++ digits)
    else
      let whole := place.toNat + 1
      let fraction := digits.drop whole
      let front := digits.take whole
      String.ofList (front ++ List.replicate (whole - front.length) '0') ++ "." ++
        (if fraction.isEmpty then "0" else String.ofList fraction)
  else
    String.ofList (digits.take 1) ++
      (if digits.length ≤ 1 then "" else "." ++ String.ofList (digits.drop 1)) ++
      exponentText place

def text : Binary64 → String
  | nan => "nan"
  | infinite negative => if negative then "-inf" else "inf"
  | finite negative m e =>
      (if negative then "-" else "") ++ (if m = 0 then "0.0" else (shortest m e).text)

end Binary64

end Boardcraft
