/-!
Binary64 values as signed counts of the least subnormal, with operations rounded once.
-/
namespace Evse.Number

/-- The number of significand bits. -/
def precision : Nat := 53

/-- The exponent of the least subnormal, negated: one unit is 2^-1074. -/
def unitShift : Nat := 1074

/-- One as a count of units. -/
def oneUnits : Nat := Nat.pow 2 unitShift

/-- The units of the largest finite value, (2^53 - 1) × 2^971. -/
def maxUnits : Nat := (Nat.pow 2 precision - 1) * Nat.pow 2 (971 + unitShift)

/-- A binary64 value. -/
inductive Double where
  /-- `units × 2^-1074`, negated when `negative`. -/
  | finite (negative : Bool) (units : Nat)
  | infinite (negative : Bool)
  | nan
deriving DecidableEq, Repr, Inhabited

/-- Rounds `num / den` to a whole number, a tie to the even neighbour. -/
def roundHalfEven (num den : Nat) : Nat :=
  let q := num / den
  let r := num % den
  if 2 * r > den || (2 * r = den && q % 2 = 1) then q + 1 else q

/-- The distance from a representable count of units to the next one above it: one unit
below 2^53 units, and a power of two that keeps 53 significant bits from there on. -/
def gapAbove (units : Nat) : Nat := Nat.pow 2 (Nat.log2 units + 1 - precision)

/-- Rounds the ratio `num / den` of units to a representable count of units: the ratio is
cut to 53 significant bits (or to whole units below 2^53), rounding half to even. -/
def roundUnits (num den : Nat) : Nat :=
  let shift := Nat.log2 (num / den) + 1 - precision
  roundHalfEven num (den * Nat.pow 2 shift) * Nat.pow 2 shift

namespace Double

/-- Zero with a sign. -/
def zero (negative : Bool) : Double := .finite negative 0

/-- The value nearest the exact ratio `num / den` of units (`den` positive), with a sign. -/
def ofRatio (negative : Bool) (num den : Nat) : Double :=
  let n := roundUnits num den
  if n > maxUnits then .infinite negative else .finite negative n

/-- The value nearest a natural number. -/
def ofNat (n : Nat) : Double := ofRatio false (n * oneUnits) 1

/-- The value nearest `digits × 10^exponent`, with a sign. -/
def ofDecimal (negative : Bool) (digits : Nat) (exponent : Int) : Double :=
  if exponent ≥ 0 then ofRatio negative (digits * Nat.pow 10 exponent.toNat * oneUnits) 1
  else ofRatio negative (digits * oneUnits) (Nat.pow 10 exponent.natAbs)

/-- The value nearest `mantissa × 2^exponent`, with a sign. -/
def ofBinary (negative : Bool) (mantissa : Nat) (exponent : Int) : Double :=
  let shift := exponent + unitShift
  if shift ≥ 0 then ofRatio negative (mantissa * Nat.pow 2 shift.toNat) 1
  else ofRatio negative mantissa (Nat.pow 2 shift.natAbs)

/-- Whether a value is zero of either sign. -/
def isZero : Double → Bool
  | .finite _ 0 => true
  | _ => false

/-- Whether a value is not a number. -/
def isNaN : Double → Bool
  | .nan => true
  | _ => false

/-- The product of two values. -/
def mul : Double → Double → Double
  | .nan, _ | _, .nan => .nan
  | .finite a x, .finite b y => ofRatio (a != b) (x * y) oneUnits
  | .infinite a, .finite b y | .finite b y, .infinite a =>
    if y = 0 then .nan else .infinite (a != b)
  | .infinite a, .infinite b => .infinite (a != b)

/-- The quotient of two values. -/
def div : Double → Double → Double
  | .nan, _ | _, .nan => .nan
  | .finite a x, .finite b y =>
    if y = 0 then (if x = 0 then .nan else .infinite (a != b))
    else ofRatio (a != b) (x * oneUnits) y
  | .infinite a, .finite b _ => .infinite (a != b)
  | .finite a _, .infinite b => .zero (a != b)
  | .infinite _, .infinite _ => .nan

/-- The whole part of a finite value, toward zero. -/
def truncate : Double → Option Int
  | .finite negative units =>
    let whole := units / oneUnits
    some (if negative then -(whole : Int) else whole)
  | _ => none

/-- Whether a value is at most the integer `n`; not-a-number is at most nothing. -/
def atMost (v : Double) (n : Int) : Bool :=
  match v with
  | .nan => false
  | .infinite negative => negative
  | .finite negative units =>
    if negative then n ≥ 0 || units ≥ n.natAbs * oneUnits
    else n ≥ 0 && units ≤ n.toNat * oneUnits

end Double

end Evse.Number
