import Evse.Number.Double
/-!
The fewest decimal digits that identify a binary64 value, and the general text written from
them.
-/
namespace Evse.Number

/-- A decimal `digits × 10^exponent`. -/
structure Decimal where
  digits : Nat
  exponent : Int
deriving DecidableEq, Repr

/-- Compares `digits × 10^exponent`, measured in quarter units, with `n` quarter units. -/
def compareScaled (digits : Nat) (exponent : Int) (n : Nat) : Ordering :=
  if exponent ≥ 0 then compare (digits * Nat.pow 10 exponent.toNat * (4 * oneUnits)) n
  else compare (digits * (4 * oneUnits)) (n * Nat.pow 10 exponent.natAbs)

/-- The reals that round to a positive representable count of units: its ends in quarter
units and whether they are included. -/
structure Interval where
  low : Nat
  high : Nat
  closed : Bool

/-- The rounding interval of a positive representable count of units. -/
def Interval.around (units : Nat) : Interval :=
  let gap := gapAbove units
  let narrow := units ≥ Nat.pow 2 precision && units == Nat.pow 2 (Nat.log2 units)
  { low := 4 * units - (if narrow then gap else 2 * gap), high := 4 * units + 2 * gap,
    closed := (units / gap) % 2 == 0 }

/-- Whether `digits × 10^exponent` lies in the interval. -/
def Interval.holds (i : Interval) (digits : Nat) (exponent : Int) : Bool :=
  let lo := compareScaled digits exponent i.low
  let hi := compareScaled digits exponent i.high
  (lo == .gt || (i.closed && lo == .eq)) && (hi == .lt || (i.closed && hi == .eq))

/-- Moves trailing zero digits into the exponent; `fuel` bounds the digits dropped. -/
def strip : Nat → Decimal → Decimal
  | 0, d => d
  | fuel + 1, d =>
    if d.digits ≠ 0 && d.digits % 10 = 0 then strip fuel ⟨d.digits / 10, d.exponent + 1⟩ else d

/-- Whether `10^e` is at most the value of `units`. -/
def powerAtMost (units : Nat) (e : Int) : Bool :=
  compareScaled 1 e (4 * units) != .gt

/-- Corrects an estimate of the exponent of the leading digit by single steps, at most
`fuel` of them. -/
def settleExponent (units : Nat) : Nat → Int → Int
  | 0, e => e
  | fuel + 1, e =>
    if !powerAtMost units e then settleExponent units fuel (e - 1)
    else if powerAtMost units (e + 1) then settleExponent units fuel (e + 1)
    else e

/-- The exponent `e` with `10^e ≤ value < 10^(e+1)` for a positive count of units; the
estimate from the binary length is off by at most one or two. -/
def leadingExponent (units : Nat) : Int :=
  let bits : Int := (Nat.log2 units : Int) - unitShift
  settleExponent units 8 (Int.fdiv (bits * 30103) 100000)

/-- The value's lower neighbour on the grid `10^exponent`, in steps of the grid. -/
def gridBelow (units : Nat) (exponent : Int) : Nat :=
  if exponent ≥ 0 then units / (Nat.pow 10 exponent.toNat * oneUnits)
  else units * Nat.pow 10 exponent.natAbs / oneUnits

/-- The decimal of a value's neighbours on the grid `10^exponent` that lies in the
interval, the nearer if both do, a tie to the even one. -/
def pickOnGrid (units : Nat) (i : Interval) (exponent : Int) : Option Nat :=
  let below := gridBelow units exponent
  let above := below + 1
  match i.holds below exponent, i.holds above exponent with
  | true, true =>
    match compareScaled (2 * below + 1) exponent (8 * units) with
    | .lt => some above
    | .gt => some below
    | .eq => some (if below % 2 = 0 then below else above)
  | true, false => some below
  | false, true => some above
  | false, false => none

/-- Tries the grids for `count` more digits, starting at `exponent` and going finer; the
last grid's lower neighbour when none holds a point of the interval. -/
def searchGrids (units : Nat) (i : Interval) : Nat → Int → Decimal
  | 0, exponent => ⟨gridBelow units exponent, exponent⟩
  | count + 1, exponent =>
    match pickOnGrid units i exponent with
    | some d => ⟨d, exponent⟩
    | none => searchGrids units i count (exponent - 1)

/-- The fewest digits that identify a positive representable count of units, the nearest
of those, with trailing zeros moved into the exponent. -/
def shortest (units : Nat) : Decimal :=
  let d := searchGrids units (Interval.around units) 17 (leadingExponent units)
  strip 20 d

/-- The digit characters of a natural number. -/
def digitChars (n : Nat) : List Char := Nat.toDigits 10 n

/-- Digits written with an exponent: the first digit, a point before any others, then `e`,
the exponent's sign and at least two of its digits. -/
def exponentForm (ds : List Char) (exp : Int) : String :=
  let mant := match ds with
    | d :: [] => String.ofList [d]
    | d :: rest => String.ofList (d :: '.' :: rest)
    | [] => "0"
  let e := toString exp.natAbs
  mant ++ "e" ++ (if exp < 0 then "-" else "+") ++ (if e.length < 2 then "0" ++ e else e)

/-- Digits written positionally with `point` digits before the point. -/
def plainForm (ds : List Char) (point : Int) : String :=
  if point ≤ 0 then "0." ++ String.ofList (List.replicate point.natAbs '0' ++ ds)
  else if point.toNat ≥ ds.length then String.ofList (ds ++ List.replicate (point.toNat - ds.length) '0')
  else String.ofList (ds.take point.toNat ++ '.' :: ds.drop point.toNat)

/-- The general text of a decimal with its leading digit's exponent from -4 to 5 written
positionally, and otherwise with an exponent. -/
def Decimal.generalText (d : Decimal) : String :=
  let ds := digitChars d.digits
  let point : Int := ds.length + d.exponent
  let lead := point - 1
  if lead < -4 || lead ≥ 6 then exponentForm ds lead else plainForm ds point

namespace Double

/-- The shortest general text of a value. -/
def text : Double → String
  | .nan => "NaN"
  | .infinite negative => if negative then "-Inf" else "+Inf"
  | .finite negative units =>
    (if negative then "-" else "") ++ (if units = 0 then "0" else (shortest units).generalText)

end Double

end Evse.Number
