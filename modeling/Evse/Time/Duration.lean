import Evse.Number.Double
import Evse.Text.Quote
/-!
Durations in nanoseconds, their text and their reader.
-/
namespace Evse.Time

def nanosecond : Nat := 1
def microsecond : Nat := 1000
def millisecond : Nat := 1000000
def second : Nat := 1000000000
def minute : Nat := 60 * second
def hour : Nat := 60 * minute

/-- The digits of `v mod 10^prec` after a point, trailing zeros dropped, and `v / 10^prec`;
no point when the fraction is zero. -/
def fraction (v prec : Nat) : String × Nat :=
  let scale := Nat.pow 10 prec
  let frac := v % scale
  if frac = 0 then ("", v / scale)
  else
    let digits := toString frac
    let padded := String.ofList (List.replicate (prec - digits.length) '0') ++ digits
    ("." ++ String.ofList (padded.toList.reverse.dropWhile (· = '0')).reverse, v / scale)

/-- The text of a nonnegative duration. -/
def natDurationText (u : Nat) : String :=
  if u = 0 then "0s"
  else if u < second then
    let (unit, prec) :=
      if u < microsecond then ("ns", 0) else if u < millisecond then ("µs", 3) else ("ms", 6)
    let (frac, whole) := fraction u prec
    toString whole ++ frac ++ unit
  else
    let (frac, secs) := fraction u 9
    let s := toString (secs % 60) ++ frac ++ "s"
    let mins := secs / 60
    if mins = 0 then s
    else
      let ms := toString (mins % 60) ++ "m" ++ s
      let hours := mins / 60
      if hours = 0 then ms else toString hours ++ "h" ++ ms

/-- The text of a duration in nanoseconds. -/
def durationText (d : Int) : String :=
  if d < 0 then "-" ++ natDurationText d.natAbs else natDurationText d.toNat

/-- The nanoseconds of a unit word. -/
def unitNanos? (u : String) : Option Nat :=
  match u with
  | "ns" => some nanosecond
  | "us" | "µs" | "μs" => some microsecond
  | "ms" => some millisecond
  | "s" => some second
  | "m" => some minute
  | "h" => some hour
  | _ => none

/-- Why a duration text was refused. -/
inductive DurationError where
  | invalid (text : String)
  | missingUnit (text : String)
  | unknownUnit (unit text : String)
deriving DecidableEq, Repr

def DurationError.message : DurationError → String
  | invalid t => "time: invalid duration " ++ Text.quoteBytes t
  | missingUnit t => "time: missing unit in duration " ++ Text.quoteBytes t
  | unknownUnit u t => "time: unknown unit " ++ Text.quoteBytes u ++ " in duration " ++ Text.quoteBytes t

/-- The largest magnitude a duration may have. -/
def maxNanos : Nat := Nat.pow 2 63 - 1

/-- The magnitude a sum of terms may reach before its sign is applied. -/
def magnitudeLimit : Nat := Nat.pow 2 63

/-- The value of a character that is a decimal digit. -/
def digitOf (c : Char) : Nat := c.toNat - '0'.toNat

/-- Reads the whole part of a term: its value, or none once it passes the magnitude limit. -/
def wholePart (ds : List Char) : Option Nat :=
  ds.foldlM (fun x c =>
    if x > magnitudeLimit / 10 then none
    else
      let x := x * 10 + digitOf c
      if x > magnitudeLimit then none else some x) 0

/-- Reads the fraction digits of a term: their value and how many were taken; digits that
would pass the magnitude limit are read past. -/
def fractionPart (ds : List Char) : Nat × Nat :=
  let step := fun (acc : Nat × Nat × Bool) (c : Char) =>
    let (x, n, full) := acc
    if full || x > (magnitudeLimit - 1) / 10 then (x, n, true)
    else
      let y := x * 10 + digitOf c
      if y > magnitudeLimit then (x, n, true) else (y, n + 1, false)
  let (x, n, _) := ds.foldl step (0, 0, false)
  (x, n)

/-- Ten to a power as a double, built one digit at a time: each product by ten is rounded,
so from 10^23 on the value can fall short of the nearest double. -/
def decimalScale : Nat → Number.Double
  | 0 => Number.Double.ofNat 1
  | n + 1 => (decimalScale n).mul (Number.Double.ofNat 10)

/-- The nanoseconds a fraction adds to a term: the fraction's digits times the unit over
the scale of its digits, computed with doubles and cut toward zero. -/
def fractionNanos (digits count unit : Nat) : Nat :=
  let scale := decimalScale count
  let v := (Number.Double.ofNat digits).mul ((Number.Double.ofNat unit).div scale)
  ((v.truncate).getD 0).toNat

/-- Reads the number-and-unit terms of a duration after its sign, adding their magnitudes. -/
def readTerms (text : String) : Nat → List Char → Nat → Except DurationError Nat
  | 0, _, _ => .error (.invalid text)
  | _ + 1, [], acc => .ok acc
  | fuel + 1, c :: cs, acc =>
    if !(c = '.' || c.isDigit) then .error (.invalid text)
    else
      let whole := (c :: cs).takeWhile Char.isDigit
      let rest := (c :: cs).dropWhile Char.isDigit
      let (fraction, sawFraction, rest) :=
        match rest with
        | '.' :: r => (r.takeWhile Char.isDigit, true, r.dropWhile Char.isDigit)
        | _ => ([], false, rest)
      match wholePart whole with
      | none => .error (.invalid text)
      | some v =>
        if whole.isEmpty && (!sawFraction || fraction.isEmpty) then .error (.invalid text)
        else
          let unit := rest.takeWhile fun c => c ≠ '.' && !c.isDigit
          let rest := rest.dropWhile fun c => c ≠ '.' && !c.isDigit
          if unit.isEmpty then .error (.missingUnit text)
          else match unitNanos? (String.ofList unit) with
            | none => .error (.unknownUnit (String.ofList unit) text)
            | some n =>
              if v > magnitudeLimit / n then .error (.invalid text)
              else
                let (f, count) := fractionPart fraction
                let v := v * n + (if f > 0 then fractionNanos f count n else 0)
                if v > magnitudeLimit || acc + v > magnitudeLimit then .error (.invalid text)
                else readTerms text fuel rest (acc + v)

/-- Reads a duration in nanoseconds. -/
def parseDuration (text : String) : Except DurationError Int :=
  let cs := text.toList
  let (neg, body) := match cs with
    | '-' :: r => (true, r)
    | '+' :: r => (false, r)
    | _ => (false, cs)
  if body == ['0'] then .ok 0
  else if body.isEmpty then .error (.invalid text)
  else match readTerms text (body.length + 1) body 0 with
    | .ok v =>
      if neg then .ok (-(v : Int))
      else if v > maxNanos then .error (.invalid text)
      else .ok v
    | .error e => .error e

/-- An integer as a signed 64-bit integer holds it: reduced modulo 2^64 into
[-2^63, 2^63). -/
def wrapSigned64 (n : Int) : Int :=
  let m := n % Int.pow 2 64
  if m ≥ Int.pow 2 63 then m - Int.pow 2 64 else m

/-- A count of milliseconds as a span of nanoseconds, multiplied in signed 64-bit
arithmetic, so a count beyond the range wraps around. -/
def ofMillis (ms : Int) : Int := wrapSigned64 (ms * 1000000)

/-- A span clamped to the range of a signed 64-bit count of nanoseconds. -/
def clampNanos (d : Int) : Int := max (-(maxNanos : Int) - 1) (min d maxNanos)

/-- A duration rounded to a multiple of `m`, a half away from zero; a result beyond the range
stays at the range's end. -/
def roundTo (d : Int) (m : Nat) : Int :=
  if m = 0 then d
  else
    let r := d.natAbs % m
    let mag := if r + r < m then d.natAbs - r else d.natAbs - r + m
    clampNanos (if d < 0 then -(mag : Int) else mag)

end Evse.Time
