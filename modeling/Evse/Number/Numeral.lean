import Evse.Number.Double
import Evse.Text.Numeral
/-!
Reading binary64 values from floating-point numerals, rounded once to the nearest double.
-/
namespace Evse.Number

open Text

/-- Reads the special values: the whole text must be one of them. -/
def parseSpecial (cs : List Char) : Option Double :=
  let (neg, signed, rest) := match cs with
    | '+' :: r => (false, true, r)
    | '-' :: r => (true, true, r)
    | r => (false, false, r)
  let lower := rest.map Char.toLower
  if lower = "inf".toList || lower = "infinity".toList then some (.infinite neg)
  else if !signed && lower = "nan".toList then some .nan
  else none

/-- The digits of a mantissa as read: their value, how many stand after the point, and
whether any digit was seen. -/
structure Mantissa where
  value : Nat := 0
  fractionDigits : Nat := 0
  sawDigit : Bool := false
  sawPoint : Bool := false

/-- Reads mantissa characters (digits of the base, underscores, one point) and returns the
mantissa with the rest of the text. -/
def readMantissa (base : Nat) : List Char → Mantissa → Mantissa × List Char
  | [], m => (m, [])
  | c :: cs, m =>
    if c = '_' then readMantissa base cs m
    else if c = '.' then
      if m.sawPoint then (m, c :: cs) else readMantissa base cs { m with sawPoint := true }
    else
      let d := digitValue c
      if d < base then
        let fractionDigits := if m.sawPoint then m.fractionDigits + 1 else m.fractionDigits
        readMantissa base cs { m with value := m.value * base + d, sawDigit := true, fractionDigits }
      else (m, c :: cs)

/-- Reads an exponent after its letter: an optional sign, a digit, then digits and
underscores. The magnitude stops growing once it reaches ten thousand. -/
def readExponent (cs : List Char) : Option Int :=
  let (neg, rest) := match cs with
    | '+' :: r => (false, r)
    | '-' :: r => (true, r)
    | r => (false, r)
  match rest with
  | c :: _ =>
    if !c.isDigit || !rest.all (fun c => c.isDigit || c = '_') then none
    else
      let v := rest.foldl (fun acc c =>
        if c = '_' || acc ≥ 10000 then acc else acc * 10 + digitValue c) 0
      some (if neg then -(v : Int) else v)
  | [] => none

/-- Reads a floating-point numeral. -/
def parseDouble (s : String) : Except NumeralError Double := do
  let cs := s.toList
  if let some d := parseSpecial cs then return d
  let (neg, body) := match cs with
    | '+' :: r => (false, r)
    | '-' :: r => (true, r)
    | r => (false, r)
  let (hex, digits) := match body with
    | '0' :: x :: r => if x.toLower = 'x' && !r.isEmpty then (true, r) else (false, body)
    | _ => (false, body)
  let (m, rest) := readMantissa (if hex then 16 else 10) digits {}
  if !m.sawDigit then throw .malformed
  let exponent ← match rest with
    | [] => if hex then throw .malformed else pure 0
    | e :: r =>
      if (hex && e.toLower = 'p') || (!hex && e.toLower = 'e') then
        match readExponent r with
        | some v => pure v
        | none => throw .malformed
      else throw .malformed
  if cs.contains '_' && !underscoresFit cs then throw .malformed
  if m.value = 0 then return .zero neg
  let v := if hex then Double.ofBinary neg m.value (exponent - 4 * m.fractionDigits)
    else Double.ofDecimal neg m.value (exponent - m.fractionDigits)
  match v with
  | .infinite _ => throw .range
  | v => pure v

end Evse.Number
