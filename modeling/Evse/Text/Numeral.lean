/-!
Integer and truth-value numerals.
-/
namespace Evse.Text

/-- Why a numeral was refused: it is malformed, or its value is out of range. -/
inductive NumeralError where
  | malformed
  | range
deriving DecidableEq, Repr

/-- The value of a digit character in bases up to 36; 36 for any other character. -/
def digitValue (c : Char) : Nat :=
  let l := c.toLower
  if c.isDigit then c.toNat - '0'.toNat
  else if 'a' ≤ l && l ≤ 'z' then l.toNat - 'a'.toNat + 10
  else 36

/-- Where the reader stands while checking underscores: at the start, after a digit, after
an underscore, or after anything else. -/
inductive Seen where
  | start
  | digit
  | underscore
  | other
deriving DecidableEq

/-- Checks that every underscore stands between two digits, after an optional sign and base
prefix (the prefix counts as a digit). -/
def underscoresFit (cs : List Char) : Bool :=
  let body := match cs with
    | '+' :: r | '-' :: r => r
    | r => r
  let (hex, seen, rest) := match body with
    | '0' :: b :: r =>
      if b.toLower = 'b' || b.toLower = 'o' || b.toLower = 'x' then (b.toLower == 'x', Seen.digit, r)
      else (false, Seen.start, body)
    | _ => (false, Seen.start, body)
  let step := fun (s : Option Seen) (c : Char) =>
    match s with
    | none => none
    | some s =>
      if c.isDigit || (hex && 'a' ≤ c.toLower && c.toLower ≤ 'f') then some Seen.digit
      else if c = '_' then (if s = .digit then some Seen.underscore else none)
      else if s = .underscore then none
      else some Seen.other
  match rest.foldl step (some seen) with
  | some s => s != .underscore
  | none => false

/-- The digits of a numeral in a base, skipping underscores, with the largest value allowed;
a value beyond it is out of range as soon as it is reached. -/
def readDigits (base limit : Nat) : List Char → Nat → Except NumeralError Nat
  | [], acc => .ok acc
  | c :: cs, acc =>
    if c = '_' then readDigits base limit cs acc
    else
      let d := digitValue c
      if d ≥ base then .error .malformed
      else
        let acc' := acc * base + d
        if acc' > limit then .error .range else readDigits base limit cs acc'

/-- An unsigned numeral of at most 64 bits, its base chosen by its prefix. -/
def parseUnsigned (cs : List Char) : Except NumeralError Nat := do
  if cs.isEmpty then throw .malformed
  let (base, body) := match cs with
    | '0' :: b :: r =>
      if r.isEmpty then (8, b :: r)
      else if b.toLower = 'b' then (2, r)
      else if b.toLower = 'o' then (8, r)
      else if b.toLower = 'x' then (16, r)
      else (8, b :: r)
    | '0' :: r => (8, r)
    | _ => (10, cs)
  let n ← readDigits base (Nat.pow 2 64 - 1) body 0
  if cs.contains '_' && !underscoresFit cs then throw .malformed
  pure n

/-- A signed numeral of at most 64 bits. -/
def parseInteger (s : String) : Except NumeralError Int := do
  let cs := s.toList
  let (neg, rest) := match cs with
    | '+' :: r => (false, r)
    | '-' :: r => (true, r)
    | r => (false, r)
  if cs.isEmpty then throw .malformed
  let n ← parseUnsigned rest
  if neg then
    if n > Nat.pow 2 63 then throw .range
    pure (-(n : Int))
  else
    if n ≥ Nat.pow 2 63 then throw .range
    pure n

/-- A truth value. -/
def parseFlag (s : String) : Option Bool :=
  if ["1", "t", "T", "true", "TRUE", "True"].contains s then some true
  else if ["0", "f", "F", "false", "FALSE", "False"].contains s then some false
  else none

end Evse.Text
