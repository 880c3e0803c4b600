/-!
Instants and their RFC 3339 text.
-/
namespace Evse.Time

/-- A point in time, shown in a zone `zoneMinutes` east of UTC. -/
structure Instant where
  unixNanos : Int
  zoneMinutes : Int := 0
deriving DecidableEq, Repr, Inhabited

/-- Nanoseconds in a second. -/
def nanosPerSecond : Int := 1000000000

/-- The instant a number of nanoseconds later (earlier when negative). -/
def Instant.add (t : Instant) (nanos : Int) : Instant :=
  { t with unixNanos := t.unixNanos + nanos }

/-- Whole seconds since the epoch, rounded down. -/
def Instant.unixSeconds (t : Instant) : Int :=
  t.unixNanos / nanosPerSecond

/-- The proleptic Gregorian date of a day number counted from 1970-01-01. -/
def civilOfDays (days : Int) : Int × Nat × Nat :=
  let z := days + 719468
  let era := z / 146097
  let doe := z - era * 146097
  let yoe := (doe - doe / 1460 + doe / 36524 - doe / 146096) / 365
  let doy := doe - (365 * yoe + yoe / 4 - yoe / 100)
  let mp := (5 * doy + 2) / 153
  let d := doy - (153 * mp + 2) / 5 + 1
  let m := if mp < 10 then mp + 3 else mp - 9
  let y := yoe + era * 400 + (if m ≤ 2 then 1 else 0)
  (y, m.toNat, d.toNat)

/-- A number written with at least `width` digits. -/
def padded (width : Nat) (n : Nat) : String :=
  let s := toString n
  String.ofList (List.replicate (width - s.length) '0') ++ s

/-- A year with at least four digits, and a sign when negative. -/
def yearText (y : Int) : String :=
  if y < 0 then "-" ++ padded 4 y.natAbs else padded 4 y.toNat

/-- The zone suffix: `Z` for UTC, else the signed hours and minutes. -/
def zoneText (minutes : Int) : String :=
  if minutes = 0 then "Z"
  else
    let sign := if minutes < 0 then "-" else "+"
    let m := minutes.natAbs
    sign ++ padded 2 (m / 60) ++ ":" ++ padded 2 (m % 60)

/-- Seconds from the start of the calendar reckoning, March 1 of the year -292277022400, to
the Unix epoch. -/
def calendarShift : Int := 62135596800 + (292277022400 / 400 * 146097 + 306) * 86400

/-- The wall-clock seconds of an instant in its zone. The calendar counts them from its start
in 64 bits, so a time before that start wraps around to one 2^64 seconds later. -/
def Instant.wallSeconds (t : Instant) : Int :=
  (t.unixSeconds + t.zoneMinutes * 60 + calendarShift) % Int.pow 2 64 - calendarShift

/-- The RFC 3339 text of an instant, to the second. -/
def Instant.rfc3339 (t : Instant) : String :=
  let wall := t.wallSeconds
  let days := wall / 86400
  let secs := (wall % 86400).toNat
  let (y, mo, d) := civilOfDays days
  yearText y ++ "-" ++ padded 2 mo ++ "-" ++ padded 2 d ++ "T" ++
    padded 2 (secs / 3600) ++ ":" ++ padded 2 (secs / 60 % 60) ++ ":" ++ padded 2 (secs % 60) ++
    zoneText t.zoneMinutes

end Evse.Time
