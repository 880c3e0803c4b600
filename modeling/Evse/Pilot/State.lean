/-!
Control-pilot bands, their thresholds in millivolts and their remote messages.
-/
namespace Evse

/-- A control-pilot band: A (12 V) to F (-12 V), or no band recognised. -/
inductive PilotState where
  | a
  | b
  | c
  | d
  | e
  | f
  | unknown
deriving DecidableEq, Repr, Inhabited

namespace PilotState

/-- The ordinal of a band, as carried by remote pilot messages. -/
def ordinal : PilotState → UInt8
  | a => 0
  | b => 1
  | c => 2
  | d => 3
  | e => 4
  | f => 5
  | unknown => 6

/-- The band of an ordinal; anything beyond F is `unknown`. -/
def ofOrdinal : UInt8 → PilotState
  | 0 => a
  | 1 => b
  | 2 => c
  | 3 => d
  | 4 => e
  | 5 => f
  | _ => unknown

/-- The band's letter, or `unknown`. -/
def name : PilotState → String
  | a => "A"
  | b => "B"
  | c => "C"
  | d => "D"
  | e => "E"
  | f => "F"
  | unknown => "unknown"

/-- What the band means for the vehicle. -/
def description : PilotState → String
  | a => "no vehicle"
  | b => "vehicle connected"
  | c => "ready to charge"
  | d => "ventilation required"
  | e => "no power"
  | f => "fault"
  | unknown => "unknown"

/-- The band of a pilot level in millivolts. Each threshold is strict: 11000 mV is
still B, and -10000 mV is not yet F. -/
def classify (mv : Int) : PilotState :=
  if mv > 11000 then a
  else if mv > 8000 then b
  else if mv > 5000 then c
  else if mv > 2000 then d
  else if mv > 500 then e
  else if mv < -10000 then f
  else unknown

/-- The first byte of a remote pilot message. -/
def messageTag : UInt8 := 3

/-- A remote pilot message is exactly two bytes that start with the tag. -/
def isMessage (bytes : List UInt8) : Bool :=
  match bytes with
  | [t, _] => t == messageTag
  | _ => false

/-- The remote message for a band; `unknown` has none. -/
def toMessage? : PilotState → Option (List UInt8)
  | unknown => none
  | p => some [messageTag, p.ordinal]

/-- The level a digital pilot input stands for: high is band A, low is band C. -/
def digitalLevel (high : Bool) : Int :=
  if high then 12000 else 6000

@[simp] theorem ofOrdinal_ordinal (p : PilotState) : ofOrdinal p.ordinal = p := by
  cases p <;> rfl

theorem classify_digitalLevel (high : Bool) :
    classify (digitalLevel high) = if high then a else c := by
  cases high <;> decide

end PilotState

end Evse
