import Evse.Charging.State
import Evse.Pilot.State
import Evse.Time.Instant
import Evse.View
/-!
Status snapshots of a session controller, as published to observers.
-/
namespace Evse

/-- A point-in-time view of a controller. -/
structure Status where
  state : UInt8
  relay : Bool
  enabled : Bool
  pilot : UInt8
  peer : UInt8
  sessionId : String
  stamp : Time.Instant
deriving DecidableEq, Repr, Inhabited

namespace Status

/-- Two snapshots describe the same controller state; the time is not compared. -/
def same (s t : Status) : Bool :=
  s.state == t.state && s.relay == t.relay && s.enabled == t.enabled &&
    s.pilot == t.pilot && s.peer == t.peer && s.sessionId == t.sessionId

/-- The fields of the published status record. -/
def fields (s : Status) : List (String × String) :=
  [("state", ChargingState.nameOfCode s.state),
   ("relay", if s.relay then "on" else "off"),
   ("enabled", if s.enabled then "true" else "false"),
   ("pilot", (PilotState.ofOrdinal s.pilot).name),
   ("peer-state", ChargingState.nameOfCode s.peer),
   ("session", s.sessionId),
   ("state:timestamp", s.stamp.rfc3339)]

/-- The view of a snapshot, the time left out, with states and band by name. -/
def view (s : Status) : View :=
  .record [("state", .text (ChargingState.nameOfCode s.state)), ("relay", .flag s.relay),
    ("enabled", .flag s.enabled), ("pilot", .text (PilotState.ofOrdinal s.pilot).name),
    ("peer", .text (ChargingState.nameOfCode s.peer)), ("sid", .text s.sessionId)]

theorem same_refl (s : Status) : s.same s = true := by
  simp [same]

end Status

end Evse
