import Evse.Wire.Codec
import Evse.View
import Evse.Charging.State
import Evse.Text.Hex
import Evse.Text.Utf8
/-!
Views of wire messages.
-/
namespace Evse.Wire

open Evse (View)

def hexView (b : List UInt8) : View := .text (Hex.encode b)

/-- The equipment id as text: the bytes before the first NUL, read as UTF-8. -/
def StateReport.equipmentText (s : StateReport) : String :=
  Utf8.decodeLossy (s.equipmentId.toList.takeWhile (· != 0))

def Command.view (c : Command) : View :=
  .record [("version", .nat c.version.toNat), ("type", .nat c.msgType.toNat),
    ("enable", .flag c.enable), ("identification", .flag c.identification),
    ("current_demand", .nat c.currentDemand.toNat)]

def StateReport.view (s : StateReport) : View :=
  .record [("version", .nat s.version.toNat), ("type", .nat s.msgType.toNat),
    ("state", .nat s.state.toNat), ("state_name", .text (ChargingState.nameOfCode s.state)),
    ("phases", .nat s.phases.toNat), ("phases_name", .text (phasesName s.phases)),
    ("current", .nat s.current.toNat), ("voltage", .nat s.voltage.toNat),
    ("equipment_id", hexView s.equipmentId.toList),
    ("equipment_id_string", .text s.equipmentText),
    ("vehicle_id", hexView s.vehicleId.toList), ("vehicle_mac", hexView s.vehicleMac.toList),
    ("session_id", hexView s.sessionId.toList), ("energy_capacity", .nat s.energyCapacity.toNat),
    ("energy_request", .nat s.energyRequest.toNat),
    ("departure_time", .nat s.departureTime.toNat)]

def Hardware.view (h : Hardware) : View :=
  .record [("main_contactor", .flag h.mainContactor), ("imd", .nat h.imd.toNat),
    ("source_enable", .flag h.sourceEnable), ("source_current_control", .flag h.sourceCurrentControl),
    ("source_voltage", .nat h.sourceVoltage.toNat), ("source_current", .nat h.sourceCurrent.toNat)]

/-- The fields of a message's view. -/
def Message.viewFields (m : Message) : List (String × View) :=
  [("msg_type", .text (typeName m.msgType)), ("size", .nat m.size), ("encoded", hexView m.encode)] ++
  match m with
  | .command c => [("kind", .text "command"), ("command", c.view)]
  | .state s => [("kind", .text "state"), ("state", s.view)]
  | .commandEnvelope c h => [("kind", .text "command_envelope"), ("command", c.view), ("hardware", h.view)]
  | .stateEnvelope s h => [("kind", .text "state_envelope"), ("state", s.view), ("hardware", h.view)]
  | .param p => [("kind", .text "param"), ("version", .nat p.version.toNat),
      ("type", .nat p.msgType.toNat), ("payload", hexView p.payload)]

def Message.view (m : Message) : View := .record m.viewFields

end Evse.Wire
