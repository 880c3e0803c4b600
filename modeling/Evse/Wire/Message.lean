import Evse.Wire.Bytes
/-!
The messages exchanged with the peer.
-/
namespace Evse.Wire

/-- Message type bytes. -/
def ctrlCmd : UInt8 := 0
def ctrlState : UInt8 := 1
def paramRead : UInt8 := 2
def paramWrite : UInt8 := 3
def seCtrlCmd : UInt8 := 4
def seCtrlState : UInt8 := 5

/-- The name of a message type byte. -/
def typeName (t : UInt8) : String :=
  match t with
  | 0 => "CtrlCmd"
  | 1 => "CtrlState"
  | 2 => "ParamRead"
  | 3 => "ParamWrite"
  | 4 => "SeCtrlCmd"
  | 5 => "SeCtrlState"
  | _ => s!"MsgType({t.toNat})"

/-- The name of a supply-phases byte: direct current, one or three phases. -/
def phasesName (p : UInt8) : String :=
  match p with
  | 0 => "dc"
  | 1 => "ac1"
  | 3 => "ac3"
  | _ => "<undefined>"

def headerSize : Nat := 2
def commandSize : Nat := 8
def stateSize : Nat := 48
def hardwareSize : Nat := 8

/-- The sentinel for a current or voltage that is not available. -/
def notAvailable : UInt16 := 0x8000

/-- The command payload: enable a session, confirm identification, offer a current
(in tenths of an ampere). -/
structure Command where
  version : UInt8
  msgType : UInt8
  enable : Bool
  identification : Bool
  currentDemand : UInt16
deriving DecidableEq, Repr

/-- The state payload a peer reports. -/
structure StateReport where
  version : UInt8
  msgType : UInt8
  state : UInt8
  phases : UInt8
  current : UInt16
  voltage : UInt16
  equipmentId : Vector UInt8 7
  vehicleId : Vector UInt8 8
  vehicleMac : Vector UInt8 6
  sessionId : Vector UInt8 8
  energyCapacity : UInt16
  energyRequest : UInt16
  departureTime : UInt32
deriving DecidableEq, Repr

/-- The supply equipment record: hardware state in a command envelope, hardware
commands in a state envelope. -/
structure Hardware where
  mainContactor : Bool
  imd : UInt8
  sourceEnable : Bool
  sourceCurrentControl : Bool
  sourceVoltage : UInt16
  sourceCurrent : UInt16
deriving DecidableEq, Repr

/-- A parameter read or write with a payload kept verbatim. -/
structure Param where
  version : UInt8
  msgType : UInt8
  payload : Bytes
deriving DecidableEq, Repr

/-- Every shape on the wire. The type byte is a field of the record, so a record may
carry a type byte that differs from its shape. -/
inductive Message where
  | command (c : Command)
  | state (s : StateReport)
  | commandEnvelope (c : Command) (h : Hardware)
  | stateEnvelope (s : StateReport) (h : Hardware)
  | param (p : Param)
deriving DecidableEq, Repr

namespace Command

def zero : Command := ⟨0, 0, false, false, 0⟩

/-- Canonical defaults: identification confirmed and a demand of 16 A. -/
def canonical : Command := ⟨0, ctrlCmd, false, true, 160⟩

end Command

namespace StateReport

def zero : StateReport :=
  ⟨0, 0, 0, 0, 0, 0, Vector.replicate 7 0, Vector.replicate 8 0, Vector.replicate 6 0,
    Vector.replicate 8 0, 0, 0, 0⟩

/-- Canonical defaults: state off, three phases, unknown current and voltage, equipment
`ZZ00000`, vehicle 1 to 8. -/
def canonical : StateReport :=
  { zero with
    msgType := ctrlState
    phases := 3
    current := notAvailable
    voltage := notAvailable
    equipmentId := #v[0x5a, 0x5a, 0x30, 0x30, 0x30, 0x30, 0x30]
    vehicleId := #v[1, 2, 3, 4, 5, 6, 7, 8] }

end StateReport

namespace Hardware

def zero : Hardware := ⟨false, 0, false, false, 0, 0⟩

end Hardware

namespace Message

/-- The type byte the message carries. -/
def msgType : Message → UInt8
  | command c => c.msgType
  | state s => s.msgType
  | commandEnvelope c _ => c.msgType
  | stateEnvelope s _ => s.msgType
  | param p => p.msgType

/-- The encoded length in bytes. -/
def size : Message → Nat
  | command _ => commandSize
  | state _ => stateSize
  | commandEnvelope _ _ => commandSize + hardwareSize
  | stateEnvelope _ _ => stateSize + hardwareSize
  | param p => headerSize + p.payload.length

/-- Canonical defaults of the message's shape. A parameter message keeps a write type and
otherwise becomes a read, with no payload. -/
def clear : Message → Message
  | command _ => command Command.canonical
  | state _ => state StateReport.canonical
  | commandEnvelope _ _ => commandEnvelope { Command.canonical with msgType := seCtrlCmd } Hardware.zero
  | stateEnvelope _ _ =>
    stateEnvelope { StateReport.canonical with msgType := seCtrlState } Hardware.zero
  | param p => param ⟨0, if p.msgType == paramWrite then paramWrite else paramRead, []⟩

end Message

/-- A fresh command envelope. -/
def Message.newCommandEnvelope : Message :=
  (Message.commandEnvelope Command.zero Hardware.zero).clear

/-- A fresh state envelope. -/
def Message.newStateEnvelope : Message :=
  (Message.stateEnvelope StateReport.zero Hardware.zero).clear

/-- A state envelope as a peer reports: a fresh envelope with the given state byte, and the
hardware record carrying the source enable and contactor commands. -/
def Message.peerReport (state : UInt8) (enable contactor : Bool) : Message :=
  match Message.newStateEnvelope with
  | .stateEnvelope s h =>
    .stateEnvelope { s with state } { h with sourceEnable := enable, mainContactor := contactor }
  | m => m

/-- The demand code sent for a charging state byte. The peer reads it as a state
indicator: 0, 10, 20, 30, 100, 160, 5, 1 for off to finished, and 0 otherwise. -/
def demandFor (code : UInt8) : UInt16 :=
  match code with
  | 1 => 10
  | 2 => 20
  | 3 => 30
  | 4 => 100
  | 5 => 160
  | 6 => 5
  | 7 => 1
  | _ => 0

end Evse.Wire
