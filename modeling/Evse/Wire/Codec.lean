import Evse.Wire.Message
/-!
Encoding and decoding of wire messages.
-/
namespace Evse.Wire

/-- Why a datagram was refused. -/
inductive DecodeError where
  /-- Fewer bytes than the header, or than the shape the type byte selects. -/
  | tooShort (msgType : UInt8) (got want : Nat)
  /-- A type byte that selects no shape. -/
  | unknownType (msgType : UInt8)
deriving DecidableEq, Repr

/-- The text of a decode error. -/
def DecodeError.message : DecodeError → String
  | tooShort t got want =>
    s!"decode {typeName t}: message too short: got {got} bytes, need {want}"
  | unknownType t => s!"decode: unknown message type {t.toNat}"

namespace Command

def encode (c : Command) : Bytes :=
  [c.version, c.msgType, flag c.enable, flag c.identification] ++ be16 c.currentDemand ++ [0, 0]

/-- Reads a command from the start of the bytes. -/
def read (b : Bytes) : Command :=
  ⟨b.byte 0, b.byte 1, b.flagAt 2, b.flagAt 3, b.u16At 4⟩

end Command

namespace StateReport

def encode (s : StateReport) : Bytes :=
  [s.version, s.msgType, s.state, s.phases] ++ be16 s.current ++ be16 s.voltage ++
    s.equipmentId.toList ++ [0] ++ s.vehicleId.toList ++ s.vehicleMac.toList ++ [0, 0] ++
    s.sessionId.toList ++ be16 s.energyCapacity ++ be16 s.energyRequest ++ be32 s.departureTime

/-- Reads a state report from the start of the bytes. -/
def read (b : Bytes) : StateReport :=
  ⟨b.byte 0, b.byte 1, b.byte 2, b.byte 3, b.u16At 4, b.u16At 6, b.blockAt 8 7, b.blockAt 16 8,
    b.blockAt 24 6, b.blockAt 32 8, b.u16At 40, b.u16At 42, b.u32At 44⟩

end StateReport

namespace Hardware

def encode (h : Hardware) : Bytes :=
  [flag h.mainContactor, h.imd, flag h.sourceEnable, flag h.sourceCurrentControl] ++
    be16 h.sourceVoltage ++ be16 h.sourceCurrent

/-- Reads a hardware record from the start of the bytes. -/
def read (b : Bytes) : Hardware :=
  ⟨b.flagAt 0, b.byte 1, b.flagAt 2, b.flagAt 3, b.u16At 4, b.u16At 6⟩

end Hardware

namespace Message

/-- The wire form of a message. -/
def encode : Message → Bytes
  | command c => c.encode
  | state s => s.encode
  | commandEnvelope c h => c.encode ++ h.encode
  | stateEnvelope s h => s.encode ++ h.encode
  | param p => [p.version, p.msgType] ++ p.payload

/-- The size a type byte asks for, with the message read from enough bytes; `none` for a
type byte that selects no shape. -/
def layout (t : UInt8) (b : Bytes) : Option (Nat × Message) :=
  match t with
  | 0 => some (commandSize, command (Command.read b))
  | 1 => some (stateSize, state (StateReport.read b))
  | 2 | 3 => some (headerSize, param ⟨b.byte 0, b.byte 1, b.drop headerSize⟩)
  | 4 => some (commandSize + hardwareSize,
      commandEnvelope (Command.read b) (Hardware.read (b.drop commandSize)))
  | 5 => some (stateSize + hardwareSize,
      stateEnvelope (StateReport.read b) (Hardware.read (b.drop stateSize)))
  | _ => none

/-- Reads a datagram. -/
def decode (b : Bytes) : Except DecodeError Message :=
  if b.length < headerSize then .error (.tooShort ctrlCmd b.length headerSize)
  else
    let t := b.byte 1
    match layout t b with
    | none => .error (.unknownType t)
    | some (want, m) => if b.length < want then .error (.tooShort t b.length want) else .ok m

end Message

/-- Why a datagram is not the envelope a reader expects. -/
inductive EnvelopeError where
  | decode (e : DecodeError)
  /-- The datagram decoded as another shape, of the given type byte. -/
  | unexpected (expected got : UInt8)
deriving DecidableEq, Repr

def EnvelopeError.message : EnvelopeError → String
  | decode e => e.message
  | unexpected expected got => s!"expected {typeName expected}, got {typeName got}"

/-- Reads a datagram that must be a state envelope. -/
def decodeStateEnvelope (b : Bytes) : Except EnvelopeError (StateReport × Hardware) :=
  match Message.decode b with
  | .error e => .error (.decode e)
  | .ok (.stateEnvelope s h) => .ok (s, h)
  | .ok m => .error (.unexpected seCtrlState m.msgType)

/-- Reads a datagram that must be a command envelope. -/
def decodeCommandEnvelope (b : Bytes) : Except EnvelopeError (Command × Hardware) :=
  match Message.decode b with
  | .error e => .error (.decode e)
  | .ok (.commandEnvelope c h) => .ok (c, h)
  | .ok m => .error (.unexpected seCtrlCmd m.msgType)

@[simp] theorem Command.encode_length (c : Command) : c.encode.length = commandSize := rfl

@[simp] theorem StateReport.encode_length (s : StateReport) : s.encode.length = stateSize := by
  simp [StateReport.encode, stateSize]

@[simp] theorem Hardware.encode_length (h : Hardware) : h.encode.length = hardwareSize := rfl

theorem Message.encode_length (m : Message) : m.encode.length = m.size := by
  cases m <;> simp [encode, size, headerSize]
  omega

end Evse.Wire
