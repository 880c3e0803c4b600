import Evse.Wire.Codec
import Evse.Pilot.State
import Evse.Charging.State
import Evse.Text.Quote
import Evse.Text.Case
/-!
The peer stack a bench simulator plays against the service.
-/
namespace Evse.Simulator

/-- What the simulator reports and what it last heard from the service. -/
structure Peer where
  contactor : Bool := false
  state : ChargingState := .idle
  lastEnable : Bool := false
  lastDemand : UInt16 := 0
  /-- Energized until the service says otherwise. -/
  lastRelay : Bool := true
deriving DecidableEq, Repr, Inhabited

/-- The current reported, in tenths of an ampere. -/
def current : UInt16 := 160

/-- The voltage reported, in tenths of a volt. -/
def voltage : UInt16 := 2300

/-- The help text. -/
def help : String :=
  "Commands:\n" ++
  "  on      - Turn main contactor ON\n" ++
  "  off     - Turn main contactor OFF\n" ++
  "  idle    - Set charging state to IDLE\n" ++
  "  ready   - Set charging state to READY\n" ++
  "  charge  - Set charging state to CHARGING\n" ++
  "  stop    - Set charging state to STOP\n" ++
  "  cp <x>  - Send CP state a-f (remote pilot source)\n" ++
  "  status  - Show current status\n" ++
  "  help    - Show this help\n" ++
  "  quit    - Exit simulator\n"

/-- The word for a switch. -/
def onOff (b : Bool) : String := if b then "on" else "off"

/-- What an interactive command asks for beyond its own output. -/
inductive Request where
  | none
  /-- Send a pilot message; the text to print once it is sent. -/
  | sendPilot (bytes : List UInt8) (done : String)
  | quit
deriving DecidableEq, Repr

namespace Peer

/-- The state envelope the simulator sends. -/
def stateMessage (p : Peer) : Wire.Bytes :=
  match Wire.Message.newStateEnvelope with
  | .stateEnvelope s h =>
    Wire.Message.encode (.stateEnvelope
      { s with state := p.state.code, phases := 3, current := current, voltage := voltage }
      { h with mainContactor := p.contactor, sourceEnable := p.contactor,
               sourceVoltage := voltage, sourceCurrent := current })
  | m => Wire.Message.encode m

/-- Takes a datagram from the service: a command envelope updates what the service asked
for and prints a line when enable or demand changed; anything else is ignored, with the
reason to log. -/
def handle (p : Peer) (b : Wire.Bytes) : Peer × String × Option String :=
  match Wire.decodeCommandEnvelope b with
  | .error e => (p, "", some ("Ignoring datagram: " ++ e.message))
  | .ok (c, h) =>
    let p := { p with lastRelay := h.mainContactor }
    if c.enable != p.lastEnable || c.currentDemand != p.lastDemand then
      ({ p with lastEnable := c.enable, lastDemand := c.currentDemand },
        s!"[RX] enable={c.enable} currentDemand={c.currentDemand.toNat} A/10\n", none)
    else (p, "", none)

/-- Changes the reported state when the service allows it. -/
def setState (p : Peer) (cmd : String) (s : ChargingState) : Peer × String :=
  if !p.lastEnable then
    (p, "[WARN] Cannot execute \x27" ++ cmd ++ "\x27: wallbox enable=false (charging disabled)\n")
  else if !p.lastRelay then
    (p, "[WARN] Cannot enter " ++ s.name.toUpper ++ " state: main contactor is OFF\n")
  else ({ p with state := s }, "[CMD] State: " ++ s.name.toUpper ++ "\n")

/-- The band a word names, in any case. -/
def pilotOf (w : String) : Option PilotState :=
  [PilotState.a, .b, .c, .d, .e, .f].find? fun s => s.name.toLower == w.toLower

/-- The status report. -/
def status (p : Peer) : String :=
  "--- Current Status ---\n" ++
  "Main Contactor: " ++ (onOff p.contactor).toUpper ++ "\n" ++
  "Charging State: " ++ p.state.name ++ "\n" ++
  s!"Wallbox: enable={p.lastEnable} relay={onOff p.lastRelay} demand={p.lastDemand.toNat}\n"

/-- The words of a line, lowercased and split at blanks. -/
def words (line : String) : List String :=
  (((Text.lower line).toList.splitBy fun a b => Text.isBlank a == Text.isBlank b).filter
    fun w => !w.all Text.isBlank).map String.ofList

/-- Runs an interactive command: the new peer, what it prints, and what it asks for. -/
def execute (p : Peer) (line : String) : Peer × String × Request :=
  match words line with
  | [] => (p, "", .none)
  | cmd :: args =>
    match cmd with
    | "on" | "off" =>
      ({ p with contactor := cmd == "on" }, "[CMD] Main contactor " ++ cmd.toUpper ++ "\n", .none)
    | "idle" => let (p, t) := p.setState cmd .idle; (p, t, .none)
    | "ready" => let (p, t) := p.setState cmd .ready; (p, t, .none)
    | "charge" => let (p, t) := p.setState cmd .charging; (p, t, .none)
    | "stop" => let (p, t) := p.setState cmd .stop; (p, t, .none)
    | "cp" =>
      match args with
      | [w] =>
        match pilotOf w with
        | some s =>
          match s.toMessage? with
          | some b => (p, "", .sendPilot b ("[CMD] CP: " ++ s.name ++ " (" ++ s.description ++ ")\n"))
          | none => (p, "", .none)
        | none => (p, "Unknown CP state " ++ Text.quote w ++ "\n", .none)
      | _ => (p, "Usage: cp <a|b|c|d|e|f>\n", .none)
    | "status" => (p, p.status, .none)
    | "help" => (p, help, .none)
    | "quit" | "exit" => (p, "", .quit)
    | _ => (p, "Unknown command. Type \x27help\x27 for available commands.\n", .none)

end Peer

end Evse.Simulator
