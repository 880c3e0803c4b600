import Evse.Charging.Machine
import Evse.Pilot.Monitor
import Evse.Wire.Codec
import Evse.Status
import Evse.Metrics
import Evse.Hardware.Lines
import Evse.Text.Hex
/-!
The session controller, the plant that answers its every attempt, the trace of its effects and
its primitive actions.
-/
namespace Evse.Control

open Evse.Metrics (Book)

/-- Settings fixed at construction. -/
structure Settings where
  /-- Nanoseconds of peer silence after which an energized relay is cut; 0 disables. -/
  peerTimeout : Int
  /-- The supply current limit in amperes. -/
  maxCurrentAmps : Int
  /-- Whether sessions are enabled at construction. -/
  startEnabled : Bool
deriving DecidableEq, Repr

/-- The last values seen from the peer. -/
structure PeerView where
  enable : Bool
  state : ChargingState
  contactor : Bool
deriving DecidableEq, Repr

/-- The indicator LEDs. -/
structure LedPattern where
  green : Bool
  yellow : Bool
  red : Bool
deriving DecidableEq, Repr

/-- The LEDs for a state: all dark while sessions are disabled; green at rest (idle, stop,
finished), yellow during a session (connected to charging), red for off and error. -/
def LedPattern.forState (s : ChargingState) (enabled : Bool) : LedPattern :=
  if !enabled then ⟨false, false, false⟩
  else match s with
    | .idle | .stop | .finished => ⟨true, false, false⟩
    | .connected | .identification | .ready | .charging => ⟨false, true, false⟩
    | .off | .error => ⟨false, false, true⟩

/-- The line writes of a pattern, green first. -/
def LedPattern.writes (p : LedPattern) : List (String × Bool) :=
  [(Hardware.ledGreen, p.green), (Hardware.ledYellow, p.yellow), (Hardware.ledRed, p.red)]

/-- Faults reported to the publisher. -/
inductive Fault where
  | peerTimeout
  | pilot
  | relayWrite
deriving DecidableEq, Repr

def Fault.code : Fault → Nat
  | peerTimeout => 1
  | pilot => 2
  | relayWrite => 3

def Fault.description : Fault → String
  | peerTimeout => "peer silent, relay de-energized"
  | pilot => "control pilot fault"
  | relayWrite => "relay write failed"

def Fault.all : List Fault := [.peerTimeout, .pilot, .relayWrite]

/-- An order to visit the faults in, each once, as a map of faults is ranged over. -/
structure FaultOrder where
  faults : List Fault
  perm : faults.Perm Fault.all

/-- The faults in order of code. -/
def FaultOrder.byCode : FaultOrder := ⟨Fault.all, List.Perm.refl _⟩

/-- Why an operation failed. -/
inductive Failure where
  /-- The machine refused, or one of its listeners did. -/
  | machine (e : MachineError)
  /-- The relay could not be written to the given level. -/
  | hardwareWrite (on : Bool) (cause : String)
  /-- Sessions are disabled. -/
  | disabled
  /-- The controller has shut down. -/
  | shutDown
  /-- A datagram could not be decoded. -/
  | decode (e : Wire.DecodeError)
  /-- An operator operation failed in `state` while `requested` was asked for. -/
  | operation (op : String) (state requested : ChargingState) (cause : Failure)
  /-- A failure reported by the plant, as its text. -/
  | plant (text : String)
deriving Repr

def Failure.message : Failure → String
  | machine e => e.message
  | hardwareWrite on cause => s!"hardware write failed: relay={on}: {cause}"
  | disabled => "session disabled"
  | shutDown => "controller shut down"
  | decode e => e.message
  | operation op s r cause => s!"{op} (state {s.name}, requested {r.name}): {cause.message}"
  | plant text => text

/-- A failure and the failures it wraps, outermost first. -/
def Failure.chain : Failure → List Failure
  | operation op s r cause => operation op s r cause :: cause.chain
  | f => [f]

/-- One attempt of the controller on its plant, or one of its log notes. -/
inductive Effect where
  /-- A digital output write and whether it succeeded. -/
  | write (channel : String) (value ok : Bool)
  /-- A datagram to the peer and whether it went out. -/
  | send (bytes : List UInt8) (ok : Bool)
  /-- Opening the transport and whether it succeeded. -/
  | connect (ok : Bool)
  /-- Closing the transport. -/
  | disconnect
  /-- A status publication and whether it succeeded. -/
  | publish (status : Status) (ok : Bool)
  /-- A fault report. -/
  | fault (code : Nat) (description : String) (present : Bool)
  /-- A listener other than the controller's own was told of a step. -/
  | notify (n : Notice)
  /-- A log note with the tag of the part that wrote it. -/
  | note (severity : Log.Severity) (tag : String) (text : String)
deriving Repr

/-- How the plant answers, what time it is, and the order the runtime ranges over a map in. -/
structure Plant where
  now : Time.Instant
  /-- The error of an attempt at writing a line to a level, if it fails. Attempts count from 0;
  only a write that is retried makes more than one. -/
  writeFault : String → Bool → Nat → Option String
  sendFault : Option String
  connectFault : Option String
  disconnectFault : Option String
  /-- The error of publishing a status, if it fails. -/
  publishFault : Status → Option String
  /-- The error of reporting a fault, if it fails; the report is made either way. -/
  reportFault : Nat → Bool → Option String
  /-- The answer of a listener other than the controller's own: a refusal or none. -/
  verdict : Notice → Option String
  /-- The random bytes session ids are drawn from, by position. -/
  entropy : Nat → UInt8
  /-- The order a map of faults is ranged over. -/
  faultOrder : FaultOrder

/-- The session controller. -/
structure Controller where
  settings : Settings
  machine : Machine
  ownListener : Nat
  relayEnabled : Bool
  sessionEnabled : Bool
  pilotState : PilotState
  sessionId : String
  peer : PeerView
  peerReady : Bool
  /-- The last status sent to the peer, as session switch, relay and state. -/
  lastSent : Option (Bool × Bool × ChargingState)
  /-- When the peer was last heard, or since start; none before either. -/
  lastRx : Option Time.Instant
  /-- The LEDs as last written; none after a failed write. -/
  leds : Option LedPattern
  published : Option Status
  faults : List (Fault × Bool)
  shutDown : Bool
  pilot : Option Pilot.Monitor
  publishing : Bool
  metrics : Option Book
  /-- How many malformed datagrams were logged. -/
  decodeNotes : Nat
  /-- How many session ids were drawn. -/
  sessionsDrawn : Nat

/-- A controller together with the trace of its effects. -/
structure World where
  ctl : Controller
  trace : List Effect

/-- An action of the controller on its plant. -/
abbrev Act := ReaderT Plant (StateM World)

/-- The outcome of an operation. -/
abbrev Outcome := Except Failure Unit

/-- The session id for the `k`-th draw: eight random bytes in hex, one byte's high
nibble (byte 6, counting from 0) set to the version digit 4. -/
def sessionIdAt (entropy : Nat → UInt8) (k : Nat) : String :=
  Hex.encode ((List.range 8).map fun i =>
    let b := entropy (16 * k + i)
    if i = 6 then (b &&& 0x0f) ||| 0x40 else b)

/-- A new controller: the machine idle with the controller's own listener subscribed,
relay off, no pilot band, the peer assumed enabled and idle. -/
def Controller.new (settings : Settings) (pilot : Option Pilot.Monitor) (publishing : Bool)
    (metrics : Option Book) : Controller :=
  let (machine, own) := Machine.initial.subscribe
  { settings, machine, ownListener := own, relayEnabled := false,
    sessionEnabled := settings.startEnabled, pilotState := .unknown, sessionId := "",
    peer := ⟨true, .idle, false⟩, peerReady := false, lastSent := none, lastRx := none,
    leds := none, published := none, faults := [], shutDown := false, pilot, publishing,
    metrics := metrics.map (·.sessionSwitch settings.startEnabled), decodeNotes := 0,
    sessionsDrawn := 0 }

/-- Whether a fault is present. -/
def Controller.hasFault (c : Controller) (f : Fault) : Bool :=
  (c.faults.lookup f).getD false

/-- The status snapshot at a time. -/
def Controller.status (c : Controller) (now : Time.Instant) : Status :=
  { state := c.machine.state.code, relay := c.relayEnabled, enabled := c.sessionEnabled,
    pilot := c.pilotState.ordinal, peer := c.peer.state.code, sessionId := c.sessionId,
    stamp := now }

section Primitives

def ctl : Act Controller := do pure (← get).ctl

def modifyCtl (f : Controller → Controller) : Act Unit :=
  modify fun w => { w with ctl := f w.ctl }

def emit (e : Effect) : Act Unit :=
  modify fun w => { w with trace := w.trace ++ [e] }

def note (severity : Log.Severity) (text : String) : Act Unit :=
  emit (.note severity "Controller" text)

def observe (f : Book → Book) : Act Unit :=
  modifyCtl fun c => { c with metrics := c.metrics.map f }

def onOff (on : Bool) : String := if on then "on" else "off"

/-- Makes attempt `attempt` at writing a digital output; answers the error, if any. -/
def writeLine (channel : String) (value : Bool) (attempt : Nat) : Act (Option String) := do
  let r := (← read).writeFault channel value attempt
  emit (.write channel value r.isNone)
  pure r

/-- Reports a fault when its presence changes. -/
def reportFault (f : Fault) (present : Bool) : Act Unit := do
  let c ← ctl
  if c.hasFault f == present then return
  modifyCtl fun c => { c with faults := (c.faults.filter (·.1 != f)) ++ [(f, present)] }
  if !c.publishing then return
  emit (.fault f.code f.description present)
  if let some e := (← read).reportFault f.code present then
    note .warn s!"Failed to report fault {f.code}: {e}"

/-- Writes the relay; a failure is reported as fault 3 and leaves the flag as it was. -/
def setRelay (on : Bool) : Act Outcome := do
  let r ← writeLine Hardware.relay on 0
  observe (·.relayWrite on r.isNone)
  match r with
  | some e =>
    note .error s!"Failed to set relay {on}: {e}"
    reportFault .relayWrite true
    pure (.error (.hardwareWrite on e))
  | none =>
    if (← ctl).relayEnabled != on then note .info s!"Relay {onOff on}"
    modifyCtl fun c => { c with relayEnabled := on }
    pure (.ok ())

/-- Writes the LEDs in order when the pattern changed; a failed write stops the rest and
forgets the pattern, so the next refresh writes again. -/
def refreshLeds : Act Unit := do
  let c ← ctl
  let want := LedPattern.forState c.machine.state c.sessionEnabled
  if c.leds == some want then return
  for (line, on) in want.writes do
    if let some e ← writeLine line on 0 then
      note .warn s!"Failed to set {line}: {e}"
      modifyCtl fun c => { c with leds := none }
      return
  modifyCtl fun c => { c with leds := some want }

/-- Publishes the status when it differs from the last published one. -/
def publish : Act Unit := do
  let c ← ctl
  if !c.publishing then return
  let p ← read
  let s := c.status p.now
  if let some last := c.published then
    if last.same s then return
  match p.publishFault s with
  | some e =>
    emit (.publish s false)
    note .warn s!"Failed to publish status: {e}"
  | none =>
    emit (.publish s true)
    modifyCtl fun c => { c with published := some s }

/-- The command envelope sent to the peer: the session switch, the demand code of the
state, the relay as main contactor and the current limit in tenths of an ampere. -/
def Controller.command (c : Controller) : Wire.Message :=
  match Wire.Message.newCommandEnvelope with
  | .commandEnvelope cmd hw =>
    .commandEnvelope
      { cmd with enable := c.sessionEnabled, currentDemand := Wire.demandFor c.machine.state.code }
      { hw with mainContactor := c.relayEnabled,
                sourceCurrent := UInt16.ofInt (c.settings.maxCurrentAmps * 10) }
  | m => m

/-- Sends the status to the peer. -/
def sendStatus : Act Outcome := do
  let c ← ctl
  let msg := c.command
  let view := (c.sessionEnabled, c.relayEnabled, c.machine.state)
  if c.lastSent != some view then
    note .debug s!"Sending enable={c.sessionEnabled} relay={onOff c.relayEnabled} state={c.machine.state.name} demand={(Wire.demandFor c.machine.state.code).toNat}"
    modifyCtl fun c => { c with lastSent := some view }
  let r := (← read).sendFault
  emit (.send msg.encode r.isNone)
  observe (·.sentOne r.isNone)
  match r with
  | some e => pure (.error (.plant e))
  | none => pure (.ok ())

/-- The controller's own reaction to a step of its machine. -/
def onTransition (source target : ChargingState) (reason : String) : Act Unit := do
  note .info s!"State {source.name} -> {target.name} ({reason})"
  observe (·.transition source.name target.name target.code.toNat)
  match target with
  | .connected =>
    if source == .idle then
      let p ← read
      modifyCtl fun c =>
        { c with sessionId := sessionIdAt p.entropy c.sessionsDrawn,
                 sessionsDrawn := c.sessionsDrawn + 1 }
  | .idle | .off => modifyCtl fun c => { c with sessionId := "" }
  | _ => pure ()
  refreshLeds

/-- How a listener takes a step: the controller's own reacts, others answer through the
plant. The machine is already in the new state when listeners hear of it. -/
def hear (n : Notice) : Act (Option String) := do
  modifyCtl fun c => { c with machine := { c.machine with state := n.target } }
  if n.listener == (← ctl).ownListener then
    onTransition n.source n.target n.reason
    pure none
  else
    emit (.notify n)
    pure ((← read).verdict n)

/-- The listener callback of the machine, run against a plant. -/
def hearIn (p : Plant) (n : Notice) (w : World) : World × Option String :=
  let (r, w') := ((hear n).run p).run w
  (w', r)

/-- Carries out a machine request with every listener told. -/
def request (req : Request) (reason : String) : Act Outcome := do
  let p ← read
  let w ← get
  let (m, w', r) := w.ctl.machine.perform (hearIn p) req reason w
  set { w' with ctl := { w'.ctl with machine := m } }
  pure (r.mapError .machine)

/-- Stops a session and then opens the relay. -/
def stopSession (reason : String) : Act Outcome := do
  match ← request .stopCharging reason with
  | .error e => pure (.error e)
  | .ok () => setRelay false

/-- Logs a failure of a step that does not fail its caller. -/
def noteFailure (severity : Log.Severity) (context : String) (r : Outcome) : Act Unit :=
  match r with
  | .error e => note severity s!"{context}: {e.message}"
  | .ok () => pure ()

/-- Sets the session switch, notes the turn and refreshes the LEDs. -/
def turnSwitch (on : Bool) (text : String) : Act Unit := do
  modifyCtl fun c => { c with sessionEnabled := on }
  observe (·.sessionSwitch on)
  note .info text
  refreshLeds

/-- Turns sessions on. -/
def enableSessions (source : String) : Act Unit :=
  turnSwitch true s!"Session enabled by {source}"

/-- Turns sessions off, stopping an active one first; a failed stop does not prevent it. -/
def disableSessions (source : String) : Act Unit := do
  if (← ctl).machine.state.isActive then
    note .info "Stopping active session before disable"
    noteFailure .error "Failed to stop charging before disable" (← stopSession "session disabled")
  turnSwitch false s!"Session disabled by {source}"

/-- The controller's reaction to a pilot band change. Band A during a session stops it;
band F reports the pilot fault, opens the relay and enters error. -/
def pilotChanged (old next : PilotState) : Act Unit := do
  if (← ctl).shutDown then return
  modifyCtl fun c => { c with pilotState := next }
  observe (·.pilotChange next.name)
  note .info s!"Pilot {old.name} -> {next.name} ({next.description})"
  match next with
  | .a =>
    let s := (← ctl).machine.state
    if s.isActive then
      note .warn s!"Vehicle disconnected while {s.name}, stopping"
      noteFailure .error "Failed to stop after disconnect" (← stopSession "vehicle disconnected")
  | .f =>
    note .error "Pilot fault, de-energizing relay"
    reportFault .pilot true
    noteFailure .error "Failed to de-energize relay on pilot fault" (← setRelay false)
    noteFailure .error "Failed to enter error state" (← request .enterError "pilot fault")
  | _ => pure ()
  publish

/-- Plays the events of the pilot monitor: band changes go to the controller, notes to the
log under the monitor's tag. -/
def pilotEvents : List Pilot.Event → Act Unit
  | [] => pure ()
  | .change old next :: rest => do pilotChanged old next; pilotEvents rest
  | .note severity text :: rest => do emit (.note severity "Pilot" text); pilotEvents rest

/-- Runs an operation of the pilot monitor, if there is one. -/
def withPilot {α : Type} (dflt : α) (f : Pilot.Monitor → Pilot.Monitor × List Pilot.Event × α) :
    Act α := do
  match (← ctl).pilot with
  | none => pure dflt
  | some m =>
    let (m', evs, a) := f m
    modifyCtl fun c => { c with pilot := some m' }
    pilotEvents evs
    pure a

end Primitives

end Evse.Control
