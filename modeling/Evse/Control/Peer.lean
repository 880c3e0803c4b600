import Evse.Control.Basic
/-!
Messages from the peer: pilot messages to a remote monitor, state envelopes applied field by
field under the sequencing policy.
-/
namespace Evse.Control

/-- Logs a malformed datagram, for the first three of them only. -/
def noteMalformed (text : String) : Act Unit := do
  if (← ctl).decodeNotes < 3 then
    modifyCtl fun c => { c with decodeNotes := c.decodeNotes + 1 }
    note .warn text

/-- Counts and logs a refused peer intent. -/
def rejectPeer (intent : ChargingState) (why : String) : Act Unit := do
  observe (·.rejection intent.name)
  note .warn s!"illegal peer sequence: peer {intent.name} rejected: {why}"

/-- Brings the machine back to idle along legal edges; error is only left by reset. -/
def returnToIdle (reason : String) : Act Unit := do
  let r ← match (← ctl).machine.state with
    | .idle => pure (.ok ())
    | .ready | .charging => request .stopCharging reason
    | .stop => do
      match ← request (.moveTo ChargingState.finished.code) reason with
      | .ok () => request (.moveTo ChargingState.idle.code) reason
      | .error e => pure (.error e)
    | .error => do
      note .warn "Staying in error state, reset required"
      pure (.ok ())
    | _ => request (.moveTo ChargingState.idle.code) reason
  noteFailure .error "Failed to return to idle" r

/-- Acts on the peer's state as an intent. -/
def applyIntent (intent : ChargingState) : Act Unit := do
  let c ← ctl
  let state := c.machine.state
  let armed := c.peerReady
  modifyCtl fun c => { c with peerReady := false }
  match intent with
  | .idle => returnToIdle "peer idle"
  | .ready =>
    if !c.relayEnabled then rejectPeer intent "relay must be on first"
    else if state != .idle then rejectPeer intent s!"local state is {state.name}, must be idle"
    else
      modifyCtl fun c => { c with peerReady := true }
      note .info "Peer ready, prepared for charging"
  | .charging =>
    if state == .charging then pure ()
    else if !c.relayEnabled then rejectPeer intent "relay must be on"
    else if state != .idle || !armed then
      rejectPeer intent "sequence must be idle -> accepted ready -> charging"
    else if !c.sessionEnabled then rejectPeer intent Failure.disabled.message
    else noteFailure .error "Failed to start charging for peer" (← request .startCharging "peer charging")
  | .stop =>
    if state == .charging then
      noteFailure .error "Failed to stop charging for peer" (← request .stopCharging "peer stop")
  | _ => note .debug s!"Peer state {intent.name} carries no intent"

/-- Follows the peer's contactor flag; a disabled session refuses to close the relay. -/
def applyContactor (on : Bool) : Act Unit := do
  let c ← ctl
  if on && !c.sessionEnabled then
    note .warn s!"Peer contactor on rejected: {Failure.disabled.message}"
  else if on != c.relayEnabled then
    noteFailure .error "Failed to apply peer contactor" (← setRelay on)

/-- The state a peer's state byte stands for; a byte that names no state is counted as
malformed and stands for the last state seen. -/
def peerState (code : UInt8) (last : ChargingState) : Act ChargingState :=
  match ChargingState.ofCode? code with
  | some st => pure st
  | none => do
    observe (·.decodeError "invalid state")
    noteMalformed s!"Ignoring invalid peer state {code.toNat}"
    pure last

/-- Follows a change of the peer's enable flag: sessions are enabled or disabled to match,
unless they already are. -/
def followEnable (prev next : Bool) : Act Unit := do
  if next != prev then
    note .info s!"Peer enable {prev} -> {next}"
    let enabled := (← ctl).sessionEnabled
    if next && !enabled then enableSessions "peer"
    else if !next && enabled then disableSessions "peer"

/-- Follows a change of the peer's state, taken as an intent. -/
def followIntent (prev next : ChargingState) : Act Unit := do
  if next != prev then
    note .info s!"Peer state {prev.name} -> {next.name}"
    applyIntent next

/-- Follows a change of the peer's contactor flag. -/
def followContactor (prev next : Bool) : Act Unit := do
  if next != prev then
    note .info s!"Peer contactor {onOff prev} -> {onOff next}"
    applyContactor next

/-- Applies a state envelope: enable flag, intent and contactor flag, in that order; answers
whether anything changed. -/
def applyPeer (s : Wire.StateReport) (h : Wire.Hardware) : Act Bool := do
  let prev := (← ctl).peer
  let next : PeerView := ⟨h.sourceEnable, ← peerState s.state prev.state, h.mainContactor⟩
  followEnable prev.enable next.enable
  followIntent prev.state next.state
  followContactor prev.contactor next.contactor
  modifyCtl fun c => { c with peer := next }
  pure (next.enable != prev.enable || next.state != prev.state || next.contactor != prev.contactor)

/-- Records that the peer was heard: the time, the message count, and the end of a
peer-timeout fault. -/
def peerHeard : Act Unit := do
  let now := (← read).now
  modifyCtl fun c => { c with lastRx := some now }
  observe (·.receivedOne)
  reportFault .peerTimeout false

/-- Takes one datagram from the transport. -/
def handleMessage (bytes : List UInt8) : Act Outcome := do
  if PilotState.isMessage bytes then
    match (← ctl).pilot with
    | some m =>
      if m.isRemote then
        let _ ← withPilot false fun m => m.handle bytes
      else note .debug "Ignoring CP message, pilot source is not remote"
    | none => note .debug "Ignoring CP message, pilot source is not remote"
    return .ok ()
  match Wire.Message.decode bytes with
  | .error e =>
    observe (·.decodeError (match e with | .tooShort .. => "too short" | .unknownType _ => "unknown type"))
    noteMalformed s!"Dropping malformed datagram: {e.message}"
    pure (.error (.decode e))
  | .ok (.stateEnvelope s h) =>
    if (← ctl).shutDown then return .error .shutDown
    peerHeard
    if ← applyPeer s h then
      noteFailure .warn "Failed to send status update" (← sendStatus)
      publish
    pure (.ok ())
  | .ok m =>
    note .debug s!"Ignoring {Wire.typeName m.msgType} message"
    pure (.ok ())

end Evse.Control
