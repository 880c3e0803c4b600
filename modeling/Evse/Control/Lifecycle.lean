import Evse.Control.Basic
/-!
Start, ticks with the peer watchdog, and the one shutdown that forces the relay open.
-/
namespace Evse.Control

/-- Starts the controller. -/
def startUp : Act Outcome := do
  note .info s!"Starting session controller (enabled={(← ctl).sessionEnabled})"
  if let .error e ← setRelay false then return .error e
  let now := (← read).now
  modifyCtl fun c => { c with lastRx := some now }
  refreshLeds
  let fault := (← read).connectFault
  emit (.connect fault.isNone)
  if let some e := fault then return .error (.plant e)
  if let .error e ← withPilot (.ok ()) fun m => let (m', evs, r) := m.start; (m', evs, r) then
    return .error (.plant e)
  note .info "Session controller started"
  pure (.ok ())

/-- Cuts an energized relay when the peer has been silent for longer than the timeout. -/
def watchdog : Act Unit := do
  let c ← ctl
  let timeout := c.settings.peerTimeout
  if timeout ≤ 0 || !c.relayEnabled then return
  -- a peer never heard has been silent for the longest span there is
  let now := (← read).now
  let silent := match c.lastRx with
    | some t => Time.clampNanos (now.unixNanos - t.unixNanos)
    | none => Time.maxNanos
  if silent ≤ timeout then return
  note .warn s!"No peer message for {Time.durationText (Time.roundTo silent Time.millisecond)}, de-energizing relay"
  observe (·.watchdogTrip)
  reportFault .peerTimeout true
  if (← ctl).machine.state.isActive then
    noteFailure .error "Failed to stop charging on peer timeout" (← request .stopCharging "peer timeout")
  noteFailure .error "Watchdog could not de-energize relay" (← setRelay false)

/-- One tick. -/
def tick : Act Outcome := do
  if (← ctl).shutDown then return .error .shutDown
  watchdog
  refreshLeds
  let r ← sendStatus
  publish
  pure r

/-- Opens the relay whatever happens: attempts 0, 1 and 2 until one succeeds, fault 3 when all
fail, and the relay recorded as open. -/
def forceRelayOff : Act Unit := do
  let mut last : Option String := none
  for i in [0, 1, 2] do
    let r ← writeLine Hardware.relay false i
    observe (·.relayWrite false r.isNone)
    last := r
    match r with
    | none => break
    | some e => note .error s!"Relay off attempt {i + 1} failed: {e}"
  if last.isSome then reportFault .relayWrite true
  modifyCtl fun c => { c with relayEnabled := false }

/-- Shuts the controller down; a second call does nothing. -/
def shutdown : Act Unit := do
  if (← ctl).shutDown then return
  modifyCtl fun c => { c with shutDown := true }
  note .info "Shutting down session controller"
  withPilot () fun m => let (m', evs) := m.stop; (m', evs, ())
  emit .disconnect
  if let some e := (← read).disconnectFault then
    note .warn s!"Failed to disconnect transport: {e}"
  if (← ctl).machine.state.isActive then
    noteFailure .warn "Failed to stop charging on shutdown" (← request .stopCharging "shutdown")
  forceRelayOff
  publish
  note .info "Session controller shut down, relay off"

/-- How a run of the tick loop ends. -/
inductive RunEnd where
  /-- The loop's context is cancelled. -/
  | cancel
  /-- The controller is shut down. -/
  | shutdown
deriving DecidableEq, Repr

/-- The tick loop for one tick and then its end: after a shutdown it refuses to run; a
cancelled loop answers `context canceled`; a shutdown ends it quietly. -/
def run (stop : RunEnd) : Act Outcome := do
  if (← ctl).shutDown then return .error .shutDown
  if let .error e ← tick then note .debug s!"Tick: {e.message}"
  match stop with
  | .cancel => pure (.error (.plant "context canceled"))
  | .shutdown => do shutdown; pure (.ok ())

/-- Starts the pilot monitor directly. -/
def pilotStart : Act Outcome := do
  match ← withPilot (.ok ()) fun m => let (m', evs, r) := m.start; (m', evs, r) with
  | .error e => pure (.error (.plant e))
  | .ok () => pure (.ok ())

/-- Stops the pilot monitor directly. -/
def pilotStop : Act Unit :=
  withPilot () fun m => let (m', evs) := m.stop; (m', evs, ())

/-- The pilot monitor takes a reading of a probe, as a polling monitor does at each sample. -/
def pilotSample (probe : Pilot.Probe) (reading : Except String Int) : Act Unit :=
  withPilot () fun m => let (m', evs) := m.offer probe reading; (m', evs, ())

end Evse.Control
