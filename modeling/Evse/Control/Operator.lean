import Evse.Control.Basic
import Evse.Text.Quote
import Evse.Text.Case
/-!
Operator operations, commands and the button.
-/
namespace Evse.Control

/-- Wraps a failure of an operator operation with the current and requested state. -/
def opFailure (op : String) (requested : ChargingState) (e : Failure) : Act Outcome := do
  pure (.error (.operation op (← ctl).machine.state requested e))

/-- Starts charging on the operator's request. -/
def startCharging : Act Outcome := do
  let op := "start charging"
  let c ← ctl
  if c.shutDown then return ← opFailure op .charging .shutDown
  if !c.sessionEnabled then
    note .warn "Cannot start charging: session disabled"
    return ← opFailure op .charging .disabled
  if let .error e ← request .startCharging "operator request" then
    return ← opFailure op .charging e
  if let .error e ← setRelay true then
    noteFailure .error "Failed to leave charging after relay failure"
      (← request .stopCharging "relay energize failed")
    return ← opFailure op .charging e
  note .info s!"Charging started, session {(← ctl).sessionId}"
  pure (.ok ())

/-- Stops charging on the operator's request. -/
def stopCharging : Act Outcome := do
  match ← stopSession "operator request" with
  | .error e => opFailure "stop charging" .idle e
  | .ok () => pure (.ok ())

/-- Pauses charging. -/
def pauseCharging : Act Outcome := do
  match ← request .pauseCharging "operator request" with
  | .error e => opFailure "pause charging" .ready e
  | .ok () => pure (.ok ())

/-- Resumes charging; sessions must be enabled. -/
def resumeCharging : Act Outcome := do
  let op := "resume charging"
  if !(← ctl).sessionEnabled then return ← opFailure op .charging .disabled
  match ← request .resumeCharging "operator request" with
  | .error e => opFailure op .charging e
  | .ok () => pure (.ok ())

/-- Leaves error and clears every present fault, in the order the plant ranges over them. -/
def reset : Act Outcome := do
  match ← request .reset "reset" with
  | .error e => opFailure "reset" .idle e
  | .ok () =>
    for f in (← read).faultOrder.faults do
      if (← ctl).hasFault f then reportFault f false
    pure (.ok ())

def enable : Act Unit := enableSessions "operator"

def disable : Act Unit := disableSessions "operator"

/-- Sets the relay on request; closing it needs an enabled session. -/
def switchRelay (on : Bool) : Act Outcome := do
  if on && !(← ctl).sessionEnabled then return .error .disabled
  setRelay on

/-- Runs an operator command word; case and surrounding blanks do not matter. -/
def command (text : String) : Act Outcome := do
  let word := Text.lower (Text.trimBlanks text)
  note .debug s!"Handling operator command: {word}"
  match word with
  | "start" => startCharging
  | "stop" => stopCharging
  | "pause" => pauseCharging
  | "resume" => resumeCharging
  | "enable" => do enable; pure (.ok ())
  | "disable" => do disable; pure (.ok ())
  | "reset" => reset
  | "relay:on" => switchRelay true
  | "relay:off" => switchRelay false
  | _ => pure (.error (.plant s!"invalid command: {Text.quote text}"))

/-- A press of a button toggles the session switch; a release does nothing. -/
def button (channel : String) (pressed : Bool) : Act Outcome := do
  if !pressed then return .ok ()
  if (← ctl).shutDown then return .error .shutDown
  note .info s!"Button {channel} pressed"
  if (← ctl).sessionEnabled then disableSessions "button" else enableSessions "button"
  publish
  pure (.ok ())

end Evse.Control
