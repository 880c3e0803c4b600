import Evse.Charging.State
/-!
The charging-state machine: requests become routes along a fixed table, walked one step at a
time with the listeners told in subscription order; the first refusal stops the walk.
-/
namespace Evse

namespace ChargingState

/-- The states that may follow a state. Error follows every state but itself, and only
idle and off follow error. -/
def successors : ChargingState → List ChargingState
  | off => [idle, error]
  | idle => [connected, off, error]
  | connected => [identification, idle, error]
  | identification => [ready, idle, error]
  | ready => [charging, stop, idle, error]
  | charging => [ready, stop, error]
  | stop => [finished, error]
  | finished => [idle, error]
  | error => [idle, off]

/-- An edge of the transition table. -/
def canStep (a b : ChargingState) : Bool :=
  a.successors.contains b

end ChargingState

/-- Whether a step between two state bytes is an edge of the table; a byte that names no
state has no edges. -/
def validTransition (a b : UInt8) : Bool :=
  match ChargingState.ofCode? a, ChargingState.ofCode? b with
  | some s, some t => s.canStep t
  | _, _ => false

/-- A request the table refuses: the operation, where the machine was, and the byte of the
state it was asked to reach. -/
structure TransitionError where
  op : String
  source : ChargingState
  target : UInt8
deriving DecidableEq, Repr

def TransitionError.message (e : TransitionError) : String :=
  let core := s!"invalid state transition {e.source.name} -> {ChargingState.nameOfCode e.target}"
  if e.op.isEmpty then core else e.op ++ ": " ++ core

/-- What may be asked of the machine. -/
inductive Request where
  /-- Move to the state of a byte; moving to the current state does nothing. -/
  | moveTo (target : UInt8)
  /-- Walk on along idle, connected, identification, ready to charging. -/
  | startCharging
  /-- Walk stop, finished, idle from charging or ready. -/
  | stopCharging
  /-- Charging back to ready. -/
  | pauseCharging
  /-- Ready on to charging. -/
  | resumeCharging
  /-- Move to error from anywhere. -/
  | enterError
  /-- Leave error for idle. -/
  | reset
deriving DecidableEq, Repr

open ChargingState in
/-- The path a start walks along. -/
def startPath : List ChargingState := [idle, connected, identification, ready, charging]

open ChargingState in
/-- The path a stop walks along. -/
def stopPath : List ChargingState := [stop, finished, idle]

/-- The rest of the start path after a state on it, charging itself excluded. -/
def startRest : List ChargingState → ChargingState → Option (List ChargingState)
  | [], _ => none
  | [_], _ => none
  | s :: rest, here => if s = here then some rest else startRest rest here

/-- The route of a single move: nothing to the current state, one edge of the table, or a
refusal. -/
def moveRoute (target : UInt8) (s : ChargingState) : Except TransitionError (List ChargingState) :=
  if target = s.code then .ok []
  else match ChargingState.ofCode? target with
    | some t => if s.canStep t then .ok [t] else .error ⟨"", s, target⟩
    | none => .error ⟨"", s, target⟩

/-- The states a request walks through from a state, or why the table refuses it. -/
def Request.route : Request → ChargingState → Except TransitionError (List ChargingState)
  | moveTo target, s => moveRoute target s
  | startCharging, s =>
    match startRest startPath s with
    | some rest => .ok rest
    | none => .error ⟨"start charging", s, ChargingState.charging.code⟩
  | stopCharging, s =>
    if s = .charging ∨ s = .ready then .ok stopPath
    else .error ⟨"stop charging", s, ChargingState.stop.code⟩
  | pauseCharging, s =>
    if s = .charging then .ok [.ready] else .error ⟨"pause charging", s, ChargingState.ready.code⟩
  | resumeCharging, s =>
    if s = .ready then .ok [.charging]
    else .error ⟨"resume charging", s, ChargingState.charging.code⟩
  | enterError, s => moveRoute ChargingState.error.code s
  | reset, s =>
    if s = .error then .ok [.idle] else .error ⟨"reset", s, ChargingState.idle.code⟩

/-- One notification: listener `listener` hears of the step `source -> target`. -/
structure Notice where
  listener : Nat
  source : ChargingState
  target : ChargingState
  reason : String
deriving DecidableEq, Repr

/-- Why a request failed. -/
inductive MachineError where
  /-- The table refused the request; the machine did not move. -/
  | invalid (e : TransitionError)
  /-- A listener refused the step `source -> target`, which was taken. -/
  | refused (source target : ChargingState) (cause : String)
deriving DecidableEq, Repr

def MachineError.message : MachineError → String
  | invalid e => e.message
  | refused a b cause => s!"state listener failed on {a.name} -> {b.name}: {cause}"

/-- The current state with the subscribed listeners, in subscription order. -/
structure Machine where
  state : ChargingState
  listeners : List Nat
  lastId : Nat
deriving DecidableEq, Repr

namespace Machine

/-- A new machine is idle with no listeners. -/
def initial : Machine := ⟨.idle, [], 0⟩

/-- Adds a listener at the end; ids count up from 1. -/
def subscribe (m : Machine) : Machine × Nat :=
  ({ m with listeners := m.listeners ++ [m.lastId + 1], lastId := m.lastId + 1 }, m.lastId + 1)

/-- Removes a listener; an unknown id changes nothing. -/
def unsubscribe (m : Machine) (id : Nat) : Machine :=
  { m with listeners := m.listeners.erase id }

/-- Whether a move to the state of a byte would succeed. -/
def canMoveTo (m : Machine) (target : UInt8) : Bool :=
  target == m.state.code || validTransition m.state.code target

section Walk

variable {σ : Type} (hear : Notice → σ → σ × Option String)

/-- Tells listeners in order of one step; the first refusal stops the rest. -/
def tell (source target : ChargingState) (reason : String) :
    List Nat → σ → σ × Option String
  | [], s => (s, none)
  | id :: rest, s =>
    match hear ⟨id, source, target, reason⟩ s with
    | (s', some cause) => (s', some cause)
    | (s', none) => tell source target reason rest s'

/-- Takes the steps of a route, telling the listeners after each; a refusal leaves the
machine in the state just reached. -/
def walk (reason : String) : Machine → List ChargingState → σ → Machine × σ × Except MachineError Unit
  | m, [], s => (m, s, .ok ())
  | m, t :: rest, s =>
    let m' := { m with state := t }
    match tell hear m.state t reason m.listeners s with
    | (s', some cause) => (m', s', .error (.refused m.state t cause))
    | (s', none) => walk reason m' rest s'

/-- Carries out a request. -/
def perform (m : Machine) (req : Request) (reason : String) (s : σ) :
    Machine × σ × Except MachineError Unit :=
  match req.route m.state with
  | .error e => (m, s, .error (.invalid e))
  | .ok path => walk hear reason m path s

end Walk

end Machine

end Evse
