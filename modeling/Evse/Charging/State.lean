/-!
Charging states of a supply point and their codes on the wire.
-/
namespace Evse

/-- The phase of a charging session, in wire order. -/
inductive ChargingState where
  | off
  | idle
  | connected
  | identification
  | ready
  | charging
  | stop
  | finished
  | error
deriving DecidableEq, Repr, Inhabited

namespace ChargingState

/-- Every state, in wire order. -/
def all : List ChargingState :=
  [off, idle, connected, identification, ready, charging, stop, finished, error]

/-- The wire byte of a state. -/
def code : ChargingState → UInt8
  | off => 0
  | idle => 1
  | connected => 2
  | identification => 3
  | ready => 4
  | charging => 5
  | stop => 6
  | finished => 7
  | error => 8

/-- The state a wire byte names, if any. -/
def ofCode? (c : UInt8) : Option ChargingState :=
  all.find? (·.code == c)

/-- The lowercase name of a state. -/
def name : ChargingState → String
  | off => "off"
  | idle => "idle"
  | connected => "connected"
  | identification => "identification"
  | ready => "ready"
  | charging => "charging"
  | stop => "stop"
  | finished => "finished"
  | error => "error"

/-- The name of a wire byte; a byte that names no state reads `<undefined>`. -/
def nameOfCode (c : UInt8) : String :=
  match ofCode? c with
  | some s => s.name
  | none => "<undefined>"

/-- A byte names a state exactly when it is at most the code of `error`. -/
def validCode (c : UInt8) : Bool :=
  c ≤ 8

/-- A session is active while ready or charging. -/
def isActive (s : ChargingState) : Bool :=
  s == charging || s == ready

@[simp] theorem ofCode?_code (s : ChargingState) : ofCode? s.code = some s := by
  cases s <;> rfl

theorem code_injective {s t : ChargingState} (h : s.code = t.code) : s = t := by
  have := ofCode?_code s
  rw [h, ofCode?_code] at this
  exact (Option.some.inj this).symm

@[simp] theorem nameOfCode_code (s : ChargingState) : nameOfCode s.code = s.name := by
  simp [nameOfCode]

end ChargingState

end Evse
