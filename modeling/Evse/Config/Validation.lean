import Evse.Config.Basic
/-!
Validation as it runs: the single checks, then one pass over the six pins in the order the
table hands them out.
-/
namespace Evse.Configuration

/-- What the pass over the pins reports about one line. -/
inductive PinReport where
  | negative (line : String)
  /-- The pin, the line that took it last and the line taking it now. -/
  | both (pin : Int) (earlier later : String)
deriving DecidableEq, Repr

def PinReport.message : PinReport → String
  | .negative l => (Problem.negativePin l).message
  | .both p a b => s!"pin {p} assigned to both {a} and {b}"

/-- The pass over the pins in the order visited; `seen` holds each pin taken so far with the
line that took it, the newest first. -/
def pinPass (seen : List (Int × String)) : List (String × Int) → List PinReport
  | [] => []
  | (line, pin) :: rest =>
    if pin < 0 then .negative line :: pinPass seen rest
    else
      let later := pinPass ((pin, line) :: seen) rest
      match seen.lookup pin with
      | some earlier => .both pin earlier line :: later
      | none => later

namespace Config

/-- The single checks, in the order they run: the problem of each that fails. -/
def checks (c : Config) : List Problem :=
  (if c.mode == "development" || c.mode == "production" then [] else [Problem.mode c.mode]) ++
  (if c.driver == "stub" || c.driver == "gpiocdev" then [] else [.driver c.driver]) ++
  (if ["polling", "adc", "remote"].contains c.pilotSource then [] else [.source c.pilotSource]) ++
  (if c.pilotInterval ≤ 0 then [.pilotInterval] else []) ++
  (if c.tickInterval ≤ 0 then [.tickInterval] else []) ++
  (if c.peerTimeout < 0 then [.peerTimeout] else []) ++
  (if c.maxCurrent < 6 || c.maxCurrent > 80 then [.maxCurrent c.maxCurrent] else []) ++
  (if c.listenAddr.isEmpty || c.peerAddr.isEmpty then [.addresses] else [])

/-- The lines of the validation error when the pins are visited in `order`, a reordering of
`pins`. -/
def violations (c : Config) (order : List (String × Int)) : List String :=
  c.checks.map Problem.message ++ (pinPass [] order).map PinReport.message

/-- Validation with the pins visited in `order`: nothing, or the error text. -/
def validate (c : Config) (order : List (String × Int)) : Option String :=
  match c.violations order with
  | [] => none
  | lines => some ("invalid configuration: " ++ "\n".intercalate lines)

end Config

end Evse.Configuration
