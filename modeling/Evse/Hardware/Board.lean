import Evse.Hardware.Stub
import Evse.Hardware.Host
/-!
The board a controller drives: the simulated one, or the host's GPIO chip, which never opens.
-/
namespace Evse.Hardware

/-- A board: the simulated one, or a GPIO chip with the lines' offsets. -/
inductive Board where
  | stub (s : Stub)
  | chip (pins : Pins)
deriving DecidableEq, Repr

namespace Board

/-- The board a driver name selects. -/
def select (driver : String) (pins : Pins) : Except String Board :=
  match driver with
  | "stub" => .ok (.stub .new)
  | "gpiocdev" => .ok (.chip pins)
  | other => .error s!"unknown hardware driver: {other}"

/-- The kind of board: `stub` or `linux`. -/
def kind : Board → String
  | stub _ => "stub"
  | chip _ => "linux"

/-- Prepares the board's lines. -/
def prepare : Board → Except String Unit
  | stub _ => .ok ()
  | chip p => .error s!"failed to open GPIO chip {p.chip}: {chipOpenError p.chip}"

/-- Reads an input line. -/
def read : Board → String → Except String Bool
  | stub s, channel => s.read channel
  | chip _, channel => .error (unknownInput channel)

/-- Writes an output line. -/
def write : Board → String → Bool → Except String Board
  | stub s, channel, value => (s.write channel value).map fun (s', _) => stub s'
  | chip _, channel, _ => .error (unknownOutput channel)

/-- Drives every output low. -/
def cleanup : Board → Board
  | stub s => stub s.cleanup
  | b => b

end Board

end Evse.Hardware
