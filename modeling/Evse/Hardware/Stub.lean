import Evse.Hardware.Lines
/-!
A simulated board with its outputs, inputs and input callbacks.
-/
namespace Evse.Hardware

/-- The state of a simulated board. -/
structure Stub where
  outputs : List (String × Bool)
  inputs : List (String × Bool)
  /-- Inputs with a registered callback. -/
  watched : List String
deriving DecidableEq, Repr

namespace Stub

def new : Stub :=
  ⟨Hardware.outputs.map (·, false), [(pilot, true), (button, false)], []⟩

/-- Reads an input line. -/
def read (s : Stub) (channel : String) : Except String Bool :=
  match s.inputs.lookup channel with
  | some v => .ok v
  | none => .error (unknownInput channel)

/-- The level of an output line; an unknown line reads low. -/
def output (s : Stub) (channel : String) : Bool :=
  (s.outputs.lookup channel).getD false

/-- Writes an output line; answers whether its level changed. -/
def write (s : Stub) (channel : String) (value : Bool) : Except String (Stub × Bool) :=
  match s.outputs.lookup channel with
  | none => .error (unknownOutput channel)
  | some old =>
    .ok ({ s with outputs := s.outputs.map fun (k, v) => if k = channel then (k, value) else (k, v) },
      old != value)

/-- Sets an input line; answers whether a registered callback is due. -/
def setInput (s : Stub) (channel : String) (value : Bool) : Stub × Bool :=
  let old := s.inputs.lookup channel
  let inputs := match old with
    | some _ => s.inputs.map fun (k, v) => if k = channel then (k, value) else (k, v)
    | none => s.inputs ++ [(channel, value)]
  ({ s with inputs := inputs }, old != some value && s.watched.contains channel)

/-- Registers a callback on an input. -/
def watch (s : Stub) (channel : String) : Stub :=
  if s.watched.contains channel then s else { s with watched := s.watched ++ [channel] }

/-- Drives every output low. -/
def cleanup (s : Stub) : Stub :=
  { s with outputs := s.outputs.map fun (k, _) => (k, false) }

end Stub

/-- The pilot level of a digital input: high is 12000 mV, low 6000 mV. -/
def digitalLevel (reading : Except String Bool) : Except String Int :=
  reading.map fun high => if high then 12000 else 6000

end Evse.Hardware
