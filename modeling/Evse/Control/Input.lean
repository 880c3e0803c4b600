import Evse.Control.Operator
import Evse.Control.Peer
import Evse.Control.Lifecycle
/-!
The inputs a controller takes, and one step of a controller on a plant.
-/
namespace Evse.Control

/-- Something that happens to a controller. -/
inductive Input where
  | startUp
  | startCharging
  | stopCharging
  | pauseCharging
  | resumeCharging
  | reset
  | enable
  | disable
  | relay (on : Bool)
  | command (text : String)
  | button (channel : String) (pressed : Bool)
  | tick
  | message (bytes : List UInt8)
  | pilotStart
  | pilotStop
  | pilotSample (probe : Pilot.Probe) (reading : Except String Int)
  | shutdown
  | run (stop : RunEnd)
deriving Repr

/-- The action an input starts. -/
def Input.act : Input → Act Outcome
  | startUp => Control.startUp
  | startCharging => Control.startCharging
  | stopCharging => Control.stopCharging
  | pauseCharging => Control.pauseCharging
  | resumeCharging => Control.resumeCharging
  | reset => Control.reset
  | enable => do Control.enable; pure (.ok ())
  | disable => do Control.disable; pure (.ok ())
  | relay on => switchRelay on
  | command text => Control.command text
  | button channel pressed => Control.button channel pressed
  | tick => Control.tick
  | message bytes => handleMessage bytes
  | pilotStart => Control.pilotStart
  | pilotStop => do Control.pilotStop; pure (.ok ())
  | pilotSample probe reading => do Control.pilotSample probe reading; pure (.ok ())
  | shutdown => do Control.shutdown; pure (.ok ())
  | run stop => Control.run stop

/-- One step: the world after the input, and its outcome. -/
def step (p : Plant) (w : World) (i : Input) : World × Outcome :=
  let (r, w') := (i.act.run p).run w
  (w', r)

/-- Subscribes another listener to the controller's machine. -/
def Controller.subscribe (c : Controller) : Controller × Nat :=
  let (m, id) := c.machine.subscribe
  ({ c with machine := m }, id)

/-- Removes a listener from the controller's machine. -/
def Controller.unsubscribe (c : Controller) (id : Nat) : Controller :=
  { c with machine := c.machine.unsubscribe id }

end Evse.Control
