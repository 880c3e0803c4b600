import Evse.Simulator.Peer
import Evse.Net.Udp
import Evse.Log.Logger
/-!
A run of the bench simulator against its clock and input lines.
-/
namespace Evse.Simulator

/-- How a run is started. -/
structure Options where
  listen : String
  peer : String
  /-- Nanoseconds between state messages; positive. -/
  interval : Nat
  level : Log.Verbosity
  /-- The time text log lines carry. -/
  stamp : String
  host : Net.Host

/-- A run of the simulator. -/
structure Session where
  options : Options
  peer : Peer := {}
  transport : Net.Transport
  /-- Nanoseconds since the ticker started. -/
  clock : Nat := 0
  /-- What was printed and not yet taken. -/
  printed : String := ""
  /-- The exit code, once the run ended. -/
  exit : Option Nat := none
  /-- Datagrams that left for the peer and were not yet taken, oldest first. -/
  sent : List (List UInt8) := []

namespace Session

/-- The run's logger under a tag. -/
def logger (s : Session) (tag : String) : Log.Logger :=
  (Log.Logger.create s.options.level ⟨true, some s.options.stamp⟩ false).tagged tag

/-- Prints text. -/
def say (s : Session) (text : String) : Session :=
  { s with printed := s.printed ++ text }

/-- Logs a message under a tag. -/
def log (s : Session) (tag : String) (sev : Log.Severity) (text : String) : Session :=
  match (s.logger tag).line? sev text with
  | some line => s.say (line ++ "\n")
  | none => s

/-- Logs transport notes. -/
def logNotes (s : Session) (notes : List Net.Note) : Session :=
  notes.foldl (fun s (sev, text) => s.log "UDP" sev text) s

/-- Starts a run. -/
def start (o : Options) : Session :=
  let t : Net.Transport := { listen := o.listen, peer := o.peer }
  let s : Session := { options := o, transport := t }
  match Net.Transport.connect o.host Net.freePort t with
  | (.error e, notes) => { (s.logNotes notes).log "" .fatal e.message with exit := some 1 }
  | (.ok t, notes) =>
    ({ s with transport := t }.logNotes notes).say
      ("Peer simulator sending to " ++ o.peer ++ ", listening on " ++ o.listen ++ "\n" ++ help ++ "> ")

/-- Whether the run is still going. -/
def running (s : Session) : Bool := s.exit.isNone

/-- Sends a datagram to the peer. -/
def send (s : Session) (bytes : List UInt8) : Session × Option Net.Failure :=
  match s.transport.send s.options.host bytes.length with
  | .error e => (s, some e)
  | .ok _ => ({ s with sent := s.sent ++ [bytes] }, none)

/-- One tick: the state message goes out, or the failure is logged. -/
def tick (s : Session) : Session :=
  match s.send s.peer.stateMessage with
  | (s, some e) => s.log "" .warn ("Failed to send state: " ++ e.message)
  | (s, none) => s

/-- Runs `n` ticks. -/
def ticks : Nat → Session → Session
  | 0, s => s
  | n + 1, s => ticks n s.tick

/-- How many ticks fall in the next `d` nanoseconds. -/
def ticksWithin (s : Session) (d : Nat) : Nat :=
  (s.clock + d) / s.options.interval - s.clock / s.options.interval

/-- Lets `d` nanoseconds pass. -/
def advance (s : Session) (d : Nat) : Session :=
  let s' := if s.running then ticks (s.ticksWithin d) s else s
  { s' with clock := s.clock + d }

/-- Stops the run with a last text: the transport closes and the run exits with 0. -/
def stop (s : Session) (text : String) : Session :=
  let s := s.say text
  let (t, notes) := s.transport.disconnect
  { ({ s with transport := t }).logNotes notes with exit := some 0 }

/-- Answers an input line. -/
def line (s : Session) (text : String) : Session :=
  if !s.running then s
  else
    let (p, out, req) := s.peer.execute text
    let s := ({ s with peer := p }).say out
    match req with
    | .none => s.say "> "
    | .quit => s.stop "Simulator stopped.\n"
    | .sendPilot bytes done =>
      match s.send bytes with
      | (s, some e) => (s.say ("[ERR] " ++ e.message ++ "\n")).say "> "
      | (s, none) => (s.say done).say "> "

/-- Takes a datagram sent to the simulator, when the host can deliver it. -/
def offer (s : Session) (bytes : List UInt8) : Session :=
  if !s.running || !s.options.host.routed || s.transport.socket.isNone then s
  else
    let source : Net.Endpoint := (s.transport.socket.map (·.peer)).getD { ip := none, port := 0 }
    let (t, notes) := s.transport.receive (s.clock / 1000000) source bytes
    let (got, t) := t.take
    let s := ({ s with transport := t }).logNotes notes
    got.foldl (fun s b =>
      let (p, out, why) := s.peer.handle b
      let s := ({ s with peer := p }).say out
      match why with
      | some w => s.log "Simulator" .debug w
      | none => s) s

/-- Ends the input, or interrupts the run. -/
def close (s : Session) (interrupt : Bool) : Session :=
  if !s.running then s
  else s.stop (if interrupt then "\nSimulator stopped.\n" else "Simulator stopped.\n")

/-- Takes what was printed. -/
def take (s : Session) : String × Session :=
  (s.printed, { s with printed := "" })

/-- The first datagram of a size among those sent, with the ones after it. -/
def firstOfSize (size : Nat) : List (List UInt8) → Option (List UInt8 × List (List UInt8))
  | [] => none
  | d :: rest => if d.length = size then some (d, rest) else firstOfSize size rest

/-- The first datagram of a size that then comes `same` times in a row. -/
def steady (size same : Nat) (ds : List (List UInt8)) : Option (List UInt8) :=
  let states := ds.filter (·.length = size)
  let rec go : List (List UInt8) → Option (List UInt8)
    | [] => none
    | d :: rest =>
      if (d :: rest).length ≥ same && ((d :: rest).take same).all (· == d) then some d else go rest
  go states

/-- Waits tick by tick, at most `n` ticks, until `found` sees what it waits for in the
datagrams sent. -/
def waitFor (found : List (List UInt8) → Option (List UInt8)) :
    Nat → Session → Option (List UInt8) × Session
  | 0, s => (none, s)
  | n + 1, s =>
    let s := s.advance (s.options.interval - s.clock % s.options.interval)
    match found s.sent with
    | some d => (some d, s)
    | none => waitFor found n s

/-- Waits up to `same` seconds for a state message to come `same` times in a row. -/
def awaitState (s : Session) (same : Nat) : Option (List UInt8) × Session :=
  let s := { s with sent := [] }
  let window := same * 1000000000
  let (d, s') := waitFor (steady (Wire.stateSize + Wire.hardwareSize) same) (s.ticksWithin window) s
  match d with
  | some d => (some d, s')
  | none => (none, s'.advance (s.clock + window - s'.clock))

/-- Waits up to a second for the next pilot message. -/
def awaitPilot (s : Session) : Option (List UInt8) × Session :=
  match firstOfSize 2 s.sent with
  | some (d, rest) => (some d, { s with sent := rest })
  | none =>
    let window := 1000000000
    let s' := s.advance window
    match firstOfSize 2 s'.sent with
    | some (d, rest) => (some d, { s' with sent := rest })
    | none => (none, s')

end Session

end Evse.Simulator
