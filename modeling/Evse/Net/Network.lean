import Evse.Net.Udp
/-!
Named transports on one host; ports for binds to port 0 are handed out from 32768.
-/
namespace Evse.Net

/-- Transports by name on one host. -/
structure Network where
  host : Host
  transports : List (String × Transport) := []
  /-- The port the next bind to port 0 takes. -/
  nextPort : Nat := 32768
  /-- The time of the network, in milliseconds. -/
  now : Nat := 0
  /-- Log notes of the transports, oldest first. -/
  notes : List Note := []

namespace Network

/-- The transport of a name. -/
def find (n : Network) (name : String) : Option Transport :=
  n.transports.lookup name

/-- Puts a transport under a name, replacing one of that name. -/
def put (n : Network) (name : String) (t : Transport) : Network :=
  { n with transports := (n.transports.filter (·.1 != name)) ++ [(name, t)] }

/-- Replaces the transport of a name by a function of it. -/
def modify (n : Network) (name : String) (f : Transport → Transport) : Network :=
  { n with transports := n.transports.map fun (k, t) => if k == name then (k, f t) else (k, t) }

/-- Adds a transport. -/
def add (n : Network) (name listen peer : String) (handler : Bool) : Network :=
  n.put name { listen, peer, handler }

/-- Connects a named transport. -/
def connect (n : Network) (name : String) : Network × Option Failure :=
  match n.find name with
  | none => (n, none)
  | some t =>
    let (r, notes) := t.connect n.host n.nextPort
    let n := { n with notes := n.notes ++ notes }
    match r with
    | Except.ok t' =>
      let used := t.socket.isNone && (t'.localAddr.map (·.port)) == some n.nextPort
      ({ n.put name t' with nextPort := if used then n.nextPort + 1 else n.nextPort }, none)
    | Except.error e => (n, some e)

/-- Disconnects a named transport. -/
def disconnect (n : Network) (name : String) : Network :=
  match n.find name with
  | none => n
  | some t =>
    let (t, notes) := t.disconnect
    { n.put name t with notes := n.notes ++ notes }

/-- Turns a transport's handler on or off. -/
def setHandler (n : Network) (name : String) (on : Bool) : Network :=
  n.modify name fun t => { t with handler := on }

/-- The name of the transport that receives a datagram sent to an endpoint. -/
def receiver (n : Network) (dest : Endpoint) : Option String :=
  (n.transports.filter fun (_, t) =>
    match t.socket with
    | some s => accepts s.bound dest
    | none => false).getLast?.map (·.1)

/-- Sends a datagram from a named transport to its peer. -/
def send (n : Network) (name : String) (bytes : List UInt8) : Network × Option Failure :=
  match n.find name with
  | none => (n, none)
  | some t =>
    match t.send n.host bytes.length, t.socket with
    | .error e, _ => (n, some e)
    | .ok dest, some s =>
      match n.receiver dest with
      | none => (n, none)
      | some r =>
        match n.find r with
        | none => (n, none)
        | some rt =>
          let (rt, notes) := rt.receive n.now s.bound bytes
          ({ n.put r rt with notes := n.notes ++ notes }, none)
    | .ok _, none => (n, none)

/-- Takes what a named transport's handler received. -/
def take (n : Network) (name : String) : List (List UInt8) × Network :=
  match n.find name with
  | none => ([], n)
  | some t =>
    let (got, t) := t.take
    (got, n.put name t)

/-- Sends `count` two-byte datagrams from one transport, stopping at the first failure. -/
def sendMany (name : String) : Nat → Nat → Network → Network × Option Failure
  | 0, _, n => (n, none)
  | k + 1, i, n =>
    match n.send name [UInt8.ofNat i, UInt8.ofNat (i / 256)] with
    | (n, some e) => (n, some e)
    | (n, none) => sendMany name k (i + 1) n

/-- A burst of `count` datagrams from one transport to another: the first failure, how many
the receiver got or dropped, and whether it dropped any. -/
def burst (n : Network) (name target : String) (count : Nat) : Network × Option Failure × Nat × Bool :=
  let before := (n.find target).map fun t => (t.received.length, t.dropped)
  let (n, err) := sendMany name count 0 n
  let after := (n.find target).map fun t => (t.received.length, t.dropped)
  match before, after with
  | some (r0, d0), some (r1, d1) => (n, err, (r1 - r0) + (d1 - d0), d1 > d0)
  | _, _ => (n, err, 0, false)

end Network

end Evse.Net
