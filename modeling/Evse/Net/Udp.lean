import Evse.Net.Address
import Evse.Log.Level
/-!
Datagram transports: binding, sending on hosts with and without routes, and the texts of their
failures.
-/
namespace Evse.Net

/-- Why a transport operation failed. -/
inductive Failure where
  | notConnected
  | resolvePeer (peer why : String)
  | listen (addr why : String)
  | send (peer why : String)
deriving DecidableEq, Repr

/-- The text of a failure. -/
def Failure.message : Failure → String
  | .notConnected => "transport not connected"
  | .resolvePeer p w => "failed to resolve peer " ++ p ++ ": " ++ w
  | .listen a w => "failed to listen on " ++ a ++ ": " ++ w
  | .send p w => "failed to send to " ++ p ++ ": " ++ w

/-- The host the transports run on. -/
structure Host where
  /-- Whether datagrams find a route; without one every valid send is unreachable. -/
  routed : Bool
  /-- Whether ports below 1024 may be bound. -/
  privileged : Bool
deriving DecidableEq, Repr

/-- A host with no route anywhere, as a service sandboxed without a network runs on. -/
def Host.isolated : Host := ⟨false, false⟩

/-- The largest datagram handed to a handler. -/
def maxDatagram : Nat := 1500

/-- The token bucket: capacity and refill, in thousandths of a datagram (refill per
millisecond). -/
def bucketSize : Nat := 50 * 1000
def refillPerMs : Nat := 200

/-- The port a bind to port 0 takes first. -/
def freePort : Nat := 32768

/-- A bound socket. -/
structure Socket where
  /-- The endpoint the socket is bound to. -/
  bound : Endpoint
  /-- Whether the socket is IPv6 (also carrying IPv4 when bound to the wildcard). -/
  wide : Bool
  /-- The resolved peer. -/
  peer : Endpoint
deriving DecidableEq, Repr

/-- A transport and what its receiving side has seen. -/
structure Transport where
  listen : String
  peer : String
  handler : Bool := true
  socket : Option Socket := none
  /-- Tokens of the inbound bucket, in thousandths. -/
  tokens : Nat := bucketSize
  /-- When the bucket was last refilled, in milliseconds. -/
  refilled : Nat := 0
  /-- Datagrams dropped by the bucket. -/
  dropped : Nat := 0
  /-- Datagrams handed to the handler and not yet taken, oldest first. -/
  received : List (List UInt8) := []
deriving Inhabited

/-- A log note of a transport. -/
abbrev Note := Log.Severity × String

/-- The local endpoint of a connected transport. -/
def Transport.localAddr (t : Transport) : Option Endpoint :=
  t.socket.map (·.bound)

/-- Whether an endpoint can be bound on the host. -/
def bindable (e : Endpoint) : Bool :=
  match e.ip with
  | none => true
  | some ip => ip.isUnspecified || ip.isLoopback

/-- Binds a socket of a network (`udp` or `tcp`) for a listen address, taking `free` when
the port is 0. -/
def bind (h : Host) (network listen : String) (free : Nat) : Except String (Endpoint × Bool) := do
  let e ← (resolve listen).mapError (("listen " ++ network ++ ": ") ++ ·)
  let wildcard := match e.ip with
    | none => true
    | some ip => ip.isUnspecified
  let wide := wildcard || match e.ip with
    | some (.v6 _) => true
    | _ => false
  let bound : Endpoint := if wildcard then { ip := some (.v6 (List.replicate 8 0)), port := e.port } else e
  if 0 < e.port && e.port < 1024 && !h.privileged then
    throw ("listen " ++ network ++ " " ++ e.text ++ ": bind: permission denied")
  if !bindable e then
    throw ("listen " ++ network ++ " " ++ e.text ++ ": bind: cannot assign requested address")
  pure ({ bound with port := if e.port = 0 then free else e.port }, wide)

/-- Connects a transport; `free` is the port a bind to port 0 takes. -/
def Transport.connect (h : Host) (free : Nat) (t : Transport) :
    Except Failure Transport × List Note :=
  match t.socket with
  | some _ => (.ok t, [])
  | none =>
    match resolve t.peer with
    | .error why => (.error (.resolvePeer t.peer why), [])
    | .ok peer =>
      match bind h "udp" t.listen free with
      | .error why => (.error (.listen t.listen why), [])
      | .ok (bound, wide) =>
        (.ok { t with socket := some ⟨bound, wide, peer⟩ },
          [(.info, "Listening on " ++ bound.text ++ ", peer " ++ peer.text)])

/-- Closes a transport's socket. -/
def Transport.disconnect (t : Transport) : Transport × List Note :=
  match t.socket with
  | none => (t, [])
  | some _ => ({ t with socket := none }, [(.info, "Transport closed")])

/-- Why the host refuses a datagram from a socket, or none when it goes out. -/
def refusal (h : Host) (s : Socket) (size : Nat) : Option String :=
  let dest := s.peer
  let familyOk := s.wide || match dest.ip with
    | some (.v6 _) => false
    | _ => true
  if !familyOk then
    some (addressError ((dest.ip.map Ip.text).getD "") "non-IPv4 address")
  else if size > 65535 then some "sendto: message too long"
  else if dest.port = 0 then some "sendto: invalid argument"
  else if !h.routed then some "sendto: network is unreachable"
  else if size > 65507 then some "sendto: message too long"
  else none

/-- Sends a datagram of a size to the transport's peer: the endpoint it leaves for, or why
it cannot. -/
def Transport.send (h : Host) (t : Transport) (size : Nat) : Except Failure Endpoint :=
  match t.socket with
  | none => .error .notConnected
  | some s =>
    match refusal h s size with
    | some why => .error (.send s.peer.text ("write udp " ++ s.bound.text ++ "->" ++ s.peer.text ++ ": " ++ why))
    | none => .ok s.peer

/-- Whether a socket bound at `bound` receives datagrams sent to `dest`. -/
def accepts (bound dest : Endpoint) : Bool :=
  bound.port == dest.port &&
    match bound.ip, dest.ip with
    | some b, some d => b == d || b.isUnspecified
    | some b, none => b.isUnspecified
    | none, _ => true

/-- Receives a datagram at time `now`: the bucket refills, then lets it through or drops
it; a datagram let through reaches the handler cut to the largest size. -/
def Transport.receive (now : Nat) (source : Endpoint) (bytes : List UInt8) (t : Transport) :
    Transport × List Note :=
  let tokens := min bucketSize (t.tokens + (now - t.refilled) * refillPerMs)
  let t := { t with tokens, refilled := max now t.refilled }
  if tokens < 1000 then
    let notes := if t.dropped = 0 then
      [(Log.Severity.warn, "Inbound rate exceeded, dropping datagrams from " ++ source.text)] else []
    ({ t with dropped := t.dropped + 1 }, notes)
  else
    let t := { t with tokens := tokens - 1000 }
    if t.handler then ({ t with received := t.received ++ [bytes.take maxDatagram] }, [])
    else (t, [])

/-- Takes the datagrams the handler received. -/
def Transport.take (t : Transport) : List (List UInt8) × Transport :=
  (t.received, { t with received := [] })

end Evse.Net
