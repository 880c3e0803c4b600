import Evse.Net.Udp
/-!
The client of the operator store, whose exchanges under a deadline time out on a host without
routes.
-/
namespace Evse.Store

/-- The text of a closed client's failures. -/
def closedText : String := "redis: client is closed"

/-- The client. -/
structure Client where
  /-- The server's address. -/
  addr : String
  /-- Whether a command callback is registered. -/
  callback : Bool := true
  closed : Bool := false
  listening : Bool := false
deriving DecidableEq, Repr

namespace Client

/-- Why an exchange under a deadline fails, when it does. -/
def exchangeFault (h : Net.Host) (c : Client) : Option String :=
  if c.closed then some closedText
  else if !h.routed then some "context deadline exceeded"
  else none

/-- Connects: the server must answer a ping. -/
def connect (h : Net.Host) (c : Client) : Except String Unit :=
  let fail := fun (why : String) => Except.error ("redis connection failed: " ++ why)
  if c.closed then fail closedText
  else
    match Net.resolve c.addr with
    | .error why => fail ("dial tcp: " ++ why)
    | .ok e =>
      if !h.routed then fail ("dial tcp " ++ e.text ++ ": connect: network is unreachable")
      else .ok ()

/-- Publishes a status. -/
def publish (h : Net.Host) (c : Client) : Except String Unit :=
  match c.exchangeFault h with
  | some why => .error ("failed to publish status: " ++ why)
  | none => .ok ()

/-- Reports a fault code as present or cleared. -/
def reportFault (h : Net.Host) (c : Client) (code : Int) : Except String Unit :=
  match c.exchangeFault h with
  | some why => .error (s!"failed to report fault {code}: " ++ why)
  | none => .ok ()

/-- Starts listening for operator commands. -/
def listen (c : Client) : Except String Client :=
  if !c.callback then .error "no command callback registered"
  else .ok { c with listening := true }

/-- Closes the client; closing a closed client fails. -/
def close (c : Client) : Client × Except String Unit :=
  if c.closed then (c, .error closedText)
  else ({ c with closed := true, listening := false }, .ok ())

end Client

end Evse.Store
