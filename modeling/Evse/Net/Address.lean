import Evse.Text.Hex
/-!
Network addresses: IPv4 and IPv6 addresses, endpoints and the reading of `host:port` text.
-/
namespace Evse.Net

/-- An IP address. -/
inductive Ip where
  /-- An IPv4 address, most significant field first. -/
  | v4 (a b c d : Nat)
  /-- An IPv6 address as its eight 16-bit groups. -/
  | v6 (groups : List Nat)
deriving DecidableEq, Repr, Inhabited

namespace Ip

/-- The loopback address 127.0.0.1. -/
def loopback : Ip := .v4 127 0 0 1

/-- Whether the address is the unspecified one: 0.0.0.0 or `::`. -/
def isUnspecified : Ip → Bool
  | .v4 a b c d => a == 0 && b == 0 && c == 0 && d == 0
  | .v6 gs => gs.all (· == 0)

/-- Whether the address is a loopback address: 127.0.0.0/8 or `::1`. -/
def isLoopback : Ip → Bool
  | .v4 a _ _ _ => a == 127
  | .v6 gs => gs == [0, 0, 0, 0, 0, 0, 0, 1]

/-- The run of zero groups to write as `::`: its start and length, the first longest run of
at least two. -/
def zeroRun (gs : List Nat) : Option (Nat × Nat) :=
  let step (acc : Option (Nat × Nat) × Nat × Nat) (ig : Nat × Nat) :=
    let (best, start, len) := acc
    let (i, g) := ig
    if g == 0 then
      let start := if len == 0 then i else start
      let len := len + 1
      let best := match best with
        | some (_, bl) => if len > bl && len ≥ 2 then some (start, len) else best
        | none => if len ≥ 2 then some (start, len) else none
      (best, start, len)
    else (best, start, 0)
  (gs.zipIdx.map (fun (g, i) => (i, g)) |>.foldl step (none, 0, 0)).1

/-- A group in lowercase hexadecimal without leading zeros. -/
def groupText (g : Nat) : String :=
  String.ofList (Nat.toDigits 16 g)

/-- The text of an address. -/
def text : Ip → String
  | .v4 a b c d => s!"{a}.{b}.{c}.{d}"
  | .v6 gs =>
    match zeroRun gs with
    | none => ":".intercalate (gs.map groupText)
    | some (start, len) =>
      ":".intercalate ((gs.take start).map groupText) ++ "::" ++
        ":".intercalate ((gs.drop (start + len)).map groupText)

/-- The address an IPv6 address stands for: an IPv4-mapped address is the IPv4 address. -/
def ofGroups (gs : List Nat) : Ip :=
  match gs with
  | [0, 0, 0, 0, 0, 0xFFFF, hi, lo] => .v4 (hi / 256) (hi % 256) (lo / 256) (lo % 256)
  | _ => .v6 gs

end Ip

/-- Reads one decimal field of an IPv4 address. -/
def ipv4Field (cs : List Char) : Option Nat :=
  if cs.isEmpty || cs.length > 3 || !cs.all Char.isDigit then none
  else if cs.length > 1 && cs.head? == some '0' then none
  else
    let n := cs.foldl (fun n c => n * 10 + (c.toNat - 48)) 0
    if n ≤ 255 then some n else none

/-- Reads an IPv4 address as its four fields. -/
def parseIpv4Fields (s : String) : Option (List Nat) :=
  match s.splitOn "." with
  | [a, b, c, d] => [a, b, c, d].mapM fun f => ipv4Field f.toList
  | _ => none

/-- Reads one group of an IPv6 address. -/
def ipv6Group (s : String) : Option Nat :=
  let cs := s.toList
  if cs.isEmpty || cs.length > 4 then none
  else cs.foldlM (fun n c => (Hex.value? c).map (n * 16 + ·)) 0

/-- Reads the groups between colons, the last ones possibly an IPv4 address. -/
def ipv6Groups (parts : List String) : Option (List Nat) :=
  match parts.reverse with
  | [] => some []
  | last :: earlier =>
    if last.contains '.' then do
      let fs ← parseIpv4Fields last
      let front ← earlier.reverse.mapM ipv6Group
      match fs with
      | [a, b, c, d] => pure (front ++ [a * 256 + b, c * 256 + d])
      | _ => none
    else parts.mapM ipv6Group

/-- Reads an IPv6 address without its zone. -/
def parseIpv6 (s : String) : Option (List Nat) :=
  let pieces := s.splitOn "::"
  match pieces with
  | [whole] => do
    let gs ← ipv6Groups (whole.splitOn ":")
    if gs.length == 8 then some gs else none
  | [front, back] => do
    let fg ← if front.isEmpty then some [] else ipv6Groups (front.splitOn ":")
    let bg ← if back.isEmpty then some [] else ipv6Groups (back.splitOn ":")
    if fg.length + bg.length < 8 then some (fg ++ List.replicate (8 - fg.length - bg.length) 0 ++ bg)
    else none
  | _ => none

/-- Reads an IP address with its zone (empty when none); a zone belongs only to IPv6. -/
def parseIp (s : String) : Option (Ip × String) :=
  match s.toList.find? fun c => c = '.' || c = ':' || c = '%' with
  | some '.' => (parseIpv4Fields s).bind fun
      | [a, b, c, d] => some (.v4 a b c d, "")
      | _ => none
  | some ':' =>
    match s.splitOn "%" with
    | [addr] => (parseIpv6 addr).map fun gs => (Ip.ofGroups gs, "")
    | [addr, zone] =>
      if zone.isEmpty then none else (parseIpv6 addr).map fun gs => (Ip.ofGroups gs, zone)
    | _ => none
  | _ => none

/-- An endpoint: an address (none for the unspecified one), a port and an IPv6 zone. -/
structure Endpoint where
  ip : Option Ip
  port : Nat
  zone : String := ""
deriving DecidableEq, Repr, Inhabited

/-- Joins a host and a port, bracketing a host with a colon. -/
def joinHostPort (host port : String) : String :=
  if host.contains ':' then "[" ++ host ++ "]:" ++ port else host ++ ":" ++ port

/-- The text of an endpoint. -/
def Endpoint.text (e : Endpoint) : String :=
  let host := (e.ip.map Ip.text).getD ""
  joinHostPort (if e.zone.isEmpty then host else host ++ "%" ++ e.zone) (toString e.port)

/-- The complaint about an address. -/
def addressError (addr why : String) : String :=
  if addr.isEmpty then why else "address " ++ addr ++ ": " ++ why

/-- Splits `host:port` at the last colon, the host bracketed when it holds colons. -/
def splitHostPort (s : String) : Except String (String × String) :=
  let cs := s.toList
  let colons := (cs.zipIdx.filter (·.1 = ':')).map (·.2)
  match colons.getLast? with
  | none => .error (addressError s "missing port in address")
  | some i =>
    let checkBrackets (j k : Nat) (host : String) : Except String (String × String) :=
      if (cs.drop j).contains '[' then .error (addressError s "unexpected \x27[\x27 in address")
      else if (cs.drop k).contains ']' then .error (addressError s "unexpected \x27]\x27 in address")
      else .ok (host, String.ofList (cs.drop (i + 1)))
    if cs.head? == some '[' then
      match cs.idxOf? ']' with
      | none => .error (addressError s "missing \x27]\x27 in address")
      | some close =>
        if close + 1 = cs.length then .error (addressError s "missing port in address")
        else if close + 1 = i then checkBrackets 1 (close + 1) (String.ofList ((cs.take close).drop 1))
        else if cs[close + 1]? == some ':' then .error (addressError s "too many colons in address")
        else .error (addressError s "missing port in address")
    else
      let host := cs.take i
      if host.contains ':' then .error (addressError s "too many colons in address")
      else checkBrackets 0 0 (String.ofList host)

/-- The value of a port's digits in 32-bit arithmetic: digits are checked until the value reaches
2^30, after which the rest is not read; a product by ten wraps around. -/
def portDigits : List Char → Nat → Option Nat
  | [], n => some n
  | c :: r, n =>
    if !c.isDigit then none
    else if n ≥ 2 ^ 30 then some (2 ^ 32 - 1)
    else
      let next := (n * 10) % 2 ^ 32 + (c.toNat - 48)
      if next ≥ 2 ^ 32 then some (2 ^ 32 - 1) else portDigits r next

/-- Reads a decimal port with an optional sign, saturating far out of range; none when the
text is not decimal and names a service. -/
def parsePort (s : String) : Option Int :=
  if s.isEmpty then some 0
  else
    let (neg, digits) := match s.toList with
      | '+' :: r => (false, r)
      | '-' :: r => (true, r)
      | r => (false, r)
    (portDigits digits 0).map fun n =>
      let cutoff : Nat := Nat.pow 2 30
      let port : Int := if !neg && n ≥ cutoff then cutoff - 1 else if neg && n > cutoff then cutoff else n
      if neg then -port else port

/-- The port a service name stands for. -/
def servicePort (name : String) : Option Nat :=
  if name.toList.map Char.toLower == "domain".toList then some 53 else none

/-- Reads a port: a number in range or a known service. -/
def lookupPort (s : String) : Except String Nat :=
  match parsePort s with
  | some p => if 0 ≤ p && p ≤ 65535 then .ok p.toNat else .error (addressError s "invalid port")
  | none =>
    match servicePort s with
    | some p => .ok p
    | none => .error ("lookup udp/" ++ s ++ ": unknown port")

/-- The address of a host: an IP address, or a known name. -/
def lookupHost (host : String) (wantV6 : Bool) : Except String (Ip × String) :=
  match parseIp host with
  | some r => .ok r
  | none =>
    if host == "localhost" then
      .ok (if wantV6 then (.v6 [0, 0, 0, 0, 0, 0, 0, 1], "") else (Ip.loopback, ""))
    else .error ("lookup " ++ host ++ ": no such host")

/-- Reads `host:port` text into an endpoint. -/
def resolve (s : String) : Except String Endpoint :=
  if s.isEmpty then .ok { ip := none, port := 0 }
  else do
    let (host, portText) ← splitHostPort s
    let port ← lookupPort portText
    if host.isEmpty then return { ip := none, port }
    let (ip, zone) ← lookupHost host (s.contains '[')
    pure { ip := some ip, port, zone }

end Evse.Net
