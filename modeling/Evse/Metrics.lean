import Evse.Number.Shortest
/-!
Metrics of a supply point: the books of series and their exposition text.
-/
namespace Evse.Metrics

/-- A metric family. -/
inductive Family where
  | transitions
  | peerRejections
  | decodeErrors
  | relayWrites
  | pilotChanges
  | received
  | sent
  | watchdogTrips
  | chargingState
  | relayEnabled
  | sessionEnabled
  | datagramsDropped
deriving DecidableEq, Repr, Inhabited

namespace Family

def name : Family → String
  | transitions => "wallbox_state_transitions_total"
  | peerRejections => "wallbox_peer_rejections_total"
  | decodeErrors => "wallbox_decode_errors_total"
  | relayWrites => "wallbox_relay_writes_total"
  | pilotChanges => "wallbox_pilot_changes_total"
  | received => "wallbox_peer_messages_received_total"
  | sent => "wallbox_peer_messages_sent_total"
  | watchdogTrips => "wallbox_peer_watchdog_trips_total"
  | chargingState => "wallbox_charging_state"
  | relayEnabled => "wallbox_relay_enabled"
  | sessionEnabled => "wallbox_session_enabled"
  | datagramsDropped => "wallbox_udp_datagrams_dropped_total"

def help : Family → String
  | transitions => "Charging state transitions."
  | peerRejections => "Peer intents rejected by the sequencing policy."
  | decodeErrors => "Inbound datagrams dropped as malformed."
  | relayWrites => "Main contactor writes."
  | pilotChanges => "Control-Pilot state changes by new state."
  | received => "Valid peer messages received."
  | sent => "Status messages sent to the peer."
  | watchdogTrips => "Relay cut-offs caused by a silent peer."
  | chargingState => "Current charging state ordinal."
  | relayEnabled => "1 when the main contactor is energized."
  | sessionEnabled => "1 when charging sessions are permitted."
  | datagramsDropped => "Inbound datagrams discarded by the rate limit."

/-- Gauges hold a level; the others count up. -/
def isGauge : Family → Bool
  | chargingState | relayEnabled | sessionEnabled => true
  | _ => false

/-- Label names, in the order their values are given. -/
def labels : Family → List String
  | transitions => ["from", "to"]
  | peerRejections => ["intent"]
  | decodeErrors => ["kind"]
  | relayWrites => ["value", "result"]
  | pilotChanges => ["state"]
  | sent => ["result"]
  | _ => []

end Family

/-- The families a session controller registers. -/
def controllerFamilies : List Family :=
  [.transitions, .peerRejections, .decodeErrors, .relayWrites, .pilotChanges, .received, .sent,
    .watchdogTrips, .chargingState, .relayEnabled, .sessionEnabled]

/-- One series: a family, its label values, and its value. -/
structure Sample where
  family : Family
  values : List String
  value : Nat
deriving DecidableEq, Repr

/-- The touched series, in the order they were first touched. -/
structure Book where
  samples : List Sample
deriving DecidableEq, Repr, Inhabited

namespace Book

def empty : Book := ⟨[]⟩

/-- The value of a series, 0 while untouched. -/
def get (b : Book) (f : Family) (values : List String) : Nat :=
  match b.samples.find? (fun s => s.family == f && s.values == values) with
  | some s => s.value
  | none => 0

/-- Sets a series. -/
def put (b : Book) (f : Family) (values : List String) (v : Nat) : Book :=
  if b.samples.any (fun s => s.family == f && s.values == values) then
    ⟨b.samples.map fun s => if s.family == f && s.values == values then { s with value := v } else s⟩
  else ⟨b.samples ++ [⟨f, values, v⟩]⟩

/-- Counts one more on a series. -/
def bump (b : Book) (f : Family) (values : List String) : Book :=
  b.put f values (b.get f values + 1)

private def flagValue (on : Bool) : Nat := if on then 1 else 0

private def resultWord (ok : Bool) : String := if ok then "ok" else "error"

/-- A transition to a state of the given ordinal. -/
def transition (b : Book) (source target : String) (ordinal : Nat) : Book :=
  (b.bump .transitions [source, target]).put .chargingState [] ordinal

def rejection (b : Book) (intent : String) : Book := b.bump .peerRejections [intent]

def decodeError (b : Book) (kind : String) : Book := b.bump .decodeErrors [kind]

/-- A relay write attempt; a successful one also sets the relay gauge. -/
def relayWrite (b : Book) (on ok : Bool) : Book :=
  let b := b.bump .relayWrites [if on then "true" else "false", resultWord ok]
  if ok then b.put .relayEnabled [] (flagValue on) else b

def pilotChange (b : Book) (state : String) : Book := b.bump .pilotChanges [state]

def receivedOne (b : Book) : Book := b.bump .received []

def sentOne (b : Book) (ok : Bool) : Book := b.bump .sent [resultWord ok]

def watchdogTrip (b : Book) : Book := b.bump .watchdogTrips []

def sessionSwitch (b : Book) (on : Bool) : Book := b.put .sessionEnabled [] (flagValue on)

/-- Every series of the registered families: the touched ones, and the label-free ones
of each registered family. -/
def series (b : Book) (registered : List Family) : List Sample :=
  registered.flatMap fun f =>
    if f.labels.isEmpty then [⟨f, [], b.get f []⟩]
    else b.samples.filter (·.family == f)

end Book

/-- Label pairs of a sample, sorted by label name. -/
def Sample.pairs (s : Sample) : List (String × String) :=
  (s.family.labels.zip s.values).mergeSort fun a b => a.1 ≤ b.1

/-- Escapes a label value: backslash, double quote and line feed. -/
def escapeValue (v : String) : String :=
  String.join (v.toList.map fun c =>
    if c = '\\' then "\\\\" else if c = '"' then "\\\"" else if c = '\n' then "\\n" else c.toString)

/-- Escapes help text: backslash and line feed. -/
def escapeHelp (v : String) : String :=
  String.join (v.toList.map fun c =>
    if c = '\\' then "\\\\" else if c = '\n' then "\\n" else c.toString)

/-- Compares label value lists in order. -/
def valuesLe : List String → List String → Bool
  | [], _ => true
  | _ :: _, [] => false
  | a :: as, b :: bs => if a = b then valuesLe as bs else a < b

/-- One series line of the exposition text; the value is written as the nearest double in
its shortest general text, as `1e+06` for a million. -/
def Sample.line (s : Sample) : String :=
  let labels := s.pairs.map fun (k, v) => k ++ "=\"" ++ escapeValue v ++ "\""
  let braces := if labels.isEmpty then "" else "\x7b" ++ ",".intercalate labels ++ "\x7d"
  s.family.name ++ braces ++ " " ++ (Number.Double.ofNat s.value).text

/-- The exposition text: families by name, each with its help, type and series. -/
def exposition (samples : List Sample) : List String :=
  let families := (samples.map (·.family)).eraseDups.mergeSort fun a b => a.name ≤ b.name
  families.flatMap fun f =>
    let mine := (samples.filter (·.family == f)).mergeSort fun a b =>
      valuesLe (a.pairs.map (·.2)) (b.pairs.map (·.2))
    ["# HELP " ++ f.name ++ " " ++ escapeHelp f.help,
     "# TYPE " ++ f.name ++ " " ++ (if f.isGauge then "gauge" else "counter")] ++ mine.map (·.line)

end Evse.Metrics
