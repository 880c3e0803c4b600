import Evse.Pilot.State
import Evse.Log.Level
import Evse.Time.Duration
/-!
Pilot monitors, remote and polling: the last band, and each real change reported.
-/
namespace Evse.Pilot

/-- What a polling monitor reads. -/
inductive Probe where
  /-- A level set from outside. -/
  | level
  /-- The pilot input line of the board. -/
  | line
  /-- A channel of an analog converter. -/
  | adc
deriving DecidableEq, Repr

/-- Where a monitor takes its band from. -/
inductive Source where
  /-- Pilot messages pushed by the peer. -/
  | remote
  /-- A level read from `probe` every `interval` nanoseconds; the reading is a level in
  millivolts or the text of a read error. -/
  | polling (probe : Probe) (reading : Except String Int) (interval : Int)
  /-- A monitor whose start fails with the given text. -/
  | failing (why : String)
deriving Repr

/-- Something a monitor did: a band change, or a log note. -/
inductive Event where
  | change (old new : PilotState)
  | note (severity : Log.Severity) (text : String)
deriving DecidableEq, Repr

/-- A monitor with its band and whether it runs. -/
structure Monitor where
  source : Source
  running : Bool
  state : PilotState
  /-- Whether a failed read has been logged already. -/
  readWarned : Bool
deriving Repr

namespace Monitor

/-- A stopped monitor with no band. -/
def new (source : Source) : Monitor := ⟨source, false, .unknown, false⟩

/-- Whether the monitor takes pilot messages. -/
def isRemote (m : Monitor) : Bool :=
  match m.source with
  | .remote => true
  | _ => false

/-- Records a band; a change is reported, the same band is not. -/
def update (m : Monitor) (s : PilotState) : Monitor × List Event :=
  if m.state = s then (m, []) else ({ m with state := s }, [.change m.state s])

/-- One sample of a polling monitor. -/
def sample (m : Monitor) : Monitor × List Event :=
  match m.source with
  | .polling _ (.ok mv) _ =>
    let next := PilotState.classify mv
    let (m', evs) := m.update next
    if evs.isEmpty then (m', [])
    else (m', evs ++ [.note .info s!"CP {m.state.name} -> {next.name} ({mv} mV)"])
  | .polling _ (.error e) _ =>
    if m.readWarned then (m, [])
    else ({ m with readWarned := true }, [.note .warn s!"Failed to read CP level: {e}"])
  | _ => (m, [])

/-- Starts the monitor; a running monitor is left as it is. -/
def start (m : Monitor) : Monitor × List Event × Except String Unit :=
  match m.source with
  | .failing why => (m, [], .error why)
  | .remote =>
    if m.running then (m, [], .ok ())
    else
      let (m', evs) := ({ m with running := true } : Monitor).update .a
      (m', evs ++ [.note .info "Remote CP monitoring started"], .ok ())
  | .polling _ _ interval =>
    if m.running then (m, [], .ok ())
    else
      let (m', evs) := m.sample
      ({ m' with running := true },
        evs ++ [.note .info s!"Polling CP every {Time.durationText interval}"], .ok ())

/-- Stops the monitor; a stopped monitor is left as it is. -/
def stop (m : Monitor) : Monitor × List Event :=
  if !m.running then (m, [])
  else
    match m.source with
    | .remote =>
      let (m', evs) := ({ m with running := false } : Monitor).update .unknown
      (m', evs ++ [.note .info "Remote CP monitoring stopped"])
    | .polling .. => ({ m with running := false }, [.note .info "CP polling stopped"])
    | .failing _ => ({ m with running := false }, [])

/-- Takes a datagram; answers whether it was a pilot message. A message that arrives
while stopped is taken and ignored; an ordinal beyond F is the band `unknown`. -/
def handle (m : Monitor) (bytes : List UInt8) : Monitor × List Event × Bool :=
  if !PilotState.isMessage bytes then (m, [], false)
  else if !m.running then (m, [], true)
  else
    let ord := bytes.getD 1 0
    let warn : List Event :=
      if ord ≤ 5 then [] else [.note .warn s!"Remote CP ordinal out of range: {ord.toNat}"]
    let next := PilotState.ofOrdinal ord
    let (m', evs) := m.update next
    let tail : List Event :=
      if evs.isEmpty then [] else [.note .info s!"Remote CP {m.state.name} -> {next.name}"]
    (m', warn ++ evs ++ tail, true)

/-- Offers a new reading of a probe. A monitor polling that probe takes it and, while it
runs, samples it at once; any other monitor ignores it. -/
def offer (m : Monitor) (probe : Probe) (reading : Except String Int) : Monitor × List Event :=
  match m.source with
  | .polling p _ interval =>
    if p = probe then
      let m' := { m with source := .polling p reading interval }
      if m'.running then m'.sample else (m', [])
    else (m, [])
  | _ => (m, [])

/-- The monitor a pilot source names: the board's pilot line or an analog channel polled
every `interval`, or pilot messages from the peer. -/
def configured (source : String) (interval : Int) (line adc : Except String Int) :
    Except String Monitor :=
  match source with
  | "polling" => .ok (new (.polling .line line interval))
  | "adc" => .ok (new (.polling .adc adc interval))
  | "remote" => .ok (new .remote)
  | other => .error s!"unknown pilot source: {other}"

end Monitor

end Evse.Pilot
