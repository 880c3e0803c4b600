import Evse.Service.Flags
import Evse.Config.File
import Evse.Config.Usage
import Evse.Control.Input
import Evse.Hardware.Board
import Evse.Net.Udp
import Evse.Log.Logger
/-!
A run of the charging service, from its flags and configuration to the controller's shutdown.
-/
namespace Evse.Service

/-- What a run is started with. -/
structure Invocation where
  /-- The name the program was started as. -/
  program : String
  args : List String
  env : Configuration.Environment
  /-- The text of a file by path, none when it does not exist. -/
  file : String → Option String
  /-- Whether a service manager stamps the lines (log lines then carry no time). -/
  managed : Bool
  /-- The time text of log lines. -/
  stamp : String
  host : Net.Host
  now : Time.Instant
  entropy : Nat → UInt8

/-- What a run printed, and its exit code once it ended. -/
structure Output where
  stdout : String := ""
  stderr : String := ""
  exit : Option Nat := none
deriving Inhabited

/-- The parts of a service that came up. -/
structure Parts where
  logger : Log.Logger
  board : Hardware.Board
  /-- The transport as it is now. -/
  transport : Net.Transport
  /-- The transport once connected, with the notes connecting leaves. -/
  connected : Net.Transport × List Net.Note
  /-- The operator store's address, when it is open. -/
  store : Option String
  plant : Control.Plant
  world : Control.World

/-- A run: ended, or up and waiting for a stop signal. -/
inductive Run where
  | ended (out : Output)
  | up (out : Output) (parts : Parts)

namespace Output

/-- Prints to the standard output. -/
def say (o : Output) (text : String) : Output := { o with stdout := o.stdout ++ text }

/-- Writes a log line, when the logger admits it. -/
def log (o : Output) (l : Log.Logger) (tag : String) (sev : Log.Severity) (text : String) : Output :=
  match (l.tagged tag).line? sev text with
  | some line => o.say (line ++ "\n")
  | none => o

/-- Ends the run with an exit code. -/
def exitWith (o : Output) (code : Nat) : Output := { o with exit := some code }

end Output

/-- Why dialling the operator store fails, when it does. -/
def dialStore (h : Net.Host) (addr : String) : Option String :=
  match Net.resolve addr with
  | .error why => some ("dial tcp: " ++ why)
  | .ok e =>
    if e.port = 0 then some ("dial tcp " ++ e.text ++ ": connect: connection refused")
    else if !h.routed then some ("dial tcp " ++ e.text ++ ": connect: network is unreachable")
    else none

/-- Logs transport notes. -/
def Output.notes (o : Output) (l : Log.Logger) (notes : List Net.Note) : Output :=
  notes.foldl (fun o (sev, text) => o.log l "UDP" sev text) o

/-- Plays one effect on the parts: a line write on the board, the transport's connect and
close, a report to the operator store, or a log note. -/
def playEffect (o : Output) (p : Parts) : Control.Effect → Output × Parts
  | .write channel value _ =>
    match p.board with
    | .stub s =>
      match s.write channel value with
      | .ok (s', changed) =>
        let o := if changed then o.log p.logger "StubIO" .debug s!"Set DO {channel}={value}" else o
        (o, { p with board := .stub s' })
      | .error _ => (o, p)
    | _ => (o, p)
  | .connect true => (o.notes p.logger p.connected.2, { p with transport := p.connected.1 })
  | .disconnect =>
    let (t, notes) := p.transport.disconnect
    (o.notes p.logger notes, { p with transport := t })
  | .publish s _ =>
    (o.log p.logger "Redis" .debug
      s!"Publishing status: state={ChargingState.nameOfCode s.state} relay={s.relay} enabled={s.enabled}", p)
  | .fault code description present =>
    (o.log p.logger "Redis" .info s!"Reporting fault {code} present={present}: {description}", p)
  | .note sev tag text => (o.log p.logger tag sev text, p)
  | _ => (o, p)

/-- Plays effects in order. -/
def playEffects (o : Output) (p : Parts) : List Control.Effect → Output × Parts
  | [] => (o, p)
  | e :: rest =>
    let (o, p) := playEffect o p e
    playEffects o p rest

/-- Feeds the controller one input and plays its effects. -/
def feed (o : Output) (p : Parts) (i : Control.Input) : Output × Parts × Control.Outcome :=
  let before := p.world.trace.length
  let (w, r) := Control.step p.plant p.world i
  let (o, p) := playEffects o { p with world := w } (w.trace.drop before)
  (o, p, r)

/-- Closes what the run opened, last first: the operator store, then the board. -/
def closeParts (o : Output) (p : Parts) : Output × Parts :=
  let o := match p.store with
    | some _ =>
      (o.log p.logger "Redis" .info "Closing Redis client").log p.logger "Redis" .info
        "All Redis goroutines finished"
    | none => o
  match p.board with
  | .stub s => (o.log p.logger "StubIO" .info "Stub GPIO cleaned up", { p with board := .stub s.cleanup })
  | b => (o, { p with board := b.cleanup })

/-- The pins of a configuration. -/
def pinsOf (c : Configuration.Config) : Hardware.Pins :=
  ⟨c.chip, c.relayPin, c.greenPin, c.yellowPin, c.redPin, c.buttonPin, c.pilotPin⟩

/-- The address the operator store is dialled at: a default when none is set. -/
def storeAddress (addr : String) : String :=
  if addr.isEmpty then "localhost:6379" else addr

/-- The failure of a plant's line write on a board. -/
def writeFault (board : Hardware.Board) (channel : String) (value : Bool) : Option String :=
  match board.write channel value with
  | .ok _ => none
  | .error e => some e

/-- Brings the service up from a loaded configuration. -/
def bringUp (inv : Invocation) (c : Configuration.Config) (level : Log.Verbosity) : Run :=
  let l := Log.Logger.create level ⟨c.logConsole, if inv.managed then none else some inv.stamp⟩ false
  let o : Output := ({} : Output).log l "" .info
    s!"Starting wallbox service (mode={c.mode}, driver={c.driver}, pilot={c.pilotSource})"
  let fatal (o : Output) (why : String) : Run := .ended ((o.log l "" .fatal why).exitWith 1)
  match Hardware.Board.select c.driver (pinsOf c) with
  | .error e => fatal o e
  | .ok board =>
    let o := match board with
      | .stub _ => o.log l "StubIO" .info "Stub GPIO initialized"
      | .chip p => o.log l "HardwareIO" .info s!"Initializing hardware IO on {p.chip}"
    match board.prepare with
    | .error e => fatal o ("failed to initialize hardware: " ++ e)
    | .ok () =>
      let transport : Net.Transport := { listen := c.listenAddr, peer := c.peerAddr }
      let (connectResult, connectNotes) := transport.connect inv.host Net.freePort
      let connected := match connectResult with
        | .ok t => t
        | .error _ => transport
      let plant : Control.Plant :=
        { now := inv.now, writeFault := fun channel value _ => writeFault board channel value,
          sendFault := match connected.send inv.host (Wire.stateSize + Wire.hardwareSize) with
            | .error e => some e.message
            | .ok _ => none,
          connectFault := match connectResult with
            | .ok _ => none
            | .error e => some e.message,
          disconnectFault := none, publishFault := fun _ => none, reportFault := fun _ _ => none,
          verdict := fun _ => none, entropy := inv.entropy, faultOrder := .byCode }
      let line := Hardware.digitalLevel (board.read Hardware.pilot)
      let adc := Hardware.readAdc c.adcDevice c.adcChannel
      let parts (monitor : Option Pilot.Monitor) : Parts :=
        { logger := l, board, transport, connected := (connected, connectNotes), store := none, plant,
          world := ⟨Control.Controller.new ⟨c.peerTimeout, c.maxCurrent, c.startEnabled⟩ monitor
            c.redisEnabled none, []⟩ }
      match Pilot.Monitor.configured c.pilotSource c.pilotInterval line adc with
      | .error e => let (o, _) := closeParts o (parts none); fatal o e
      | .ok monitor =>
        let p := parts (some monitor)
        let addr := storeAddress c.redisAddr
        let o := if c.redisEnabled then o.log l "Redis" .info s!"Attempting to connect to Redis at {addr}" else o
        match (if c.redisEnabled then dialStore inv.host addr else none) with
        | some why => let (o, _) := closeParts o p; fatal o ("redis connection failed: " ++ why)
        | none =>
          let (o, p) := if c.redisEnabled then
              (o.log l "Redis" .info "Successfully connected to Redis", { p with store := some addr })
            else (o, p)
          let o := if c.metricsAddr.isEmpty then o
            else
              let o := o.log l "" .info s!"Serving metrics on {c.metricsAddr}"
              match Net.bind inv.host "tcp" c.metricsAddr Net.freePort with
              | .error why => o.log l "" .error s!"Metrics server failed: {why}"
              | .ok _ => o
          let (o, p, r) := feed o p .startUp
          match r with
          | .error e =>
            let (o, p, _) := feed o p .shutdown
            let (o, _) := closeParts o p
            fatal o ("failed to start controller: " ++ e.message)
          | .ok () =>
            let o := if p.store.isSome then
              o.log l "Redis" .info "Starting list command listener for wallbox:command" else o
            .up (o.log l "" .info "System started successfully") p

/-- Stops a service that is up: the controller shuts down, the parts close, exit 0. -/
def stop (o : Output) (p : Parts) : Output :=
  let o := o.log p.logger "" .info "Shutting down..."
  let (o, p, _) := feed o p .shutdown
  let (o, p) := closeParts o p
  (o.log p.logger "" .info "Shutdown complete").exitWith 0

/-- Starts a run of the program. -/
def start (inv : Invocation) : Run :=
  match parseArgs inv.args with
  | .help => .ended { stderr := usage inv.program, exit := some 0 }
  | .mistake why => .ended { stderr := why ++ "\n" ++ usage inv.program, exit := some 2 }
  | .flags f _ =>
    if f.showEnv then .ended { stdout := Configuration.usage ++ "\n", exit := some 0 }
    else
      let loaded := if f.config.isEmpty then Configuration.loadEnvironment inv.env
        else Configuration.loadFile f.config (inv.file f.config) inv.env
      match loaded with
      | .error e => .ended { stderr := e.message ++ "\n", exit := some 1 }
      | .ok c =>
        let level := if f.level ≥ 0 then f.level else Log.parseLevel c.logLevel
        bringUp inv c level

end Evse.Service
