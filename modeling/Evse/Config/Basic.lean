import Evse.Config.Setting
import Evse.Number.Shortest
import Evse.Text.Quote
import Evse.Log.Level
import Evse.View
/-!
The configuration of a supply point, one value per setting, the driver the mode implies, and
the problems validation lists.
-/
namespace Evse.Configuration

/-- A setting's value. Spans are integers of nanoseconds. -/
inductive Value where
  | text (s : String)
  | integer (n : Int)
  | flag (b : Bool)
  | number (d : Number.Double)
deriving DecidableEq, Repr

/-- Whether a value is the zero of its kind, which a default replaces. -/
def Value.isZero : Value → Bool
  | .text s => s.isEmpty
  | .integer n => n == 0
  | .flag b => !b
  | .number d => d.isZero

/-- The zero value of a kind. -/
def Kind.zero : Kind → Value
  | .text => .text ""
  | .integer | .span => .integer 0
  | .flag => .flag false
  | .number => .number (Number.Double.zero false)

/-- A configuration. -/
structure Config where
  mode : String := ""
  driver : String := ""
  chip : String := ""
  relayPin : Int := 0
  greenPin : Int := 0
  yellowPin : Int := 0
  redPin : Int := 0
  buttonPin : Int := 0
  pilotPin : Int := 0
  pilotSource : String := ""
  pilotInterval : Int := 0
  adcDevice : String := ""
  adcChannel : Int := 0
  adcScale : Number.Double := Number.Double.zero false
  adcOffset : Int := 0
  listenAddr : String := ""
  peerAddr : String := ""
  tickInterval : Int := 0
  peerTimeout : Int := 0
  startEnabled : Bool := false
  maxCurrent : Int := 0
  redisEnabled : Bool := false
  redisAddr : String := ""
  redisDb : Int := 0
  metricsAddr : String := ""
  logLevel : String := ""
  logConsole : Bool := false
  logFile : String := ""
  logMaxSize : Int := 0
  logMaxBackups : Int := 0
  logMaxAge : Int := 0
deriving DecidableEq, Repr

namespace Config

/-- The configuration with every value zero. -/
def zero : Config := {}

/-- The value of a setting. -/
def get (c : Config) : Setting → Value
  | .mode => .text c.mode
  | .driver => .text c.driver
  | .chip => .text c.chip
  | .relayPin => .integer c.relayPin
  | .greenPin => .integer c.greenPin
  | .yellowPin => .integer c.yellowPin
  | .redPin => .integer c.redPin
  | .buttonPin => .integer c.buttonPin
  | .pilotPin => .integer c.pilotPin
  | .pilotSource => .text c.pilotSource
  | .pilotInterval => .integer c.pilotInterval
  | .adcDevice => .text c.adcDevice
  | .adcChannel => .integer c.adcChannel
  | .adcScale => .number c.adcScale
  | .adcOffset => .integer c.adcOffset
  | .listenAddr => .text c.listenAddr
  | .peerAddr => .text c.peerAddr
  | .tickInterval => .integer c.tickInterval
  | .peerTimeout => .integer c.peerTimeout
  | .startEnabled => .flag c.startEnabled
  | .maxCurrent => .integer c.maxCurrent
  | .redisEnabled => .flag c.redisEnabled
  | .redisAddr => .text c.redisAddr
  | .redisDb => .integer c.redisDb
  | .metricsAddr => .text c.metricsAddr
  | .logLevel => .text c.logLevel
  | .logConsole => .flag c.logConsole
  | .logFile => .text c.logFile
  | .logMaxSize => .integer c.logMaxSize
  | .logMaxBackups => .integer c.logMaxBackups
  | .logMaxAge => .integer c.logMaxAge

/-- Sets a setting; a value of another kind leaves the configuration as it is. -/
def set (c : Config) : Setting → Value → Config
  | .mode, .text s => { c with mode := s }
  | .driver, .text s => { c with driver := s }
  | .chip, .text s => { c with chip := s }
  | .relayPin, .integer n => { c with relayPin := n }
  | .greenPin, .integer n => { c with greenPin := n }
  | .yellowPin, .integer n => { c with yellowPin := n }
  | .redPin, .integer n => { c with redPin := n }
  | .buttonPin, .integer n => { c with buttonPin := n }
  | .pilotPin, .integer n => { c with pilotPin := n }
  | .pilotSource, .text s => { c with pilotSource := s }
  | .pilotInterval, .integer n => { c with pilotInterval := n }
  | .adcDevice, .text s => { c with adcDevice := s }
  | .adcChannel, .integer n => { c with adcChannel := n }
  | .adcScale, .number d => { c with adcScale := d }
  | .adcOffset, .integer n => { c with adcOffset := n }
  | .listenAddr, .text s => { c with listenAddr := s }
  | .peerAddr, .text s => { c with peerAddr := s }
  | .tickInterval, .integer n => { c with tickInterval := n }
  | .peerTimeout, .integer n => { c with peerTimeout := n }
  | .startEnabled, .flag b => { c with startEnabled := b }
  | .maxCurrent, .integer n => { c with maxCurrent := n }
  | .redisEnabled, .flag b => { c with redisEnabled := b }
  | .redisAddr, .text s => { c with redisAddr := s }
  | .redisDb, .integer n => { c with redisDb := n }
  | .metricsAddr, .text s => { c with metricsAddr := s }
  | .logLevel, .text s => { c with logLevel := s }
  | .logConsole, .flag b => { c with logConsole := b }
  | .logFile, .text s => { c with logFile := s }
  | .logMaxSize, .integer n => { c with logMaxSize := n }
  | .logMaxBackups, .integer n => { c with logMaxBackups := n }
  | .logMaxAge, .integer n => { c with logMaxAge := n }
  | _, _ => c

def isProduction (c : Config) : Bool := c.mode == "production"

/-- Fills an empty driver from the mode. -/
def withModeDefaults (c : Config) : Config :=
  if !c.driver.isEmpty then c
  else { c with driver := if c.isProduction then "gpiocdev" else "stub" }

/-- The pins by line name. -/
def pins (c : Config) : List (String × Int) :=
  [("relay", c.relayPin), ("led_green", c.greenPin), ("led_yellow", c.yellowPin),
   ("led_red", c.redPin), ("button", c.buttonPin), ("cp", c.pilotPin)]

end Config

/-- A problem that makes a configuration invalid. -/
inductive Problem where
  | mode (m : String)
  | driver (d : String)
  | source (s : String)
  | pilotInterval
  | tickInterval
  | peerTimeout
  | maxCurrent (amps : Int)
  | addresses
  | negativePin (line : String)
  /-- Two or more lines on one pin, named in order. -/
  | sharedPin (pin : Int) (lines : List String)
deriving DecidableEq, Repr

def Problem.message : Problem → String
  | .mode m => s!"invalid mode {Text.quote m}"
  | .driver d => s!"invalid hardware driver {Text.quote d}"
  | .source s => s!"invalid pilot source {Text.quote s}"
  | .pilotInterval => "pilot interval must be positive"
  | .tickInterval => "tick interval must be positive"
  | .peerTimeout => "peer timeout must not be negative"
  | .maxCurrent a => s!"max current {a} A out of range 6..80"
  | .addresses => "network listen and peer addresses are required"
  | .negativePin l => s!"pin {l} must not be negative"
  | .sharedPin p ls => s!"pin {p} shared by " ++ ",".intercalate ls

namespace Config

/-- Every problem of a configuration: the single checks in order, then the negative pins by
line name, then each shared pin, by pin, with its lines by name. -/
def problems (c : Config) : List Problem :=
  let single :=
    (if c.mode == "development" || c.mode == "production" then [] else [Problem.mode c.mode]) ++
    (if c.driver == "stub" || c.driver == "gpiocdev" then [] else [.driver c.driver]) ++
    (if ["polling", "adc", "remote"].contains c.pilotSource then [] else [.source c.pilotSource]) ++
    (if c.pilotInterval ≤ 0 then [.pilotInterval] else []) ++
    (if c.tickInterval ≤ 0 then [.tickInterval] else []) ++
    (if c.peerTimeout < 0 then [.peerTimeout] else []) ++
    (if c.maxCurrent < 6 || c.maxCurrent > 80 then [.maxCurrent c.maxCurrent] else []) ++
    (if c.listenAddr.isEmpty || c.peerAddr.isEmpty then [.addresses] else [])
  let negative := ((c.pins.filter (·.2 < 0)).map (·.1)).mergeSort (· ≤ ·)
  let used := c.pins.filter (·.2 ≥ 0)
  let shared := ((used.map (·.2)).eraseDups.mergeSort (· ≤ ·)).filterMap fun p =>
    let lines := ((used.filter (·.2 == p)).map (·.1)).mergeSort (· ≤ ·)
    if lines.length ≥ 2 then some (Problem.sharedPin p lines) else none
  single ++ negative.map .negativePin ++ shared

/-- The view of a configuration, in groups; spans in nanoseconds, the scale as text. -/
def view (c : Config) : View :=
  .record [
    ("mode", .text c.mode), ("is_production", .flag c.isProduction),
    ("hardware", .record [("driver", .text c.driver), ("chip", .text c.chip),
      ("relay", .int c.relayPin), ("led_green", .int c.greenPin), ("led_yellow", .int c.yellowPin),
      ("led_red", .int c.redPin), ("button", .int c.buttonPin), ("cp", .int c.pilotPin)]),
    ("pilot", .record [("source", .text c.pilotSource), ("interval_ns", .int c.pilotInterval),
      ("adc_device", .text c.adcDevice), ("adc_channel", .int c.adcChannel),
      ("adc_scale", .text c.adcScale.text), ("adc_offset", .int c.adcOffset)]),
    ("network", .record [("listen_addr", .text c.listenAddr), ("peer_addr", .text c.peerAddr)]),
    ("controller", .record [("tick_interval_ns", .int c.tickInterval),
      ("peer_timeout_ns", .int c.peerTimeout), ("start_enabled", .flag c.startEnabled),
      ("max_current_amps", .int c.maxCurrent)]),
    ("redis", .record [("enabled", .flag c.redisEnabled), ("addr", .text c.redisAddr),
      ("db", .int c.redisDb)]),
    ("metrics", .record [("addr", .text c.metricsAddr)]),
    ("log", .record [("level", .text c.logLevel), ("parsed_level", .int (Log.parseLevel c.logLevel)),
      ("console", .flag c.logConsole), ("file", .text c.logFile), ("max_size_mb", .int c.logMaxSize),
      ("max_backups", .int c.logMaxBackups), ("max_age_days", .int c.logMaxAge)])]

end Config

end Evse.Configuration
