/-!
The settings of a supply point: kind, variable, file key, field name, default and description,
in the order they are read.
-/
namespace Evse.Configuration

/-- The kind of value a setting holds. -/
inductive Kind where
  | text
  | integer
  | flag
  /-- A span of time, in nanoseconds. -/
  | span
  /-- A floating-point number. -/
  | number
deriving DecidableEq, Repr

/-- The name of a kind in the usage text. -/
def Kind.typeName : Kind → String
  | text => "string"
  | integer => "int"
  | flag => "bool"
  | span => "int64"
  | number => "float64"

/-- Every setting. -/
inductive Setting where
  | mode
  | driver
  | chip
  | relayPin
  | greenPin
  | yellowPin
  | redPin
  | buttonPin
  | pilotPin
  | pilotSource
  | pilotInterval
  | adcDevice
  | adcChannel
  | adcScale
  | adcOffset
  | listenAddr
  | peerAddr
  | tickInterval
  | peerTimeout
  | startEnabled
  | maxCurrent
  | redisEnabled
  | redisAddr
  | redisDb
  | metricsAddr
  | logLevel
  | logConsole
  | logFile
  | logMaxSize
  | logMaxBackups
  | logMaxAge
deriving DecidableEq, Repr

namespace Setting

/-- The settings in the order they are read. -/
def all : List Setting :=
  [mode, driver, chip, relayPin, greenPin, yellowPin, redPin, buttonPin, pilotPin, pilotSource,
   pilotInterval, adcDevice, adcChannel, adcScale, adcOffset, listenAddr, peerAddr, tickInterval,
   peerTimeout, startEnabled, maxCurrent, redisEnabled, redisAddr, redisDb, metricsAddr, logLevel,
   logConsole, logFile, logMaxSize, logMaxBackups, logMaxAge]

def kind : Setting → Kind
  | relayPin | greenPin | yellowPin | redPin | buttonPin | pilotPin | adcChannel | adcOffset
  | maxCurrent | redisDb | logMaxSize | logMaxBackups | logMaxAge => .integer
  | pilotInterval | tickInterval | peerTimeout => .span
  | startEnabled | redisEnabled | logConsole => .flag
  | adcScale => .number
  | _ => .text

def envName : Setting → String
  | mode => "WALLBOX_MODE"
  | driver => "WALLBOX_GPIO_DRIVER"
  | chip => "WALLBOX_GPIO_CHIP"
  | relayPin => "WALLBOX_PIN_RELAY"
  | greenPin => "WALLBOX_PIN_LED_GREEN"
  | yellowPin => "WALLBOX_PIN_LED_YELLOW"
  | redPin => "WALLBOX_PIN_LED_RED"
  | buttonPin => "WALLBOX_PIN_BUTTON"
  | pilotPin => "WALLBOX_PIN_CP"
  | pilotSource => "WALLBOX_CP_SOURCE"
  | pilotInterval => "WALLBOX_CP_INTERVAL"
  | adcDevice => "WALLBOX_CP_ADC_DEVICE"
  | adcChannel => "WALLBOX_CP_ADC_CHANNEL"
  | adcScale => "WALLBOX_CP_ADC_SCALE"
  | adcOffset => "WALLBOX_CP_ADC_OFFSET"
  | listenAddr => "WALLBOX_UDP_LISTEN"
  | peerAddr => "WALLBOX_UDP_PEER"
  | tickInterval => "WALLBOX_TICK_INTERVAL"
  | peerTimeout => "WALLBOX_PEER_TIMEOUT"
  | startEnabled => "WALLBOX_START_ENABLED"
  | maxCurrent => "WALLBOX_MAX_CURRENT"
  | redisEnabled => "WALLBOX_REDIS_ENABLED"
  | redisAddr => "WALLBOX_REDIS_ADDR"
  | redisDb => "WALLBOX_REDIS_DB"
  | metricsAddr => "WALLBOX_METRICS_ADDR"
  | logLevel => "WALLBOX_LOG_LEVEL"
  | logConsole => "WALLBOX_LOG_CONSOLE"
  | logFile => "WALLBOX_LOG_FILE"
  | logMaxSize => "WALLBOX_LOG_MAX_SIZE"
  | logMaxBackups => "WALLBOX_LOG_MAX_BACKUPS"
  | logMaxAge => "WALLBOX_LOG_MAX_AGE"

/-- The group of a setting in a file, and its key there; the mode has no group. -/
def place : Setting → Option String × String
  | mode => (none, "mode")
  | driver => (some "hardware", "driver")
  | chip => (some "hardware", "chip")
  | relayPin => (some "hardware", "relay")
  | greenPin => (some "hardware", "led_green")
  | yellowPin => (some "hardware", "led_yellow")
  | redPin => (some "hardware", "led_red")
  | buttonPin => (some "hardware", "button")
  | pilotPin => (some "hardware", "cp")
  | pilotSource => (some "pilot", "source")
  | pilotInterval => (some "pilot", "interval")
  | adcDevice => (some "pilot", "adc_device")
  | adcChannel => (some "pilot", "adc_channel")
  | adcScale => (some "pilot", "adc_scale")
  | adcOffset => (some "pilot", "adc_offset")
  | listenAddr => (some "network", "listen_addr")
  | peerAddr => (some "network", "peer_addr")
  | tickInterval => (some "controller", "tick_interval")
  | peerTimeout => (some "controller", "peer_timeout")
  | startEnabled => (some "controller", "start_enabled")
  | maxCurrent => (some "controller", "max_current_amps")
  | redisEnabled => (some "redis", "enabled")
  | redisAddr => (some "redis", "addr")
  | redisDb => (some "redis", "db")
  | metricsAddr => (some "metrics", "addr")
  | logLevel => (some "log", "level")
  | logConsole => (some "log", "console")
  | logFile => (some "log", "file")
  | logMaxSize => (some "log", "max_size_mb")
  | logMaxBackups => (some "log", "max_backups")
  | logMaxAge => (some "log", "max_age_days")

/-- The group and field names that formats without keys of their own match, ignoring case;
also the name a read error gives. -/
def fieldPlace : Setting → Option String × String
  | mode => (none, "Mode")
  | driver => (some "Hardware", "Driver")
  | chip => (some "Hardware", "Chip")
  | relayPin => (some "Hardware", "Relay")
  | greenPin => (some "Hardware", "LedGreen")
  | yellowPin => (some "Hardware", "LedYellow")
  | redPin => (some "Hardware", "LedRed")
  | buttonPin => (some "Hardware", "Button")
  | pilotPin => (some "Hardware", "Pilot")
  | pilotSource => (some "Pilot", "Source")
  | pilotInterval => (some "Pilot", "Interval")
  | adcDevice => (some "Pilot", "AdcDevice")
  | adcChannel => (some "Pilot", "AdcChannel")
  | adcScale => (some "Pilot", "AdcScale")
  | adcOffset => (some "Pilot", "AdcOffset")
  | listenAddr => (some "Network", "ListenAddr")
  | peerAddr => (some "Network", "PeerAddr")
  | tickInterval => (some "Controller", "TickInterval")
  | peerTimeout => (some "Controller", "PeerTimeout")
  | startEnabled => (some "Controller", "StartEnabled")
  | maxCurrent => (some "Controller", "MaxCurrentAmps")
  | redisEnabled => (some "Redis", "Enabled")
  | redisAddr => (some "Redis", "Addr")
  | redisDb => (some "Redis", "DB")
  | metricsAddr => (some "Metrics", "Addr")
  | logLevel => (some "Log", "Level")
  | logConsole => (some "Log", "Console")
  | logFile => (some "Log", "File")
  | logMaxSize => (some "Log", "MaxSizeMB")
  | logMaxBackups => (some "Log", "MaxBackups")
  | logMaxAge => (some "Log", "MaxAgeDays")

/-- The text a setting takes when neither a file nor the environment gives one. -/
def default? : Setting → Option String
  | mode => some "development"
  | driver => none
  | chip => some "gpiochip0"
  | relayPin => some "21"
  | greenPin => some "17"
  | yellowPin => some "27"
  | redPin => some "22"
  | buttonPin => some "23"
  | pilotPin => some "24"
  | pilotSource => some "polling"
  | pilotInterval => some "100ms"
  | adcDevice => some "iio:device0"
  | adcChannel => some "0"
  | adcScale => some "1.0"
  | adcOffset => some "0"
  | listenAddr => some "0.0.0.0:50010"
  | peerAddr => some "127.0.0.1:50011"
  | tickInterval => some "100ms"
  | peerTimeout => some "2s"
  | startEnabled => some "true"
  | maxCurrent => some "16"
  | redisEnabled => some "false"
  | redisAddr => some "127.0.0.1:6379"
  | redisDb => some "0"
  | metricsAddr => none
  | logLevel => some "info"
  | logConsole => some "true"
  | logFile => none
  | logMaxSize => some "10"
  | logMaxBackups => some "3"
  | logMaxAge => some "7"

def description : Setting → String
  | mode => "development or production"
  | driver => "stub or gpiocdev, derived from mode when empty"
  | pilotSource => "polling, adc or remote"
  | maxCurrent => "supply current limit reported to the peer, 6..80 A"
  | metricsAddr => "listen address for /metrics, disabled when empty"
  | _ => ""

end Setting

end Evse.Configuration
