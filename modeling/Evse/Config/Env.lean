import Evse.Config.Basic
import Evse.Time.Duration
import Evse.Number.Numeral
/-!
Reading a configuration from the environment: a variable that is set wins, a setting still zero
takes its default.
-/
namespace Evse.Configuration

/-- Why a setting's text is not a value of its kind. -/
inductive ValueError where
  | integer (e : Text.NumeralError) (text : String)
  | flag (text : String)
  | number (e : Text.NumeralError) (text : String)
  | span (e : Time.DurationError)
deriving DecidableEq, Repr

private def numeralWord : Text.NumeralError → String
  | .malformed => "invalid syntax"
  | .range => "value out of range"

def ValueError.message : ValueError → String
  | .integer e t => s!"strconv.ParseInt: parsing {Text.quote t}: {numeralWord e}"
  | .flag t => s!"strconv.ParseBool: parsing {Text.quote t}: invalid syntax"
  | .number e t => s!"strconv.ParseFloat: parsing {Text.quote t}: {numeralWord e}"
  | .span e => e.message

/-- Reads a text as a value of a kind. -/
def Kind.read (k : Kind) (text : String) : Except ValueError Value :=
  match k with
  | .text => .ok (.text text)
  | .integer => (Text.parseInteger text).map .integer |>.mapError (.integer · text)
  | .flag => match Text.parseFlag text with
    | some b => .ok (.flag b)
    | none => .error (.flag text)
  | .span => (Time.parseDuration text).map .integer |>.mapError .span
  | .number => (Number.parseDouble text).map .number |>.mapError (.number · text)

/-- The environment: variables and their texts. -/
abbrev Environment := List (String × String)

/-- Why reading a configuration failed. -/
inductive ReadError where
  /-- A setting's text is not a value of its kind. -/
  | setting (s : Setting) (e : ValueError)
  /-- The configuration file does not exist. -/
  | missingFile (path : String)
  /-- The file's name has an extension no reader knows. -/
  | format (ext : String)
  /-- The file could not be read. -/
  | parse (why : String)
deriving DecidableEq, Repr

def ReadError.message : ReadError → String
  | .setting s e => s!"parsing field {s.fieldPlace.2} env {s.envName}: {e.message}"
  | .missingFile p => s!"open {p}: no such file or directory"
  | .format ext => "file format \x27" ++ ext ++ "\x27 doesn\x27t supported by the parser"
  | .parse why => s!"config file parsing error: {why}"

/-- Reads one setting: its variable when set, else its default when still zero. -/
def readSetting (env : Environment) (c : Config) (s : Setting) : Except ReadError Config :=
  let raw := match env.lookup s.envName with
    | some t => some t
    | none => if (c.get s).isZero then s.default? else none
  match raw with
  | none => .ok c
  | some t => match s.kind.read t with
    | .ok v => .ok (c.set s v)
    | .error e => .error (.setting s e)

/-- Reads every setting from the environment over a configuration. -/
def readEnvironment (env : Environment) (c : Config) : Except ReadError Config :=
  Setting.all.foldlM (readSetting env) c

/-- Why loading a configuration failed. -/
inductive LoadError where
  | read (e : ReadError)
  | invalid (problems : List Problem)
deriving DecidableEq, Repr

def LoadError.message : LoadError → String
  | .read e => s!"failed to read configuration: {e.message}"
  | .invalid ps => "invalid configuration: " ++ "\n".intercalate (ps.map (·.message))

/-- Completes a read configuration: the driver from the mode, then validation. -/
def finish (r : Except ReadError Config) : Except LoadError Config :=
  match r with
  | .error e => .error (.read e)
  | .ok c =>
    let c := c.withModeDefaults
    match c.problems with
    | [] => .ok c
    | ps => .error (.invalid ps)

/-- Loads a configuration from the environment alone. -/
def loadEnvironment (env : Environment) : Except LoadError Config :=
  finish (readEnvironment env Config.zero)

/-- The configuration every default gives, its driver filled from the mode. -/
def defaults : Config :=
  ((readEnvironment [] Config.zero).toOption.getD Config.zero).withModeDefaults

end Evse.Configuration
