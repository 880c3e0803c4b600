/-!
Verbosity levels of the log, and the two gates a line passes to be written.
-/
namespace Evse.Log

/-- The verbosity of a logger; larger lets more through. -/
abbrev Verbosity := Int

/-- The severity of one line. -/
inductive Severity where
  | debug
  | info
  | warn
  | error
  | fatal
deriving DecidableEq, Repr, Inhabited

/-- The level a configuration word names; an unknown word is info. -/
def parseLevel (s : String) : Verbosity :=
  match s with
  | "none" | "off" => 0
  | "error" => 1
  | "warn" | "warning" => 2
  | "debug" => 4
  | _ => 3

namespace Severity

/-- The upper-case name printed in a line. -/
def label : Severity → String
  | debug => "DEBUG"
  | info => "INFO"
  | warn => "WARN"
  | error => "ERROR"
  | fatal => "FATAL"

/-- The lower-case name. -/
def word : Severity → String
  | debug => "debug"
  | info => "info"
  | warn => "warn"
  | error => "error"
  | fatal => "fatal"

/-- The least verbosity at which a logger asks for the line. -/
def rank : Severity → Int
  | debug => 4
  | info => 3
  | warn => 2
  | error => 1
  | fatal => 0

/-- Position in the sink's order, debug lowest. -/
def order : Severity → Nat
  | debug => 0
  | info => 1
  | warn => 2
  | error => 3
  | fatal => 4

end Severity

/-- The sink threshold a verbosity selects. -/
def sinkThreshold (v : Verbosity) : Severity :=
  if v = 1 then .error else if v = 2 then .warn else if v = 4 then .debug else .info

/-- Whether a logger of verbosity `v` writes a line of severity `s`. -/
def admits (v : Verbosity) (s : Severity) : Bool :=
  v != 0 && (s == .fatal || s.rank ≤ v) && (sinkThreshold v).order ≤ s.order

end Evse.Log
