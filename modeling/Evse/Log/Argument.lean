import Evse.Document.Json
import Evse.Text.Template
/-!
Template arguments from decoded JSON values.
-/
namespace Evse.Log

open Document

/-- The entries of an object with one entry per key, each key's last value at the place of
its first. -/
def lastPerKey (entries : List (String × Text.Arg)) : List (String × Text.Arg) :=
  let keys := (entries.map (·.1)).eraseDups
  keys.filterMap fun k => (entries.reverse.lookup k).map fun v => (k, v)

mutual

/-- The template argument a decoded JSON value gives. -/
def argument : Node → Text.Arg
  | .scalar _ .null => .null
  | .scalar _ (.flag b) => .flag b
  | .scalar written (.number _) => .number written
  | .scalar written (.integer _) => .number written
  | .scalar _ (.text s) => .text s
  | .scalar written (.other _) => .text written
  | .sequence items => .list (arguments items)
  | .mapping entries => .map (lastPerKey (members entries))

/-- The template arguments of a list's items. -/
def arguments : List Node → List Text.Arg
  | [] => []
  | n :: rest => argument n :: arguments rest

/-- The template arguments of an object's members. -/
def members : List (String × Node) → List (String × Text.Arg)
  | [] => []
  | (k, n) :: rest => (k, argument n) :: members rest

end

end Evse.Log
