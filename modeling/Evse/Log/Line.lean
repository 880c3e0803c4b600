import Evse.Log.Level
import Evse.Text.Quote
/-!
The written form of a log line: tab-joined console fields, or a JSON object with escaped
strings.
-/
namespace Evse.Log

/-- How a logger writes its lines. -/
structure Layout where
  /-- Tab-separated fields instead of a JSON object. -/
  console : Bool
  /-- The time text each line carries, when lines carry one. -/
  stamp : Option String
deriving Inhabited

/-- One character inside a JSON string. -/
def escapeChar (c : Char) : String :=
  let n := c.toNat
  if n ≥ 0x20 && c ≠ '\\' && c ≠ '"' then c.toString
  else match c with
    | '\\' => "\\\\"
    | '"' => "\\\""
    | '\n' => "\\n"
    | '\r' => "\\r"
    | '\t' => "\\t"
    | _ => "\\u00" ++ Text.hexDigits 2 n

/-- A JSON string literal. -/
def jsonString (s : String) : String :=
  "\"" ++ String.join (s.toList.map escapeChar) ++ "\""

/-- The text of one line (without its line break) in a layout. -/
def Layout.render (l : Layout) (s : Severity) (name : String) (message : String) : String :=
  if l.console then
    let fields := l.stamp.toList ++ [s.label] ++ (if name.isEmpty then [] else [name]) ++ [message]
    "\t".intercalate fields
  else
    let members := [("level", s.label)] ++ (l.stamp.toList.map fun t => ("ts", t)) ++
      (if name.isEmpty then [] else [("logger", name)]) ++ [("msg", message)]
    "\x7b" ++ ",".intercalate (members.map fun (k, v) => jsonString k ++ ":" ++ jsonString v) ++ "\x7d"

end Evse.Log
