import Evse.Log.Line
import Evse.Text.Template
/-!
Loggers: writing, recording and silent ones, and messages filled from their templates.
-/
namespace Evse.Log

/-- Where a logger's lines go. -/
inductive Sink where
  | silent
  | writing (layout : Layout) (file : Bool)
  | recording
deriving Inhabited

/-- A logger. -/
structure Logger where
  verbosity : Verbosity
  name : String := ""
  sink : Sink
deriving Inhabited

/-- One line a recording logger kept. -/
structure Entry where
  severity : Severity
  name : String
  message : String
deriving Inhabited

/-- What a run of calls wrote. -/
structure Output where
  /-- The lines written to the standard output, each possibly holding line breaks. -/
  stdout : List String := []
  /-- The lines written to the file, when the logger keeps one and wrote a line. -/
  file : Option (List String) := none
  /-- The entries a recording logger kept. -/
  entries : List Entry := []
deriving Inhabited

/-- One logging call: a severity, a template and its arguments. -/
structure Call where
  severity : Severity
  template : String
  args : List Text.Arg := []
deriving Inhabited

/-- The logger that writes in a layout; verbosity none gives the silent logger. -/
def Logger.create (v : Verbosity) (layout : Layout) (file : Bool) : Logger :=
  if v = 0 then { verbosity := 0, sink := .silent } else { verbosity := v, sink := .writing layout file }

/-- The logger that records every line its verbosity asks for. -/
def Logger.recorder (v : Verbosity) : Logger := { verbosity := v, sink := .recording }

/-- The same logger under a tag; an empty tag changes nothing. -/
def Logger.tagged (l : Logger) (tag : String) : Logger :=
  if tag.isEmpty then l else { l with name := if l.name.isEmpty then tag else l.name ++ "." ++ tag }

/-- The message of a call. -/
def Call.message (c : Call) : String :=
  if c.args.isEmpty then c.template else Text.fill c.template c.args

/-- The call's own gate: the verbosity must reach the severity's rank. -/
def asks (v : Verbosity) (s : Severity) : Bool := s == .fatal || s.rank ≤ v

/-- The line a writing logger writes for a message of a severity, when it admits it. -/
def Logger.line? (l : Logger) (s : Severity) (message : String) : Option String :=
  match l.sink with
  | .writing layout _ => if admits l.verbosity s then some (layout.render s l.name message) else none
  | _ => none

/-- Adds one call's effect to an output. -/
def Logger.step (l : Logger) (out : Output) (c : Call) : Output :=
  match l.sink with
  | .silent => out
  | .recording =>
    if asks l.verbosity c.severity then
      { out with entries := out.entries ++ [⟨c.severity, l.name, c.message⟩] }
    else out
  | .writing _ file =>
    match l.line? c.severity c.message with
    | some line =>
      { out with
        stdout := out.stdout ++ [line]
        file := if file then some ((out.file.getD []) ++ [line]) else none }
    | none => out

/-- What a logger writes for a run of calls. -/
def Logger.run (l : Logger) (calls : List Call) : Output :=
  calls.foldl l.step {}

end Evse.Log
