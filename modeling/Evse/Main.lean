import Evse.Service.Program
/-!
The service's command line on a host without network routes.
-/
namespace Evse.Service

/-- The variables of the environment the configuration names. -/
def readVariables : IO Configuration.Environment := do
  let mut env : Configuration.Environment := []
  for s in Configuration.Setting.all do
    if let some v ← IO.getEnv s.envName then
      env := env ++ [(s.envName, v)]
  pure env

/-- The text of the configuration file the command line names, when it can be read. -/
def readConfigFile (args : List String) : IO (String × Option String) := do
  match parseArgs args with
  | .flags f _ =>
    if f.config.isEmpty then return ("", none)
    try pure (f.config, some (← IO.FS.readFile f.config)) catch _ => pure (f.config, none)
  | _ => pure ("", none)

/-- Prints an output's streams. -/
def emit (o : Output) : IO Unit := do
  IO.print o.stdout
  IO.eprint o.stderr
  (← IO.getStdout).flush

/-- Waits until the input ends. -/
partial def awaitEnd (stdin : IO.FS.Stream) : IO Unit := do
  let line ← stdin.getLine
  if line.isEmpty then return
  awaitEnd stdin

end Evse.Service

/-- Runs the service. -/
def main (args : List String) : IO UInt32 := do
  let env ← Evse.Service.readVariables
  let managed := (← IO.getEnv "INVOCATION_ID").isSome
  let (path, content) ← Evse.Service.readConfigFile args
  let nanos ← IO.monoNanosNow
  let bytes ← (List.range 4096).mapM fun _ => do pure (UInt8.ofNat (← IO.rand 0 255))
  let table := bytes.toArray
  let inv : Evse.Service.Invocation := {
    program := "wallbox-service", args, env,
    file := fun p => if p == path then content else none, managed,
    stamp := (Evse.Time.Instant.mk (nanos : Int) 0).rfc3339, host := Evse.Net.Host.isolated,
    now := ⟨nanos, 0⟩, entropy := fun i => table.getD (i % 4096) 0 }
  match Evse.Service.start inv with
  | .ended o =>
    Evse.Service.emit o
    pure (UInt32.ofNat (o.exit.getD 0))
  | .up o parts =>
    Evse.Service.emit o
    Evse.Service.awaitEnd (← IO.getStdin)
    let all := Evse.Service.stop o parts
    Evse.Service.emit { all with stdout := (all.stdout.drop o.stdout.length).toString, stderr := "" }
    pure (UInt32.ofNat (all.exit.getD 0))
