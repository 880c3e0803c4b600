import Evse.Text.Numeral
import Evse.Text.Quote
/-!
The service's command line flags, their usage and their mistakes.
-/
namespace Evse.Service

/-- The flags of a run. -/
structure Flags where
  /-- The configuration file; empty for none. -/
  config : String := ""
  /-- The log level, overriding the configuration when not negative. -/
  level : Int := -1
  /-- Print the supported environment variables instead of running. -/
  showEnv : Bool := false
deriving DecidableEq, Repr, Inhabited

/-- How reading the command line ends. -/
inductive Parsed where
  | flags (f : Flags) (rest : List String)
  | help
  | mistake (complaint : String)
deriving DecidableEq, Repr

/-- The usage text for a program name. -/
def usage (program : String) : String :=
  "Usage of " ++ program ++ ":\n" ++
  "  -config string\n    \tPath to a YAML configuration file\n" ++
  "  -env\n    \tPrint the supported environment variables and exit\n" ++
  "  -log int\n    \tService log level (0=NONE, 1=ERROR, 2=WARN, 3=INFO, 4=DEBUG), " ++
  "overrides the configuration (default -1)\n"

/-- The kinds of flags. -/
inductive FlagKind where
  | text
  | integer
  | switch
deriving DecidableEq, Repr

/-- The kind of a flag name, when it is one of the service's. -/
def flagKind : String → Option FlagKind
  | "config" => some .text
  | "log" => some .integer
  | "env" => some .switch
  | _ => none

/-- Sets a flag from its text. -/
def setFlag (f : Flags) (name value : String) : Except String Flags :=
  match flagKind name with
  | some .text => .ok { f with config := value }
  | some .integer =>
    match Text.parseInteger value with
    | .ok n => .ok { f with level := n }
    | .error .range => .error ("invalid value " ++ Text.quote value ++ " for flag -" ++ name ++ ": value out of range")
    | .error _ => .error ("invalid value " ++ Text.quote value ++ " for flag -" ++ name ++ ": parse error")
  | some .switch =>
    match Text.parseFlag value with
    | some b => .ok { f with showEnv := b }
    | none => .error ("invalid boolean value " ++ Text.quote value ++ " for -" ++ name ++ ": parse error")
  | none => .ok f

/-- Reads the flags from the arguments; `fuel` bounds the steps, each of which takes at
least one argument. -/
def parseFrom : Nat → List String → Flags → Parsed
  | 0, args, f => .flags f args
  | _ + 1, [], f => .flags f []
  | fuel + 1, arg :: rest, f =>
    let cs := arg.toList
    if cs.length < 2 || cs.head? != some '-' then .flags f (arg :: rest)
    else if arg == "--" then .flags f rest
    else
      let body := if cs[1]? == some '-' then cs.drop 2 else cs.drop 1
      match body with
      | [] | '-' :: _ | '=' :: _ => .mistake ("bad flag syntax: " ++ arg)
      | c :: more =>
        let (nameTail, valuePart) := more.span (· ≠ '=')
        let name := String.ofList (c :: nameTail)
        let value : Option String := match valuePart with
          | _ :: v => some (String.ofList v)
          | [] => none
        match flagKind name with
        | none =>
          if name == "help" || name == "h" then .help
          else .mistake ("flag provided but not defined: -" ++ name)
        | some .switch =>
          match setFlag f name (value.getD "true") with
          | .ok f => parseFrom fuel rest f
          | .error e => .mistake e
        | some _ =>
          match value, rest with
          | some v, _ =>
            match setFlag f name v with
            | .ok f => parseFrom fuel rest f
            | .error e => .mistake e
          | none, v :: rest' =>
            match setFlag f name v with
            | .ok f => parseFrom fuel rest' f
            | .error e => .mistake e
          | none, [] => .mistake ("flag needs an argument: -" ++ name)

/-- Reads the command line. -/
def parseArgs (args : List String) : Parsed :=
  parseFrom (args.length + 1) args {}

end Evse.Service
