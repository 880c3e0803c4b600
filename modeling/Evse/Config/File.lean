import Evse.Config.Env
import Evse.Document.Yaml.Record
import Evse.Document.Json
import Evse.Document.Toml
import Evse.Document.DotEnv
import Evse.Document.Edn
import Evse.Text.Fold
import Evse.Text.Case
/-!
Reading a configuration file in the format its extension names, then the environment over it
and the defaults under it.
-/
namespace Evse.Configuration

open Document

/-- The formats of configuration files. -/
inductive Format where
  | yaml
  | json
  | toml
  | edn
  | dotenv
deriving DecidableEq, Repr

/-- The extension of a path: its last element from the last dot on, or nothing. -/
def extension (path : String) : String :=
  let base := (path.splitOn "/").getLast?.getD ""
  match base.splitOn "." with
  | [] | [_] => ""
  | parts => "." ++ parts.getLast?.getD ""

/-- The format an extension names. -/
def Format.ofExtension (ext : String) : Option Format :=
  match Text.lower ext with
  | ".yaml" | ".yml" => some .yaml
  | ".json" => some .json
  | ".toml" => some .toml
  | ".edn" => some .edn
  | ".env" => some .dotenv
  | _ => none

/-- Whether a key names a group or setting: YAML keys exactly, other keys by field name in
any case. -/
def Format.matches (f : Format) (fileKey : String) (key field : String) : Bool :=
  match f with
  | .yaml => fileKey == key
  | _ => Text.foldEqual fileKey field

/-- Whether an integer fits in 64 signed bits. -/
def fits (n : Int) : Bool := n < (Nat.pow 2 63 : Int) && n ≥ -(Nat.pow 2 63 : Int)

/-- The integer a number becomes in a 64-bit signed setting: a number above 2^63 (or not a
number) is refused; otherwise it is cut toward zero, and a whole part outside the 64-bit
range (negative infinity included) becomes the least 64-bit integer. -/
def wholePart (d : Number.Double) : Option Int :=
  let least : Int := -(Nat.pow 2 63 : Int)
  if !d.atMost (Nat.pow 2 63 : Int) then none
  else match d.truncate with
    | some n => some (if fits n then n else least)
    | none => some least

/-- The number nearest an integer. -/
def nearest (n : Int) : Number.Double :=
  match Number.Double.ofNat n.natAbs with
  | .finite _ u => .finite (n < 0) u
  | v => v

/-- The value a format takes for a setting kind from a scalar, or none when it refuses it. -/
def Format.take (f : Format) (k : Kind) (written : String) (v : Scalar) : Option Value :=
  match f, k, v with
  | .yaml, .text, _ => some (.text written)
  | .yaml, .integer, .integer n => if fits n then some (.integer n) else none
  | .yaml, .integer, .number d => (wholePart d).map .integer
  | .yaml, .flag, .flag b => some (.flag b)
  | .yaml, .flag, .text s =>
    if ["y", "Y", "yes", "Yes", "YES", "on", "On", "ON"].contains s then some (.flag true)
    else if ["n", "N", "no", "No", "NO", "off", "Off", "OFF"].contains s then some (.flag false)
    else none
  | .yaml, .span, .text s => (Time.parseDuration s).toOption.map .integer
  | .yaml, .number, .integer n => some (.number (nearest n))
  | .yaml, .number, .number d => some (.number d)
  | .json, .text, .text s => some (.text s)
  | .json, .integer, .number _ | .json, .span, .number _ =>
    match Text.parseInteger written with
    | .ok n => if written.all fun c => c.isDigit || c = '-' then some (.integer n) else none
    | .error _ => none
  | .json, .flag, .flag b => some (.flag b)
  | .json, .number, .number _ => (Number.parseDouble written).toOption.map .number
  | .toml, .text, .text s => some (.text s)
  | .toml, .integer, .integer n => some (.integer n)
  | .toml, .span, .integer n => some (.integer n)
  | .toml, .span, .text s => (Time.parseDuration s).toOption.map .integer
  | .toml, .flag, .flag b => some (.flag b)
  | .toml, .number, .number d => some (.number d)
  | .toml, .number, .integer n =>
    if n.natAbs < Nat.pow 2 53 then some (.number (nearest n)) else none
  | .edn, .text, .text s => some (.text s)
  | .edn, .integer, .integer n | .edn, .span, .integer n => if fits n then some (.integer n) else none
  | .edn, .flag, .flag b => some (.flag b)
  | .edn, .number, .number d => some (.number d)
  | .edn, .number, .integer _ => (Number.parseDouble written).toOption.map .number
  | _, _, _ => none

/-- The entries of a mapping that name a key. -/
def matching (f : Format) (entries : List (String × Node)) (key field : String) : List Node :=
  (entries.filter fun (k, _) => f.matches k key field).map (·.2)

/-- Sets one setting from the nodes that name it, in order. -/
def takeSetting (f : Format) (s : Setting) (c : Config) (nodes : List Node) : Except String Config :=
  nodes.foldlM (fun c n =>
    match n with
    | .scalar _ .null => .ok c
    | .scalar w v =>
      match f.take s.kind w v with
      | some value => .ok (c.set s value)
      | none => .error s!"cannot unmarshal {Text.quote w} into {s.fieldPlace.2}"
    | _ => .error s!"cannot unmarshal a collection into {s.fieldPlace.2}") c

/-- The groups a document names: each group's entries, in order. -/
def groupEntries (f : Format) (root : List (String × Node)) (group field : String) :
    Except String (List (String × Node)) :=
  (matching f root group field).foldlM (fun acc n =>
    match n with
    | .mapping es => .ok (acc ++ es)
    | .scalar _ .null => .ok acc
    | _ => .error s!"cannot unmarshal into {field}") []

/-- Reads the settings a document gives into a configuration. -/
def decode (f : Format) (root : Node) : Except String Config :=
  match root with
  | .scalar _ .null => .ok Config.zero
  | .mapping entries =>
    Setting.all.foldlM (fun c s => do
      let (group, key) := s.place
      let (groupField, field) := s.fieldPlace
      let scope ← match group, groupField with
        | some g, some gf => groupEntries f entries g gf
        | _, _ => pure entries
      takeSetting f s c (matching f scope key field)) Config.zero
  | _ => .error "cannot unmarshal the document into a configuration"

/-- The fields of a configuration in a YAML file: the mode, and a record per group with the
keys of its settings. -/
def yamlFields : List (String × Yaml.Shape) :=
  let groups := (Setting.all.filterMap fun s => s.place.1).eraseDups
  (Setting.all.filterMap fun s => match s.place with
    | (none, k) => some (k, Yaml.Shape.value)
    | _ => none) ++
  groups.map fun g => (g, .record (Setting.all.filterMap fun s => match s.place with
    | (some g', k) => if g' == g then some (k, Yaml.Shape.value) else none
    | _ => none))

/-- Sets the settings that a YAML file gives values, each value taken as YAML takes it. -/
def applyYaml (given : List (List String × String × Scalar)) : Except String Config :=
  given.foldlM (fun c (path, written, v) =>
    let place := match path with
      | [k] => some (none, k)
      | [g, k] => some (some g, k)
      | _ => none
    match Setting.all.find? fun s => some s.place == place with
    | none => .ok c
    | some s =>
      match Format.yaml.take s.kind written v with
      | some value => .ok (c.set s value)
      | none => .error s!"cannot unmarshal {Text.quote written} into {s.fieldPlace.2}") Config.zero

/-- Reads a configuration file's text over the environment. -/
def readFile (path : String) (content : Option String) (env : Environment) : Except ReadError Config :=
  match content with
  | none => .error (.missingFile path)
  | some text =>
    let ext := Text.lower (extension path)
    match Format.ofExtension ext with
    | none => .error (.format ext)
    | some .dotenv =>
      match DotEnv.read text with
      | .ok vars =>
        if vars.all fun (k, v) => DotEnv.settable k v then readEnvironment (vars ++ env) Config.zero
        else .error (.parse "set environment: setenv: invalid argument")
      | .error why => .error (.parse why)
    | some .yaml =>
      match Yaml.Doc.read text with
      | .error why => .error (.parse why)
      | .ok none => .error (.parse "EOF")
      | .ok (some doc) =>
        match doc.decode yamlFields >>= applyYaml with
        | .error why => .error (.parse why)
        | .ok c => readEnvironment env c
    | some f =>
      let parsed : Except String (Option Node) := match f with
        | .json => Json.read text
        | .edn => Edn.read text
        | _ => (Toml.read text).map some
      match parsed with
      | .error why => .error (.parse why)
      | .ok none => .error (.parse "EOF")
      | .ok (some root) =>
        match decode f root with
        | .error why => .error (.parse why)
        | .ok c => readEnvironment env c

/-- Loads a configuration from a file (none when it does not exist) and the environment. -/
def loadFile (path : String) (content : Option String) (env : Environment) : Except LoadError Config :=
  finish (readFile path content env)

end Evse.Configuration
