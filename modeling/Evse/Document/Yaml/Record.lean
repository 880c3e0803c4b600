import Evse.Document.Yaml.Resolve
import Evse.Document.Node
/-!
Decoding a YAML document into a record of named fields, with merge keys and aliases.
-/
namespace Evse.Document.Yaml

/-- The shape of a field: a value, or a record of named fields. -/
inductive Shape where
  | value
  | record (fields : List (String × Shape))

/-- What a scalar gives a value field: the text a text field takes (binary data decoded) and
the scalar it stands for. -/
def Resolved.given (r : Resolved) (text : String) : String × Scalar :=
  match r with
  | .null => (text, .null)
  | .flag b => (text, .flag b)
  | .integer n => (text, .integer n)
  | .number d => (text, .number d)
  | .text s => (text, .text s)
  | .binary s => (s, .text s)
  | .timestamp => (text, .other "timestamp")

/-- The node an anchor number stands for. -/
def Doc.target (doc : Doc) (n : Nat) : Tree := (doc.anchored.lookup n).getD (emptyNode "")

/-- What makes two keys the same: their kind and their text (an alias's text is its anchor's
name, a collection's is empty). -/
def keyIdentity : Tree → Nat × String
  | .scalar _ text _ => (0, text)
  | .alias _ _ name => (1, name)
  | .mapping _ => (2, "")
  | .sequence _ => (3, "")

/-- Whether two keys of a mapping are the same. -/
def hasRepeatedKey (entries : List (Tree × Tree)) : Bool :=
  let ids := entries.map fun e => keyIdentity e.1
  ids.eraseDups.length != ids.length

/-- Whether a key is the merge key: a plain `<<`, or one tagged `!!merge`. -/
def isMergeKey : Tree → Bool
  | .scalar tag text style => text == "<<" && scalarTag tag text style == "!!merge"
  | _ => false

/-- The text of a key when it stands for text (or binary data), through an alias. -/
def Doc.textKey (doc : Doc) (k : Tree) : Option String :=
  let k := match k with
    | .alias _ n _ => doc.target n
    | k => k
  match k with
  | .scalar tag text style =>
    match scalarValue tag text style with
    | .ok (.text s) | .ok (.binary s) => some s
    | _ => none
  | _ => none

/-- What decoding keeps: the keys already named for the mapping about to be merged in (none
outside a merge), and the values given so far. -/
structure Decoding where
  merged : Option (List String) := none
  given : List (List String × String × Scalar) := []

/-- Decoding a document. -/
abbrev DecodeM := StateT Decoding (Except String)

mutual

/-- Decodes a node into a value field at a path; `aliases` are the aliases being followed. -/
def intoValue : Nat → Doc → List Nat → Tree → List String → DecodeM Unit
  | 0, _, _, _, _ => throw "document nested too deeply"
  | fuel + 1, doc, aliases, node, path =>
    match node with
    | .alias occ n name =>
      if aliases.contains occ then throw s!"anchor {name} value contains itself"
      else intoValue fuel doc (occ :: aliases) (doc.target n) path
    | .scalar tag text style => do
      match ← scalarValue tag text style with
      | .null => pure ()
      | r => modify fun d => { d with given := d.given ++ [(path, r.given text)] }
    | .sequence _ => throw "cannot unmarshal !!seq into a value"
    | .mapping entries => do
      if hasRepeatedKey entries then throw "mapping key already defined"
      throw "cannot unmarshal !!map into a value"

/-- Decodes a node into a record at a path. -/
def intoRecord : Nat → Doc → List Nat → Tree → List String → List (String × Shape) → DecodeM Unit
  | 0, _, _, _, _, _ => throw "document nested too deeply"
  | fuel + 1, doc, aliases, node, path, fields =>
    match node with
    | .alias occ n name =>
      if aliases.contains occ then throw s!"anchor {name} value contains itself"
      else intoRecord fuel doc (occ :: aliases) (doc.target n) path fields
    | .scalar tag text style => do
      match ← scalarValue tag text style with
      | .null => pure ()
      | r => throw s!"cannot unmarshal {r.tag} into a record"
    | .sequence _ => throw "cannot unmarshal !!seq into a record"
    | .mapping entries => do
      if hasRepeatedKey entries then throw "mapping key already defined"
      let names := (← get).merged
      modify fun d => { d with merged := none }
      recordEntries fuel doc aliases entries path fields entries [] none names

/-- Decodes the entries of a mapping into a record. `all` are the mapping's entries, `done`
the fields this mapping has set, `merge` the value of its merge key, and `names` the keys
already named when the mapping is merged in. -/
def recordEntries : Nat → Doc → List Nat → List (Tree × Tree) → List String →
    List (String × Shape) → List (Tree × Tree) → List String → Option Tree → Option (List String) →
    DecodeM Unit
  | 0, _, _, _, _, _, _, _, _, _ => throw "document nested too deeply"
  | fuel + 1, doc, aliases, [], path, fields, all, _, merge, names => do
    modify fun d => { d with merged := names }
    match merge with
    | none => pure ()
    | some m => mergeInto fuel doc aliases all m path fields
  | fuel + 1, doc, aliases, (k, v) :: rest, path, fields, all, done, merge, names => do
    if isMergeKey k then return ← recordEntries fuel doc aliases rest path fields all done (some v) names
    let some name ← keyName fuel doc aliases k
      | recordEntries fuel doc aliases rest path fields all done merge names
    if names.any (·.contains name) then
      return ← recordEntries fuel doc aliases rest path fields all done merge names
    let names := names.map (name :: ·)
    match fields.lookup name with
    | none => recordEntries fuel doc aliases rest path fields all done merge names
    | some shape =>
      if done.contains name then throw s!"field {name} already set"
      match shape with
      | .value => intoValue fuel doc aliases v (path ++ [name])
      | .record fs => intoRecord fuel doc aliases v (path ++ [name]) fs
      recordEntries fuel doc aliases rest path fields all (name :: done) merge names

/-- The name a key gives a field, none for a null key. -/
def keyName : Nat → Doc → List Nat → Tree → DecodeM (Option String)
  | 0, _, _, _ => throw "document nested too deeply"
  | fuel + 1, doc, aliases, k =>
    match k with
    | .alias occ n name =>
      if aliases.contains occ then throw s!"anchor {name} value contains itself"
      else keyName fuel doc (occ :: aliases) (doc.target n)
    | .scalar tag text style => do
      match ← scalarValue tag text style with
      | .null => pure none
      | .binary s => pure (some s)
      | _ => pure (some text)
    | .mapping entries => do
      if hasRepeatedKey entries then throw "mapping key already defined"
      throw "cannot unmarshal !!map into a key"
    | .sequence _ => throw "cannot unmarshal !!seq into a key"

/-- Decodes the value of a merge key into a record. Outside a merge, the keys of the mapping
it stands in are named first. -/
def mergeInto : Nat → Doc → List Nat → List (Tree × Tree) → Tree → List String →
    List (String × Shape) → DecodeM Unit
  | 0, _, _, _, _, _, _ => throw "document nested too deeply"
  | fuel + 1, doc, aliases, parent, m, path, fields => do
    let saved := (← get).merged
    if saved.isNone then
      modify fun d => { d with merged := some (parent.filterMap fun e => doc.textKey e.1) }
    match m with
    | .mapping _ => intoRecord fuel doc aliases m path fields
    | .alias _ n _ =>
      match doc.target n with
      | .mapping _ => intoRecord fuel doc aliases m path fields
      | _ => throw "map merge requires map or sequence of maps as the value"
    | .sequence items => mergeItems fuel doc aliases items path fields
    | _ => throw "map merge requires map or sequence of maps as the value"
    modify fun d => { d with merged := saved }

/-- Decodes the mappings of a merge sequence in order. -/
def mergeItems : Nat → Doc → List Nat → List Tree → List String → List (String × Shape) → DecodeM Unit
  | 0, _, _, _, _, _ => throw "document nested too deeply"
  | _ + 1, _, _, [], _, _ => pure ()
  | fuel + 1, doc, aliases, item :: rest, path, fields => do
    let isMap := match item with
      | .alias _ n _ => match doc.target n with
        | .mapping _ => true
        | _ => false
      | .mapping _ => true
      | _ => false
    if !isMap then throw "map merge requires map or sequence of maps as the value"
    intoRecord fuel doc aliases item path fields
    mergeItems fuel doc aliases rest path fields

end

/-- Decodes a document into a record with the given fields: the values given, each with its
field's path, text and scalar. -/
def Doc.decode (doc : Doc) (fields : List (String × Shape)) :
    Except String (List (List String × String × Scalar)) := do
  let ((), d) ← (intoRecord doc.bound doc [] doc.root [] fields).run {}
  pure d.given

end Evse.Document.Yaml
