import Evse.Document.Yaml.Lexer
/-!
The nodes of the first document of a YAML stream, with anchors kept by number.
-/
namespace Evse.Document.Yaml

/-- A node of a document. -/
inductive Tree where
  | scalar (tag : String) (text : String) (style : Style)
  | sequence (items : List Tree)
  | mapping (entries : List (Tree × Tree))
  /-- An alias: its place among the aliases of the document, the number of the anchored node
  it refers to, and the anchor's name. -/
  | alias (occurrence : Nat) (target : Nat) (name : String)
deriving Inhabited

/-- A document: its root node, its anchored nodes by number, and a bound on the steps of any
walk through it that follows each alias at most once on its way. -/
structure Doc where
  root : Tree
  anchored : List (Nat × Tree)
  bound : Nat

/-- What reading a document keeps: the token stream, the tag handles in force, the anchors
defined so far (latest first) and the anchored nodes already read. -/
structure Reader where
  scanner : Scanner
  handles : List (String × String) := []
  anchors : List (String × Nat) := []
  anchored : List (Nat × Tree) := []
  nextAnchor : Nat := 0
  nextAlias : Nat := 0

/-- Reading a document. -/
abbrev ReadM := StateT Reader (Except String)

/-- The next token. -/
def peekToken : ReadM Token := do
  let r ← get
  let (t, s) ← StateT.lift r.scanner.peek
  set { r with scanner := s }
  pure t

/-- Takes the next token. -/
def takeToken : ReadM Unit := modify fun r => { r with scanner := r.scanner.skipToken }

/-- The node of an empty value: a plain empty scalar with the given tag. -/
def emptyNode (tag : String) : Tree := .scalar tag "" .plain

/-- The handles every document knows. -/
def defaultHandles : List (String × String) := [("!", "!"), ("!!", "tag:yaml.org,2002:")]

/-- The full tag a handle and suffix stand for; a handle that no directive defines is an
error. -/
def fullTag (handle suffix : String) : ReadM String := do
  if handle.isEmpty then return suffix
  match (← get).handles.lookup handle with
  | some pfx =>
    if (pfx ++ suffix).isEmpty then throw "while parsing a node: found undefined tag handle"
    pure (pfx ++ suffix)
  | none => throw "while parsing a node: found undefined tag handle"

/-- Reads the anchor and tag before a node, in either order. -/
def properties : ReadM (Option String × String) := do
  match ← peekToken with
  | .anchor a =>
    takeToken
    match ← peekToken with
    | .tag h s => takeToken; pure (some a, ← fullTag h s)
    | _ => pure (some a, "")
  | .tag h s =>
    takeToken
    match ← peekToken with
    | .anchor a => takeToken; pure (some a, ← fullTag h s)
    | _ => pure (none, ← fullTag h s)
  | _ => pure (none, "")

/-- Defines an anchor for the node that starts now, returning the node's number. -/
def defineAnchor : Option String → ReadM (Option Nat)
  | none => pure none
  | some a => do
    let r ← get
    set { r with anchors := (a, r.nextAnchor) :: r.anchors, nextAnchor := r.nextAnchor + 1 }
    pure (some r.nextAnchor)

/-- Keeps a finished node under its anchor's number. -/
def keepAnchored (number : Option Nat) (t : Tree) : ReadM Tree := do
  if let some n := number then modify fun r => { r with anchored := (n, t) :: r.anchored }
  pure t

/-- Whether a token ends a block entry's value. -/
def endsBlockValue (t : Token) : Bool := t == .key || t == .value || t == .blockEnd

mutual

/-- Reads a node; in a block context block collections may start, and where a mapping's
value may be an indentless sequence, `- ` starts one. -/
def node : Nat → Bool → Bool → ReadM Tree
  | 0, _, _ => throw "while parsing a node: nested too deeply"
  | fuel + 1, block, indentless => do
    if let .alias name := ← peekToken then
      takeToken
      let r ← get
      match r.anchors.lookup name with
      | none => throw s!"unknown anchor {name} referenced"
      | some n =>
        set { r with nextAlias := r.nextAlias + 1 }
        return .alias r.nextAlias n name
    let (anchor, tag) ← properties
    let t ← peekToken
    if indentless && t == .blockEntry then
      let n ← defineAnchor anchor
      return ← keepAnchored n (.sequence (← indentlessItems fuel []))
    match t with
    | .scalar text style =>
      takeToken
      let n ← defineAnchor anchor
      keepAnchored n (.scalar tag text style)
    | .flowSequenceStart =>
      takeToken
      let n ← defineAnchor anchor
      keepAnchored n (.sequence (← flowItems fuel true []))
    | .flowMappingStart =>
      takeToken
      let n ← defineAnchor anchor
      keepAnchored n (.mapping (← flowEntries fuel true []))
    | .blockSequenceStart =>
      if block then
        takeToken
        let n ← defineAnchor anchor
        keepAnchored n (.sequence (← blockItems fuel []))
      else emptyOrFail anchor tag
    | .blockMappingStart =>
      if block then
        takeToken
        let n ← defineAnchor anchor
        keepAnchored n (.mapping (← blockEntries fuel []))
      else emptyOrFail anchor tag
    | _ => emptyOrFail anchor tag

/-- The empty node that an anchor or tag alone stands for; with neither, no node is there. -/
def emptyOrFail (anchor : Option String) (tag : String) : ReadM Tree := do
  if anchor.isNone && tag.isEmpty then throw "did not find expected node content"
  let n ← defineAnchor anchor
  keepAnchored n (emptyNode tag)

/-- Reads the entries of a block sequence. -/
def blockItems : Nat → List Tree → ReadM (List Tree)
  | 0, _ => throw "while parsing a block collection: nested too deeply"
  | fuel + 1, acc => do
    match ← peekToken with
    | .blockEntry =>
      takeToken
      let t ← peekToken
      if t == .blockEntry || t == .blockEnd then blockItems fuel (acc ++ [emptyNode ""])
      else
        let item ← node fuel true false
        blockItems fuel (acc ++ [item])
    | .blockEnd => takeToken; pure acc
    | _ => throw "while parsing a block collection: did not find expected - indicator"

/-- Reads the entries of a sequence that is not indented below its mapping key. -/
def indentlessItems : Nat → List Tree → ReadM (List Tree)
  | 0, _ => throw "while parsing a block collection: nested too deeply"
  | fuel + 1, acc => do
    match ← peekToken with
    | .blockEntry =>
      takeToken
      let t ← peekToken
      if t == .blockEntry || endsBlockValue t then indentlessItems fuel (acc ++ [emptyNode ""])
      else
        let item ← node fuel true false
        indentlessItems fuel (acc ++ [item])
    | _ => pure acc

/-- Reads the entries of a block mapping. -/
def blockEntries : Nat → List (Tree × Tree) → ReadM (List (Tree × Tree))
  | 0, _ => throw "while parsing a block mapping: nested too deeply"
  | fuel + 1, acc => do
    match ← peekToken with
    | .key =>
      takeToken
      let k ← if endsBlockValue (← peekToken) then pure (emptyNode "") else node fuel true true
      let v ← blockValue fuel
      blockEntries fuel (acc ++ [(k, v)])
    | .blockEnd => takeToken; pure acc
    | _ => throw "while parsing a block mapping: did not find expected key"

/-- Reads the value of a block mapping entry, empty when there is none. -/
def blockValue : Nat → ReadM Tree
  | 0 => throw "while parsing a block mapping: nested too deeply"
  | fuel + 1 => do
    match ← peekToken with
    | .value =>
      takeToken
      if endsBlockValue (← peekToken) then pure (emptyNode "") else node fuel true true
    | _ => pure (emptyNode "")

/-- Reads the value of a pair in a flow collection that closes with `closing`. -/
def flowValue : Nat → Token → ReadM Tree
  | 0, _ => throw "while parsing a flow collection: nested too deeply"
  | fuel + 1, closing => do
    match ← peekToken with
    | .value =>
      takeToken
      let t ← peekToken
      if t == .flowEntry || t == closing then pure (emptyNode "") else node fuel false false
    | _ => pure (emptyNode "")

/-- Reads the entries of a flow sequence; an entry `? key : value` or `key: value` is a
mapping of one pair. -/
def flowItems : Nat → Bool → List Tree → ReadM (List Tree)
  | 0, _, _ => throw "while parsing a flow sequence: nested too deeply"
  | fuel + 1, first, acc => do
    let t ← peekToken
    if t == .flowSequenceEnd then
      takeToken
      return acc
    let t ← if first then pure t
      else if t == .flowEntry then do takeToken; peekToken
      else throw "while parsing a flow sequence: did not find expected , or ]"
    if t == .key then
      takeToken
      let t ← peekToken
      let k ← if t == .value || t == .flowEntry || t == .flowSequenceEnd then pure (emptyNode "")
        else node fuel false false
      let v ← flowValue fuel .flowSequenceEnd
      flowItems fuel false (acc ++ [.mapping [(k, v)]])
    else if t == .flowSequenceEnd then
      takeToken
      return acc
    else
      let item ← node fuel false false
      flowItems fuel false (acc ++ [item])

/-- Reads the entries of a flow mapping; an entry with no value has an empty one. -/
def flowEntries : Nat → Bool → List (Tree × Tree) → ReadM (List (Tree × Tree))
  | 0, _, _ => throw "while parsing a flow mapping: nested too deeply"
  | fuel + 1, first, acc => do
    let t ← peekToken
    if t == .flowMappingEnd then
      takeToken
      return acc
    let t ← if first then pure t
      else if t == .flowEntry then do takeToken; peekToken
      else throw "while parsing a flow mapping: did not find expected , or \x7d"
    if t == .key then
      takeToken
      let t ← peekToken
      let k ← if t == .value || t == .flowEntry || t == .flowMappingEnd then pure (emptyNode "")
        else node fuel false false
      let v ← flowValue fuel .flowMappingEnd
      flowEntries fuel false (acc ++ [(k, v)])
    else if t == .flowMappingEnd then
      takeToken
      return acc
    else
      let k ← node fuel false false
      flowEntries fuel false (acc ++ [(k, emptyNode "")])

end

/-- Reads the directives before a document: at most one `%YAML`, which must be 1.1, and
`%TAG` directives with distinct handles; then the default handles not redefined. -/
def directives : Nat → Bool → ReadM Unit
  | 0, _ => pure ()
  | fuel + 1, seenVersion => do
    match ← peekToken with
    | .versionDirective major minor =>
      if seenVersion then throw "found duplicate %YAML directive"
      if major != 1 || minor != 1 then throw "found incompatible YAML document"
      takeToken
      directives fuel true
    | .tagDirective h p =>
      if (← get).handles.any (·.1 == h) then throw "found duplicate %TAG directive"
      modify fun r => { r with handles := r.handles ++ [(h, p)] }
      takeToken
      directives fuel seenVersion
    | _ =>
      modify fun r =>
        { r with handles := r.handles ++ defaultHandles.filter fun (h, _) => !r.handles.any (·.1 == h) }

/-- Whether a token may not start the content of an explicit document. -/
def endsDocument : Token → Bool
  | .versionDirective _ _ | .tagDirective _ _ | .documentStart | .documentEnd | .streamEnd => true
  | _ => false

/-- Whether a token starts an explicit document: a directive or `---`. -/
def startsExplicit : Token → Bool
  | .versionDirective _ _ | .tagDirective _ _ | .documentStart => true
  | _ => false

/-- Reads the first document of a stream, if there is one. -/
def firstDocument (fuel : Nat) : ReadM (Option Tree) := do
  match ← peekToken with
  | .streamStart => takeToken
  | _ => throw "did not find expected <stream-start>"
  let t ← peekToken
  if t == .streamEnd then return none
  let root ←
    if startsExplicit t then do
      directives fuel false
      unless (← peekToken) == .documentStart do throw "did not find expected <document start>"
      takeToken
      if endsDocument (← peekToken) then pure (emptyNode "") else node fuel true false
    else do
      directives fuel false
      node fuel true false
  if (← peekToken) == .documentEnd then takeToken
  pure (some root)

/-- Whether a character may stand in a YAML text: tab, line feed, carriage return, the
printable ASCII characters, NEL, and the rest of Unicode but the C1 controls and U+FFFE and
U+FFFF. -/
def isAllowedChar (c : Char) : Bool :=
  let n := c.toNat
  n = 0x09 || n = 0x0A || n = 0x0D || (0x20 ≤ n && n ≤ 0x7E) || n = 0x85 ||
    (0xA0 ≤ n && n ≤ 0xD7FF) || (0xE000 ≤ n && n ≤ 0xFFFD) || (0x10000 ≤ n && n ≤ 0x10FFFF)

/-- Reads the first document of a text; a byte order mark may start the text. -/
def Doc.read (content : String) : Except String (Option Doc) := do
  let cs := content.toList
  if !cs.all isAllowedChar then throw "control characters are not allowed"
  let cs := match cs with
    | c :: r => if c.toNat = 0xFEFF then r else cs
    | [] => cs
  let (root, r) ← (firstDocument (4 * cs.length + 16)).run { scanner := Scanner.ofText cs }
  let size := 4 * cs.length + 16
  pure (root.map fun t => { root := t, anchored := r.anchored, bound := size * (r.nextAlias + 2) })

end Evse.Document.Yaml
