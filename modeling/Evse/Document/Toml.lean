import Evse.Document.Node
import Evse.Text.Quote
/-!
Reading TOML documents.
-/
namespace Evse.Document.Toml

abbrev Reading := Except String

def isBlank (c : Char) : Bool := c = ' ' || c = '\t'

def isBareKeyChar (c : Char) : Bool := c.isAlphanum || c = '_' || c = '-'

/-- Blanks, line breaks and comments. -/
def skipAll : Nat → List Char → List Char
  | 0, cs => cs
  | fuel + 1, cs =>
    match cs.dropWhile fun c => isBlank c || c = '\n' || c = '\r' with
    | '#' :: r => skipAll fuel (r.dropWhile (· ≠ '\n'))
    | r => r

/-- Blanks only. -/
def skipBlanks (cs : List Char) : List Char := cs.dropWhile isBlank

/-- The end of a statement: blanks, an optional comment, then a line break or the end. -/
def endOfLine (cs : List Char) : Reading (List Char) :=
  match skipBlanks cs with
  | [] => .ok []
  | '\n' :: r => .ok r
  | '\r' :: '\n' :: r => .ok r
  | '#' :: r => .ok (r.dropWhile (· ≠ '\n'))
  | c :: _ => .error s!"toml: expected a newline after a value, found {c}"

/-- The value of hexadecimal digits. -/
def hexValue (ds : List Char) : Option Nat :=
  ds.foldlM (fun acc c =>
    if c.isDigit then some (acc * 16 + (c.toNat - '0'.toNat))
    else if 'a' ≤ c.toLower && c.toLower ≤ 'f' then some (acc * 16 + (c.toLower.toNat - 'a'.toNat + 10))
    else none) 0

/-- Reads a basic string after its opening quote. A multi-line string ends at a run of three to five
quotes, the quotes before the last three kept; a run of six is an error. -/
def basic : Nat → Bool → List Char → List Char → Reading (String × List Char)
  | 0, _, _, _ => .error "toml: unterminated string"
  | _ + 1, _, [], _ => .error "toml: unterminated string"
  | fuel + 1, multi, c :: rest, acc =>
    if c = '"' then
      if !multi then .ok (String.ofList acc.reverse, rest)
      else
        let run := 1 + (rest.takeWhile (· = '"')).length
        if run < 3 then basic fuel multi rest (c :: acc)
        else if run > 5 then .error "toml: too many quotes at the end of a string"
        else .ok (String.ofList (List.replicate (run - 3) '"' ++ acc).reverse, rest.drop (run - 1))
    else if c = '\n' && !multi then .error "toml: unterminated string"
    else if c = '\\' then
      match rest with
      | 'u' :: r | 'U' :: r =>
        let width := if rest.head? = some 'u' then 4 else 8
        match hexValue (r.take width) with
        | some v =>
          if (r.take width).length = width && (v < 0xD800 || (0xDFFF < v && v ≤ 0x10FFFF)) then
            basic fuel multi (r.drop width) (Char.ofNat v :: acc)
          else .error "toml: invalid escape"
        | none => .error "toml: invalid escape"
      | e :: r =>
        let ch : Option Char := match e with
          | 'b' => some (Char.ofNat 8) | 't' => some '\t' | 'n' => some '\n' | 'f' => some (Char.ofNat 12)
          | 'r' => some '\r' | '"' => some '"' | '\\' => some '\\'
          | _ => none
        match ch with
        | some ch => basic fuel multi r (ch :: acc)
        | none =>
          let gap := rest.takeWhile fun c => isBlank c || c = '\n' || c = '\r'
          if multi && gap.contains '\n' then basic fuel multi (rest.drop gap.length) acc
          else .error s!"toml: invalid escape character {e}"
      | [] => .error "toml: unterminated string"
    else basic fuel multi rest (c :: acc)

/-- Reads a literal string after its opening quote; a multi-line one closes as a multi-line
basic string does. -/
def literal : Nat → Bool → List Char → List Char → Reading (String × List Char)
  | 0, _, _, _ => .error "toml: unterminated string"
  | _ + 1, _, [], _ => .error "toml: unterminated string"
  | fuel + 1, multi, c :: rest, acc =>
    if c = '\'' then
      if !multi then .ok (String.ofList acc.reverse, rest)
      else
        let run := 1 + (rest.takeWhile (· = '\'')).length
        if run < 3 then literal fuel multi rest (c :: acc)
        else if run > 5 then .error "toml: too many quotes at the end of a string"
        else .ok (String.ofList (List.replicate (run - 3) '\'' ++ acc).reverse, rest.drop (run - 1))
    else if c = '\n' && !multi then .error "toml: unterminated string"
    else literal fuel multi rest (c :: acc)

/-- Reads a string at the head of `cs`. -/
def string (cs : List Char) : Reading (String × List Char) :=
  match cs with
  | '"' :: '"' :: '"' :: r =>
    let r := match r with | '\n' :: t => t | '\r' :: '\n' :: t => t | t => t
    basic (r.length + 1) true r []
  | '"' :: r => basic (r.length + 1) false r []
  | '\'' :: '\'' :: '\'' :: r =>
    let r := match r with | '\n' :: t => t | '\r' :: '\n' :: t => t | t => t
    literal (r.length + 1) true r []
  | '\'' :: r => literal (r.length + 1) false r []
  | _ => .error "toml: expected a string"

/-- Reads one key part: bare or quoted. -/
def keyPart (cs : List Char) : Reading (String × List Char) :=
  match cs with
  | '"' :: _ | '\'' :: _ => string cs
  | _ =>
    let (k, r) := cs.span isBareKeyChar
    if k.isEmpty then .error "toml: expected a key" else .ok (String.ofList k, r)

/-- Reads a dotted key. -/
def key : Nat → List Char → Reading (List String × List Char)
  | 0, _ => .error "toml: expected a key"
  | fuel + 1, cs => do
    let (k, r) ← keyPart (skipBlanks cs)
    match skipBlanks r with
    | '.' :: r => do
      let (ks, r) ← key fuel r
      pure (k :: ks, r)
    | r => pure ([k], r)

/-- Whether every underscore of a numeral part follows a hexadecimal digit and the part
ends in one, as TOML asks of underscores between digits. -/
def underscoresSurrounded (cs : List Char) : Bool :=
  let hex (c : Char) := c.isDigit || ('a' ≤ c.toLower && c.toLower ≤ 'f')
  let step := fun (ok : Option Bool) (c : Char) =>
    match ok with
    | none => none
    | some accept => if c = '_' && !accept then none else some (hex c)
  (cs.foldl step (some false)).getD false

/-- Whether the parts of a float between its points and exponent letters each pass
`underscoresSurrounded`. -/
def floatUnderscores (cs : List Char) : Bool :=
  let cut (c : Char) := c = '.' || c = 'e' || c = 'E'
  let parts := cs.foldr (fun c acc =>
    if cut c then [] :: acc
    else match acc with
      | p :: ps => (c :: p) :: ps
      | [] => [[c]]) [[]]
  (parts.filter (!·.isEmpty)).all underscoresSurrounded

/-- Whether a numeral as written starts with a zero that another character follows (a base
prefix apart), or with a sign and then a zero. -/
def hasLeadingZero : List Char → Bool
  | '0' :: c :: _ => c ≠ 'b' && c ≠ 'o' && c ≠ 'x'
  | s :: '0' :: _ :: _ => s = '+' || s = '-'
  | _ => false

/-- Reads a number, a truth value or a date at the head of `cs`. -/
def atom (cs : List Char) : Reading (Node × List Char) :=
  let (w, rest) := cs.span fun c => c.isAlphanum || c = '_' || c = '+' || c = '-' || c = '.' || c = ':'
  let s := String.ofList w
  if s = "true" then .ok (.scalar s (.flag true), rest)
  else if s = "false" then .ok (.scalar s (.flag false), rest)
  else if ["inf", "+inf"].contains s then .ok (.scalar s (.number (.infinite false)), rest)
  else if s = "-inf" then .ok (.scalar s (.number (.infinite true)), rest)
  else if ["nan", "+nan", "-nan"].contains s then .ok (.scalar s (.number .nan), rest)
  else
    let body := match w with | '+' :: r | '-' :: r => r | r => r
    let prefixed := match body with
      | '0' :: c :: _ => c = 'x' || c = 'o' || c = 'b'
      | _ => false
    let whole := body.all (fun c => c.isDigit || c = '_') || prefixed
    let leadingZero :=
      if whole then hasLeadingZero w
      else hasLeadingZero (w.takeWhile fun c => c ≠ '.' && c ≠ 'e' && c ≠ 'E')
    let underscoresOk :=
      if whole then Text.underscoresFit w && underscoresSurrounded w else floatUnderscores w
    if w.contains ':' || (body.length ≥ 5 && body.getD 4 ' ' = '-') then
      .ok (.scalar s (.other "date"), rest)
    else if !underscoresOk || leadingZero then .error s!"toml: invalid number {Text.quote s}"
    else if prefixed && (w.head? = some '+' || w.head? = some '-') then .error s!"toml: invalid number {Text.quote s}"
    else if whole then
      match Text.parseInteger s with
      | .ok n => .ok (.scalar s (.integer n), rest)
      | .error _ => .error s!"toml: invalid integer {Text.quote s}"
    else match Number.parseDouble (String.ofList (w.filter (· ≠ '_'))) with
      | .ok d =>
        let parts := body.span Char.isDigit
        if parts.1.isEmpty || (parts.2.head? = some '.' && !(parts.2.drop 1).head?.any Char.isDigit) then
          .error s!"toml: invalid float {Text.quote s}"
        else .ok (.scalar s (.number d), rest)
      | .error _ => .error s!"toml: invalid value {Text.quote s}"

/-- A document under construction: values written whole (scalars and arrays), tables, and
arrays of tables, each of whose tables is a list of entries. -/
inductive Tree where
  | value (n : Node)
  | table (entries : List (String × Tree))
  | tables (items : List (List (String × Tree)))

/-- The entries of a table under construction. -/
abbrev Tables := List (String × Tree)

mutual

/-- The node a finished tree gives. -/
def Tree.toNode : Tree → Node
  | .value n => n
  | .table es => .mapping (Tree.entriesNode es)
  | .tables items => .sequence (Tree.itemsNode items)

/-- The nodes of a table's entries. -/
def Tree.entriesNode : List (String × Tree) → List (String × Node)
  | [] => []
  | (k, t) :: rest => (k, t.toNode) :: Tree.entriesNode rest

/-- The nodes of an array of tables. -/
def Tree.itemsNode : List (List (String × Tree)) → List Node
  | [] => []
  | es :: rest => .mapping (Tree.entriesNode es) :: Tree.itemsNode rest

end

/-- Whether a tree is an array written whole. -/
def Tree.isArray : Tree → Bool
  | .value (.sequence _) => true
  | _ => false

/-- A table's entries with the value of one key replaced. -/
def replaceEntry (k : String) (t : Tree) (es : Tables) : Tables :=
  es.map fun (k', u) => if k' == k then (k', t) else (k', u)

/-- The tree at a path, going into the last table of each array of tables on the way. -/
def find : List String → Tables → Option Tree
  | [], es => some (.table es)
  | [k], es => es.lookup k
  | k :: ks, es =>
    match es.lookup k with
    | some (.table inner) => find ks inner
    | some (.tables items) => items.getLast?.bind (find ks)
    | _ => none

/-- Changes the table at a path, going into the last table of each array of tables on the
way; a path through anything else is refused. -/
def within : List String → (Tables → Reading Tables) → Tables → Reading Tables
  | [], f, es => f es
  | k :: ks, f, es =>
    match es.lookup k with
    | some (.table inner) => do
      let inner ← within ks f inner
      pure (replaceEntry k (.table inner) es)
    | some (.tables items) =>
      match items.getLast? with
      | some last => do
        let last ← within ks f last
        pure (replaceEntry k (.tables (items.dropLast ++ [last])) es)
      | none => .error "toml: empty array of tables"
    | _ => .error ("toml: key " ++ Text.quote k ++ " has already been defined")

/-- What reading a document keeps track of: the document so far, the table that pairs go
into, the tables made only on the way to another (which a header or pair may still define),
and the keys that last held an array written whole (which a later value may replace). -/
structure State where
  root : Tables := []
  context : List String := []
  implicit : List (List String) := []
  arrays : List (List String) := []

abbrev Parser := StateT State Reading

/-- Marks a table as made on the way to another. -/
def markImplicit (path : List String) : Parser Unit :=
  modify fun s => { s with implicit := path :: s.implicit }

/-- Records whether the key at a path (the current table for the empty key) holds an array
written whole. -/
def setKind (key : String) (array : Bool) : Parser Unit :=
  modify fun s =>
    let path := if key.isEmpty then s.context else s.context ++ [key]
    let rest := s.arrays.filter (· != path)
    { s with arrays := if array then path :: rest else rest }

/-- Defines a key of the current table. A key already there may be defined again when it
held an array written whole (the new value replaces it) or was a table made on the way to
another (which stays as it is); either way it is defined from then on. -/
def setValue (key : String) (v : Tree) : Parser Unit := do
  let s ← get
  let path := s.context ++ [key]
  let existed := (find path s.root).isSome
  let root ← StateT.lift (within s.context (fun es =>
    match es.lookup key with
    | some _ =>
      if s.arrays.contains path then .ok (replaceEntry key v es)
      else if s.implicit.contains path then .ok es
      else .error ("toml: key " ++ Text.quote key ++ " has already been defined")
    | none => .ok (es ++ [(key, v)])) s.root)
  set { s with root, implicit := if existed then s.implicit.filter (· != path) else s.implicit }

/-- Opens the table (or a new table of the array of tables) at a path, making the tables
on the way that are missing, and makes it the current table. -/
def addContext (path : List String) (array : Bool) : Parser Unit := do
  for i in List.range (path.length - 1) do
    let p := path.take (i + 1)
    let s ← get
    match find p s.root with
    | none =>
      let root ← StateT.lift (within p.dropLast (fun es => .ok (es ++ [(p.getLast?.getD "", .table [])])) s.root)
      set { s with root, implicit := p :: s.implicit }
    | some (.value _) => throw ("toml: key " ++ Text.quote (".".intercalate p) ++ " was already created as a hash")
    | some _ => pure ()
  let last := path.getLast?.getD ""
  modify fun s => { s with context := path.dropLast }
  if array then
    let s ← get
    let root ← StateT.lift (within path.dropLast (fun es =>
      match es.lookup last with
      | none => .ok (es ++ [(last, .tables [[]])])
      | some (.tables items) => .ok (replaceEntry last (.tables (items ++ [[]])) es)
      | some _ => .error ("toml: key " ++ Text.quote last ++ " cannot be used as an array")) s.root)
    set { s with root }
  else setValue last (.table [])
  modify fun s => { s with context := path }

mutual

/-- Reads a value for a key of the current table. An inline table is built in place: its
table is opened (as a new table of an array of tables inside an array) and its pairs go
into it. -/
def value : Nat → String → Bool → List Char → Parser (Tree × List Char)
  | 0, _, _, _ => throw "toml: exceeded max depth"
  | fuel + 1, key, inArray, cs =>
    match cs with
    | '"' :: _ | '\'' :: _ => do
      let (s, r) ← StateT.lift (string cs)
      pure (.value (.scalar s (.text s)), r)
    | '[' :: r => do
      setKind key true
      array fuel key r []
    | '{' :: r => do
      let outer := (← get).context
      let path := outer ++ [key]
      modify fun s => { s with context := path }
      markImplicit path
      addContext path inArray
      let (entries, r) ← inline fuel path (skipBlanks r) []
      modify fun s => { s with context := outer }
      pure (.table entries, r)
    | [] => throw "toml: expected a value"
    | '\n' :: _ => throw "toml: expected a value"
    | _ => do
      let (n, r) ← StateT.lift (atom cs)
      pure (.value n, r)

/-- Reads the items of an array after its opening bracket. -/
def array : Nat → String → List Char → List Node → Parser (Tree × List Char)
  | 0, _, _, _ => throw "toml: exceeded max depth"
  | fuel + 1, key, cs, acc =>
    match skipAll cs.length cs with
    | ']' :: r => pure (.value (.sequence acc), r)
    | cs => do
      let (v, r) ← value fuel key true cs
      match skipAll r.length r with
      | ',' :: r => array fuel key r (acc ++ [v.toNode])
      | ']' :: r => pure (.value (.sequence (acc ++ [v.toNode])), r)
      | _ => throw "toml: expected a comma or the end of an array"

/-- Reads the pairs of an inline table after its opening brace; `table` is its path. -/
def inline : Nat → List String → List Char → Tables → Parser (Tables × List Char)
  | 0, _, _, _ => throw "toml: exceeded max depth"
  | fuel + 1, table, cs, acc =>
    match skipBlanks cs with
    | '}' :: r => if acc.isEmpty then pure (acc, r) else throw "toml: trailing comma in inline table"
    | cs => do
      let (ks, r) ← StateT.lift (key cs.length cs)
      match skipBlanks r with
      | '=' :: r => do
        let ((k, v), r) ← pair fuel ks (skipBlanks r)
        modify fun s => { s with context := table }
        let acc := if acc.any (·.1 == k) then replaceEntry k v acc else acc ++ [(k, v)]
        match skipBlanks r with
        | ',' :: r => inline fuel table r acc
        | '}' :: r => pure (acc, r)
        | _ => throw "toml: expected a comma or the end of an inline table"
      | _ => throw "toml: expected an equals sign after a key"

/-- Reads the value of a pair with a dotted key and defines it: each table on the key's way
is opened as one made on the way, and the current table is kept. -/
def pair : Nat → List String → List Char → Parser ((String × Tree) × List Char)
  | 0, _, _ => throw "toml: exceeded max depth"
  | fuel + 1, ks, cs => do
    let outer := (← get).context
    for k in ks.dropLast do
      let p := (← get).context ++ [k]
      markImplicit p
      addContext p false
    let k := ks.getLast?.getD ""
    let (v, r) ← value fuel k false cs
    setValue k v
    setKind k v.isArray
    modify fun s => { s with context := outer }
    pure ((k, v), r)

end

/-- Reads the statements of a document: pairs into the current table, headers opening
another. -/
def statements : Nat → List Char → Parser Unit
  | 0, _ => throw "toml: document too long"
  | fuel + 1, cs =>
    match skipAll cs.length cs with
    | [] => pure ()
    | '[' :: '[' :: r => do
      let (ks, r) ← StateT.lift (key r.length r)
      match skipBlanks r with
      | ']' :: ']' :: r => do
        let r ← StateT.lift (endOfLine r)
        addContext ks true
        setKind "" false
        statements fuel r
      | _ => throw "toml: expected the end of an array table header"
    | '[' :: r => do
      let (ks, r) ← StateT.lift (key r.length r)
      match skipBlanks r with
      | ']' :: r => do
        let r ← StateT.lift (endOfLine r)
        addContext ks false
        setKind "" false
        statements fuel r
      | _ => throw "toml: expected the end of a table header"
    | cs => do
      let (ks, r) ← StateT.lift (key cs.length cs)
      match skipBlanks r with
      | '=' :: r => do
        let (_, r) ← pair (r.length + 2) ks (skipBlanks r)
        let r ← StateT.lift (endOfLine r)
        statements fuel r
      | _ => throw "toml: expected an equals sign after a key"

/-- Whether a text holds a character refused anywhere in a document: a control character
other than tab and line feed, DEL, or a carriage return not before a line feed. -/
def hasControl : List Char → Bool
  | [] => false
  | c :: r =>
    (c = '\r' && r.head? ≠ some '\n') ||
      (c.toNat < 0x20 && c ≠ '\t' && c ≠ '\n' && c ≠ '\r') || c.toNat = 0x7F || hasControl r

/-- Reads a document, after a byte order mark if there is one. -/
def read (content : String) : Reading Node := do
  let cs := content.toList
  let cs := if cs.head? = some (Char.ofNat 0xFEFF) then cs.drop 1 else cs
  if hasControl cs then throw "toml: control character in the document"
  let ((), s) ← (statements (cs.length + 2) cs).run {}
  pure (Tree.table s.root).toNode

end Evse.Document.Toml
