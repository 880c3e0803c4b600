import Evse.Document.Yaml.Scalar
/-!
The token stream of a YAML text, produced on demand, with block structure from indentation and
simple keys found by lookahead.
-/
namespace Evse.Document.Yaml

/-- A place where a simple key may start. -/
structure SimpleKey where
  possible : Bool := false
  required : Bool := false
  /-- The number of the token it would be, counted from the start of the stream. -/
  number : Nat := 0
  mark : Mark := {}
deriving Inhabited

/-- The state of the token stream: the text still to read, the tokens queued, the indentations, and
the possible simple keys, one per flow level. -/
structure Scanner where
  cursor : Cursor
  queue : List Token := []
  taken : Nat := 0
  available : Bool := false
  started : Bool := false
  indent : Int := -1
  indents : List Int := []
  keyAllowed : Bool := false
  keys : List SimpleKey := []
  keyAt : List (Nat × Nat) := []
  flowLevel : Nat := 0
deriving Inhabited

namespace Scanner

/-- The place of the innermost flow level's simple key. -/
def top (s : Scanner) : Nat := s.keys.length - 1

/-- The innermost flow level's simple key. -/
def topKey (s : Scanner) : SimpleKey := s.keys.getD s.top {}

/-- Replaces a simple key. -/
def setKey (s : Scanner) (i : Nat) (k : SimpleKey) : Scanner := { s with keys := s.keys.set i k }

/-- The number the next token gets. -/
def nextNumber (s : Scanner) : Nat := s.taken + s.queue.length

/-- Adds a token at the end. -/
def append (s : Scanner) (t : Token) : Scanner := { s with queue := s.queue ++ [t] }

/-- Inserts a token so that it gets the given number. -/
def insertAt (s : Scanner) (number : Nat) (t : Token) : Scanner :=
  let i := number - s.taken
  { s with queue := s.queue.take i ++ t :: s.queue.drop i }

/-- Checks a possible simple key: it lapses once the scanner has left its line or gone 1024
characters past it, and a required key that lapses is an error. -/
def checkKey (s : Scanner) (i : Nat) : Scan (Bool × Scanner) :=
  let k := s.keys.getD i {}
  if !k.possible then .ok (false, s)
  else if k.mark.line < s.cursor.mark.line || k.mark.index + 1024 < s.cursor.mark.index then
    if k.required then .error "while scanning a simple key: could not find expected :"
    else .ok (false, s.setKey i { k with possible := false })
  else .ok (true, s)

/-- Drops the innermost possible simple key; a required one is an error. -/
def removeKey (s : Scanner) : Scan Scanner :=
  let k := s.topKey
  if !k.possible then .ok s
  else if k.required then .error "while scanning a simple key: could not find expected :"
  else .ok { s.setKey s.top { k with possible := false } with keyAt := s.keyAt.filter (·.1 != k.number) }

/-- Remembers that a simple key may start here, if one may. -/
def saveKey (s : Scanner) : Scan Scanner := do
  if !s.keyAllowed then return s
  let k : SimpleKey :=
    { possible := true
      required := s.flowLevel == 0 && s.indent == (s.cursor.mark.column : Int)
      number := s.nextNumber
      mark := s.cursor.mark }
  let s ← s.removeKey
  pure { s.setKey s.top k with keyAt := (k.number, s.top) :: s.keyAt.filter (·.1 != k.number) }

/-- Enters a flow collection. -/
def increaseFlow (s : Scanner) : Scan Scanner :=
  let s := { s with keys := s.keys ++ [{ mark := s.cursor.mark }], flowLevel := s.flowLevel + 1 }
  if s.flowLevel > 10000 then .error "while increasing flow level: exceeded max depth of 10000" else .ok s

/-- Leaves a flow collection; outside one nothing changes. -/
def decreaseFlow (s : Scanner) : Scanner :=
  if s.flowLevel = 0 then s
  else
    { s with flowLevel := s.flowLevel - 1, keyAt := s.keyAt.filter (·.1 != s.topKey.number),
             keys := s.keys.dropLast }

/-- In a block, opens a collection at a deeper column with the given token, at the given
token number or at the end. -/
def rollIndent (s : Scanner) (column : Int) (number : Option Nat) (t : Token) : Scan Scanner :=
  if s.flowLevel > 0 || s.indent ≥ column then .ok s
  else
    let s := { s with indents := s.indent :: s.indents, indent := column }
    if s.indents.length > 10000 then .error "while increasing indent level: exceeded max depth of 10000"
    else .ok (match number with
      | some n => s.insertAt n t
      | none => s.append t)

/-- In a block, closes every collection deeper than a column. -/
def unrollIndent (s : Scanner) (column : Int) : Scanner :=
  if s.flowLevel > 0 then s else go s.indents.length s
where
  go : Nat → Scanner → Scanner
    | 0, s => s
    | n + 1, s =>
      if s.indent > column then
        go n { s.append .blockEnd with indent := s.indents.headD (-1), indents := s.indents.tail }
      else s

/-- The offset of the next comment after the line break under the cursor, when only blanks
and line breaks stand between. -/
def commentAhead (c : Cursor) : Option Nat :=
  let rec look : List Char → Nat → Option Nat
    | [], _ => none
    | ch :: r, k => if isBlank ch || isBreak ch then look r (k + 1) else if ch = '#' then some k else none
  if c.rest.isEmpty then none else look (c.rest.drop 1) 1

/-- Moves to the character `k` places ahead, passing line breaks as such. -/
def advance (k : Nat) (c : Cursor) : Cursor :=
  if k = 0 then c
  else match c.rest with
    | '\r' :: '\n' :: _ => advance (k - 2) c.skipLine
    | ch :: _ => if isBreak ch then advance (k - 1) c.skipLine else advance (k - 1) c.skip
    | [] => c
termination_by k
decreasing_by all_goals omega

/-- Passes a comment, then each following line that holds only blanks or a comment, up to
the end of the last comment. -/
def commentRun : Nat → Cursor → Cursor
  | 0, c => c
  | fuel + 1, c =>
    let c := c.skipAll fun ch => !isBreakOrEnd ch
    match commentAhead c with
    | some k => commentRun fuel (advance k c)
    | none => c

/-- Passes blanks, comments and line breaks up to the next token. Tabs count as blanks in a
flow collection and where no simple key may start; a byte order mark at the start of a line
is passed too. In a block, a line break lets a simple key start. -/
def toNextToken : Nat → Scanner → Scanner
  | 0, s => s
  | fuel + 1, s =>
    let c := s.cursor
    let c := if c.mark.column = 0 && c.peek.toNat = 0xFEFF then c.skip else c
    let c := c.skipAll fun ch => ch = ' ' || ((s.flowLevel > 0 || !s.keyAllowed) && ch = '\t')
    let c := if c.peek = '#' then commentRun c.rest.length c else c
    if isBreak c.peek then
      toNextToken fuel { s with cursor := c.skipLine, keyAllowed := s.keyAllowed || s.flowLevel = 0 }
    else { s with cursor := c }

/-- Passes a comment that follows a token on its line, with the blanks before it. -/
def lineComment (s : Scanner) : Scanner :=
  if s.queue.getLast? = some .blockEntry || s.cursor.newlines > 0 then s
  else
    let blanks := (s.cursor.rest.takeWhile isBlank).length
    if s.cursor.ahead blanks = '#' then
      { s with cursor := (s.cursor.skipN blanks).skipAll fun ch => !isBreakOrEnd ch }
    else s

/-- Starts the stream. -/
def streamStart (s : Scanner) : Scanner :=
  { s with indent := -1, keys := [{}], keyAt := [], keyAllowed := true, started := true }
    |>.append .streamStart

/-- Ends the stream, closing every block. -/
def streamEnd (s : Scanner) : Scan Scanner := do
  let c := s.cursor
  let s := if c.mark.column ≠ 0 then
      { s with cursor := { c with mark := { c.mark with column := 0, line := c.mark.line + 1 } } }
    else s
  let s ← (s.unrollIndent (-1)).removeKey
  pure ({ s with keyAllowed := false }.append .streamEnd)

/-- Reads a directive, closing every block. -/
def directive (s : Scanner) : Scan Scanner := do
  let s ← (s.unrollIndent (-1)).removeKey
  let (c, t) ← scanDirective s.cursor
  pure ({ s with cursor := c, keyAllowed := false }.append t)

/-- Reads a document marker, closing every block. -/
def documentMarker (s : Scanner) (t : Token) : Scan Scanner := do
  let s ← (s.unrollIndent (-1)).removeKey
  pure ({ s with cursor := s.cursor.skipN 3, keyAllowed := false }.append t)

/-- Reads `[` or `{`, which may start a simple key. -/
def flowStart (s : Scanner) (t : Token) : Scan Scanner := do
  let s ← s.saveKey
  let s ← s.increaseFlow
  pure ({ s with keyAllowed := true, cursor := s.cursor.skip }.append t)

/-- Reads `]` or `}`. -/
def flowEnd (s : Scanner) (t : Token) : Scan Scanner := do
  let s ← s.removeKey
  let s := s.decreaseFlow
  pure ({ s with keyAllowed := false, cursor := s.cursor.skip }.append t)

/-- Reads `,`. -/
def flowEntry (s : Scanner) : Scan Scanner := do
  let s ← s.removeKey
  pure ({ s with keyAllowed := true, cursor := s.cursor.skip }.append .flowEntry)

/-- Reads `- `; in a block it may open a sequence, and only where a simple key may start. -/
def blockEntry (s : Scanner) : Scan Scanner := do
  let s ← if s.flowLevel = 0 then
      if !s.keyAllowed then throw "block sequence entries are not allowed in this context"
      else s.rollIndent s.cursor.mark.column none .blockSequenceStart
    else pure s
  let s ← s.removeKey
  pure ({ s with keyAllowed := true, cursor := s.cursor.skip }.append .blockEntry)

/-- Reads `?`; in a block it may open a mapping, and only where a simple key may start. -/
def complexKey (s : Scanner) : Scan Scanner := do
  let s ← if s.flowLevel = 0 then
      if !s.keyAllowed then throw "mapping keys are not allowed in this context"
      else s.rollIndent s.cursor.mark.column none .blockMappingStart
    else pure s
  let s ← s.removeKey
  pure ({ s with keyAllowed := s.flowLevel = 0, cursor := s.cursor.skip }.append .key)

/-- Reads `:`. After a possible simple key it inserts `key` before that key (and in a block
may open a mapping there); otherwise it follows a `?` key, which in a block needs a place
where a simple key may start. -/
def valueIndicator (s : Scanner) : Scan Scanner := do
  let i := s.top
  let k := s.topKey
  let (valid, s) ← s.checkKey i
  let s ← if valid then do
      let s := s.insertAt k.number .key
      let s ← s.rollIndent k.mark.column (some k.number) .blockMappingStart
      pure { s.setKey i { k with possible := false } with
        keyAt := s.keyAt.filter (·.1 != k.number), keyAllowed := false }
    else do
      let s ← if s.flowLevel = 0 then
          if !s.keyAllowed then throw "mapping values are not allowed in this context"
          else s.rollIndent s.cursor.mark.column none .blockMappingStart
        else pure s
      pure { s with keyAllowed := s.flowLevel = 0 }
  pure ({ s with cursor := s.cursor.skip }.append .value)

/-- Reads an anchor or an alias, which may start a simple key. -/
def anchorOrAlias (s : Scanner) (isAlias : Bool) : Scan Scanner := do
  let s ← s.saveKey
  let (c, name) ← anchorName s.cursor
  pure ({ s with cursor := c, keyAllowed := false }.append (if isAlias then .alias name else .anchor name))

/-- Reads a tag, which may start a simple key. -/
def tagToken (s : Scanner) : Scan Scanner := do
  let s ← s.saveKey
  let (c, t) ← scanTag (s.flowLevel > 0) s.cursor
  pure ({ s with cursor := c, keyAllowed := false }.append t)

/-- Reads a block scalar. -/
def blockScalarToken (s : Scanner) (literal : Bool) : Scan Scanner := do
  let s ← s.removeKey
  let (c, text) ← blockScalar literal s.indent s.cursor
  pure ({ s with cursor := c, keyAllowed := true }.append
    (.scalar text (if literal then .literal else .folded)))

/-- Reads a quoted scalar, which may start a simple key. -/
def quotedToken (s : Scanner) (single : Bool) : Scan Scanner := do
  let s ← s.saveKey
  let (c, text) ← quotedScalar single s.cursor
  pure ({ s with cursor := c, keyAllowed := false }.append
    (.scalar text (if single then .singleQuoted else .doubleQuoted)))

/-- Reads a plain scalar, which may start a simple key; one that ends after a line break
lets another start. -/
def plainToken (s : Scanner) : Scan Scanner := do
  let s ← s.saveKey
  let (c, text, broke) ← plainScalar (s.flowLevel > 0) (s.indent + 1) s.cursor
  pure ({ s with cursor := c, keyAllowed := broke }.append (.scalar text .plain))

/-- Whether a plain scalar may start here: at a character that is no indicator, or at `-`
before a character that is not blank, or in a block at `?` or `:` before one that is not
blank. -/
def startsPlain (s : Scanner) : Bool :=
  let ch := s.cursor.peek
  let next := s.cursor.ahead 1
  !(isBlankOrEnd ch || "-?:,[]\x7b\x7d#&*!|>%@".contains ch || ch = '"' || ch = '\'' || ch.toNat = 0x60) ||
    (ch = '-' && !isBlank next) ||
    (s.flowLevel = 0 && (ch = '?' || ch = ':') && !isBlankOrEnd next)

/-- Reads the token that starts at an indicator or a scalar. -/
def indicatorOrScalar (s : Scanner) : Scan Scanner :=
  let ch := s.cursor.peek
  let next := s.cursor.ahead 1
  let flow := s.flowLevel > 0
  if ch = '[' then s.flowStart .flowSequenceStart
  else if ch = '{' then s.flowStart .flowMappingStart
  else if ch = ']' then s.flowEnd .flowSequenceEnd
  else if ch = '}' then s.flowEnd .flowMappingEnd
  else if ch = ',' then s.flowEntry
  else if ch = '-' && isBlankOrEnd next then s.blockEntry
  else if ch = '?' && (flow || isBlankOrEnd next) then s.complexKey
  else if ch = ':' && (flow || isBlankOrEnd next) then s.valueIndicator
  else if ch = '*' then s.anchorOrAlias true
  else if ch = '&' then s.anchorOrAlias false
  else if ch = '!' then s.tagToken
  else if ch = '|' && !flow then s.blockScalarToken true
  else if ch = '>' && !flow then s.blockScalarToken false
  else if ch = '\'' then s.quotedToken true
  else if ch = '"' then s.quotedToken false
  else if s.startsPlain then s.plainToken
  else .error "while scanning for the next token: found character that cannot start any token"

/-- Reads the next token or tokens. -/
def fetchToken (s : Scanner) : Scan Scanner := do
  if !s.started then return s.streamStart
  let s := toNextToken (s.cursor.rest.length + 1) s
  let s := s.unrollIndent s.cursor.mark.column
  let c := s.cursor
  if c.rest.isEmpty then s.streamEnd
  else if c.mark.column = 0 && c.peek = '%' then s.directive
  else if c.atDocumentMarker && c.peek = '-' then s.documentMarker .documentStart
  else if c.atDocumentMarker then s.documentMarker .documentEnd
  else do
    let s ← s.indicatorOrScalar
    pure s.lineComment

/-- Reads tokens until three stand ahead and the first of them can no longer become a simple
key. -/
def fetchMore : Nat → Scanner → Scan Scanner
  | 0, s => .ok { s with available := true }
  | fuel + 1, s => do
    if s.queue.length ≥ 3 then
      match s.keyAt.lookup s.taken with
      | none => return { s with available := true }
      | some i =>
        if i ≥ s.keys.length then return { s with available := true }
        let (valid, s) ← s.checkKey i
        if !valid then return { s with available := true }
    let s ← s.fetchToken
    fetchMore fuel s

/-- The next token, reading as far ahead as the stream needs. -/
def peek (s : Scanner) : Scan (Token × Scanner) := do
  let s ← if s.available then pure s else s.fetchMore (s.cursor.rest.length + 8)
  match s.queue with
  | t :: _ => pure (t, s)
  | [] => throw "unexpected end of the token stream"

/-- Takes the next token. -/
def skipToken (s : Scanner) : Scanner :=
  { s with queue := s.queue.tail, taken := s.taken + 1, available := false }

/-- The stream of a text. -/
def ofText (text : List Char) : Scanner := { cursor := { rest := text } }

end Scanner

end Evse.Document.Yaml
