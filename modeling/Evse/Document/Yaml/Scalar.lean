import Evse.Document.Yaml.Token
/-!
Scanning the bodies of YAML scalars, anchors, tags and directives.
-/
namespace Evse.Document.Yaml

/-- What scanning reports when it fails. -/
abbrev Scan := Except String

/-- The text that joins two pieces of a scalar across line breaks, reversed: a single line
feed becomes a space, and the breaks after the first are kept. -/
def joinBreaks (leadingBreak trailingBreaks : List Char) : List Char :=
  if leadingBreak = ['\n'] then (if trailingBreaks.isEmpty then [' '] else trailingBreaks)
  else trailingBreaks ++ leadingBreak

/-- What a plain scalar holds while it is read: its text, the first line break and the later
breaks of the last gap, the blanks of the last gap on one line, and whether the gap held a
line break. All texts are reversed. -/
structure PlainState where
  text : List Char := []
  leadingBreak : List Char := []
  trailingBreaks : List Char := []
  whitespaces : List Char := []
  leadingBlanks : Bool := false

/-- Reads the characters of a plain scalar up to a blank or an indicator that ends it,
joining the gap before them. -/
def plainWord (flow : Bool) : Nat → Cursor → PlainState → Cursor × PlainState
  | 0, c, st => (c, st)
  | fuel + 1, c, st =>
    let ch := c.peek
    if isBlankOrEnd ch then (c, st)
    else if (ch = ':' && isBlankOrEnd (c.ahead 1)) || (flow && ",?[]\x7b\x7d".contains ch) then (c, st)
    else
      let st :=
        if st.leadingBlanks then
          { st with text := joinBreaks st.leadingBreak st.trailingBreaks ++ st.text,
                    leadingBreak := [], trailingBreaks := [], leadingBlanks := false }
        else if !st.whitespaces.isEmpty then
          { st with text := st.whitespaces ++ st.text, whitespaces := [] }
        else st
      let (c, text) := c.read st.text
      plainWord flow fuel c { st with text }

/-- Reads the blanks and line breaks after a word of a plain scalar. A tab that stands where
a continuation line is indented is refused. -/
def plainGap (indent : Int) : Nat → Cursor → PlainState → Scan (Cursor × PlainState)
  | 0, c, st => .ok (c, st)
  | fuel + 1, c, st =>
    let ch := c.peek
    if isBlank ch then
      if st.leadingBlanks && (c.mark.column : Int) < indent && ch = '\t' then
        .error "while scanning a plain scalar: found a tab character that violates indentation"
      else if !st.leadingBlanks then
        let (c, w) := c.read st.whitespaces
        plainGap indent fuel c { st with whitespaces := w }
      else plainGap indent fuel c.skip st
    else if isBreak ch then
      if !st.leadingBlanks then
        let (c, b) := c.readLine []
        plainGap indent fuel c { st with whitespaces := [], leadingBreak := b, leadingBlanks := true }
      else
        let (c, b) := c.readLine st.trailingBreaks
        plainGap indent fuel c { st with trailingBreaks := b }
    else .ok (c, st)

/-- Reads the words and gaps of a plain scalar. -/
def plainLoop (flow : Bool) (indent : Int) : Nat → Cursor → PlainState → Scan (Cursor × PlainState)
  | 0, c, st => .ok (c, st)
  | fuel + 1, c, st =>
    if c.atDocumentMarker || c.peek = '#' then .ok (c, st)
    else
      let (c, st) := plainWord flow c.rest.length c st
      if !(isBlank c.peek || isBreak c.peek) then .ok (c, st)
      else do
        let (c, st) ← plainGap indent c.rest.length c st
        if !flow && (c.mark.column : Int) < indent then pure (c, st)
        else plainLoop flow indent fuel c st

/-- Scans a plain scalar: the cursor after it, its text, and whether it ended after a line
break. `indent` is the least column of a continuation line in a block. -/
def plainScalar (flow : Bool) (indent : Int) (c : Cursor) : Scan (Cursor × String × Bool) := do
  let (c, st) ← plainLoop flow indent (c.rest.length + 1) c {}
  pure (c, String.ofList st.text.reverse, st.leadingBlanks)

/-- What an escape of a double-quoted scalar stands for: a character, or a code of so many
hexadecimal digits. -/
inductive Escape where
  | char (c : Char)
  | code (digits : Nat)

/-- The escape a character after a backslash names. -/
def escapeOf (c : Char) : Option Escape :=
  match c with
  | '0' => some (.char (Char.ofNat 0))
  | 'a' => some (.char (Char.ofNat 7))
  | 'b' => some (.char (Char.ofNat 8))
  | 't' | '\t' => some (.char '\t')
  | 'n' => some (.char '\n')
  | 'v' => some (.char (Char.ofNat 11))
  | 'f' => some (.char (Char.ofNat 12))
  | 'r' => some (.char '\r')
  | 'e' => some (.char (Char.ofNat 27))
  | ' ' => some (.char ' ')
  | '"' => some (.char '"')
  | '\'' => some (.char '\'')
  | '\\' => some (.char '\\')
  | 'N' => some (.char (Char.ofNat 0x85))
  | '_' => some (.char (Char.ofNat 0xA0))
  | 'L' => some (.char (Char.ofNat 0x2028))
  | 'P' => some (.char (Char.ofNat 0x2029))
  | 'x' => some (.code 2)
  | 'u' => some (.code 4)
  | 'U' => some (.code 8)
  | _ => none

/-- Reads the characters of a quoted scalar up to a blank, a line break or its closing
quote; the flag tells whether it stopped after an escaped line break. -/
def quotedWord (single : Bool) : Nat → Cursor → List Char → Scan (Cursor × List Char × Bool)
  | 0, c, s => .ok (c, s, false)
  | fuel + 1, c, s =>
    let ch := c.peek
    if isBlankOrEnd ch then .ok (c, s, false)
    else if single && ch = '\'' && c.ahead 1 = '\'' then quotedWord single fuel c.skip.skip ('\'' :: s)
    else if single && ch = '\'' then .ok (c, s, false)
    else if !single && ch = '"' then .ok (c, s, false)
    else if !single && ch = '\\' && isBreak (c.ahead 1) then .ok (c.skip.skipLine, s, true)
    else if !single && ch = '\\' then
      match escapeOf (c.ahead 1) with
      | some (.char e) => quotedWord single fuel c.skip.skip (e :: s)
      | some (.code n) =>
        match hexDigits ((List.range n).map fun k => c.ahead (2 + k)) with
        | none => .error "while parsing a quoted scalar: did not find expected hexdecimal number"
        | some v =>
          if (0xD800 ≤ v && v ≤ 0xDFFF) || v > 0x10FFFF then
            .error "while parsing a quoted scalar: found invalid Unicode character escape code"
          else quotedWord single fuel (c.skipN (2 + n)) (Char.ofNat v :: s)
      | none => .error "while parsing a quoted scalar: found unknown escape character"
    else
      let (c, s) := c.read s
      quotedWord single fuel c s

/-- What a quoted scalar holds while it is read; the texts are reversed. -/
structure QuotedState where
  text : List Char := []
  leadingBreak : List Char := []
  trailingBreaks : List Char := []
  whitespaces : List Char := []

/-- Reads the blanks and line breaks inside a quoted scalar; the flag tells whether a line
break was passed. -/
def quotedGap : Nat → Cursor → QuotedState → Bool → Cursor × QuotedState × Bool
  | 0, c, st, broke => (c, st, broke)
  | fuel + 1, c, st, broke =>
    let ch := c.peek
    if isBlank ch then
      if !broke then
        let (c, w) := c.read st.whitespaces
        quotedGap fuel c { st with whitespaces := w } broke
      else quotedGap fuel c.skip st broke
    else if isBreak ch then
      if !broke then
        let (c, b) := c.readLine []
        quotedGap fuel c { st with whitespaces := [], leadingBreak := b } true
      else
        let (c, b) := c.readLine st.trailingBreaks
        quotedGap fuel c { st with trailingBreaks := b } broke
    else (c, st, broke)

/-- Reads the words and gaps of a quoted scalar up to its closing quote. -/
def quotedLoop (single : Bool) : Nat → Cursor → QuotedState → Scan (Cursor × QuotedState)
  | 0, _, _ => .error "while scanning a quoted scalar: found unexpected end of stream"
  | fuel + 1, c, st => do
    if c.atDocumentMarker then throw "while scanning a quoted scalar: found unexpected document indicator"
    if c.rest.isEmpty then throw "while scanning a quoted scalar: found unexpected end of stream"
    let (c, text, broke) ← quotedWord single c.rest.length c st.text
    let st := { st with text }
    if (single && c.peek = '\'') || (!single && c.peek = '"') then return (c, st)
    let (c, st, broke) := quotedGap c.rest.length c st broke
    let st :=
      if broke then
        { st with text := joinBreaks st.leadingBreak st.trailingBreaks ++ st.text,
                  leadingBreak := [], trailingBreaks := [] }
      else { st with text := st.whitespaces ++ st.text, whitespaces := [] }
    quotedLoop single fuel c st

/-- Scans a quoted scalar from its opening quote. -/
def quotedScalar (single : Bool) (c : Cursor) : Scan (Cursor × String) := do
  let (c, st) ← quotedLoop single (c.rest.length + 1) c.skip {}
  pure (c.skip, String.ofList st.text.reverse)

/-- Reads the indentation and the empty lines before a line of a block scalar, adding the
line breaks to a reversed text; `indent` is zero while the indentation is still unknown.
Returns the cursor, the breaks and the deepest indentation seen. -/
def blockBreaks (indent : Nat) : Nat → Cursor → List Char → Nat → Scan (Cursor × List Char × Nat)
  | 0, c, breaks, deepest => .ok (c, breaks, deepest)
  | fuel + 1, c, breaks, deepest =>
    let c := c.skipWhile (fun ch => ch = ' ') (if indent = 0 then c.rest.length else indent - c.mark.column)
    let deepest := max deepest c.mark.column
    if (indent = 0 || c.mark.column < indent) && c.peek = '\t' then
      .error "while scanning a block scalar: found a tab character where an indentation space is expected"
    else if !isBreak c.peek then .ok (c, breaks, deepest)
    else
      let (c, breaks) := c.readLine breaks
      blockBreaks indent fuel c breaks deepest

/-- What a block scalar holds while its lines are read; texts reversed. -/
structure BlockState where
  text : List Char := []
  leadingBreak : List Char := []
  trailingBreaks : List Char := []
  leadingBlank : Bool := false

/-- Reads the lines of a block scalar at its indentation. -/
def blockLines (literal : Bool) (indent : Nat) : Nat → Cursor → BlockState → Scan (Cursor × BlockState)
  | 0, c, st => .ok (c, st)
  | fuel + 1, c, st =>
    if c.mark.column ≠ indent || c.rest.isEmpty then .ok (c, st)
    else do
      let trailingBlank := isBlank c.peek
      let text :=
        if !literal && !st.leadingBlank && !trailingBlank && st.leadingBreak = ['\n'] then
          (if st.trailingBreaks.isEmpty then ' ' :: st.text else st.text)
        else st.leadingBreak ++ st.text
      let text := st.trailingBreaks ++ text
      let leadingBlank := isBlank c.peek
      let line := c.rest.takeWhile fun ch => !isBreak ch
      let c := c.skipN line.length
      let text := line.reverse ++ text
      let (c, leadingBreak) := c.readLine []
      let (c, trailingBreaks, _) ← blockBreaks indent c.rest.length c [] 0
      blockLines literal indent fuel c { text, leadingBreak, trailingBreaks, leadingBlank }

/-- Reads the header of a block scalar after its indicator: the chomping (`+1` keep, `-1`
strip, `0` clip) and the indentation increment (zero when absent). -/
def blockHeader (c : Cursor) : Scan (Cursor × Int × Nat) := do
  let chompOf (ch : Char) : Int := if ch = '+' then 1 else -1
  let digitAt (c : Cursor) : Scan (Option Nat) :=
    if c.peek.isDigit then
      if c.peek = '0' then .error "while scanning a block scalar: found an indentation indicator equal to 0"
      else .ok (some (c.peek.toNat - '0'.toNat))
    else .ok none
  if c.peek = '+' || c.peek = '-' then
    let chomp := chompOf c.peek
    let c := c.skip
    match ← digitAt c with
    | some d => pure (c.skip, chomp, d)
    | none => pure (c, chomp, 0)
  else
    match ← digitAt c with
    | some d =>
      let c := c.skip
      if c.peek = '+' || c.peek = '-' then pure (c.skip, chompOf c.peek, d) else pure (c, 0, d)
    | none => pure (c, 0, 0)

/-- Scans a block scalar from its indicator; `parentIndent` is the indentation of the
enclosing block (`-1` at the top). -/
def blockScalar (literal : Bool) (parentIndent : Int) (c : Cursor) : Scan (Cursor × String) := do
  let (c, chomp, increment) ← blockHeader c.skip
  let c := c.skipAll isBlank
  let c := if c.peek = '#' then c.skipAll (fun ch => !isBreak ch) else c
  if !isBreakOrEnd c.peek then throw "while scanning a block scalar: did not find expected comment or line break"
  let c := if isBreak c.peek then c.skipLine else c
  let given : Nat :=
    if increment > 0 then (if parentIndent ≥ 0 then (parentIndent + increment).toNat else increment) else 0
  let (c, trailingBreaks, deepest) ← blockBreaks given c.rest.length c [] 0
  let indent := if given = 0 then max (max deepest (parentIndent + 1).toNat) 1 else given
  let (c, st) ← blockLines literal indent (c.rest.length + 1) c { trailingBreaks }
  let text := if chomp ≠ -1 then st.leadingBreak ++ st.text else st.text
  let text := if chomp = 1 then st.trailingBreaks ++ text else text
  pure (c, String.ofList text.reverse)

/-- Scans an anchor or alias name after its indicator. The name must be followed by a
blank, a line break, the end or one of the indicators `?:,]}%@` and the backquote. -/
def anchorName (c : Cursor) : Scan (Cursor × String) :=
  let c := c.skip
  let name := c.rest.takeWhile isWordChar
  let c := c.skipN name.length
  let ch := c.peek
  if name.isEmpty || !(isBlankOrEnd ch || "?:,]\x7d%@".contains ch || ch.toNat = 0x60) then
    .error "while scanning an anchor: did not find expected alphabetic or numeric character"
  else .ok (c, String.ofList name)

/-- The characters of a tag URI; within a verbatim tag also `,[]`. -/
def isUriChar (verbatim : Bool) (c : Char) : Bool :=
  isWordChar c || ";/?:@&=+$.%!~*()".contains c || c = '\'' || (verbatim && ",[]".contains c)

/-- The length of the UTF-8 sequence a leading byte opens, or zero for a byte that opens
none. -/
def utf8Width (b : Nat) : Nat :=
  if b < 0x80 then 1 else if b / 32 = 6 then 2 else if b / 16 = 14 then 3 else if b / 8 = 30 then 4 else 0

/-- Reads `%XX` escapes that spell one UTF-8 sequence; `left` counts the bytes still due
after the first. The bytes are returned in order. -/
def uriEscapes : Nat → Cursor → List Nat → Nat → Scan (Cursor × List Nat)
  | 0, c, acc, _ => .ok (c, acc.reverse)
  | fuel + 1, c, acc, left =>
    match hexDigits [c.ahead 1, c.ahead 2] with
    | some b => do
      if c.peek ≠ '%' then throw "while parsing a tag: did not find URI escaped octet"
      let left ←
        if acc.isEmpty then
          if utf8Width b = 0 then throw "while parsing a tag: found an incorrect leading UTF-8 octet"
          else pure (utf8Width b)
        else if b / 64 ≠ 2 then throw "while parsing a tag: found an incorrect trailing UTF-8 octet"
        else pure left
      let c := c.skipN 3
      if left ≤ 1 then pure (c, (b :: acc).reverse) else uriEscapes fuel c (b :: acc) (left - 1)
    | none => .error "while parsing a tag: did not find URI escaped octet"

/-- The characters that escaped bytes stand for: the character they encode, or one
character per byte when they encode none. -/
def escapedChars (bytes : List Nat) : List Char :=
  match String.fromUTF8? (ByteArray.mk (bytes.map fun b => b.toUInt8).toArray) with
  | some s => s.toList
  | none => bytes.map Char.ofNat

/-- Reads a tag URI, after the given head (whose leading `!` is dropped). A URI must not be
empty unless a head was given. -/
def tagUri (verbatim : Bool) (head : List Char) : Nat → Cursor → List Char → Scan (Cursor × List Char)
  | 0, c, acc => .ok (c, acc.reverse)
  | fuel + 1, c, acc =>
    if isUriChar verbatim c.peek then
      if c.peek = '%' then do
        let (c, bytes) ← uriEscapes 4 c [] 0
        tagUri verbatim head fuel c ((escapedChars bytes).reverse ++ acc)
      else
        let (c, acc) := c.read acc
        tagUri verbatim head fuel c acc
    else if acc.isEmpty && head.isEmpty then .error "while parsing a tag: did not find expected tag URI"
    else .ok (c, acc.reverse)

/-- Reads a tag URI after a head. -/
def scanUri (verbatim : Bool) (head : List Char) (c : Cursor) : Scan (Cursor × List Char) :=
  tagUri verbatim head (c.rest.length + 1) c (head.drop 1).reverse

/-- Reads a tag handle: `!`, `!!` or `!word!`; in a directive nothing else is a handle. -/
def tagHandle (directive : Bool) (c : Cursor) : Scan (Cursor × List Char) :=
  if c.peek ≠ '!' then .error "while scanning a tag: did not find expected !"
  else
    let c := c.skip
    let word := c.rest.takeWhile isWordChar
    let c := c.skipN word.length
    if c.peek = '!' then .ok (c.skip, '!' :: word ++ ['!'])
    else if directive && !word.isEmpty then .error "while scanning a tag directive: did not find expected !"
    else .ok (c, '!' :: word)

/-- Scans a tag: `!<uri>`, `!handle!suffix`, `!suffix` or `!` alone; it must be followed by a
blank, a line break or the end, or in a flow collection by a comma. -/
def scanTag (flow : Bool) (c : Cursor) : Scan (Cursor × Token) := do
  let (c, handle, suffix) ←
    if c.ahead 1 = '<' then do
      let (c, suffix) ← scanUri true [] (c.skipN 2)
      if c.peek ≠ '>' then throw "while scanning a tag: did not find the expected >"
      pure (c.skip, [], suffix)
    else do
      let (c, handle) ← tagHandle false c
      if handle.length > 1 && handle.getLast? = some '!' then
        let (c, suffix) ← scanUri false [] c
        pure (c, handle, suffix)
      else
        let (c, suffix) ← scanUri false handle c
        if suffix.isEmpty then pure (c, [], ['!']) else pure (c, ['!'], suffix)
  if !isBlankOrEnd c.peek && (!flow || c.peek ≠ ',') then
    throw "while scanning a tag: did not find expected whitespace or line break"
  pure (c, .tag (String.ofList handle) (String.ofList suffix))

/-- Reads a version number of one or two digits. -/
def versionNumber (c : Cursor) : Scan (Cursor × Nat) :=
  let ds := c.rest.takeWhile Char.isDigit
  if ds.isEmpty then .error "while scanning a %YAML directive: did not find expected version number"
  else if ds.length > 2 then .error "while scanning a %YAML directive: found extremely long version number"
  else .ok (c.skipN ds.length, ds.foldl (fun n d => n * 10 + (d.toNat - '0'.toNat)) 0)

/-- Scans a directive from its `%`: `%YAML major.minor` or `%TAG handle prefix`, then blanks,
an optional comment and the end of the line. -/
def scanDirective (c : Cursor) : Scan (Cursor × Token) := do
  let c := c.skip
  let name := c.rest.takeWhile isWordChar
  let c := c.skipN name.length
  if name.isEmpty then throw "while scanning a directive: could not find expected directive name"
  if !isBlankOrEnd c.peek then throw "while scanning a directive: found unexpected non-alphabetical character"
  let (c, tok) ←
    if name = "YAML".toList then do
      let c := c.skipAll isBlank
      let (c, major) ← versionNumber c
      if c.peek ≠ '.' then throw "while scanning a %YAML directive: did not find expected digit or . character"
      let (c, minor) ← versionNumber c.skip
      pure (c, Token.versionDirective major minor)
    else if name = "TAG".toList then do
      let c := c.skipAll isBlank
      let (c, handle) ← tagHandle true c
      if !isBlank c.peek then throw "while scanning a %TAG directive: did not find expected whitespace"
      let c := c.skipAll isBlank
      let (c, pfx) ← scanUri true [] c
      if !isBlankOrEnd c.peek then throw "while scanning a %TAG directive: did not find expected whitespace or line break"
      pure (c, Token.tagDirective (String.ofList handle) (String.ofList pfx))
    else throw "while scanning a directive: found unknown directive name"
  let c := c.skipAll isBlank
  let c := if c.peek = '#' then c.skipAll (fun ch => !isBreak ch) else c
  if !isBreakOrEnd c.peek then throw "while scanning a directive: did not find expected comment or line break"
  pure (if isBreak c.peek then c.skipLine else c, tok)

end Evse.Document.Yaml
