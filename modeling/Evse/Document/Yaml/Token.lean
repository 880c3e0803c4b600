/-!
The lexical layer of YAML: positions, tokens, character classes and a cursor.
-/
namespace Evse.Document.Yaml

/-- A position in a text: the characters before it, its line and its column, all from
zero. -/
structure Mark where
  index : Nat := 0
  line : Nat := 0
  column : Nat := 0
deriving Repr, DecidableEq, Inhabited

/-- How a scalar is written. -/
inductive Style where
  | plain
  | singleQuoted
  | doubleQuoted
  | literal
  | folded
deriving Repr, DecidableEq, Inhabited

/-- The tokens of a YAML stream. Block collections open with a start token and close with
`blockEnd`; a mapping's keys and values follow `key` and `value`. A tag token keeps its
handle and suffix as written. -/
inductive Token where
  | streamStart
  | streamEnd
  | versionDirective (major minor : Nat)
  | tagDirective (handle pfx : String)
  | documentStart
  | documentEnd
  | blockSequenceStart
  | blockMappingStart
  | blockEnd
  | flowSequenceStart
  | flowSequenceEnd
  | flowMappingStart
  | flowMappingEnd
  | blockEntry
  | flowEntry
  | key
  | value
  | alias (name : String)
  | anchor (name : String)
  | tag (handle suffix : String)
  | scalar (text : String) (style : Style)
deriving Repr, DecidableEq, Inhabited

/-- The character read past the end of a text. -/
def endChar : Char := Char.ofNat 0

/-- Space and tab. -/
def isBlank (c : Char) : Bool := c = ' ' || c = '\t'

/-- The line-break characters. -/
def isBreak (c : Char) : Bool :=
  c = '\r' || c = '\n' || c.toNat = 0x85 || c.toNat = 0x2028 || c.toNat = 0x2029

/-- A line break or the end. -/
def isBreakOrEnd (c : Char) : Bool := isBreak c || c = endChar

/-- A blank, a line break or the end. -/
def isBlankOrEnd (c : Char) : Bool := isBlank c || isBreakOrEnd c

/-- The characters of anchor names, tag handles and directive names: ASCII letters and
digits, `_` and `-`. -/
def isWordChar (c : Char) : Bool := c.isAlphanum || c = '_' || c = '-'

/-- The value of a hexadecimal digit. -/
def hexValue (c : Char) : Option Nat :=
  if c.isDigit then some (c.toNat - '0'.toNat)
  else if 'a' ≤ c && c ≤ 'f' then some (c.toNat - 'a'.toNat + 10)
  else if 'A' ≤ c && c ≤ 'F' then some (c.toNat - 'A'.toNat + 10)
  else none

/-- The value of hexadecimal digits. -/
def hexDigits (ds : List Char) : Option Nat :=
  ds.foldlM (fun acc d => (hexValue d).map (acc * 16 + ·)) 0

/-- The text still to read and where it stands. `newlines` counts the line breaks skipped
since the last character that is not blank. -/
structure Cursor where
  rest : List Char
  mark : Mark := {}
  newlines : Nat := 0
deriving Inhabited

namespace Cursor

/-- The character under the cursor. -/
def peek (c : Cursor) : Char := c.rest.headD endChar

/-- The character `k` places ahead. -/
def ahead (c : Cursor) (k : Nat) : Char := c.rest.getD k endChar

/-- Moves past one character of a line. -/
def skip (c : Cursor) : Cursor :=
  match c.rest with
  | [] => c
  | ch :: r =>
    { rest := r
      mark := { c.mark with index := c.mark.index + 1, column := c.mark.column + 1 }
      newlines := if isBlank ch then c.newlines else 0 }

/-- Moves past `n` characters of a line. -/
def skipN : Nat → Cursor → Cursor
  | 0, c => c
  | n + 1, c => skipN n c.skip

/-- Moves past one character, adding it to a reversed text. -/
def read (c : Cursor) (acc : List Char) : Cursor × List Char := (c.skip, c.peek :: acc)

/-- A cursor moved to the next line after `width` characters of line break. -/
def nextLine (c : Cursor) (width : Nat) (r : List Char) : Cursor :=
  { c with rest := r, mark := { index := c.mark.index + width, line := c.mark.line + 1, column := 0 } }

/-- Moves past a line break (CR LF counts as one). -/
def skipLine (c : Cursor) : Cursor :=
  match c.rest with
  | '\r' :: '\n' :: r => { c.nextLine 2 r with newlines := c.newlines + 1 }
  | ch :: r => if isBreak ch then { c.nextLine 1 r with newlines := c.newlines + 1 } else c
  | [] => c

/-- Moves past a line break, adding it to a reversed text: LS and PS as they are, every
other break as a line feed. -/
def readLine (c : Cursor) (acc : List Char) : Cursor × List Char :=
  match c.rest with
  | '\r' :: '\n' :: r => (c.nextLine 2 r, '\n' :: acc)
  | ch :: r =>
    if ch = '\r' || ch = '\n' || ch.toNat = 0x85 then (c.nextLine 1 r, '\n' :: acc)
    else if ch.toNat = 0x2028 || ch.toNat = 0x2029 then (c.nextLine 1 r, ch :: acc)
    else (c, acc)
  | [] => (c, acc)

/-- Moves past characters while they satisfy a test. -/
def skipWhile (p : Char → Bool) : Nat → Cursor → Cursor
  | 0, c => c
  | n + 1, c => if !c.rest.isEmpty && p c.peek then skipWhile p n c.skip else c

/-- Moves past every character that satisfies a test. -/
def skipAll (p : Char → Bool) (c : Cursor) : Cursor := c.skipWhile p c.rest.length

/-- Whether the cursor stands on a document marker: `---` or `...` at the start of a line,
followed by a blank, a line break or the end. -/
def atDocumentMarker (c : Cursor) : Bool :=
  c.mark.column = 0 &&
    ((c.ahead 0 = '-' && c.ahead 1 = '-' && c.ahead 2 = '-') ||
      (c.ahead 0 = '.' && c.ahead 1 = '.' && c.ahead 2 = '.')) &&
    isBlankOrEnd (c.ahead 3)

end Cursor

end Evse.Document.Yaml
