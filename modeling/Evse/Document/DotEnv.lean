import Evse.Text.Quote
/-!
Reading environment files: statements, quoting, comments and variable expansion.
-/
namespace Evse.Document.DotEnv

abbrev Reading := Except String

/-- Blanks within a line. -/
def isSpace (c : Char) : Bool :=
  c = '\t' || c.toNat = 11 || c.toNat = 12 || c = '\r' || c = ' ' || c.toNat = 0x85 || c.toNat = 0xA0

/-- Whether a byte, read as a Latin-1 character, may stand in a name. -/
def nameByte (b : Nat) : Bool :=
  (0x30 ≤ b && b ≤ 0x39) || (0x41 ≤ b && b ≤ 0x5A) || (0x61 ≤ b && b ≤ 0x7A) ||
  b = 0x5F || b = 0x2E || b = 0x85 || b = 0xA0 || b = 0xAA || b = 0xB5 || b = 0xBA ||
  b = 0xB2 || b = 0xB3 || b = 0xB9 || (0xBC ≤ b && b ≤ 0xBE) ||
  (0xC0 ≤ b && b ≤ 0xFF && b ≠ 0xD7 && b ≠ 0xF7)

/-- Whether a character may stand in a name, blanks included. -/
def nameChar (c : Char) : Bool :=
  isSpace c || c.toString.toUTF8.toList.all fun b => nameByte b.toNat

/-- Skips blanks and comment lines to the next statement; nothing when none is left. -/
def statementStart : Nat → List Char → List Char
  | 0, _ => []
  | fuel + 1, cs =>
    match cs.dropWhile Text.isBlank with
    | '#' :: r =>
      match r.dropWhile (· ≠ '\n') with
      | [] => []
      | rest => statementStart fuel rest
    | r => r

/-- Splits off a name up to `=` or `:`, after blanks and an optional `export`. Text that
holds no separator gives the empty name and is left whole as the value. -/
def keyName (cs : List Char) : Reading (String × List Char) := do
  let cs := cs.dropWhile isSpace
  let cs := match cs with
    | 'e' :: 'x' :: 'p' :: 'o' :: 'r' :: 't' :: c :: r => if isSpace c then (c :: r).dropWhile isSpace else cs
    | _ => cs
  let rec scan : List Char → List Char → Reading (Option (List Char × List Char))
    | [], _ => .ok none
    | c :: rest, acc =>
      if c = '=' || c = ':' then .ok (some (acc.reverse, rest))
      else if nameChar c then scan rest (c :: acc)
      else .error s!"unexpected character {Text.quote c.toString} in variable name near {Text.quote (String.ofList cs)}"
  match ← scan cs [] with
  | some (key, rest) =>
    let key := (key.reverse.dropWhile Text.isBlank).reverse
    pure (String.ofList key, rest.dropWhile isSpace)
  | none => pure ("", cs)

/-- Reads a variable name of capitals, digits and `_`. -/
def nameAt (cs : List Char) : List Char × List Char :=
  cs.span fun c => ('A' ≤ c && c ≤ 'Z') || c.isDigit || c = '_'

/-- Replaces variables by earlier values; `fuel` bounds the characters read. -/
def expandWithin (vars : List (String × String)) : Nat → List Char → List Char
  | 0, cs => cs
  | _ + 1, [] => []
  | fuel + 1, '\\' :: '$' :: rest =>
    let (opened, r) := match rest with
      | '(' :: r => (['('], r)
      | r => ([], r)
    let (brace, r) := match r with
      | '{' :: r => (['{'], r)
      | r => ([], r)
    let (name, r) := nameAt r
    let (close, r) := match r with
      | '}' :: r => (['}'], r)
      | r => ([], r)
    '$' :: opened ++ brace ++ name ++ close ++ expandWithin vars fuel r
  | fuel + 1, '$' :: rest =>
    let (opened, r) := match rest with
      | '(' :: r => (['('], r)
      | r => ([], r)
    let (brace, r) := match r with
      | '{' :: r => (['{'], r)
      | r => ([], r)
    let (name, r) := nameAt r
    let (close, r) := match r with
      | '}' :: r => (['}'], r)
      | r => ([], r)
    if name.isEmpty then '$' :: opened ++ brace ++ close ++ expandWithin vars fuel r
    else ((vars.lookup (String.ofList name)).getD "").toList ++ expandWithin vars fuel r
  | fuel + 1, c :: rest => c :: expandWithin vars fuel rest

/-- Replaces the variables of a value. -/
def expand (vars : List (String × String)) (cs : List Char) : List Char :=
  expandWithin vars cs.length cs

/-- The escapes of a double-quoted value: `\n` and `\r` become line breaks; then a
backslash before any character but `$` is dropped. -/
def unescape (cs : List Char) : List Char :=
  let rec breaks : List Char → List Char
    | [] => []
    | '\\' :: 'n' :: rest => '\n' :: breaks rest
    | '\\' :: 'r' :: rest => '\r' :: breaks rest
    | '\\' :: c :: rest => if c = '\n' then '\\' :: breaks (c :: rest) else '\\' :: c :: breaks rest
    | c :: rest => c :: breaks rest
  let rec drop : List Char → List Char
    | [] => []
    | '\\' :: c :: rest => if c = '$' then '\\' :: drop (c :: rest) else c :: drop rest
    | c :: rest => c :: drop rest
  drop (breaks cs)

/-- Cuts an unquoted value at the last `#` that follows a blank. -/
def cutComment (line : List Char) : List Char :=
  let rec find : List Char → Nat → Option Nat → Option Nat
    | c :: (d :: rest), i, found =>
      find (d :: rest) (i + 1) (if d = '#' && isSpace c then some (i + 1) else found)
    | _, _, found => found
  match find line 0 none with
  | some i => line.take i
  | none => line

/-- Finds the closing quote of a quoted value, the first not after a backslash. -/
def closing (q : Char) : List Char → Char → List Char → Option (List Char × List Char)
  | [], _, _ => none
  | c :: rest, prev, acc =>
    if c = q && prev ≠ '\\' then some (acc.reverse, rest) else closing q rest c (c :: acc)

/-- Reads a value after the separator: the value and the rest of the text. -/
def value (vars : List (String × String)) (cs : List Char) : Reading (String × List Char) :=
  match cs with
  | q :: rest =>
    if q = '"' || q = '\'' then
      match closing q rest q [] with
      | some (inside, after) =>
        let inside := ((q :: inside).dropWhile (· = q)).reverse.dropWhile (· = q) |>.reverse
        if q = '"' then .ok (String.ofList (expand vars (unescape inside)), after)
        else .ok (String.ofList inside, after)
      | none =>
        let shown := String.ofList (cs.takeWhile (· ≠ '\n'))
        .error s!"unterminated quoted value {shown}"
    else
      let line := cs.takeWhile fun c => c ≠ '\n' && c ≠ '\r'
      let text := cutComment line
      let trimmed := ((text.dropWhile isSpace).reverse.dropWhile isSpace).reverse
      .ok (String.ofList (expand vars trimmed), cs.drop line.length)
  | [] => .ok ("", [])

/-- Reads every statement; a later value of a name replaces an earlier one. -/
def statements : Nat → List Char → List (String × String) → Reading (List (String × String))
  | 0, _, vars => .ok vars
  | fuel + 1, cs, vars =>
    match statementStart cs.length cs with
    | [] => .ok vars
    | cs => do
      let (k, rest) ← keyName cs
      let (v, rest) ← value vars rest
      statements fuel rest ((k, v) :: vars.filter (·.1 != k))

/-- Joins CR LF pairs into LF. -/
def joinBreaks : List Char → List Char
  | '\r' :: '\n' :: rest => '\n' :: joinBreaks rest
  | c :: rest => c :: joinBreaks rest
  | [] => []

/-- Reads an environment file into its variables, the latest first. -/
def read (content : String) : Reading (List (String × String)) :=
  let cs := joinBreaks content.toList
  statements (cs.length + 1) cs []

/-- Whether the environment takes a variable: a name that is not empty and holds no `=`,
and neither name nor value holds a NUL. -/
def settable (name value : String) : Bool :=
  !name.isEmpty && !name.contains '=' && !name.contains (Char.ofNat 0) && !value.contains (Char.ofNat 0)

end Evse.Document.DotEnv
