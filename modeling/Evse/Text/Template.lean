import Evse.Text.Quote
/-!
Filling a message template with the values of a decoded JSON document.
-/
namespace Evse.Text

/-- One argument of a template. -/
inductive Arg where
  /-- A number, kept as the text it was written in. -/
  | number (text : String)
  | text (s : String)
  | flag (b : Bool)
  | null
  | list (items : List Arg)
  | map (entries : List (String × Arg))
deriving Inhabited

/-- The name of a list's type. -/
def listTypeName : String := "[]interface \x7b\x7d"

/-- The name of a map's type. -/
def mapTypeName : String := "map[string]interface \x7b\x7d"

/-- The name of the type of an element of a list or map. -/
def elementTypeName : String := "interface \x7b\x7d"

/-- The name of an argument's type; null has none. -/
def Arg.typeName : Arg → String
  | .number _ => "json.Number"
  | .text _ => "string"
  | .flag _ => "bool"
  | .null => "<nil>"
  | .list _ => listTypeName
  | .map _ => mapTypeName

/-- The flags, width and precision of one verb. `sharpV` and `plusV` are `#` and `+` given
to the verb `v`. -/
structure Spec where
  sharp : Bool := false
  zero : Bool := false
  plus : Bool := false
  minus : Bool := false
  space : Bool := false
  sharpV : Bool := false
  plusV : Bool := false
  width : Option Nat := none
  precision : Option Nat := none
deriving Inhabited

/-- Blanks or zeros to fill `n` places. -/
def Spec.filler (f : Spec) (n : Nat) : String :=
  String.ofList (List.replicate n (if f.zero && !f.minus then '0' else ' '))

/-- Pads a text to the width, counted in characters: on the left, or on the right when
left-justified. -/
def Spec.pad (f : Spec) (s : String) : String :=
  match f.width with
  | none => s
  | some w =>
    let n := w - s.length
    if f.minus then s ++ String.ofList (List.replicate n ' ') else f.filler n ++ s

/-- A text cut to the precision, counted in characters. -/
def Spec.cut (f : Spec) (s : String) : String :=
  match f.precision with
  | some p => String.ofList (s.toList.take p)
  | none => s

/-- A text cut to the precision and padded. -/
def Spec.plain (f : Spec) (s : String) : String := f.pad (f.cut s)

/-- A text cut to the precision and quoted: between backquotes with `#` when it can be, in
ASCII with `+`. -/
def Spec.quoted (f : Spec) (s : String) : String :=
  let s := f.cut s
  if f.sharp && canBackquote s then f.pad ("`" ++ s ++ "`")
  else f.pad (if f.plus then quoteAscii s else quote s)

/-- The hex digits of the bytes of a text, at most as many bytes as the precision; `#` puts
`0x` in front, a blank separates the bytes (each with `0x` under `#` too). -/
def Spec.hex (f : Spec) (upper : Bool) (s : String) : String :=
  let bytes := s.toUTF8.toList
  let bytes := match f.precision with
    | some p => bytes.take p
    | none => bytes
  let digit (n : Nat) : Char :=
    if n < 10 then Char.ofNat (48 + n) else Char.ofNat ((if upper then 55 else 87) + n)
  let mark := if upper then "0X" else "0x"
  let pair (b : UInt8) : String := String.ofList [digit (b.toNat / 16), digit (b.toNat % 16)]
  if bytes.isEmpty then f.filler (f.width.getD 0)
  else
    let body :=
      if f.space then " ".intercalate (bytes.map fun b => (if f.sharp then mark else "") ++ pair b)
      else (if f.sharp then mark else "") ++ String.join (bytes.map pair)
    let n := f.width.getD 0 - body.length
    if f.minus then body ++ String.ofList (List.replicate n ' ') else f.filler n ++ body

/-- The text a verb writes for text, or none when the verb does not take text. -/
def Spec.textual (f : Spec) (verb : Char) (s : String) : Option String :=
  match verb with
  | 'v' => some (if f.sharpV then f.quoted s else f.plain s)
  | 's' => some (f.plain s)
  | 'q' => some (f.quoted s)
  | 'x' => some (f.hex false s)
  | 'X' => some (f.hex true s)
  | _ => none

/-- The text a verb writes for a truth value, or none when the verb does not take one. -/
def Spec.truth (f : Spec) (verb : Char) (b : Bool) : Option String :=
  if verb = 't' || verb = 'v' then some (f.pad (if b then "true" else "false")) else none

/-- A verb's complaint about a value it does not take, with the value's type and its text
under `v`. -/
def badVerb (verb : Char) (typeName valueText : String) : String :=
  "%!" ++ verb.toString ++ "(" ++ typeName ++ "=" ++ valueText ++ ")"

/-- The text a verb writes for a scalar argument (a number, text or truth value). -/
def Spec.scalar (f : Spec) (verb : Char) (a : Arg) : String :=
  match a with
  | .number s | .text s =>
    match f.textual verb s with
    | some t => t
    | none => badVerb verb a.typeName (f.plain s)
  | .flag b =>
    match f.truth verb b with
    | some t => t
    | none => badVerb verb "bool" (f.pad (if b then "true" else "false"))
  | _ => ""

/-- A list written from the texts of its elements. -/
def Spec.wrapList (f : Spec) (parts : List String) : String :=
  if f.sharpV then listTypeName ++ "\x7b" ++ ", ".intercalate parts ++ "\x7d"
  else "[" ++ " ".intercalate parts ++ "]"

/-- A map written from its keys and the texts of their values, keys in increasing order. -/
def Spec.wrapMap (f : Spec) (verb : Char) (parts : List (String × String)) : String :=
  let sorted := parts.mergeSort fun a b => decide (a.1 ≤ b.1)
  let shown := sorted.map fun (k, v) => f.scalar verb (.text k) ++ ":" ++ v
  if f.sharpV then mapTypeName ++ "\x7b" ++ ", ".intercalate shown ++ "\x7d"
  else "map[" ++ " ".intercalate shown ++ "]"

mutual

/-- The text a verb writes for an element of a list or map: null is `<nil>` whatever the
verb. -/
def Spec.element (f : Spec) (verb : Char) : Arg → String
  | .null => if f.sharpV then elementTypeName ++ "(nil)" else "<nil>"
  | .list items => f.wrapList (f.elements verb items)
  | .map entries => f.wrapMap verb (f.entries verb entries)
  | a => f.scalar verb a

/-- The texts of a list's elements. -/
def Spec.elements (f : Spec) (verb : Char) : List Arg → List String
  | [] => []
  | a :: rest => f.element verb a :: f.elements verb rest

/-- The keys of a map with the texts of their values. -/
def Spec.entries (f : Spec) (verb : Char) : List (String × Arg) → List (String × String)
  | [] => []
  | (k, a) :: rest => (k, f.element verb a) :: f.entries verb rest

end

/-- The text a verb writes for one argument. -/
def Spec.argument (f : Spec) (verb : Char) (a : Arg) : String :=
  match a, verb with
  | .null, 'v' | .null, 'T' => f.pad "<nil>"
  | .null, _ => "%!" ++ verb.toString ++ "(<nil>)"
  | a, 'T' => f.plain a.typeName
  | a, 'w' => badVerb 'w' a.typeName (f.element 'v' a)
  | a, _ => f.element verb a

/-- The text an argument left over writes after the filled template. -/
def extraText : Arg → String
  | .null => "<nil>"
  | a => a.typeName ++ "=" ++ ({} : Spec).argument 'v' a

/-- Reads the digits of a width, precision or index: the value, and whether there were
digits; none when the value grows past a million before its last digit, which uses up the
rest of the text. -/
def scanNumber : List Char → Nat → Bool → Option (Nat × Bool × List Char)
  | [], n, seen => some (n, seen, [])
  | c :: cs, n, seen =>
    if !c.isDigit then some (n, seen, c :: cs)
    else if n > 1000000 then none
    else scanNumber cs (n * 10 + (c.toNat - '0'.toNat)) true

/-- Reads a width or precision: its value when digits stand there, and the rest. -/
def readNumber (cs : List Char) : Option Nat × List Char :=
  match scanNumber cs 0 false with
  | some (n, true, rest) => (some n, rest)
  | some (_, false, rest) => (none, rest)
  | none => (none, [])

/-- Reads the flags of a verb. -/
def readFlags : List Char → Spec → Spec × List Char
  | '#' :: rest, f => readFlags rest { f with sharp := true }
  | '0' :: rest, f => readFlags rest { f with zero := !f.minus }
  | '+' :: rest, f => readFlags rest { f with plus := true }
  | '-' :: rest, f => readFlags rest { f with minus := true, zero := false }
  | ' ' :: rest, f => readFlags rest { f with space := true }
  | cs, f => (f, cs)

/-- What an argument index `[n]` at the head of a template says. -/
inductive Index where
  /-- A well-formed index of an argument that exists, counted from zero. -/
  | valid (n : Nat)
  /-- A well-formed index of no argument. -/
  | absent
  /-- A bracket that holds no index. -/
  | malformed

/-- Reads an argument index at the head of the text, with the rest; none when no bracket
stands there. Without a closing bracket only the opening one is used up. -/
def readIndex (cs : List Char) (count : Nat) : Option (Index × List Char) :=
  match cs with
  | '[' :: rest =>
    if cs.length < 3 then some (.malformed, rest)
    else
      let (inside, after) := rest.span (· ≠ ']')
      match after with
      | ']' :: after =>
        match scanNumber inside 0 false with
        | some (n, true, []) =>
          if 1 ≤ n && n ≤ count then some (.valid (n - 1), after) else some (.absent, after)
        | _ => some (.malformed, after)
      | _ => some (.malformed, rest)
  | _ => none

/-- Where filling stands: the next argument, whether an index was used, and whether the
current verb's index is good. -/
structure Cursor where
  next : Nat := 0
  reordered : Bool := false
  good : Bool := true

/-- Applies an index at the head of the text to the cursor; answers whether a well-formed
index was read. -/
def Cursor.index (c : Cursor) (cs : List Char) (count : Nat) : Cursor × Bool × List Char :=
  match readIndex cs count with
  | none => (c, false, cs)
  | some (.valid n, rest) => ({ c with next := n, reordered := true }, true, rest)
  | some (.absent, rest) => ({ c with reordered := true, good := false }, true, rest)
  | some (.malformed, rest) => ({ c with reordered := true, good := false }, false, rest)

/-- Uses up an argument for a `*`. -/
def Cursor.star (c : Cursor) (count : Nat) : Cursor :=
  if c.next < count then { c with next := c.next + 1 } else c

/-- Fills a template, writing after `out`; `fuel` bounds the characters left to read. -/
def fillFrom (args : List Arg) : Nat → List Char → Cursor → String → String × Cursor
  | 0, _, c, out => (out, c)
  | _ + 1, [], c, out => (out, c)
  | fuel + 1, '%' :: rest, c, out =>
    let count := args.length
    let c := { c with good := true }
    let (spec, rest) := readFlags rest {}
    let (c, afterIndex, rest) := c.index rest count
    let (spec, c, out, afterIndex, rest) := match rest with
      | '*' :: r => (spec, c.star count, out ++ "%!(BADWIDTH)", false, r)
      | r =>
        let (w, r) := readNumber r
        let c := if afterIndex && w.isSome then { c with good := false } else c
        ({ spec with width := w }, c, out, afterIndex, r)
    let (spec, c, out, afterIndex, rest) := match rest with
      | '.' :: r@(_ :: _) =>
        let c := if afterIndex then { c with good := false } else c
        let (c, afterIndex, r) := c.index r count
        match r with
        | '*' :: r => (spec, c.star count, out ++ "%!(BADPREC)", false, r)
        | r =>
          let (p, r) := readNumber r
          ({ spec with precision := some (p.getD 0) }, c, out, afterIndex, r)
      | r => (spec, c, out, afterIndex, r)
    let (c, _, rest) := if afterIndex then (c, afterIndex, rest) else c.index rest count
    match rest with
    | [] => (out ++ "%!(NOVERB)", c)
    | '%' :: r => fillFrom args fuel r c (out ++ "%")
    | verb :: r =>
      if !c.good then fillFrom args fuel r c (out ++ "%!" ++ verb.toString ++ "(BADINDEX)")
      else match args[c.next]? with
        | none => fillFrom args fuel r c (out ++ "%!" ++ verb.toString ++ "(MISSING)")
        | some a =>
          let spec := if verb = 'v' || verb = 'w' then
              { spec with sharpV := spec.sharp, sharp := false, plusV := spec.plus, plus := false }
            else spec
          fillFrom args fuel r { c with next := c.next + 1 } (out ++ spec.argument verb a)
  | fuel + 1, ch :: rest, c, out => fillFrom args fuel rest c (out.push ch)

/-- Fills a template with arguments. -/
def fill (template : String) (args : List Arg) : String :=
  let (out, c) := fillFrom args (template.length + 1) template.toList {} ""
  if !c.reordered && c.next < args.length then
    out ++ "%!(EXTRA " ++ ", ".intercalate ((args.drop c.next).map extraText) ++ ")"
  else out

end Evse.Text
