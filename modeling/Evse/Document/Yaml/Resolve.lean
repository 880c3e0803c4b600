import Evse.Document.Yaml.Tree
import Evse.Number.Numeral
/-!
What a YAML scalar stands for, by its spelling or by its tag.
-/
namespace Evse.Document.Yaml

/-- What a scalar stands for. -/
inductive Resolved where
  | null
  | flag (b : Bool)
  | integer (n : Int)
  | number (d : Number.Double)
  | text (s : String)
  | binary (s : String)
  | timestamp
deriving Inhabited

/-- The short tag of a resolved value. -/
def Resolved.tag : Resolved → String
  | .null => "!!null"
  | .flag _ => "!!bool"
  | .integer _ => "!!int"
  | .number _ => "!!float"
  | .text _ => "!!str"
  | .binary _ => "!!binary"
  | .timestamp => "!!timestamp"

/-- A tag with the standard prefix written as `!!`. -/
def shortTag (t : String) : String :=
  let standard := "tag:yaml.org,2002:"
  if t.startsWith standard then "!!" ++ String.ofList (t.toList.drop standard.length) else t

/-- The tags that resolution decides between. -/
def resolvableTags : List String := ["", "!!str", "!!bool", "!!int", "!!float", "!!null", "!!timestamp"]

/-- The spellings with a fixed meaning. -/
def fixedValue (s : String) : Option Resolved :=
  if ["true", "True", "TRUE"].contains s then some (.flag true)
  else if ["false", "False", "FALSE"].contains s then some (.flag false)
  else if ["", "~", "null", "Null", "NULL"].contains s then some .null
  else if [".nan", ".NaN", ".NAN"].contains s then some (.number .nan)
  else if [".inf", ".Inf", ".INF", "+.inf", "+.Inf", "+.INF"].contains s then some (.number (.infinite false))
  else if ["-.inf", "-.Inf", "-.INF"].contains s then some (.number (.infinite true))
  else none

/-- What the first character of a spelling suggests: a sign, a digit, a fixed spelling, a
point, or nothing to resolve. -/
inductive Hint where
  | sign
  | digit
  | fixed
  | point
  | none
deriving DecidableEq

/-- The hint of a spelling's first character. -/
def hintOf (s : String) : Hint :=
  match s.toList with
  | [] => .fixed
  | c :: _ =>
    if c = '+' || c = '-' then .sign
    else if c.isDigit then .digit
    else if "yYnNtTfFoO~".contains c then .fixed
    else if c = '.' then .point
    else .none

/-- Whether a spelling is a decimal number: a sign, digits with an optional point or a point
and digits, and an optional exponent. -/
def isDecimalNumber (s : String) : Bool :=
  let cs := match s.toList with
    | '+' :: r | '-' :: r => r
    | r => r
  let (whole, rest) := cs.span Char.isDigit
  let mantissaRest : Option (List Char) :=
    if whole.isEmpty then
      match rest with
      | '.' :: r => let (f, r) := r.span Char.isDigit; if f.isEmpty then none else some r
      | _ => none
    else
      match rest with
      | '.' :: r => some (r.dropWhile Char.isDigit)
      | r => some r
  match mantissaRest with
  | none => false
  | some [] => true
  | some (e :: r) =>
    if e = 'e' || e = 'E' then
      let r := match r with
        | '+' :: t | '-' :: t => t
        | t => t
      !r.isEmpty && r.all Char.isDigit
    else false

/-- A signed numeral in an explicit base, of at most 64 bits. -/
def signedInBase (base : Nat) (s : String) : Option Int :=
  let (neg, body) := match s.toList with
    | '+' :: r => (false, r)
    | '-' :: r => (true, r)
    | r => (false, r)
  if body.isEmpty || body.contains '_' then none
  else match Text.readDigits base (Nat.pow 2 64) body 0 with
    | .ok n =>
      if neg then (if n ≤ Nat.pow 2 63 then some (-(n : Int)) else none)
      else if n < Nat.pow 2 63 then some n else none
    | .error _ => none

/-- An unsigned numeral in an explicit base, of at most 64 bits. -/
def unsignedInBase (base : Nat) (s : String) : Option Nat :=
  let body := s.toList
  if body.isEmpty || body.contains '_' then none
  else (Text.readDigits base (Nat.pow 2 64 - 1) body 0).toOption

/-- The number of days in a month. -/
def daysIn (month year : Nat) : Nat :=
  if month = 2 then (if year % 4 = 0 && (year % 100 ≠ 0 || year % 400 = 0) then 29 else 28)
  else if [4, 6, 9, 11].contains month then 30 else 31

/-- Reads one or two digits. -/
def smallNumber (cs : List Char) : Option (Nat × List Char) :=
  match cs with
  | a :: b :: r =>
    if !a.isDigit then none
    else if b.isDigit then some ((a.toNat - 48) * 10 + (b.toNat - 48), r)
    else some (a.toNat - 48, b :: r)
  | [a] => if a.isDigit then some (a.toNat - 48, []) else none
  | [] => none

/-- Reads a date `YYYY-M-D` with a valid month and day. -/
def readDate (cs : List Char) : Option (List Char) := do
  let year := cs.take 4
  if year.length ≠ 4 || !year.all Char.isDigit then none
  let y := year.foldl (fun n d => n * 10 + (d.toNat - 48)) 0
  let r := cs.drop 4
  let r ← match r with | '-' :: r => some r | _ => none
  let (m, r) ← smallNumber r
  let r ← match r with | '-' :: r => some r | _ => none
  let (d, r) ← smallNumber r
  if m < 1 || m > 12 || d < 1 || d > daysIn m y then none
  pure r

/-- Reads a time `H:M:S` with an optional fraction after a point or comma. -/
def readTime (cs : List Char) : Option (List Char) := do
  let (h, r) ← smallNumber cs
  let r ← match r with | ':' :: r => some r | _ => none
  let (m, r) ← smallNumber r
  let r ← match r with | ':' :: r => some r | _ => none
  let (s, r) ← smallNumber r
  if h ≥ 24 || m ≥ 60 || s ≥ 60 then none
  match r with
  | p :: d :: rest =>
    if (p = '.' || p = ',') && d.isDigit then some (rest.dropWhile Char.isDigit) else some r
  | _ => some r

/-- Reads a zone: `Z` or a sign with `hh:mm`. -/
def readZone (cs : List Char) : Option (List Char) :=
  match cs with
  | 'Z' :: r => some r
  | s :: h1 :: h2 :: ':' :: m1 :: m2 :: r =>
    if (s = '+' || s = '-') && [h1, h2, m1, m2].all Char.isDigit &&
        (h1.toNat - 48) * 10 + (h2.toNat - 48) ≤ 24 && (m1.toNat - 48) * 10 + (m2.toNat - 48) ≤ 60 then some r
    else none
  | _ => none

/-- Whether a spelling is a timestamp: a date alone, a date and time with a zone after `T`
or `t`, or a date and time after one space. -/
def isTimestamp (s : String) : Bool :=
  let cs := s.toList
  match readDate cs with
  | some [] => true
  | some (sep :: r) =>
    if sep = 'T' || sep = 't' then
      match readTime r with
      | some r => (readZone r) == some []
      | none => false
    else if sep = ' ' then readTime r == some []
    else false
  | none => false

/-- Resolves a spelling under a tag that resolution decides between, before the tag is
checked. -/
def resolveSpelling (tag : String) (s : String) : Resolved :=
  let hint := hintOf s
  if hint = .none || tag = "!!str" then .text s
  else match fixedValue s with
  | some r => r
  | none =>
    match hint with
    | .point =>
      match Number.parseDouble s with
      | .ok d => .number d
      | .error _ => .text s
    | .sign | .digit =>
      if (tag = "" || tag = "!!timestamp") && isTimestamp s then .timestamp
      else
        let plain := String.ofList (s.toList.filter (· ≠ '_'))
        let body := plain.toList
        match Text.parseInteger plain with
        | .ok n => .integer n
        | .error _ =>
          match (if body.head? = some '+' || body.head? = some '-' then none
                 else (Text.parseUnsigned body).toOption) with
          | some n => .integer n
          | none =>
            let asNumber := if isDecimalNumber plain then (Number.parseDouble plain).toOption else none
            match asNumber with
            | some d => .number d
            | none =>
              let tail (k : Nat) := String.ofList (body.drop k)
              let pick (base : Nat) (k : Nat) : Option Int :=
                match signedInBase base (tail k) with
                | some n => some n
                | none => (unsignedInBase base (tail k)).map fun n => (n : Int)
              let found : Option Int :=
                if plain.startsWith "0b" then pick 2 2
                else if plain.startsWith "-0b" then signedInBase 2 ("-" ++ tail 3)
                else if plain.startsWith "0o" then pick 8 2
                else if plain.startsWith "-0o" then signedInBase 8 ("-" ++ tail 3)
                else none
              match found with
              | some n => .integer n
              | none => .text s
    | _ => .text s

/-- The value of a base64 digit. -/
def base64Value (c : Char) : Option Nat :=
  if 'A' ≤ c && c ≤ 'Z' then some (c.toNat - 'A'.toNat)
  else if 'a' ≤ c && c ≤ 'z' then some (c.toNat - 'a'.toNat + 26)
  else if c.isDigit then some (c.toNat - '0'.toNat + 52)
  else if c = '+' then some 62
  else if c = '/' then some 63
  else none

/-- Decodes base64 text with padding; line breaks (CR and LF) are ignored anywhere, bits
left over at the end are dropped, and only line breaks may follow the padding. -/
def decodeBase64 (s : String) : Option (List Nat) :=
  let cs := s.toList.filter fun c => c ≠ '\n' && c ≠ '\r'
  let rec go : List Char → List Nat → Option (List Nat)
    | [], acc => some acc.reverse
    | [a, b, '=', '='], acc => do
      let (a, b) := (← base64Value a, ← base64Value b)
      some ((acc.reverse ++ [(a * 4 + b / 16) % 256]))
    | [a, b, c, '='], acc => do
      let (a, b, c) := (← base64Value a, ← base64Value b, ← base64Value c)
      some (acc.reverse ++ [(a * 4 + b / 16) % 256, (b * 16 + c / 4) % 256])
    | a :: b :: c :: d :: rest, acc => do
      let (a, b, c, d) := (← base64Value a, ← base64Value b, ← base64Value c, ← base64Value d)
      go rest ((c * 64 + d) % 256 :: (b * 16 + c / 4) % 256 :: (a * 4 + b / 16) % 256 :: acc)
    | _, _ => none
  go cs []

/-- The text that bytes spell in UTF-8; a byte that starts no valid sequence stands for
U+FFFD. -/
def utf8Text (bytes : List Nat) : String :=
  let rec go : Nat → List Nat → List Char → List Char
    | 0, _, acc => acc.reverse
    | _ + 1, [], acc => acc.reverse
    | fuel + 1, b :: rest, acc =>
      let w := utf8Width b
      let seq := (b :: rest).take w
      let decoded :=
        if w ≤ 1 then none
        else String.fromUTF8? (ByteArray.mk (seq.map fun x => x.toUInt8).toArray)
      if w = 1 then go fuel rest (Char.ofNat b :: acc)
      else match decoded with
        | some t => if seq.length = w then go fuel (rest.drop (w - 1)) (t.toList.reverse ++ acc)
            else go fuel rest (Char.ofNat 0xFFFD :: acc)
        | none => go fuel rest (Char.ofNat 0xFFFD :: acc)
  String.ofList (go (bytes.length + 1) bytes [])

/-- Resolves a scalar's spelling under a (short) tag. A tag of the core types must agree
with what the spelling resolves to, but an integer of 64 signed bits may be read as a number;
`!!binary` must hold base64 data; other tags leave the text as it is. -/
def resolve (tag : String) (s : String) : Except String Resolved :=
  if !resolvableTags.contains tag then
    if tag = "!!binary" then
      match decodeBase64 s with
      | some bytes => .ok (.binary (utf8Text bytes))
      | none => .error "!!binary value contains invalid base64 data"
    else .ok (.text s)
  else
    let r := resolveSpelling tag s
    if tag = "" || tag = r.tag || tag = "!!str" then .ok r
    else match tag, r with
      | "!!float", .integer n =>
        if n < (Nat.pow 2 63 : Int) then
          .ok (.number (match Number.Double.ofNat n.natAbs with
            | .finite _ u => .finite (n < 0) u
            | v => v))
        else .error s!"cannot decode !!int as a {tag}"
      | _, _ => .error s!"cannot decode {r.tag} as a {tag}"

/-- The tag a scalar node carries: its own tag unless that is empty or `!`; otherwise `!!str`
for a quoted or block scalar, `!!merge` for a plain `<<`, and the resolved tag of a plain
spelling. -/
def scalarTag (tag text : String) (style : Style) : String :=
  if tag ≠ "" && tag ≠ "!" then shortTag tag
  else if style ≠ .plain then "!!str"
  else if text = "<<" then "!!merge"
  else (resolveSpelling "" text).tag

/-- What a scalar node stands for. -/
def scalarValue (tag text : String) (style : Style) : Except String Resolved :=
  let t := scalarTag tag text style
  if t = "!!str" then .ok (.text text) else resolve t text

end Evse.Document.Yaml
