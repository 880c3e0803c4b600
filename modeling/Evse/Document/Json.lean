import Evse.Document.Node
import Evse.Text.Quote
/-!
Reading the first JSON value of a text; numbers keep the text they were written as.
-/
namespace Evse.Document.Json

abbrev Reading := Except String

def isSpace (c : Char) : Bool := c = ' ' || c = '\t' || c = '\n' || c = '\r'

def skip (cs : List Char) : List Char := cs.dropWhile isSpace

/-- The complaint about an unexpected character. -/
def unexpected {α : Type} (cs : List Char) (what : String) : Reading α :=
  match cs with
  | c :: _ => .error s!"invalid character {Text.quote c.toString} {what}"
  | [] => .error "unexpected EOF"

/-- The value of four hexadecimal digits. -/
def hex4 (cs : List Char) : Option Nat :=
  if cs.length < 4 then none
  else (cs.take 4).foldlM (fun acc c =>
    if c.isDigit then some (acc * 16 + (c.toNat - '0'.toNat))
    else if 'a' ≤ c.toLower && c.toLower ≤ 'f' then some (acc * 16 + (c.toLower.toNat - 'a'.toNat + 10))
    else none) 0

/-- Reads the inside of a string up to its closing quote. -/
def string : Nat → List Char → List Char → Reading (String × List Char)
  | 0, _, _ => .error "unexpected EOF"
  | _ + 1, [], _ => .error "unexpected EOF"
  | fuel + 1, c :: rest, acc =>
    if c = '"' then .ok (String.ofList acc.reverse, rest)
    else if c.toNat < 0x20 then unexpected (c :: rest) "in string literal"
    else if c = '\\' then
      match rest with
      | 'u' :: r =>
        match hex4 r with
        | none => unexpected (r.dropWhile fun c => c.isDigit || ('a' ≤ c.toLower && c.toLower ≤ 'f'))
            "in \\u hexadecimal character escape"
        | some hi =>
          let r := r.drop 4
          if 0xD800 ≤ hi && hi < 0xDC00 then
            match r with
            | '\\' :: 'u' :: r2 =>
              match hex4 r2 with
              | some lo =>
                if 0xDC00 ≤ lo && lo < 0xE000 then
                  string fuel (r2.drop 4) (Char.ofNat (0x10000 + (hi - 0xD800) * 0x400 + (lo - 0xDC00)) :: acc)
                else string fuel r (Char.ofNat 0xFFFD :: acc)
              | none => string fuel r (Char.ofNat 0xFFFD :: acc)
            | _ => string fuel r (Char.ofNat 0xFFFD :: acc)
          else if 0xDC00 ≤ hi && hi < 0xE000 then string fuel r (Char.ofNat 0xFFFD :: acc)
          else string fuel r (Char.ofNat hi :: acc)
      | e :: r =>
        let ch : Option Char := match e with
          | '"' => some '"' | '\\' => some '\\' | '/' => some '/' | 'b' => some (Char.ofNat 8)
          | 'f' => some (Char.ofNat 12) | 'n' => some '\n' | 'r' => some '\r' | 't' => some '\t'
          | _ => none
        match ch with
        | some ch => string fuel r (ch :: acc)
        | none => unexpected (e :: r) "in string escape code"
      | [] => .error "unexpected EOF"
    else string fuel rest (c :: acc)

/-- Splits off the characters of a number: an optional minus, an integer part without
leading zeros, an optional fraction and an optional exponent. -/
def number (cs : List Char) : Reading (String × List Char) := do
  let (sign, r) := match cs with
    | '-' :: r => (['-'], r)
    | r => ([], r)
  let (whole, r) ← match r with
    | '0' :: r => pure (['0'], r)
    | c :: _ =>
      if c.isDigit then pure (r.span Char.isDigit)
      else unexpected r "in numeric literal"
    | [] => .error "unexpected EOF"
  let (frac, r) ← match r with
    | '.' :: r =>
      let (ds, r) := r.span Char.isDigit
      if ds.isEmpty then unexpected r "after decimal point in numeric literal" else pure ('.' :: ds, r)
    | _ => pure ([], r)
  let (exp, r) ← match r with
    | e :: r =>
      if e = 'e' || e = 'E' then
        let (s, r) := match r with
          | '+' :: r => (['+'], r)
          | '-' :: r => (['-'], r)
          | r => ([], r)
        let (ds, r) := r.span Char.isDigit
        if ds.isEmpty then unexpected r "in exponent of numeric literal" else pure (e :: s ++ ds, r)
      else pure ([], e :: r)
    | [] => pure ([], [])
  pure (String.ofList (sign ++ whole ++ frac ++ exp), r)

/-- Whether a literal word follows. -/
def word (w : String) (cs : List Char) : Option (List Char) :=
  if w.toList.isPrefixOf cs then some (cs.drop w.length) else none

mutual

/-- Reads a value. -/
def value : Nat → List Char → Reading (Node × List Char)
  | 0, _ => .error "exceeded max depth"
  | fuel + 1, cs =>
    match skip cs with
    | '{' :: r => members fuel r []
    | '[' :: r => elements fuel r []
    | '"' :: r => do
      let (s, rest) ← string (r.length + 1) r []
      pure (.scalar s (.text s), rest)
    | cs =>
      if let some r := word "true" cs then .ok (.scalar "true" (.flag true), r)
      else if let some r := word "false" cs then .ok (.scalar "false" (.flag false), r)
      else if let some r := word "null" cs then .ok (Node.null, r)
      else match cs with
        | c :: _ =>
          if c = '-' || c.isDigit then do
            let (lit, rest) ← number cs
            match Number.parseDouble lit with
            | .ok d => pure (.scalar lit (.number d), rest)
            | .error _ => pure (.scalar lit (.number (.infinite (c = '-'))), rest)
          else unexpected cs "looking for beginning of value"
        | [] => .error "unexpected EOF"

/-- Reads the members of an object after its opening brace. -/
def members : Nat → List Char → List (String × Node) → Reading (Node × List Char)
  | 0, _, _ => .error "exceeded max depth"
  | fuel + 1, cs, acc =>
    match skip cs with
    | '}' :: r => if acc.isEmpty then .ok (.mapping acc, r) else unexpected ('}' :: r) "looking for beginning of object key string"
    | '"' :: r => do
      let (key, rest) ← string (r.length + 1) r []
      match skip rest with
      | ':' :: rest => do
        let (v, rest) ← value fuel rest
        match skip rest with
        | ',' :: rest =>
          match skip rest with
          | '"' :: _ => members fuel rest (acc ++ [(key, v)])
          | other => unexpected other "looking for beginning of object key string"
        | '}' :: rest => .ok (.mapping (acc ++ [(key, v)]), rest)
        | other => unexpected other "after object key:value pair"
      | other => unexpected other "after object key"
    | other => unexpected other "looking for beginning of object key string"

/-- Reads the elements of an array after its opening bracket. -/
def elements : Nat → List Char → List Node → Reading (Node × List Char)
  | 0, _, _ => .error "exceeded max depth"
  | fuel + 1, cs, acc =>
    match skip cs, acc with
    | ']' :: r, [] => .ok (.sequence [], r)
    | cs, _ => do
      let (v, rest) ← value fuel cs
      match skip rest with
      | ',' :: rest => elements fuel rest (acc ++ [v])
      | ']' :: rest => .ok (.sequence (acc ++ [v]), rest)
      | other => unexpected other "after array element"

end

/-- Reads the first value of a text; none when the text holds only blanks. -/
def read (content : String) : Reading (Option Node) := do
  let cs := skip content.toList
  if cs.isEmpty then return none
  let (v, _) ← value (2 * cs.length + 4) cs
  pure (some v)

end Evse.Document.Json
