import Evse.Document.Node
/-!
Reading the first EDN value of a text.
-/
namespace Evse.Document.Edn

abbrev Reading := Except String

/-- Characters that separate forms. -/
def isSeparator (c : Char) : Bool :=
  c = ' ' || c = '\t' || c = '\n' || c = '\r' || c = ',' || c.toNat = 12

/-- Characters that end a token. -/
def isDelimiter (c : Char) : Bool :=
  isSeparator c || c = '(' || c = ')' || c = '[' || c = ']' || c = '{' || c = '}' || c = '"' || c = ';'

/-- Skips separators and comments; `fuel` bounds the comments skipped. -/
def skip : Nat → List Char → List Char
  | 0, cs => cs
  | fuel + 1, cs =>
    match cs.dropWhile isSeparator with
    | ';' :: r => skip fuel (r.dropWhile (· ≠ '\n'))
    | r => r

/-- Whether a character may stand in a symbol. -/
def isSymbolChar (c : Char) : Bool :=
  c.isAlphanum || ".*+!-_?$%&=<>/:#'".toList.contains c

/-- The value of four hexadecimal digits. -/
def hex4 (cs : List Char) : Option Nat :=
  if cs.length < 4 then none
  else (cs.take 4).foldlM (fun acc c =>
    if c.isDigit then some (acc * 16 + (c.toNat - '0'.toNat))
    else if 'a' ≤ c.toLower && c.toLower ≤ 'f' then some (acc * 16 + (c.toLower.toNat - 'a'.toNat + 10))
    else none) 0

/-- Reads the inside of a string up to its closing quote. -/
def string : List Char → List Char → Reading (String × List Char)
  | [], _ => .error "edn: unexpected end of input in string"
  | c :: rest, acc =>
    if c = '"' then .ok (String.ofList acc.reverse, rest)
    else if c = '\\' then
      match rest with
      | 'u' :: a :: b :: c :: d :: r =>
        match hex4 [a, b, c, d] with
        | some v => string r ((if 0xD800 ≤ v && v ≤ 0xDFFF then Char.ofNat 0xFFFD else Char.ofNat v) :: acc)
        | none => .error "edn: bad unicode escape"
      | e :: r =>
        let ch : Option Char := match e with
          | 't' => some '\t' | 'r' => some '\r' | 'n' => some '\n' | '\\' => some '\\'
          | '"' => some '"' | '/' => some '/' | 'b' => some (Char.ofNat 8) | 'f' => some (Char.ofNat 12)
          | _ => none
        match ch with
        | some ch => string r (ch :: acc)
        | none => .error "edn: bad escape in string"
      | [] => .error "edn: unexpected end of input in string"
    else string rest (c :: acc)

/-- Whether a token is an integer: a sign, then `0` or digits not starting with `0`, then an
optional `N`. -/
def isInteger (cs : List Char) : Bool :=
  let body := match cs with
    | '+' :: r | '-' :: r => r
    | r => r
  let body := if body.getLast? = some 'N' then body.dropLast else body
  match body with
  | ['0'] => true
  | c :: rest => c.isDigit && c ≠ '0' && rest.all Char.isDigit
  | [] => false

/-- Whether a token is a float: an integer part, then a fraction of at least one digit
and/or an exponent, then an optional `M`. -/
def isFloat (cs : List Char) : Bool :=
  let body := match cs with
    | '+' :: r | '-' :: r => r
    | r => r
  let body := if body.getLast? = some 'M' then body.dropLast else body
  let (whole, rest) := body.span Char.isDigit
  let wholeOk := whole = ['0'] || (whole.head?.any (· ≠ '0') && !whole.isEmpty)
  let (frac, rest) := match rest with
    | '.' :: d :: r => if d.isDigit then (true, r.dropWhile Char.isDigit) else (false, '.' :: d :: r)
    | r => (false, r)
  let (exp, rest) := match rest with
    | e :: r =>
      if e = 'e' || e = 'E' then
        let r := match r with
          | '+' :: t | '-' :: t => t
          | t => t
        (!r.isEmpty && r.all Char.isDigit, [])
      else (false, e :: r)
    | [] => (false, [])
  wholeOk && rest.isEmpty && (frac || exp) && (body.getLast?.any Char.isDigit)

/-- Reads an atom: a number, `nil`, `true`, `false`, a keyword or a symbol. -/
def atom (cs : List Char) : Reading (Node × List Char) :=
  let (tok, rest) := cs.span fun c => !isDelimiter c
  let s := String.ofList tok
  if tok.isEmpty then .error "edn: unexpected character"
  else if s = "nil" then .ok (.scalar s (.other "nil"), rest)
  else if s = "true" then .ok (.scalar s (.flag true), rest)
  else if s = "false" then .ok (.scalar s (.flag false), rest)
  else if isInteger tok then
    let digits := if tok.getLast? = some 'N' then tok.dropLast else tok
    match (String.ofList (match digits with | '+' :: r => r | r => r)).toInt? with
    | some n => .ok (.scalar (String.ofList digits) (.integer n), rest)
    | none => .error "edn: bad integer"
  else if isFloat tok then
    let digits := if tok.getLast? = some 'M' then tok.dropLast else tok
    match Number.parseDouble (String.ofList digits) with
    | .ok d => .ok (.scalar (String.ofList digits) (.number d), rest)
    | .error _ => .error "edn: bad float"
  else if (tok.head?.any Char.isDigit) ||
      ((tok.head? = some '+' || tok.head? = some '-') && (tok.getD 1 ' ').isDigit) then
    .error s!"edn: bad number {s}"
  else if tok.all isSymbolChar then
    match tok with
    | ':' :: name =>
      if name.isEmpty || name.head? = some ':' then .error s!"edn: bad keyword {s}"
      else .ok (.scalar s (.other "keyword"), rest)
    | _ => .ok (.scalar s (.other "symbol"), rest)
  else .error s!"edn: bad token {s}"

/-- The name a map key is kept by. -/
def keyName : Node → Option String
  | .scalar written (.other "keyword") => some (String.ofList (written.toList.drop 1))
  | .scalar written (.other "symbol") => some written
  | .scalar s (.text _) => some s
  | _ => none

mutual

/-- Reads one form. -/
def form : Nat → List Char → Reading (Node × List Char)
  | 0, _ => .error "edn: nested too deeply"
  | fuel + 1, cs =>
    match skip cs.length cs with
    | [] => .error "edn: unexpected end of input"
    | '{' :: r => do
      let (items, r) ← forms fuel r '}' []
      let rec pairs : List Node → Reading (List (String × Node))
        | [] => .ok []
        | [_] => .error "edn: map with an odd number of forms"
        | k :: v :: more => do
          let rest ← pairs more
          match keyName k with
          | some name => .ok ((name, v) :: rest)
          | none => .ok (("", .scalar "" (.other "key")) :: rest)
      pure (.mapping (← pairs items), r)
    | '[' :: r => do
      let (items, r) ← forms fuel r ']' []
      pure (.sequence items, r)
    | '(' :: r => do
      let (items, r) ← forms fuel r ')' []
      pure (.sequence items, r)
    | '#' :: '{' :: r => do
      let (items, r) ← forms fuel r '}' []
      pure (.sequence items, r)
    | '#' :: '_' :: r => do
      let (_, r) ← form fuel r
      form fuel r
    | '#' :: r => do
      let (tag, r) ← atom r
      let (_, r) ← form fuel r
      pure (.scalar (match tag with | .scalar w _ => w | _ => "") (.other "tagged"), r)
    | '"' :: r => do
      let (s, r) ← string r []
      pure (.scalar s (.text s), r)
    | '\\' :: c :: r =>
      let (more, r) := r.span fun c => !isDelimiter c
      pure (.scalar (String.ofList (c :: more)) (.other "character"), r)
    | c :: r =>
      if c = ')' || c = ']' || c = '}' then .error s!"edn: unexpected {c}"
      else atom (c :: r)

/-- Reads forms up to a closing character. -/
def forms : Nat → List Char → Char → List Node → Reading (List Node × List Char)
  | 0, _, _, _ => .error "edn: nested too deeply"
  | fuel + 1, cs, close, acc =>
    match skip cs.length cs with
    | [] => .error "edn: unexpected end of input"
    | c :: r =>
      if c = close then .ok (acc.reverse, r)
      else match c :: r with
        | '#' :: '_' :: r => do
          let (_, r) ← form fuel r
          forms fuel r close acc
        | cs => do
          let (n, r) ← form fuel cs
          forms fuel r close (n :: acc)

end

/-- Reads the first value of a text. -/
def read (content : String) : Reading (Option Node) := do
  let cs := content.toList
  let (n, _) ← form (2 * cs.length + 4) cs
  pure (some n)

end Evse.Document.Edn
