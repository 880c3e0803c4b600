import Evse.Text.Printable
/-!
Quoted text and blank trimming.
-/
namespace Evse.Text

/-- Lowercase hex digits of a number, padded to a width. -/
def hexDigits (width n : Nat) : String :=
  let ds := (Nat.toDigits 16 n)
  String.ofList (List.replicate (width - ds.length) '0' ++ ds)

/-- The escape of a character that is not written as itself. -/
def escapeCode (c : Char) : String :=
  match c.toNat with
  | 7 => "\\a"
  | 8 => "\\b"
  | 12 => "\\f"
  | 10 => "\\n"
  | 13 => "\\r"
  | 9 => "\\t"
  | 11 => "\\v"
  | n =>
    if n < 0x20 || n == 0x7F then "\\x" ++ hexDigits 2 n
    else if n < 0x10000 then "\\u" ++ hexDigits 4 n
    else "\\U" ++ hexDigits 8 n

/-- The form of one character inside double quotes; with `asciiOnly` every character
beyond ASCII is escaped. -/
def escapeChar (asciiOnly : Bool) (c : Char) : String :=
  if c = '"' then "\\\""
  else if c = '\\' then "\\\\"
  else if isPrintable c && (!asciiOnly || c.toNat < 0x80) then c.toString
  else escapeCode c

/-- The quoted form of a string. -/
def quote (s : String) : String :=
  "\"" ++ String.join (s.toList.map (escapeChar false)) ++ "\""

/-- The quoted form of a string in ASCII alone. -/
def quoteAscii (s : String) : String :=
  "\"" ++ String.join (s.toList.map (escapeChar true)) ++ "\""

/-- Whether a string may be written between backquotes. -/
def canBackquote (s : String) : Bool :=
  s.toList.all fun c =>
    let n := c.toNat
    n ≠ 0xFEFF && (n ≥ 0x20 || c = '\t') && n ≠ 0x60 && n ≠ 0x7F

/-- The quoted form of a duration's text: quotes and backslashes escaped, and every byte of
a character below U+0020 or beyond ASCII written as `\x` with two hex digits. -/
def quoteBytes (s : String) : String :=
  let one (c : Char) : String :=
    if c.toNat < 0x20 || c.toNat ≥ 0x80 then
      String.join (c.toString.toUTF8.toList.map fun b => "\\x" ++ hexDigits 2 b.toNat)
    else if c = '"' || c = '\\' then "\\" ++ c.toString
    else c.toString
  "\"" ++ String.join (s.toList.map one) ++ "\""

/-- Unicode white space. -/
def isBlank (c : Char) : Bool :=
  let n := c.toNat
  (9 ≤ n && n ≤ 13) || n == 32 || n == 0x85 || n == 0xA0 || n == 0x1680 ||
  (0x2000 ≤ n && n ≤ 0x200A) || n == 0x2028 || n == 0x2029 || n == 0x202F || n == 0x205F ||
  n == 0x3000

/-- A string without its leading and trailing blanks. -/
def trimBlanks (s : String) : String :=
  String.ofList ((s.toList.dropWhile isBlank).reverse.dropWhile isBlank).reverse

end Evse.Text
