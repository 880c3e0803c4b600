/-!
Lowercase hexadecimal text of bytes and its reader.
-/
namespace Evse.Hex

/-- The digit of a value below 16. -/
def digit (n : Nat) : Char :=
  if n < 10 then Char.ofNat (48 + n) else Char.ofNat (87 + n)

/-- The two digits of a byte. -/
def ofByte (b : UInt8) : List Char :=
  [digit (b.toNat / 16), digit (b.toNat % 16)]

/-- The text of a byte sequence. -/
def encode (bytes : List UInt8) : String :=
  String.ofList (bytes.flatMap ofByte)

/-- The value of a hexadecimal digit of either case. -/
def value? (c : Char) : Option Nat :=
  if '0' ≤ c ∧ c ≤ '9' then some (c.toNat - 48)
  else if 'a' ≤ c ∧ c ≤ 'f' then some (c.toNat - 87)
  else if 'A' ≤ c ∧ c ≤ 'F' then some (c.toNat - 55)
  else none

/-- Reads digit pairs; an odd count or another character refuses the text. -/
def decodeChars : List Char → Option (List UInt8)
  | [] => some []
  | [_] => none
  | h :: l :: rest => do
    let hv ← value? h
    let lv ← value? l
    let tail ← decodeChars rest
    pure (UInt8.ofNat (hv * 16 + lv) :: tail)

/-- Reads hexadecimal text. -/
def decode? (s : String) : Option (List UInt8) :=
  decodeChars s.toList

end Evse.Hex
