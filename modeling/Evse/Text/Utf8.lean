/-!
Lossy UTF-8 reading: a byte that starts no well-formed sequence becomes one U+FFFD.
-/
namespace Evse.Utf8

/-- The replacement character. -/
def replacement : Char := '�'

/-- A continuation byte in the given range of its first position. -/
def inRange (lo hi : UInt8) (b : UInt8) : Bool :=
  lo ≤ b && b ≤ hi

/-- A plain continuation byte. -/
def isCont (b : UInt8) : Bool :=
  inRange 0x80 0xBF b

/-- The admissible range of the second byte after a lead byte, and how many
continuation bytes the lead byte asks for; `none` for a byte that leads nothing. -/
def leadShape (b : UInt8) : Option (UInt8 × UInt8 × Nat) :=
  if 0xC2 ≤ b && b ≤ 0xDF then some (0x80, 0xBF, 1)
  else if b == 0xE0 then some (0xA0, 0xBF, 2)
  else if b == 0xED then some (0x80, 0x9F, 2)
  else if 0xE1 ≤ b && b ≤ 0xEF then some (0x80, 0xBF, 2)
  else if b == 0xF0 then some (0x90, 0xBF, 3)
  else if b == 0xF4 then some (0x80, 0x8F, 3)
  else if 0xF1 ≤ b && b ≤ 0xF3 then some (0x80, 0xBF, 3)
  else none

/-- The bits a lead byte contributes for a sequence of `n` continuation bytes. -/
def leadBits (b : UInt8) (n : Nat) : Nat :=
  match n with
  | 1 => b.toNat % 32
  | 2 => b.toNat % 16
  | _ => b.toNat % 8

/-- The character that starts the bytes, and how many bytes after the first it used. -/
def step (b : UInt8) (rest : List UInt8) : Char × Nat :=
  if b < 0x80 then (Char.ofNat b.toNat, 0)
  else
    match leadShape b with
    | none => (replacement, 0)
    | some (lo, hi, n) =>
      match rest with
      | c1 :: more =>
        if !inRange lo hi c1 then (replacement, 0)
        else
          let conts := more.take (n - 1)
          if conts.length == n - 1 && conts.all isCont then
            let v := (c1 :: conts).foldl (fun acc c => acc * 64 + c.toNat % 64) (leadBits b n)
            (Char.ofNat v, n)
          else (replacement, 0)
      | [] => (replacement, 0)

/-- Reads bytes as text, each ill-formed byte becoming U+FFFD. -/
def decodeChars : List UInt8 → List Char
  | [] => []
  | b :: rest =>
    let (c, n) := step b rest
    c :: decodeChars (rest.drop n)
termination_by bytes => bytes.length
decreasing_by
  simp only [List.length_drop, List.length_cons]
  omega

/-- Reads bytes as a string, each ill-formed byte becoming U+FFFD. -/
def decodeLossy (bytes : List UInt8) : String :=
  String.ofList (decodeChars bytes)

end Evse.Utf8
