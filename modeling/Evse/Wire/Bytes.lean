/-!
Big-endian byte fields of the wire format, read at fixed offsets.
-/
namespace Evse.Wire

/-- A datagram or a piece of one. -/
abbrev Bytes := List UInt8

/-- The two bytes of a 16-bit number, high byte first. -/
def be16 (v : UInt16) : Bytes :=
  [UInt8.ofNat (v.toNat / 256), UInt8.ofNat v.toNat]

/-- The four bytes of a 32-bit number, high byte first. -/
def be32 (v : UInt32) : Bytes :=
  [UInt8.ofNat (v.toNat / 16777216), UInt8.ofNat (v.toNat / 65536),
    UInt8.ofNat (v.toNat / 256), UInt8.ofNat v.toNat]

/-- The 16-bit number of two bytes, high byte first. -/
def word16 (hi lo : UInt8) : UInt16 :=
  UInt16.ofNat (hi.toNat * 256 + lo.toNat)

/-- The 32-bit number of four bytes, high byte first. -/
def word32 (b3 b2 b1 b0 : UInt8) : UInt32 :=
  UInt32.ofNat (((b3.toNat * 256 + b2.toNat) * 256 + b1.toNat) * 256 + b0.toNat)

/-- A flag is one byte: 1 for set, 0 for clear. -/
def flag (b : Bool) : UInt8 :=
  if b then 1 else 0

namespace Bytes

/-- The byte at an offset, zero past the end. -/
def byte (b : Bytes) (i : Nat) : UInt8 :=
  b.getD i 0

/-- A flag is set when its byte is not zero. -/
def flagAt (b : Bytes) (i : Nat) : Bool :=
  b.byte i != 0

/-- The 16-bit number at an offset. -/
def u16At (b : Bytes) (i : Nat) : UInt16 :=
  word16 (b.byte i) (b.byte (i + 1))

/-- The 32-bit number at an offset. -/
def u32At (b : Bytes) (i : Nat) : UInt32 :=
  word32 (b.byte i) (b.byte (i + 1)) (b.byte (i + 2)) (b.byte (i + 3))

/-- The `n` bytes from an offset, as a fixed-size block. -/
def blockAt (b : Bytes) (i n : Nat) : Vector UInt8 n :=
  Vector.ofFn fun j => b.byte (i + j.val)

end Bytes

@[simp] theorem be16_length (v : UInt16) : (be16 v).length = 2 := rfl

@[simp] theorem be32_length (v : UInt32) : (be32 v).length = 4 := rfl

@[simp] theorem flag_ne_zero (b : Bool) : (flag b != 0) = b := by
  cases b <;> rfl

theorem word16_be16 (v : UInt16) :
    word16 (UInt8.ofNat (v.toNat / 256)) (UInt8.ofNat v.toNat) = v := by
  have h := v.toNat_lt
  apply UInt16.toNat_inj.mp
  simp [word16, UInt16.toNat_ofNat]
  omega

theorem word32_be32 (v : UInt32) :
    word32 (UInt8.ofNat (v.toNat / 16777216)) (UInt8.ofNat (v.toNat / 65536))
      (UInt8.ofNat (v.toNat / 256)) (UInt8.ofNat v.toNat) = v := by
  have h := v.toNat_lt
  apply UInt32.toNat_inj.mp
  simp [word32, UInt32.toNat_ofNat]
  omega

end Evse.Wire
