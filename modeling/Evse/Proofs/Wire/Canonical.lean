import Evse.Proofs.Wire.Decode
/-!
What a decoded datagram writes back.
-/
namespace Evse.Wire

/-- What the wire format makes of one byte of a record. -/
inductive ByteRole where
  /-- A byte of a field, read and written as it is. -/
  | field
  /-- A flag, read as set when not zero and written as 1 or 0. -/
  | flag
  /-- A reserved byte, never read and written as 0. -/
  | reserved
deriving DecidableEq, Repr

/-- The byte written back for a byte read in the role. -/
def ByteRole.normalize : ByteRole → UInt8 → UInt8
  | field, b => b
  | flag, b => Wire.flag (b != 0)
  | reserved, _ => 0

/-- A command's enable and identification flags, and its two reserved closing bytes. -/
def Command.roleAt (i : Nat) : ByteRole :=
  if i = 2 ∨ i = 3 then .flag else if i = 6 ∨ i = 7 then .reserved else .field

/-- A state report's reserved bytes: the one after the equipment id, and the two after the vehicle
address. -/
def StateReport.roleAt (i : Nat) : ByteRole :=
  if i = 15 ∨ i = 30 ∨ i = 31 then .reserved else .field

/-- A hardware record's main contactor, source enable and source current control flags. -/
def Hardware.roleAt (i : Nat) : ByteRole :=
  if i = 0 ∨ i = 2 ∨ i = 3 then .flag else .field

/-- The role of each byte of a message's encoding; in an envelope the hardware record follows the
command or the state report. -/
def Message.roleAt : Message → Nat → ByteRole
  | command _, i => Command.roleAt i
  | state _, i => StateReport.roleAt i
  | commandEnvelope _ _, i =>
    if i < commandSize then Command.roleAt i else Hardware.roleAt (i - commandSize)
  | stateEnvelope _ _, i =>
    if i < stateSize then StateReport.roleAt i else Hardware.roleAt (i - stateSize)
  | param _, _ => .field

/-- Each byte made what its role at its position writes. -/
def Bytes.normalize (role : Nat → ByteRole) (b : Bytes) : Bytes :=
  b.mapIdx fun i x => (role i).normalize x

/-! ## Fields written back from their bytes -/

namespace Bytes

theorem be16_u16At (b : Bytes) (i : Nat) : be16 (b.u16At i) = [b.byte i, b.byte (i + 1)] := by
  have h₀ := (b.byte i).toNat_lt
  have h₁ := (b.byte (i + 1)).toNat_lt
  simp only [be16, u16At, word16, List.cons.injEq, and_true]
  constructor
  · apply UInt8.toNat_inj.mp
    simp
    omega
  · apply UInt8.toNat_inj.mp
    simp

theorem be32_u32At (b : Bytes) (i : Nat) :
    be32 (b.u32At i) = [b.byte i, b.byte (i + 1), b.byte (i + 2), b.byte (i + 3)] := by
  have h₀ := (b.byte i).toNat_lt
  have h₁ := (b.byte (i + 1)).toNat_lt
  have h₂ := (b.byte (i + 2)).toNat_lt
  have h₃ := (b.byte (i + 3)).toNat_lt
  simp only [be32, u32At, word32, List.cons.injEq, and_true]
  refine ⟨?_, ?_, ?_, ?_⟩ <;> apply UInt8.toNat_inj.mp <;> simp <;> omega

theorem toList_blockAt (b : Bytes) (i n : Nat) :
    (b.blockAt i n).toList = (List.range n).map fun j => b.byte (i + j) := by
  apply List.ext_getElem <;> simp [blockAt]

theorem byte_drop (b : Bytes) (n i : Nat) : byte (b.drop n) i = byte b (n + i) := by
  simp [byte]

/-- The first `n` bytes of a datagram that holds them, normalized, are the normalized bytes at the
positions below `n`. -/
theorem normalize_take {b : Bytes} {n : Nat} (h : n ≤ b.length) (role : Nat → ByteRole) :
    normalize role (b.take n) = (List.range n).map fun i => (role i).normalize (b.byte i) := by
  apply List.ext_getElem
  · simp [normalize]
    omega
  · intro i _ h₂
    have hi : i < b.length := by
      simp at h₂
      omega
    simp [normalize, byte, List.getElem?_eq_getElem hi]

theorem map_byte_range (b : Bytes) : (List.range b.length).map b.byte = b := by
  apply List.ext_getElem (by simp)
  intro i _ h
  simp [byte, List.getElem?_eq_getElem h]

end Bytes

theorem Command.encode_read (b : Bytes) :
    (Command.read b).encode =
      (List.range commandSize).map fun i => (Command.roleAt i).normalize (b.byte i) := by
  simp [Command.read, Command.encode, Bytes.be16_u16At, commandSize, List.range_succ,
    Command.roleAt, ByteRole.normalize, Bytes.flagAt]

theorem StateReport.encode_read (b : Bytes) :
    (StateReport.read b).encode =
      (List.range stateSize).map fun i => (StateReport.roleAt i).normalize (b.byte i) := by
  simp [StateReport.read, StateReport.encode, Bytes.be16_u16At, Bytes.be32_u32At,
    Bytes.toList_blockAt, stateSize, List.range_succ, StateReport.roleAt, ByteRole.normalize]

theorem Hardware.encode_read (b : Bytes) :
    (Hardware.read b).encode =
      (List.range hardwareSize).map fun i => (Hardware.roleAt i).normalize (b.byte i) := by
  simp [Hardware.read, Hardware.encode, Bytes.be16_u16At, hardwareSize, List.range_succ,
    Hardware.roleAt, ByteRole.normalize, Bytes.flagAt]

/-- A record of `n` bytes read from the front followed by one read after it, both written back,
is the front `n + k` bytes with the roles of the first record and then of the second. -/
theorem normalize_joined (role₁ role₂ : Nat → ByteRole) (n k : Nat) (b : Bytes) :
    (List.range n).map (fun i => (role₁ i).normalize (b.byte i)) ++
        (List.range k).map (fun i => (role₂ i).normalize (Bytes.byte (b.drop n) i)) =
      (List.range (n + k)).map fun i =>
        (if i < n then role₁ i else role₂ (i - n)).normalize (b.byte i) := by
  rw [List.range_add, List.map_append, List.map_map]
  congr 1
  · apply List.map_congr_left
    intro i hi
    rw [if_pos (List.mem_range.mp hi)]
  · apply List.map_congr_left
    intro i _
    simp only [Function.comp_apply]
    rw [if_neg (Nat.not_lt.mpr (Nat.le_add_right n i)), Nat.add_sub_cancel_left, Bytes.byte_drop]

/-! ## A decoded message written back -/

namespace Message

/-- A decoded message carries the type byte of its shape. -/
theorem wellTyped_of_decode {b : Bytes} {m : Message} (h : decode b = .ok m) : m.WellTyped := by
  obtain ⟨-, hl, -⟩ := decode_eq_ok_iff.mp h
  rcases layout_cases hl with ⟨ht, -, rfl⟩ | ⟨ht, -, rfl⟩ | ⟨ht, -, rfl⟩ | ⟨ht, -, rfl⟩ |
    ⟨ht, -, rfl⟩
  · exact ht
  · exact ht
  · exact ht
  · exact ht
  · exact ht

/-- A decoded parameter message is written back as the datagram it was read from. -/
theorem encode_param_of_decode {b : Bytes} {p : Param} (h : decode b = .ok (param p)) :
    (param p).encode = b := by
  obtain ⟨-, hsize, hp⟩ := decode_fits h
  cases hp p rfl
  match b, hsize with
  | x :: y :: rest, _ => rfl

theorem encode_of_decode {b : Bytes} {m : Message} (h : decode b = .ok m) :
    m.encode = Bytes.normalize m.roleAt (b.take m.size) := by
  obtain ⟨-, hsize, -⟩ := decode_fits h
  obtain ⟨-, hl, -⟩ := decode_eq_ok_iff.mp h
  rw [Bytes.normalize_take hsize]
  rcases layout_cases hl with ⟨-, -, rfl⟩ | ⟨-, -, rfl⟩ | ⟨-, -, hm⟩ | ⟨-, -, rfl⟩ | ⟨-, -, rfl⟩
  · exact Command.encode_read b
  · exact StateReport.encode_read b
  · -- a parameter message covers the whole datagram, every byte a field's
    subst hm
    have hlen : size (param ⟨Bytes.byte b 0, Bytes.byte b 1, b.drop 2⟩) = b.length := by
      simp [size, headerSize] at hsize ⊢
      omega
    rw [encode_param_of_decode h, hlen]
    exact (Bytes.map_byte_range b).symm
  · rw [encode, Command.encode_read, Hardware.encode_read]
    exact normalize_joined _ _ _ _ b
  · rw [encode, StateReport.encode_read, Hardware.encode_read]
    exact normalize_joined _ _ _ _ b

end Message

/-- Encoding a decoded message writes back the datagram's first bytes with its flags and reserved
bytes normalized, and decodes to the same message. -/
theorem reencode_normalizes (b : Bytes) :
    (∀ m, Message.decode b = .ok m →
      m.encode = Bytes.normalize m.roleAt (b.take m.size) ∧
      (∀ p, m = .param p → m.encode = b) ∧
      Message.decode m.encode = .ok m) ∧
    (Message.decode b).bind (fun m => Message.decode m.encode) = Message.decode b ∧
    ((Message.decode b).map Message.encode).bind (fun e => (Message.decode e).map Message.encode) =
      (Message.decode b).map Message.encode := by
  have again : ∀ m, Message.decode b = .ok m → Message.decode m.encode = .ok m :=
    fun m hm => Message.decode_encode (Message.wellTyped_of_decode hm)
  refine ⟨fun m hm => ⟨Message.encode_of_decode hm, ?_, again m hm⟩, ?_, ?_⟩
  · rintro p rfl
    exact Message.encode_param_of_decode hm
  · rcases hd : Message.decode b with e | m
    · rfl
    · exact again m hd
  · rcases hd : Message.decode b with e | m
    · rfl
    · show (Message.decode m.encode).map Message.encode = .ok m.encode
      rw [again m hd]
      rfl

/-- A command whose enable byte is 7 and whose reserved bytes are 9 is written back with the
enable byte 1 and the reserved bytes 0. -/
theorem reencode_command_flag_and_reserved :
    Message.decode [0, 0, 7, 0, 0, 160, 9, 9] = .ok (.command ⟨0, 0, true, false, 160⟩) ∧
      (Message.command ⟨0, 0, true, false, 160⟩).encode = [0, 0, 1, 0, 0, 160, 0, 0] := by
  have hd : Message.decode [0, 0, 7, 0, 0, 160, 9, 9] = .ok (.command ⟨0, 0, true, false, 160⟩) :=
    rfl
  refine ⟨hd, ?_⟩
  rw [((reencode_normalizes _).1 _ hd).1]
  decide

end Evse.Wire
