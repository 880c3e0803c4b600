import Evse.Wire.Codec
/-!
Writing and reading wire records.
-/
namespace Evse.Wire

namespace Bytes

@[simp] theorem byte_cons_zero (a : UInt8) (b : Bytes) : byte (a :: b) 0 = a := rfl

@[simp] theorem byte_cons_succ (a : UInt8) (b : Bytes) (i : Nat) :
    byte (a :: b) (i + 1) = byte b i := rfl

theorem byte_append_of_le {a b : Bytes} {i : Nat} (h : a.length ≤ i) :
    byte (a ++ b) i = byte b (i - a.length) := by
  simp [byte, List.getElem?_append_right h]

@[simp] theorem blockAt_cons (a : UInt8) (b : Bytes) (i n : Nat) :
    blockAt (a :: b) (i + 1) n = blockAt b i n := by
  unfold blockAt
  congr 1
  funext j
  rw [Nat.add_right_comm]
  rfl

theorem blockAt_append_of_le {a b : Bytes} {i n : Nat} (h : a.length ≤ i) :
    blockAt (a ++ b) i n = blockAt b (i - a.length) n := by
  unfold blockAt
  congr 1
  funext j
  rw [byte_append_of_le (by omega)]
  congr 1
  omega

/-- A block read where a vector was written is that vector. -/
@[simp] theorem blockAt_toList {n : Nat} (v : Vector UInt8 n) (b : Bytes) :
    blockAt (v.toList ++ b) 0 n = v := by
  ext j hj
  simp [blockAt, byte, List.getElem?_append_left (show j < v.toList.length by simpa using hj), hj]

end Bytes

/-- `word16_be16` with the low byte in the form `simp` leaves it. -/
@[simp] theorem word16_hi_lo (v : UInt16) :
    word16 (UInt8.ofNat (v.toNat / 256)) v.toUInt8 = v := by
  simpa using word16_be16 v

/-- `word32_be32` with the low byte in the form `simp` leaves it. -/
@[simp] theorem word32_bytes (v : UInt32) :
    word32 (UInt8.ofNat (v.toNat / 16777216)) (UInt8.ofNat (v.toNat / 65536))
      (UInt8.ofNat (v.toNat / 256)) v.toUInt8 = v := by
  simpa using word32_be32 v

/-! ## Records read back -/

theorem Command.read_encode (c : Command) (rest : Bytes) : Command.read (c.encode ++ rest) = c := by
  simp [Command.read, Command.encode, Bytes.flagAt, Bytes.u16At, be16]

theorem StateReport.read_encode (s : StateReport) (rest : Bytes) :
    StateReport.read (s.encode ++ rest) = s := by
  simp [StateReport.read, StateReport.encode, Bytes.u16At, Bytes.u32At, be16, be32,
    Bytes.byte_append_of_le, Bytes.blockAt_append_of_le]

theorem Hardware.read_encode (h : Hardware) (rest : Bytes) :
    Hardware.read (h.encode ++ rest) = h := by
  simp [Hardware.read, Hardware.encode, Bytes.flagAt, Bytes.u16At, be16]

/-! ## Messages decoded from their encoding -/

namespace Message

/-- A message whose type byte is the one of its shape: a parameter message may be a read or a
write. -/
def WellTyped : Message → Prop
  | command c => c.msgType = ctrlCmd
  | state s => s.msgType = ctrlState
  | commandEnvelope c _ => c.msgType = seCtrlCmd
  | stateEnvelope s _ => s.msgType = seCtrlState
  | param p => p.msgType = paramRead ∨ p.msgType = paramWrite

instance (m : Message) : Decidable m.WellTyped :=
  match m with
  | command c => inferInstanceAs (Decidable (c.msgType = ctrlCmd))
  | state s => inferInstanceAs (Decidable (s.msgType = ctrlState))
  | commandEnvelope c _ => inferInstanceAs (Decidable (c.msgType = seCtrlCmd))
  | stateEnvelope s _ => inferInstanceAs (Decidable (s.msgType = seCtrlState))
  | param p => inferInstanceAs (Decidable (p.msgType = paramRead ∨ p.msgType = paramWrite))

/-- The second byte of an encoding is the message's type byte. -/
theorem encode_byte_one (m : Message) : Bytes.byte m.encode 1 = m.msgType := by
  cases m <;> simp [encode, msgType, Command.encode, StateReport.encode, Hardware.encode, be16]

/-- A datagram whose type byte selects a shape of `n` bytes, and that holds them, decodes as that
shape reads it. -/
theorem decode_of_layout {b : Bytes} (h2 : headerSize ≤ b.length) {n : Nat} {m : Message}
    (hl : layout (Bytes.byte b 1) b = some (n, m)) (hn : n ≤ b.length) : decode b = .ok m := by
  unfold decode
  rw [if_neg (by omega)]
  simp only [hl]
  rw [if_neg (by omega)]

theorem decode_encode {m : Message} (h : m.WellTyped) : decode m.encode = .ok m := by
  have htype := encode_byte_one m
  cases m with
  | command c =>
    refine decode_of_layout (n := commandSize) (by simp [encode, headerSize, commandSize]) ?_
      (by simp [encode])
    simp only [htype, msgType, show c.msgType = 0 from h]
    simpa [layout, encode] using Command.read_encode c []
  | state s =>
    refine decode_of_layout (n := stateSize) (by simp [encode, headerSize, stateSize]) ?_
      (by simp [encode])
    simp only [htype, msgType, show s.msgType = 1 from h]
    simpa [layout, encode] using StateReport.read_encode s []
  | commandEnvelope c hw =>
    refine decode_of_layout (n := commandSize + hardwareSize)
      (by simp [encode, headerSize, commandSize, hardwareSize]) ?_ (by simp [encode])
    simp only [htype, msgType, show c.msgType = 4 from h]
    simpa [layout, encode, Command.read_encode, List.drop_left' (Command.encode_length c)]
      using Hardware.read_encode hw []
  | stateEnvelope s hw =>
    refine decode_of_layout (n := stateSize + hardwareSize)
      (by simp [encode, headerSize, stateSize, hardwareSize]) ?_ (by simp [encode])
    simp only [htype, msgType, show s.msgType = 5 from h]
    simpa [layout, encode, StateReport.read_encode, List.drop_left' (StateReport.encode_length s)]
      using Hardware.read_encode hw []
  | param p =>
    obtain ⟨version, t, payload⟩ := p
    refine decode_of_layout (n := headerSize) (by simp [encode, headerSize]) ?_
      (by simp [encode, headerSize])
    simp only [htype, msgType]
    rcases h with h | h <;> simp only at h <;> subst h <;> rfl

end Message

/-- Every well-typed message is written at its size and decodes from its encoding to itself. -/
theorem decode_encode_wellTyped :
    (∀ m : Message, m.WellTyped → m.encode.length = m.size ∧ Message.decode m.encode = .ok m) ∧
    (∀ s h, s.msgType = seCtrlState →
      decodeStateEnvelope (Message.stateEnvelope s h).encode = .ok (s, h)) ∧
    (∀ c h, c.msgType = seCtrlCmd →
      decodeCommandEnvelope (Message.commandEnvelope c h).encode = .ok (c, h)) := by
  refine ⟨fun m hm => ⟨Message.encode_length m, Message.decode_encode hm⟩, ?_, ?_⟩
  · intro s h hs
    simp [decodeStateEnvelope, Message.decode_encode (m := .stateEnvelope s h) hs]
  · intro c h hc
    simp [decodeCommandEnvelope, Message.decode_encode (m := .commandEnvelope c h) hc]

/-- A fresh state envelope, the canonical record with its sentinels, reads back. -/
theorem decode_encode_fresh_state_envelope :
    Message.newStateEnvelope.WellTyped ∧
      (Message.newStateEnvelope.encode.length = Message.newStateEnvelope.size ∧
        Message.decode Message.newStateEnvelope.encode = .ok Message.newStateEnvelope) :=
  ⟨by decide, decode_encode_wellTyped.1 _ (by decide)⟩

end Evse.Wire
