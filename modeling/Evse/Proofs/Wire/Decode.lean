import Evse.Proofs.Wire.RoundTrip
/-!
Which datagrams decode, and the error of those that do not.
-/
namespace Evse.Wire

/-- The bytes a datagram needs for its type byte: a command, a state report, the header of a
parameter read or write, a command envelope and a state envelope for the type bytes 0 to 5;
nothing for a type byte that names no shape. -/
def typeSize (t : UInt8) : Nat := [8, 48, 2, 2, 16, 56].getD t.toNat 0

theorem typeByte_cases {t : UInt8} (h : t ≤ 5) :
    t = 0 ∨ t = 1 ∨ t = 2 ∨ t = 3 ∨ t = 4 ∨ t = 5 := by
  have h' := UInt8.le_iff_toNat_le.mp h
  simp only [← UInt8.toNat_inj]
  simp at h' ⊢
  omega

/-! ## Reading inside a prefix -/

namespace Bytes

theorem byte_take {b : Bytes} {n i : Nat} (h : i < n) : byte (b.take n) i = byte b i := by
  simp [byte, h]

theorem blockAt_take {b : Bytes} {n i k : Nat} (h : i + k ≤ n) :
    blockAt (b.take n) i k = blockAt b i k := by
  unfold blockAt
  congr 1
  funext j
  exact byte_take (by omega)

end Bytes

/-- A command is read from its first `commandSize` bytes. -/
theorem Command.read_take (b : Bytes) {n : Nat} (h : commandSize ≤ n) :
    Command.read (b.take n) = Command.read b := by
  simp (disch := simp [commandSize] at h; omega) [Command.read, Bytes.flagAt, Bytes.u16At,
    Bytes.byte_take]

/-- A state report is read from its first `stateSize` bytes. -/
theorem StateReport.read_take (b : Bytes) {n : Nat} (h : stateSize ≤ n) :
    StateReport.read (b.take n) = StateReport.read b := by
  simp (disch := simp [stateSize] at h; omega) [StateReport.read, Bytes.u16At, Bytes.u32At,
    Bytes.byte_take, Bytes.blockAt_take]

/-- A hardware record is read from its first `hardwareSize` bytes. -/
theorem Hardware.read_take (b : Bytes) {n : Nat} (h : hardwareSize ≤ n) :
    Hardware.read (b.take n) = Hardware.read b := by
  simp (disch := simp [hardwareSize] at h; omega) [Hardware.read, Bytes.flagAt, Bytes.u16At,
    Bytes.byte_take]

/-! ## The shape a type byte selects -/

namespace Message

/-- What a type byte selects: the size it asks for and the message it reads. -/
theorem layout_cases {t : UInt8} {b : Bytes} {n : Nat} {m : Message}
    (h : layout t b = some (n, m)) :
    (t = 0 ∧ n = 8 ∧ m = command (Command.read b)) ∨
    (t = 1 ∧ n = 48 ∧ m = state (StateReport.read b)) ∨
    ((t = 2 ∨ t = 3) ∧ n = 2 ∧ m = param ⟨Bytes.byte b 0, Bytes.byte b 1, b.drop 2⟩) ∨
    (t = 4 ∧ n = 16 ∧ m = commandEnvelope (Command.read b) (Hardware.read (b.drop 8))) ∨
    (t = 5 ∧ n = 56 ∧ m = stateEnvelope (StateReport.read b) (Hardware.read (b.drop 48))) := by
  unfold layout at h
  split at h <;> cases h
  · exact .inl ⟨rfl, rfl, rfl⟩
  · exact .inr (.inl ⟨rfl, rfl, rfl⟩)
  · exact .inr (.inr (.inl ⟨.inl rfl, rfl, rfl⟩))
  · exact .inr (.inr (.inl ⟨.inr rfl, rfl, rfl⟩))
  · exact .inr (.inr (.inr (.inl ⟨rfl, rfl, rfl⟩)))
  · exact .inr (.inr (.inr (.inr ⟨rfl, rfl, rfl⟩)))

/-- Every type byte up to 5 selects a shape, of the size `typeSize` gives. -/
theorem layout_of_le {t : UInt8} (ht : t ≤ 5) (b : Bytes) :
    ∃ m, layout t b = some (typeSize t, m) := by
  rcases typeByte_cases ht with rfl | rfl | rfl | rfl | rfl | rfl <;> exact ⟨_, rfl⟩

theorem layout_of_gt {t : UInt8} (ht : 5 < t) (b : Bytes) : layout t b = none := by
  cases h : layout t b with
  | none => rfl
  | some r =>
    obtain ⟨n, m⟩ := r
    rcases layout_cases h with ⟨rfl, -⟩ | ⟨rfl, -⟩ | ⟨rfl | rfl, -⟩ | ⟨rfl, -⟩ | ⟨rfl, -⟩ <;>
      exact absurd ht (by decide)

theorem layout_size {t : UInt8} {b : Bytes} {n : Nat} {m : Message}
    (h : layout t b = some (n, m)) : n = typeSize t := by
  rcases layout_cases h with ⟨rfl, rfl, -⟩ | ⟨rfl, rfl, -⟩ | ⟨rfl | rfl, rfl, -⟩ | ⟨rfl, rfl, -⟩ |
    ⟨rfl, rfl, -⟩ <;> rfl

/-! ## Decoding -/

theorem decode_eq_ok_iff {b : Bytes} {m : Message} :
    decode b = .ok m ↔ 2 ≤ b.length ∧ layout (Bytes.byte b 1) b =
      some (typeSize (Bytes.byte b 1), m) ∧ typeSize (Bytes.byte b 1) ≤ b.length := by
  constructor
  · intro h
    unfold decode at h
    split at h
    · cases h
    dsimp only at h
    split at h
    · cases h
    next n m' hl =>
      split at h
      · cases h
      cases h
      exact ⟨by simp [headerSize] at *; omega, layout_size hl ▸ hl, by rw [← layout_size hl]; omega⟩
  · rintro ⟨h2, hl, hn⟩
    exact decode_of_layout (by simpa [headerSize] using h2) hl hn

theorem decode_short {b : Bytes} (h : b.length < 2) :
    decode b = .error (.tooShort ctrlCmd b.length 2) := by
  unfold decode
  rw [if_pos (by simpa [headerSize] using h)]
  rfl

theorem decode_unknown {b : Bytes} (h2 : 2 ≤ b.length) (ht : 5 < Bytes.byte b 1) :
    decode b = .error (.unknownType (Bytes.byte b 1)) := by
  unfold decode
  rw [if_neg (by simp [headerSize]; omega)]
  simp only [layout_of_gt ht]

theorem decode_truncated {b : Bytes} (h2 : 2 ≤ b.length) (ht : Bytes.byte b 1 ≤ 5)
    (hn : b.length < typeSize (Bytes.byte b 1)) :
    decode b = .error (.tooShort (Bytes.byte b 1) b.length (typeSize (Bytes.byte b 1))) := by
  obtain ⟨m, hl⟩ := layout_of_le ht b
  unfold decode
  rw [if_neg (by simp [headerSize]; omega)]
  simp only [hl]
  rw [if_pos hn]

theorem decode_accepts {b : Bytes} :
    (∃ m, decode b = .ok m) ↔
      2 ≤ b.length ∧ Bytes.byte b 1 ≤ 5 ∧ typeSize (Bytes.byte b 1) ≤ b.length := by
  constructor
  · rintro ⟨m, hm⟩
    obtain ⟨h2, hl, hn⟩ := decode_eq_ok_iff.mp hm
    refine ⟨h2, ?_, hn⟩
    by_cases ht : Bytes.byte b 1 ≤ 5
    · exact ht
    · rw [layout_of_gt (by simpa using ht)] at hl
      cases hl
  · rintro ⟨h2, ht, hn⟩
    obtain ⟨m, hl⟩ := layout_of_le ht b
    exact ⟨m, decode_eq_ok_iff.mpr ⟨h2, hl, hn⟩⟩

/-- A decoded message carries the datagram's type byte and fits inside it; a parameter message
holds its header bytes and every byte after them. -/
theorem decode_fits {b : Bytes} {m : Message} (h : decode b = .ok m) :
    m.msgType = Bytes.byte b 1 ∧ m.size ≤ b.length ∧
      ∀ p, m = param p → p = ⟨Bytes.byte b 0, Bytes.byte b 1, b.drop 2⟩ := by
  obtain ⟨h2, hl, hn⟩ := decode_eq_ok_iff.mp h
  rcases layout_cases hl with ⟨-, hs, rfl⟩ | ⟨-, hs, rfl⟩ | ⟨-, hs, rfl⟩ | ⟨-, hs, rfl⟩ |
    ⟨-, hs, rfl⟩
  all_goals refine ⟨rfl, ?_, by simp⟩
  · simpa [size, commandSize, ← hs] using hn
  · simpa [size, stateSize, ← hs] using hn
  · simp [size, headerSize]
    omega
  · simpa [size, commandSize, hardwareSize, ← hs] using hn
  · simpa [size, stateSize, hardwareSize, ← hs] using hn

/-- A record or an envelope is read from the first bytes of its size. -/
theorem layout_take {t : UInt8} (ht : t ≤ 5) (hp : t ≠ 2 ∧ t ≠ 3) (b : Bytes) :
    layout t (b.take (typeSize t)) = layout t b := by
  rcases typeByte_cases ht with rfl | rfl | rfl | rfl | rfl | rfl
  · show some (commandSize, command (Command.read (b.take 8))) = _
    rw [Command.read_take b (n := 8) (by decide)]
    rfl
  · show some (stateSize, state (StateReport.read (b.take 48))) = _
    rw [StateReport.read_take b (n := 48) (by decide)]
    rfl
  · exact absurd rfl hp.1
  · exact absurd rfl hp.2
  · show some (commandSize + hardwareSize, commandEnvelope (Command.read (b.take 16))
      (Hardware.read ((b.take 16).drop 8))) = _
    rw [Command.read_take b (by decide), show 16 = 8 + 8 from rfl, ← List.take_drop,
      Hardware.read_take _ (n := 8) (by decide)]
    rfl
  · show some (stateSize + hardwareSize, stateEnvelope (StateReport.read (b.take 56))
      (Hardware.read ((b.take 56).drop 48))) = _
    rw [StateReport.read_take b (by decide), show 56 = 48 + 8 from rfl, ← List.take_drop,
      Hardware.read_take _ (n := 8) (by decide)]
    rfl

/-- A decoded record or envelope has the size its type byte asks for. -/
theorem decode_size_of_fixed {b : Bytes} {m : Message} (h : decode b = .ok m)
    (hp : Bytes.byte b 1 ≠ 2 ∧ Bytes.byte b 1 ≠ 3) : m.size = typeSize (Bytes.byte b 1) := by
  obtain ⟨-, hl, -⟩ := decode_eq_ok_iff.mp h
  rcases layout_cases hl with ⟨ht, hs, rfl⟩ | ⟨ht, hs, rfl⟩ | ⟨ht, -⟩ | ⟨ht, hs, rfl⟩ |
    ⟨ht, hs, rfl⟩
  · rw [ht]; rfl
  · rw [ht]; rfl
  · exact absurd ht (by simpa using hp)
  · rw [ht]; rfl
  · rw [ht]; rfl

/-- A record or an envelope is decoded from the first bytes of the datagram that its size
covers, and from nothing else. -/
theorem decode_take {b b' : Bytes} {m : Message} (h : decode b = .ok m)
    (hp : Bytes.byte b 1 ≠ 2 ∧ Bytes.byte b 1 ≠ 3) (hb : b'.take m.size = b.take m.size) :
    decode b' = .ok m := by
  obtain ⟨h2, hl, hn⟩ := decode_eq_ok_iff.mp h
  have ht : Bytes.byte b 1 ≤ 5 := (decode_accepts.mp ⟨m, h⟩).2.1
  rw [decode_size_of_fixed h hp] at hb
  have hlen : typeSize (Bytes.byte b 1) ≤ b'.length := by
    have := congrArg List.length hb
    simp only [List.length_take] at this
    omega
  have hbig : 2 ≤ typeSize (Bytes.byte b 1) := by
    rcases typeByte_cases ht with h | h | h | h | h | h <;> rw [h] <;> decide
  have htype : Bytes.byte b' 1 = Bytes.byte b 1 := by
    rw [← Bytes.byte_take (show 1 < typeSize (Bytes.byte b 1) by omega), hb,
      Bytes.byte_take (by omega)]
  refine decode_eq_ok_iff.mpr ⟨by omega, ?_, by rw [htype]; exact hlen⟩
  rw [htype, ← layout_take ht hp, hb, layout_take ht hp]
  exact hl

/-- A decoded message is a state envelope exactly when its type byte is that of one. -/
theorem decode_stateEnvelope_iff {b : Bytes} {m : Message} (h : decode b = .ok m) :
    (∃ s hw, m = stateEnvelope s hw) ↔ Bytes.byte b 1 = seCtrlState := by
  obtain ⟨-, hl, -⟩ := decode_eq_ok_iff.mp h
  rcases layout_cases hl with ⟨ht, -, rfl⟩ | ⟨ht, -, rfl⟩ | ⟨ht | ht, -, rfl⟩ | ⟨ht, -, rfl⟩ |
    ⟨ht, -, rfl⟩ <;> simp [ht, seCtrlState]

/-- A decoded message is a command envelope exactly when its type byte is that of one. -/
theorem decode_commandEnvelope_iff {b : Bytes} {m : Message} (h : decode b = .ok m) :
    (∃ c hw, m = commandEnvelope c hw) ↔ Bytes.byte b 1 = seCtrlCmd := by
  obtain ⟨-, hl, -⟩ := decode_eq_ok_iff.mp h
  rcases layout_cases hl with ⟨ht, -, rfl⟩ | ⟨ht, -, rfl⟩ | ⟨ht | ht, -, rfl⟩ | ⟨ht, -, rfl⟩ |
    ⟨ht, -, rfl⟩ <;> simp [ht, seCtrlCmd]

end Message

/-! ## The typed readers of envelopes -/

theorem decodeStateEnvelope_accepts {b : Bytes} :
    (∃ r, decodeStateEnvelope b = .ok r) ↔
      (∃ m, Message.decode b = .ok m) ∧ Bytes.byte b 1 = seCtrlState := by
  constructor
  · rintro ⟨r, hr⟩
    unfold decodeStateEnvelope at hr
    split at hr
    · cases hr
    · next s hw hd => exact ⟨⟨_, hd⟩, (Message.decode_stateEnvelope_iff hd).mp ⟨s, hw, rfl⟩⟩
    · cases hr
  · rintro ⟨⟨m, hm⟩, ht⟩
    obtain ⟨s, hw, rfl⟩ := (Message.decode_stateEnvelope_iff hm).mpr ht
    exact ⟨(s, hw), by simp [decodeStateEnvelope, hm]⟩

theorem decodeCommandEnvelope_accepts {b : Bytes} :
    (∃ r, decodeCommandEnvelope b = .ok r) ↔
      (∃ m, Message.decode b = .ok m) ∧ Bytes.byte b 1 = seCtrlCmd := by
  constructor
  · rintro ⟨r, hr⟩
    unfold decodeCommandEnvelope at hr
    split at hr
    · cases hr
    · next c hw hd => exact ⟨⟨_, hd⟩, (Message.decode_commandEnvelope_iff hd).mp ⟨c, hw, rfl⟩⟩
    · cases hr
  · rintro ⟨⟨m, hm⟩, ht⟩
    obtain ⟨c, hw, rfl⟩ := (Message.decode_commandEnvelope_iff hm).mpr ht
    exact ⟨(c, hw), by simp [decodeCommandEnvelope, hm]⟩

/-- A datagram that decodes as another shape is refused by the state envelope reader, which
names the type it got. -/
theorem decodeStateEnvelope_unexpected {b : Bytes} {m : Message} (h : Message.decode b = .ok m)
    (ht : Bytes.byte b 1 ≠ seCtrlState) :
    decodeStateEnvelope b = .error (.unexpected seCtrlState (Bytes.byte b 1)) := by
  unfold decodeStateEnvelope
  split
  · next e hd => rw [h] at hd; cases hd
  · next s hw hd => exact absurd ((Message.decode_stateEnvelope_iff hd).mp ⟨s, hw, rfl⟩) ht
  · next m' _ hd =>
    rw [(Message.decode_fits hd).1]

/-- A datagram that decodes as another shape is refused by the command envelope reader, which
names the type it got. -/
theorem decodeCommandEnvelope_unexpected {b : Bytes} {m : Message} (h : Message.decode b = .ok m)
    (ht : Bytes.byte b 1 ≠ seCtrlCmd) :
    decodeCommandEnvelope b = .error (.unexpected seCtrlCmd (Bytes.byte b 1)) := by
  unfold decodeCommandEnvelope
  split
  · next e hd => rw [h] at hd; cases hd
  · next c hw hd => exact absurd ((Message.decode_commandEnvelope_iff hd).mp ⟨c, hw, rfl⟩) ht
  · next m' _ hd =>
    rw [(Message.decode_fits hd).1]

/-! ## The language of the decoder -/

/-- A datagram decodes exactly when it holds the bytes its type byte asks for, and a decoded message
depends only on those bytes. -/
theorem decode_accepts_exactly_sized (b : Bytes) :
    ((∃ m, Message.decode b = .ok m) ↔
      2 ≤ b.length ∧ Bytes.byte b 1 ≤ 5 ∧ typeSize (Bytes.byte b 1) ≤ b.length) ∧
    (b.length < 2 → Message.decode b = .error (.tooShort ctrlCmd b.length 2)) ∧
    (2 ≤ b.length → 5 < Bytes.byte b 1 →
      Message.decode b = .error (.unknownType (Bytes.byte b 1))) ∧
    (2 ≤ b.length → Bytes.byte b 1 ≤ 5 → b.length < typeSize (Bytes.byte b 1) →
      Message.decode b =
        .error (.tooShort (Bytes.byte b 1) b.length (typeSize (Bytes.byte b 1)))) ∧
    (∀ m, Message.decode b = .ok m →
      m.msgType = Bytes.byte b 1 ∧ m.size ≤ b.length ∧
      (∀ p, m = .param p → p = ⟨Bytes.byte b 0, Bytes.byte b 1, b.drop 2⟩) ∧
      (Bytes.byte b 1 ≠ paramRead → Bytes.byte b 1 ≠ paramWrite →
        (∀ b', b'.take m.size = b.take m.size → Message.decode b' = .ok m) ∧
        ∀ c, Message.decode (b ++ c) = .ok m)) ∧
    ((∃ r, decodeStateEnvelope b = .ok r) ↔
      (∃ m, Message.decode b = .ok m) ∧ Bytes.byte b 1 = seCtrlState) ∧
    ((∃ r, decodeCommandEnvelope b = .ok r) ↔
      (∃ m, Message.decode b = .ok m) ∧ Bytes.byte b 1 = seCtrlCmd) ∧
    (∀ m, Message.decode b = .ok m → Bytes.byte b 1 ≠ seCtrlState →
      ∃ e, decodeStateEnvelope b = .error e ∧
        e.message = "expected " ++ "SeCtrlState" ++ ", got " ++ typeName (Bytes.byte b 1)) ∧
    (∀ m, Message.decode b = .ok m → Bytes.byte b 1 ≠ seCtrlCmd →
      ∃ e, decodeCommandEnvelope b = .error e ∧
        e.message = "expected " ++ "SeCtrlCmd" ++ ", got " ++ typeName (Bytes.byte b 1)) := by
  refine ⟨Message.decode_accepts, Message.decode_short, Message.decode_unknown,
    Message.decode_truncated, fun m hm => ?_, decodeStateEnvelope_accepts,
    decodeCommandEnvelope_accepts, fun m hm ht => ?_, fun m hm ht => ?_⟩
  · obtain ⟨htype, hsize, hparam⟩ := Message.decode_fits hm
    refine ⟨htype, hsize, hparam, fun hr hw => ⟨fun b' hb => ?_, fun c => ?_⟩⟩
    · exact Message.decode_take hm ⟨hr, hw⟩ hb
    · exact Message.decode_take hm ⟨hr, hw⟩ (List.take_append_of_le_length hsize)
  · refine ⟨_, decodeStateEnvelope_unexpected hm ht, ?_⟩
    simp only [EnvelopeError.message, seCtrlState]
    rfl
  · refine ⟨_, decodeCommandEnvelope_unexpected hm ht, ?_⟩
    simp only [EnvelopeError.message, seCtrlCmd]
    rfl

/-- A single byte is too short for the header. -/
theorem decode_one_byte_too_short :
    [(0 : UInt8)].length < 2 ∧ Message.decode [0] = .error (.tooShort ctrlCmd 1 2) :=
  ⟨by decide, (decode_accepts_exactly_sized [0]).2.1 (by decide)⟩

end Evse.Wire
