import Evse.Proofs.Control.Retransmission
/-!
Where a datagram goes before the controller looks at itself.
-/
namespace Evse

/-! ## The metrics book -/

namespace Metrics.Book

variable (b : Book) (f : Family) (vs : List String)

theorem find?_put_self (h : b.samples.any (fun s => s.family == f && s.values == vs) = true)
    (v : Nat) :
    (b.samples.map fun s =>
      if s.family == f && s.values == vs then { s with value := v } else s).find?
      (fun s => s.family == f && s.values == vs) = some ⟨f, vs, v⟩ := by
  obtain ⟨samples⟩ := b
  induction samples with
  | nil => simp at h
  | cons s rest ih =>
    rw [List.map_cons, List.find?_cons]
    by_cases hs : s.family = f ∧ s.values = vs
    · obtain ⟨rfl, rfl⟩ := hs
      simp
    · have hs' : (s.family == f && s.values == vs) = false := by simpa using hs
      simp only [hs', Bool.false_eq_true, if_false]
      exact ih (by simpa [hs'] using h)

theorem find?_put_other {g : Family} {ws : List String} (hne : ¬(g = f ∧ ws = vs)) (v : Nat) :
    (b.samples.map fun s =>
      if s.family == f && s.values == vs then { s with value := v } else s).find?
      (fun s => s.family == g && s.values == ws) =
      b.samples.find? (fun s => s.family == g && s.values == ws) := by
  obtain ⟨samples⟩ := b
  induction samples with
  | nil => rfl
  | cons s rest ih =>
    rw [List.map_cons, List.find?_cons, List.find?_cons]
    by_cases hs : s.family = f ∧ s.values = vs
    · -- the updated sample keeps its key, which is not the one looked up
      obtain ⟨rfl, rfl⟩ := hs
      have hk : (s.family == g && s.values == ws) = false :=
        Bool.eq_false_iff.mpr fun hk => hne (by simp at hk; exact ⟨hk.1.symm, hk.2.symm⟩)
      simp only [beq_self_eq_true, Bool.and_self, if_true, hk]
      exact ih
    · have hs' : (s.family == f && s.values == vs) = false := by simpa using hs
      simp only [hs', Bool.false_eq_true, if_false]
      split <;> simp_all

theorem get_put (v : Nat) (g : Family) (ws : List String) :
    (b.put f vs v).get g ws = if g = f ∧ ws = vs then v else b.get g ws := by
  by_cases h : b.samples.any (fun s => s.family == f && s.values == vs) = true
  · rw [put, if_pos h]
    by_cases hk : g = f ∧ ws = vs
    · obtain ⟨rfl, rfl⟩ := hk
      simp only [get, find?_put_self b g ws h, and_self, if_true]
    · simp only [get, find?_put_other b f vs hk, if_neg hk]
  · have hn : b.samples.find? (fun s => s.family == f && s.values == vs) = none := by
      rw [List.find?_eq_none]
      intro s hs hk
      exact h (List.any_eq_true.mpr ⟨s, hs, hk⟩)
    rw [put, if_neg h]
    by_cases hk : g = f ∧ ws = vs
    · obtain ⟨rfl, rfl⟩ := hk
      simp [get, List.find?_append, hn]
    · have hk' : (f == g && vs == ws) = false :=
        Bool.eq_false_iff.mpr fun h' => hk (by simp at h'; exact ⟨h'.1.symm, h'.2.symm⟩)
      simp only [get, List.find?_append, if_neg hk]
      cases b.samples.find? (fun s => s.family == g && s.values == ws) <;> simp [hk']

/-- One more count on a series changes no other series. -/
theorem get_bump (g : Family) (ws : List String) :
    (b.bump f vs).get g ws = b.get g ws + if g = f ∧ ws = vs then 1 else 0 := by
  rw [bump, get_put]
  split
  · next hk =>
    obtain ⟨rfl, rfl⟩ := hk
    rfl
  · rfl

end Metrics.Book

/-- The series a malformed datagram is counted under: `too short` for a datagram shorter than
its header or than its shape, `unknown type` for a type byte that names no shape. -/
def Wire.DecodeError.kind : Wire.DecodeError → String
  | .tooShort .. => "too short"
  | .unknownType _ => "unknown type"

namespace Control

/-- A remote pilot message is exactly two bytes whose first is the pilot tag. -/
theorem PilotState.isMessage_iff (bytes : List UInt8) :
    PilotState.isMessage bytes = true ↔
      bytes.length = 2 ∧ Wire.Bytes.byte bytes 0 = PilotState.messageTag := by
  match bytes with
  | [] => simp [PilotState.isMessage]
  | [_] => simp [PilotState.isMessage]
  | [t, _] => simp [PilotState.isMessage, Wire.Bytes.byte]
  | _ :: _ :: _ :: _ => simp [PilotState.isMessage]

/-! ## The three early answers -/

/-- A pilot message to a controller with a remote monitor goes to the monitor: the controller
takes the monitor the message leaves and plays the events it reports, and nothing else. -/
theorem pilotMessage_to_monitor {bytes : List UInt8} (hm : PilotState.isMessage bytes = true)
    (p : Plant) {w : World} {m : Pilot.Monitor} (hp : w.ctl.pilot = some m)
    (hr : m.isRemote = true) :
    exec (handleMessage bytes) p w = (.ok (), (exec (pilotEvents (m.handle bytes).2.1) p
      { w with ctl := { w.ctl with pilot := some (m.handle bytes).1 } }).2) := by
  unfold handleMessage
  rw [if_pos hm, exec_ctl_bind]
  simp only [hp, hr, if_true, exec_bind, exec_withPilot_some false _ hp]
  rfl

/-- A pilot message to a controller with no remote monitor is noted and dropped. -/
theorem pilotMessage_dropped {bytes : List UInt8} (hm : PilotState.isMessage bytes = true)
    (p : Plant) {w : World} (hp : ∀ m, w.ctl.pilot = some m → m.isRemote = false) :
    (exec (handleMessage bytes) p w).1 = .ok () ∧ Unmoved w (exec (handleMessage bytes) p w).2 := by
  unfold handleMessage
  rw [if_pos hm, exec_ctl_bind]
  split
  · next m hpm =>
    rw [if_neg (by simp [hp m hpm])]
    exact ⟨rfl, Unmoved.note w _ _ _⟩
  · exact ⟨rfl, Unmoved.note w _ _ _⟩

/-- `w'` follows `w` by counting one malformed datagram of `kind`: the controller is that of `w`
but for one more count on the decode-error series of `kind` and its count of logged malformed
datagrams, and the trace grew by notes only. -/
structure CountedDrop (kind : String) (w w' : World) : Prop where
  ctl : w'.ctl.uncounted = w.ctl.uncounted
  books : w'.ctl.metrics = w.ctl.metrics.map (·.decodeError kind)
  notes : ∃ seg, w'.trace = w.trace ++ seg ∧ ∀ e ∈ seg, e.isNote = true

/-- A counted drop counts one more on its series of the books and on no other. -/
theorem CountedDrop.get {kind : String} {w w' : World} (h : CountedDrop kind w w')
    {b : Metrics.Book} (hb : w.ctl.metrics = some b) :
    ∃ b', w'.ctl.metrics = some b' ∧ ∀ f vs,
      b'.get f vs = b.get f vs + if f = .decodeErrors ∧ vs = [kind] then 1 else 0 :=
  ⟨_, by rw [h.books, hb]; rfl, fun f vs => Metrics.Book.get_bump b _ _ f vs⟩

/-- Noting a malformed datagram after counting it under `kind` is a counted drop. -/
theorem noteMalformed_counted (kind text : String) (p : Plant) (w : World) :
    CountedDrop kind w (exec (noteMalformed text) p
      { w with ctl := { w.ctl with metrics := w.ctl.metrics.map (·.decodeError kind) } }).2 := by
  unfold noteMalformed
  rw [exec_ctl_bind]
  split
  · exact ⟨rfl, rfl, [_], rfl, by simp [Effect.isNote]⟩
  · exact ⟨rfl, rfl, [], by simp, by simp⟩

/-- A malformed datagram answers its decode error, and is counted under its kind and noted. -/
theorem malformed_counted {bytes : List UInt8} {e : Wire.DecodeError}
    (hm : PilotState.isMessage bytes = false) (hd : Wire.Message.decode bytes = .error e)
    (p : Plant) (w : World) :
    (exec (handleMessage bytes) p w).1 = .error (.decode e) ∧
      CountedDrop e.kind w (exec (handleMessage bytes) p w).2 := by
  unfold handleMessage
  rw [if_neg (by simp [hm])]
  simp only [hd, exec_bind, exec_observe]
  cases e <;> exact ⟨rfl, noteMalformed_counted _ _ p w⟩

/-- Before it looks at the shutdown flag, the controller sends a pilot message to its remote
monitor, counts a malformed datagram and drops a decoded one that is no state envelope. -/
theorem datagram_routed_before_lock (p : Plant) (w : World) (bytes : List UInt8) :
    (bytes.length = 2 ∧ Wire.Bytes.byte bytes 0 = 0x03 →
      (exec (handleMessage bytes) p w).1 = .ok () ∧
      (∀ m, w.ctl.pilot = some m → m.isRemote = true →
        (exec (handleMessage bytes) p w).2 = (exec (pilotEvents (m.handle bytes).2.1) p
          { w with ctl := { w.ctl with pilot := some (m.handle bytes).1 } }).2) ∧
      ((∀ m, w.ctl.pilot = some m → m.isRemote = false) →
        Unmoved w (exec (handleMessage bytes) p w).2)) ∧
    (¬(bytes.length = 2 ∧ Wire.Bytes.byte bytes 0 = 0x03) →
      (∀ e, Wire.Message.decode bytes = .error e →
        (exec (handleMessage bytes) p w).1 = .error (.decode e) ∧
        (∀ t got want, e = .tooShort t got want →
          CountedDrop "too short" w (exec (handleMessage bytes) p w).2) ∧
        (∀ t, e = .unknownType t →
          CountedDrop "unknown type" w (exec (handleMessage bytes) p w).2) ∧
        ∀ b, w.ctl.metrics = some b →
          ∃ b', (exec (handleMessage bytes) p w).2.ctl.metrics = some b' ∧
            ∀ f vs, b'.get f vs = b.get f vs + if f = .decodeErrors ∧ vs = [e.kind] then 1 else 0) ∧
      (∀ m, Wire.Message.decode bytes = .ok m → (∀ s h, m ≠ .stateEnvelope s h) →
        (exec (handleMessage bytes) p w).1 = .ok () ∧
          Unmoved w (exec (handleMessage bytes) p w).2)) := by
  refine ⟨fun hb => ?_, fun hb => ?_⟩
  · have hm : PilotState.isMessage bytes = true := (PilotState.isMessage_iff bytes).mpr hb
    refine ⟨?_, fun m hp hr => ?_, fun hp => (pilotMessage_dropped hm p hp).2⟩
    · cases hp : w.ctl.pilot with
      | none => exact (pilotMessage_dropped hm p (by simp [hp])).1
      | some m =>
        cases hr : m.isRemote with
        | true => rw [pilotMessage_to_monitor hm p hp hr]
        | false => exact (pilotMessage_dropped hm p (by simp [hp, hr])).1
    · rw [pilotMessage_to_monitor hm p hp hr]
  · have hm : PilotState.isMessage bytes = false := by
      cases h : PilotState.isMessage bytes with
      | false => rfl
      | true => exact absurd ((PilotState.isMessage_iff bytes).mp h) hb
    refine ⟨fun e hd => ?_, fun m hd hne => ignored_unmoved hm hd hne p w⟩
    obtain ⟨hr, hc⟩ := malformed_counted hm hd p w
    refine ⟨hr, ?_, ?_, fun b hmb => hc.get hmb⟩
    · rintro t got want rfl
      exact hc
    · rintro t rfl
      exact hc

/-- A single byte is too short: it answers the error and is counted as too short. -/
theorem datagram_one_byte_counted_short :
    let w : World := ⟨Controller.new ⟨2000000000, 16, true⟩ none true (some .empty), []⟩
    let p := Plant.ideal ⟨0, 0⟩
    Wire.Message.decode [0] = .error (.tooShort 0 1 2) ∧
      (exec (handleMessage [0]) p w).1 = .error (.decode (.tooShort 0 1 2)) ∧
      CountedDrop "too short" w (exec (handleMessage [0]) p w).2 := by
  intro w p
  have hd : Wire.Message.decode [0] = .error (.tooShort 0 1 2) := rfl
  obtain ⟨-, hdrop⟩ := datagram_routed_before_lock p w [0]
  obtain ⟨hr, hshort, -⟩ := (hdrop (by simp)).1 _ hd
  exact ⟨hd, hr, hshort 0 1 2 rfl⟩

end Control

end Evse
