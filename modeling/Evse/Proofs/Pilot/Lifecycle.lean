import Evse.Pilot.Monitor
/-!
The life of a pilot monitor under any sequence of calls.
-/
namespace Evse

theorem PilotState.ordinal_ofOrdinal {b : UInt8} (h : b ≤ 5) : (PilotState.ofOrdinal b).ordinal = b := by
  have hn : b.toNat ≤ 5 := UInt8.le_iff_toNat_le.mp h
  have : b.toNat = 0 ∨ b.toNat = 1 ∨ b.toNat = 2 ∨ b.toNat = 3 ∨ b.toNat = 4 ∨ b.toNat = 5 := by
    omega
  rcases this with h0 | h0 | h0 | h0 | h0 | h0 <;>
    · rw [← UInt8.ofNat_toNat (x := b), h0]
      rfl

theorem PilotState.ofOrdinal_of_ge {b : UInt8} (h : 6 ≤ b) : PilotState.ofOrdinal b = .unknown := by
  unfold PilotState.ofOrdinal
  split <;> first | rfl | (exfalso; revert h; decide)

namespace Pilot

/-- A call on a monitor. -/
inductive Call where
  | start
  | stop
  | message (bytes : List UInt8)
deriving Repr

/-- The band change an event reports, if it reports one. -/
def Event.change? : Event → Option (PilotState × PilotState)
  | .change old new => some (old, new)
  | .note .. => none

/-- The band changes among events, in order: what the listeners are told. -/
def changes (evs : List Event) : List (PilotState × PilotState) := evs.filterMap Event.change?

@[simp] theorem changes_nil : changes [] = [] := rfl

@[simp] theorem changes_append (a b : List Event) : changes (a ++ b) = changes a ++ changes b :=
  List.filterMap_append

@[simp] theorem changes_note (severity : Log.Severity) (text : String) :
    changes [.note severity text] = [] := rfl

/-- The changes `cs` lead from band `s` to band `t`: each leaves the band the one before it led
to (`s` for the first) for another band, and the last leads to `t`; with no change, `s = t`. -/
def Leads : PilotState → List (PilotState × PilotState) → PilotState → Prop
  | s, [], t => s = t
  | s, (old, new) :: rest, t => old = s ∧ old ≠ new ∧ Leads new rest t

theorem Leads.append {s u t : PilotState} {l₁ l₂ : List (PilotState × PilotState)}
    (h₁ : Leads s l₁ u) (h₂ : Leads u l₂ t) : Leads s (l₁ ++ l₂) t := by
  induction l₁ generalizing s with
  | nil =>
    cases h₁
    exact h₂
  | cons c rest ih =>
    obtain ⟨old, new⟩ := c
    obtain ⟨hold, hne, hrest⟩ := h₁
    exact ⟨hold, hne, ih hrest⟩

/-- The changes of a move from band `s` to band `t`: one, unless the band stays. -/
def moveChanges (s t : PilotState) : List (PilotState × PilotState) :=
  if s = t then [] else [(s, t)]

theorem leads_moveChanges (s t : PilotState) : Leads s (moveChanges s t) t := by
  unfold moveChanges
  split
  · assumption
  · next h => exact ⟨rfl, h, rfl⟩

namespace Monitor

/-- One call: the monitor after it and what it reports. -/
def call (m : Monitor) : Call → Monitor × List Event
  | .start => (m.start.1, m.start.2.1)
  | .stop => m.stop
  | .message bytes => ((m.handle bytes).1, (m.handle bytes).2.1)

/-- Calls in order: the monitor after them and everything they reported. -/
def calls (m : Monitor) : List Call → Monitor × List Event
  | [] => (m, [])
  | c :: cs => (((m.call c).1.calls cs).1, (m.call c).2 ++ ((m.call c).1.calls cs).2)

@[simp] theorem calls_nil (m : Monitor) : m.calls [] = (m, []) := rfl

theorem calls_cons (m : Monitor) (c : Call) (cs : List Call) :
    m.calls (c :: cs) = (((m.call c).1.calls cs).1, (m.call c).2 ++ ((m.call c).1.calls cs).2) :=
  rfl

@[simp] theorem update_fst (m : Monitor) (s : PilotState) : (m.update s).1 = { m with state := s } := by
  unfold update
  split
  · next h => rw [← h]
  · rfl

theorem update_changes (m : Monitor) (s : PilotState) :
    changes (m.update s).2 = moveChanges m.state s := by
  unfold update moveChanges
  split <;> rfl

theorem sample_changes (m : Monitor) : changes m.sample.2 = moveChanges m.state m.sample.1.state := by
  unfold sample
  split
  · next _ _ mv _ _ =>
    dsimp only
    have hc := update_changes m (PilotState.classify mv)
    split
    · next he =>
      -- an update that reports nothing leaves the band
      have hs : m.state = PilotState.classify mv := by
        unfold update at he
        split at he
        · assumption
        · simp at he
      simp [moveChanges, hs]
    · simp [hc]
  · split
    · simp [moveChanges]
    · simp [moveChanges]
  · simp [moveChanges]

/-- A reading offered to a polling monitor of its probe is sampled while it runs; the band
changes it reports are those of the sample, and any other offer reports none. -/
theorem offer_changes (m : Monitor) (probe : Probe) (reading : Except String Int) :
    changes (m.offer probe reading).2 = moveChanges m.state (m.offer probe reading).1.state := by
  unfold offer
  split
  · split
    · dsimp only
      split
      · exact sample_changes _
      · simp [moveChanges]
    · simp [moveChanges]
  · simp [moveChanges]

/-- Every call reports a band change exactly when it changes the band, from the band before to
the band after. -/
theorem call_changes (m : Monitor) (c : Call) :
    changes (m.call c).2 = moveChanges m.state (m.call c).1.state := by
  cases c with
  | start =>
    simp only [call]
    unfold start
    split
    · simp [moveChanges]
    · split
      · simp [moveChanges]
      · simp [update_changes]
    · split
      · simp [moveChanges]
      · simp [sample_changes]
  | stop =>
    simp only [call]
    unfold stop
    split
    · simp [moveChanges]
    · split
      · simp [update_changes]
      · simp [moveChanges]
      · simp [moveChanges]
  | message bytes =>
    simp only [call]
    unfold handle
    split
    · simp [moveChanges]
    split
    · simp [moveChanges]
    dsimp only
    have hw (ord : UInt8) : changes (if ord ≤ 5 then [] else
        [Event.note .warn s!"Remote CP ordinal out of range: {ord.toNat}"]) = [] := by
      split <;> rfl
    have ht (evs : List Event) (text : String) :
        changes (if evs.isEmpty = true then [] else [Event.note .info text]) = [] := by
      split <;> rfl
    simp only [changes_append, hw, ht, List.nil_append, List.append_nil, update_changes,
      update_fst]

/-- The changes a run reports lead from the band it started with to the band it ends with. -/
theorem calls_leads (m : Monitor) (cs : List Call) :
    Leads m.state (changes (m.calls cs).2) (m.calls cs).1.state := by
  induction cs generalizing m with
  | nil => rfl
  | cons c cs ih =>
    rw [calls_cons, changes_append, call_changes]
    exact (leads_moveChanges _ _).append (ih _)

/-! ## A remote monitor -/

/-- A remote monitor that has no band while stopped. -/
structure Resting (m : Monitor) : Prop where
  remote : m.source = .remote
  stopped : m.running = false → m.state = .unknown

theorem resting_new : (new .remote).Resting := ⟨rfl, fun _ => rfl⟩

section Remote

variable {m : Monitor} (hm : m.source = .remote)
include hm

/-- A start while stopped assumes band A. -/
theorem start_fst : m.start.1 = if m.running then m else { m with running := true, state := .a } := by
  simp only [start, hm]
  cases m.running <;> simp

/-- A start while running changes nothing. -/
theorem start_of_running (hr : m.running = true) : m.start = (m, [], .ok ()) := by
  unfold start
  rw [hm]
  simp [hr]

/-- A stop while running forgets the band; while stopped it changes nothing. -/
theorem stop_fst : m.stop.1 = if m.running then { m with running := false, state := .unknown } else m := by
  unfold stop
  cases hr : m.running
  · simp
  · simp [hm]

theorem call_resting (h : m.Resting) (c : Call) : (m.call c).1.Resting := by
  cases c with
  | start =>
    show m.start.1.Resting
    rw [start_fst hm]
    split
    · exact h
    · exact ⟨hm, fun h' => by simp at h'⟩
  | stop =>
    show m.stop.1.Resting
    rw [stop_fst hm]
    split
    · exact ⟨hm, fun _ => rfl⟩
    · exact h
  | message bytes =>
    show (m.handle bytes).1.Resting
    unfold handle
    split
    · exact h
    split
    · exact h
    next hr =>
    simp only [Bool.not_eq_true', Bool.not_eq_false] at hr
    exact ⟨by simpa using hm, fun h' => by simp [hr] at h'⟩

end Remote

theorem calls_resting {m : Monitor} (h : m.Resting) (cs : List Call) : (m.calls cs).1.Resting := by
  induction cs generalizing m with
  | nil => exact h
  | cons c cs ih => exact ih (call_resting h.remote h c)

/-- A monitor takes a datagram exactly when it is a pilot message: two bytes, the first the tag 3. -/
theorem handle_taken (m : Monitor) (bytes : List UInt8) :
    (m.handle bytes).2.2 = true ↔ bytes.length = 2 ∧ bytes.head? = some 3 := by
  have hmsg : (m.handle bytes).2.2 = PilotState.isMessage bytes := by
    unfold handle
    split
    · next h => simpa using h.symm
    split <;> simp_all
  rw [hmsg]
  unfold PilotState.isMessage
  split
  · simp [PilotState.messageTag]
  · next h =>
    simp only [Bool.false_eq_true, false_iff, not_and]
    intro hl hh
    match bytes, hl with
    | [t, b], _ => exact h t b rfl

theorem handle_stopped (m : Monitor) (hr : m.running = false) (b : UInt8) :
    m.handle [3, b] = (m, [], true) := by
  simp [handle, PilotState.isMessage, PilotState.messageTag, hr]

theorem handle_running (m : Monitor) (hr : m.running = true) (b : UInt8) :
    (m.handle [3, b]).1 = { m with state := PilotState.ofOrdinal b } := by
  simp [handle, PilotState.isMessage, PilotState.messageTag, hr]

/-- For every sequence of calls on a new remote monitor: no band while stopped, changes that lead to
its band, and the laws of each call. -/
theorem remote_monitor_lifecycle (cs : List Call) :
    let m := ((new .remote).calls cs).1
    (m.running = false → m.state = .unknown) ∧
    Leads .unknown (changes ((new .remote).calls cs).2) m.state ∧
    (∀ bytes, (m.handle bytes).2.2 = true ↔ bytes.length = 2 ∧ bytes.head? = some 3) ∧
    (∀ c, changes (m.call c).2 = moveChanges m.state (m.call c).1.state) ∧
    (if m.running then m.start = (m, [], .ok ())
      else m.start.1.running = true ∧ m.start.1.state = .a) ∧
    (if m.running then m.stop.1.running = false ∧ m.stop.1.state = .unknown
      else m.stop = (m, [])) ∧
    ∀ b : UInt8, if m.running then
        (m.handle [3, b]).1.running = true ∧
        (b ≤ 5 → (m.handle [3, b]).1.state.ordinal = b) ∧
        (6 ≤ b → (m.handle [3, b]).1.state = .unknown)
      else m.handle [3, b] = (m, [], true) := by
  intro m
  have hr : m.Resting := calls_resting resting_new cs
  refine ⟨hr.stopped, calls_leads (new .remote) cs, handle_taken m, call_changes m, ?_, ?_, fun b => ?_⟩
  · split
    · next h => exact start_of_running hr.remote h
    · next h => simp [start_fst hr.remote, h]
  · split
    · next h => simp [stop_fst hr.remote, h]
    · next h =>
      simp only [Bool.not_eq_true] at h
      simp [stop, h]
  · split
    · next h =>
      rw [handle_running m h]
      exact ⟨h, PilotState.ordinal_ofOrdinal, PilotState.ofOrdinal_of_ge⟩
    · next h => exact handle_stopped m (by simpa using h) b

end Monitor

end Pilot

end Evse
