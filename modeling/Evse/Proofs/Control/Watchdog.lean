import Evse.Proofs.Control.FaultLatch
/-!
The watchdog at each tick, and the relay writes of a trace (`relayWrites`).
-/
namespace Evse.Control
open ChargingState

/-- The relay writes among the effects: the value written and whether the write succeeded. -/
def relayWrites (seg : List Effect) : List (Bool × Bool) :=
  seg.filterMap fun
    | .write channel value ok => if channel = Hardware.relay then some (value, ok) else none
    | _ => none

@[simp] theorem relayWrites_append (t u : List Effect) :
    relayWrites (t ++ u) = relayWrites t ++ relayWrites u :=
  List.filterMap_append

theorem relayWrites_unbooked {seg : List Effect} (h : ∀ e ∈ seg, e.Unbooked) :
    relayWrites seg = [] := by
  refine List.filterMap_eq_nil_iff.mpr fun e he => ?_
  have hr := (h e he).relay
  cases e with
  | write channel value ok =>
    have hc : channel ≠ Hardware.relay := by simpa [Effect.writesRelay] using hr
    simp [hc]
  | _ => rfl

theorem relayWrites_reportEffects (p : Plant) (c : Controller) (f : Fault) (present : Bool) :
    relayWrites (reportEffects p c f present) = [] := by
  unfold reportEffects
  split
  · rfl
  · split <;> rfl

/-- `w'` follows `w` having written the relay as `ws` says, in order. -/
def WritesRelay (ws : List (Bool × Bool)) (w w' : World) : Prop :=
  ∃ seg, w'.trace = w.trace ++ seg ∧ relayWrites seg = ws

namespace WritesRelay

variable {ws ws' : List (Bool × Bool)} {w₁ w₂ w₃ : World}

theorem refl (w : World) : WritesRelay [] w w := ⟨[], by simp, rfl⟩

theorem trans (h₁ : WritesRelay ws w₁ w₂) (h₂ : WritesRelay ws' w₂ w₃) :
    WritesRelay (ws ++ ws') w₁ w₃ := by
  obtain ⟨s₁, ht₁, hr₁⟩ := h₁
  obtain ⟨s₂, ht₂, hr₂⟩ := h₂
  exact ⟨s₁ ++ s₂, by rw [ht₂, ht₁, List.append_assoc], by rw [relayWrites_append, hr₁, hr₂]⟩

theorem of_kept (h : BooksKept w₁ w₂) : WritesRelay [] w₁ w₂ := by
  obtain ⟨-, -, -, -, seg, ht, hs⟩ := h
  exact ⟨seg, ht, relayWrites_unbooked hs⟩

end WritesRelay

theorem KeepsBooks.writes {α : Type} {x : Act α} (h : KeepsBooks x) (p : Plant) (w : World) :
    WritesRelay [] w (exec x p w).2 :=
  .of_kept (h.kept p w)

/-- A relay write touches no fault but the failed relay write. -/
theorem Controller.afterRelay_hasFault (c : Controller) (p : Plant) (on : Bool) {f : Fault}
    (hf : f ≠ .relayWrite) : (c.afterRelay p on).hasFault f = c.hasFault f := by
  cases h : (p.writeFault Hardware.relay on 0).isNone with
  | true => exact Controller.hasFault_of_faults (by simp [Controller.afterRelay, h]) f
  | false =>
    rw [Controller.hasFault_of_faults (c := c.report .relayWrite true)
      (by simp [Controller.afterRelay, Controller.report, h]) f]
    exact (Controller.hasFault_report c .relayWrite f true).trans (if_neg hf)

/-- An active session is stopped along the whole stop path. -/
theorem route_stopCharging_of_active {s : ChargingState} (h : s.isActive = true) :
    Request.stopCharging.route s = .ok stopPath := by
  cases s <;> simp [ChargingState.isActive] at h <;> rfl

/-- `w'` follows `w` with the core and the machine kept and no write of the relay. -/
def Untouched (w w' : World) : Prop := Settled w w' ∧ WritesRelay [] w w'

theorem Untouched.trans {w₁ w₂ w₃ : World} (h₁ : Untouched w₁ w₂) (h₂ : Untouched w₂ w₃) :
    Untouched w₁ w₃ :=
  ⟨h₁.1.trans h₂.1, h₁.2.trans h₂.2⟩

theorem Untouched.of {α : Type} {x : Act α} (hc : Calm x) (hb : KeepsBooks x) (p : Plant)
    (w : World) : Untouched w (exec x p w).2 :=
  ⟨hc.settled p w, hb.writes p w⟩

end Evse.Control
