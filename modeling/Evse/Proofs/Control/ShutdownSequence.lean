import Evse.Proofs.Control.StatusMessage
import Evse.Proofs.Control.Envelope
import Evse.Proofs.Control.Watchdog
/-!
The first shutdown of a running controller, and what it refuses afterwards.
-/
namespace Evse.Control
open ChargingState

/-! ## What a shutdown shows -/

/-- The status an effect offers the publisher, accepted or not. -/
def Effect.offered? : Effect → Option Status
  | .publish s _ => some s
  | _ => none

/-- The statuses a trace offers the publisher, in order. -/
def offers (trace : List Effect) : List Status := trace.filterMap Effect.offered?

/-- Whether an effect closes the transport. -/
def Effect.closes : Effect → Bool
  | .disconnect => true
  | _ => false

/-- How often a trace closes the transport. -/
def closings (trace : List Effect) : Nat := trace.countP Effect.closes

@[simp] theorem offers_append (t u : List Effect) : offers (t ++ u) = offers t ++ offers u :=
  List.filterMap_append

@[simp] theorem closings_append (t u : List Effect) :
    closings (t ++ u) = closings t + closings u :=
  List.countP_append

/-- An effect that offers the publisher nothing and leaves the transport open. -/
def Effect.Unoffered (e : Effect) : Prop := e.offered? = none ∧ e.closes = false

theorem Effect.local_unoffered : Effect.Local Effect.Unoffered :=
  ⟨fun _ _ _ => ⟨rfl, rfl⟩, fun _ _ _ => ⟨rfl, rfl⟩, fun _ => ⟨rfl, rfl⟩, fun _ _ _ => ⟨rfl, rfl⟩⟩

theorem unoffered_segment {seg : List Effect} (h : ∀ e ∈ seg, e.Unoffered) :
    offers seg = [] ∧ closings seg = 0 :=
  ⟨List.filterMap_eq_nil_iff.mpr fun e he => (h e he).1,
    List.countP_eq_zero.mpr fun e he => by simp [(h e he).2]⟩

/-- A log note leaves every record of the trace alone. -/
theorem Effect.note_aside {e : Effect} (h : e.isNote = true) :
    e.Unbooked ∧ e.Unoffered ∧ e.notice? = none := by
  cases e <;> simp_all [Effect.isNote]
  exact ⟨Effect.unbooked_note _ _ _, ⟨rfl, rfl⟩, rfl⟩

/-- The relay writes of forcing the relay open on a plant: the attempts up to the first the plant
takes, each opening the relay, with whether it succeeded. -/
def relayOffAttempts (p : Plant) : List (Bool × Bool) :=
  (p.relayOffTries [0, 1, 2]).map fun t => (false, t.2.isNone)

/-- The attempts open the relay and stop at the first the plant takes, attempt `k` of the three,
after the failures of those before it; or all three fail. -/
theorem relayOffAttempts_shape (p : Plant) :
    (∃ k < 3, (∀ j < k, (p.writeFault Hardware.relay false j).isSome) ∧
        p.writeFault Hardware.relay false k = none ∧
        relayOffAttempts p = List.replicate k (false, false) ++ [(false, true)]) ∨
      (p.relayOffFails = true ∧ relayOffAttempts p = List.replicate 3 (false, false)) := by
  cases hf : p.relayOffFails with
  | false =>
    obtain ⟨k, hk, hfail, htake, ht⟩ := relayOffTries_mends hf
    refine .inl ⟨k, hk, hfail, htake, ?_⟩
    rw [relayOffAttempts, ht, List.map_append, List.map_map]
    refine congrArg (· ++ _) (List.eq_replicate_iff.mpr ⟨by simp, fun b hb => ?_⟩)
    obtain ⟨j, hj, rfl⟩ := List.mem_map.mp hb
    simp [hfail j (List.mem_range.mp hj)]
  | true =>
    refine .inr ⟨rfl, ?_⟩
    have hs := p.relayOffFails_iff.mp hf
    rw [relayOffAttempts, relayOffTries_fails hf]
    simp [hs 0 (by omega), hs 1 (by omega), hs 2 (by omega)]

/-! ## The pilot monitor of a controller shut down -/

/-- With the controller shut down, the monitor's events only write its notes. -/
theorem pilotEvents_unmoved (evs : List Pilot.Event) (p : Plant) {w : World}
    (h : w.ctl.shutDown = true) : Unmoved w (exec (pilotEvents evs) p w).2 := by
  induction evs generalizing w with
  | nil => exact Unmoved.refl w
  | cons e rest ih =>
    cases e with
    | change old next =>
      show Unmoved w (exec (pilotChanged old next >>= fun _ => pilotEvents rest) p w).2
      rw [exec_bind, exec_pilotChanged_shut old next p h]
      exact ih h
    | note severity text =>
      show Unmoved w (exec (emit _ >>= fun _ => pilotEvents rest) p w).2
      rw [exec_bind, exec_emit]
      exact (Unmoved.note w _ _ _).trans (ih h)

/-- With the controller shut down, an operation of the pilot monitor installs the monitor it
returns and writes the monitor's notes; nothing else changes. -/
theorem withPilot_shut {α : Type} (dflt : α)
    (op : Pilot.Monitor → Pilot.Monitor × List Pilot.Event × α) (p : Plant) {w : World}
    (h : w.ctl.shutDown = true) :
    { (exec (withPilot dflt op) p w).2.ctl with pilot := w.ctl.pilot } = w.ctl ∧
      ∃ notes, (exec (withPilot dflt op) p w).2.trace = w.trace ++ notes ∧
        ∀ e ∈ notes, e.isNote = true := by
  cases hp : w.ctl.pilot with
  | none =>
    rw [exec_withPilot_none dflt op hp]
    exact ⟨by rw [← hp], [], by simp, by simp⟩
  | some m =>
    rw [exec_withPilot_some dflt op hp]
    obtain ⟨hc, notes, ht, hn⟩ := pilotEvents_unmoved (op m).2.1 p
      (w := { w with ctl := { w.ctl with pilot := some (op m).1 } }) h
    exact ⟨by rw [hc, ← hp], notes, ht, hn⟩

/-! ## Winding down -/

/-- How far a shutdown from `w` has come at `v` before the relay is forced open, the transport closed
`n` times and the machine walked along `path`. -/
structure Winding (p : Plant) (path : List ChargingState) (n : Nat) (w v : World) : Prop where
  shut : v.ctl.shutDown = true
  books : BooksKept w v
  quiet : ∃ seg, v.trace = w.trace ++ seg ∧ offers seg = [] ∧ closings seg = n
  walk : p.Agreeable → Walks "shutdown" path w v
  still : path = [] → v.ctl.machine = w.ctl.machine

namespace Winding

variable {p : Plant} {path path' : List ChargingState} {n k : Nat} {w v v' : World}

theorem trans (h : Winding p path n w v) (hb : BooksKept v v') (hs : v'.ctl.shutDown = true)
    (hq : ∃ seg, v'.trace = v.trace ++ seg ∧ offers seg = [] ∧ closings seg = k)
    (hw : p.Agreeable → Walks "shutdown" path' v v')
    (hm : path' = [] → v'.ctl.machine = v.ctl.machine) :
    Winding p (path ++ path') (n + k) w v' := by
  obtain ⟨-, hb₀, ⟨s₀, ht₀, ho₀, hc₀⟩, hw₀, hm₀⟩ := h
  obtain ⟨s, ht, ho, hc⟩ := hq
  refine ⟨hs, hb₀.trans hb, ⟨s₀ ++ s, by rw [ht, ht₀, List.append_assoc], ?_, ?_⟩,
    fun hp => (hw₀ hp).trans (hw hp), fun he => ?_⟩
  · rw [offers_append, ho₀, ho, List.append_nil]
  · rw [closings_append, hc₀, hc]
  · obtain ⟨h₁, h₂⟩ := List.append_eq_nil_iff.mp he
    exact (hm h₂).trans (hm₀ h₁)

/-- Notes, with nothing changed but perhaps the pilot monitor, keep a shutdown where it was. -/
theorem notes (h : Winding p path n w v) {notes : List Effect} (hn : ∀ e ∈ notes, e.isNote = true)
    (ht : v'.trace = v.trace ++ notes) (hc : { v'.ctl with pilot := v.ctl.pilot } = v.ctl) :
    Winding p path n w v' := by
  have ha := fun e he => Effect.note_aside (hn e he)
  have hq := unoffered_segment fun e he => (ha e he).2.1
  have hpub := congrArg Controller.published hc
  have hfaults := congrArg Controller.faults hc
  have hrx := congrArg Controller.lastRx hc
  have hpublishing := congrArg Controller.publishing hc
  have hown := congrArg Controller.ownListener hc
  have hmachine := congrArg Controller.machine hc
  have hshut := congrArg Controller.shutDown hc
  have hb : BooksKept v v' := ⟨hpub, hfaults, hrx, hpublishing, notes, ht, fun e he => (ha e he).1⟩
  have hw : Walks "shutdown" [] v v' := ⟨hown, congrArg Machine.listeners hmachine,
    congrArg Machine.state hmachine,
    ⟨notes, ht, List.filterMap_eq_nil_iff.mpr fun e he => (ha e he).2.2⟩⟩
  simpa using h.trans hb (hshut.trans h.shut) ⟨notes, ht, hq⟩ (fun _ => hw) fun _ => hmachine

theorem note (h : Winding p path n w v) (severity : Log.Severity) (tag text : String) :
    Winding p path n w { v with trace := v.trace ++ [.note severity tag text] } :=
  h.notes (by simp [Effect.isNote]) rfl rfl

/-- Closing the transport is counted once. -/
theorem disconnect (h : Winding p path n w v) :
    Winding p path (n + 1) w { v with trace := v.trace ++ [.disconnect] } := by
  have hw : Walks "shutdown" [] v { v with trace := v.trace ++ [.disconnect] } :=
    ⟨rfl, rfl, rfl, [.disconnect], rfl, rfl⟩
  have hq : ∃ seg, ({ v with trace := v.trace ++ [.disconnect] } : World).trace = v.trace ++ seg ∧
      offers seg = [] ∧ closings seg = 1 := ⟨[.disconnect], rfl, rfl, rfl⟩
  simpa using h.trans (BooksKept.emit ⟨rfl, fun _ => rfl, rfl⟩) h.shut hq (fun _ => hw) fun _ => rfl

/-- Marking the controller shut down starts the winding down. -/
theorem start (w : World) : Winding p [] 0 w { w with ctl := { w.ctl with shutDown := true } } :=
  ⟨rfl, ⟨rfl, rfl, rfl, rfl, [], by simp, by simp⟩, ⟨[], by simp, rfl, rfl⟩,
    fun _ => ⟨rfl, rfl, rfl, [], by simp, rfl⟩, fun _ => rfl⟩

/-- Stopping the pilot monitor on the way down: its band changes are ignored and its notes
written. -/
theorem pilot (h : Winding p path n w v) {α : Type} (dflt : α)
    (op : Pilot.Monitor → Pilot.Monitor × List Pilot.Event × α) :
    Winding p path n w (exec (withPilot dflt op) p v).2 := by
  obtain ⟨hc, notes, ht, hn⟩ := withPilot_shut dflt op p h.shut
  exact h.notes hn ht hc

/-- Stopping an active session on the way down walks it along the stop path on an agreeable
plant, and keeps the books and the shutdown whatever the listeners answer. -/
theorem stop (h : Winding p path n w v) (ha : v.ctl.machine.state.isActive = true) :
    Winding p (path ++ stopPath) n w (exec (do
      noteFailure .warn "Failed to stop charging on shutdown" (← request .stopCharging "shutdown"))
      p v).2 := by
  rw [exec_bind]
  let r := exec (request .stopCharging "shutdown") p v
  let note := noteFailure .warn "Failed to stop charging on shutdown" r.1
  have hb : BooksKept v (exec note p r.2).2 :=
    ((request_keepsBooks _ _).kept p v).trans ((noteFailure_keepsBooks .warn _ r.1).kept p r.2)
  have hn : Settled r.2 (exec note p r.2).2 := (noteFailure_calm (by decide) _ r.1).settled p r.2
  have hcore := hn.1.trans (request_core .stopCharging "shutdown" p v).1
  obtain ⟨-, seg, ht, hs⟩ := ((request_emits Effect.local_unoffered _ _).adds p v).trans
    ((noteFailure_emits Effect.local_unoffered .warn _ r.1).adds p r.2)
  have hw : p.Agreeable → Walks "shutdown" stopPath v (exec note p r.2).2 := fun hp =>
    (request_walks hp (route_stopCharging_of_active ha) "shutdown").2.2.settled hn
  simpa using h.trans hb ((congrArg Core.shutDown hcore).trans h.shut)
    ⟨seg, ht, unoffered_segment hs⟩ hw (by simp [stopPath])

end Winding

/-! ## Forcing the relay open -/

theorem reportEffects_unoffered (p : Plant) (c : Controller) (f : Fault) (present : Bool) :
    ∀ e ∈ reportEffects p c f present, e.Unoffered ∧ e.notice? = none := by
  intro e he
  unfold reportEffects at he
  split at he
  · simp at he
  · rcases List.mem_cons.mp he with rfl | he
    · exact ⟨⟨rfl, rfl⟩, rfl⟩
    · split at he <;> simp at he
      subst he
      exact ⟨⟨rfl, rfl⟩, rfl⟩

/-- Forcing the relay open on `p` from `v` to `v'`: the relay open, fault 3 raised when all three
attempts fail, and the trace grown by `relayOffAttempts p`. -/
structure ForcedOpen (p : Plant) (v v' : World) : Prop where
  relay : v'.ctl.relayEnabled = false
  fault : v'.ctl.hasFault .relayWrite = (v.ctl.hasFault .relayWrite || p.relayOffFails)
  faults : ∀ f, f ≠ .relayWrite → v'.ctl.hasFault f = v.ctl.hasFault f
  kept : v'.ctl.machine = v.ctl.machine ∧ v'.ctl.ownListener = v.ctl.ownListener ∧
    v'.ctl.shutDown = v.ctl.shutDown ∧ v'.ctl.published = v.ctl.published ∧
    v'.ctl.publishing = v.ctl.publishing
  trace : ∃ seg, v'.trace = v.trace ++ seg ∧ relayWrites seg = relayOffAttempts p ∧
    reports .relayWrite seg = (if p.relayOffFails &&
      !v.ctl.hasFault .relayWrite && v.ctl.publishing then [true] else []) ∧
    offers seg = [] ∧ closings seg = 0 ∧ seg.filterMap Effect.notice? = []

/-- The attempts at opening the relay write it as they answer, and offer the publisher nothing,
close nothing and tell no listener. -/
theorem relayOffEffects_aside (tries : List (Nat × Option String)) :
    relayWrites (tries.flatMap relayOffEffects) = tries.map (fun t => (false, t.2.isNone)) ∧
      offers (tries.flatMap relayOffEffects) = [] ∧ closings (tries.flatMap relayOffEffects) = 0 ∧
      (tries.flatMap relayOffEffects).filterMap Effect.notice? = [] := by
  induction tries with
  | nil => exact ⟨rfl, rfl, rfl, rfl⟩
  | cons t rest ih =>
    obtain ⟨hw, ho, hc, hn⟩ := ih
    have head : relayWrites (relayOffEffects t) = [(false, t.2.isNone)] ∧
        offers (relayOffEffects t) = [] ∧ closings (relayOffEffects t) = 0 ∧
        (relayOffEffects t).filterMap Effect.notice? = [] := by
      obtain ⟨i, _ | e⟩ := t <;> exact ⟨rfl, rfl, rfl, rfl⟩
    rw [List.flatMap_cons, relayWrites_append, offers_append, closings_append,
      List.filterMap_append, hw, ho, hc, hn, head.1, head.2.1, head.2.2.1, head.2.2.2]
    exact ⟨rfl, rfl, rfl, rfl⟩

theorem forceRelayOff_forces (p : Plant) (v : World) :
    ForcedOpen p v (exec forceRelayOff p v).2 := by
  rw [exec_forceRelayOff]
  obtain ⟨-, hr⟩ := relayOffEffects_unrecorded (p.relayOffTries [0, 1, 2])
  obtain ⟨hw, ho, hn, hx⟩ := relayOffEffects_aside (p.relayOffTries [0, 1, 2])
  dsimp only
  split
  · next hf =>
    let c : Controller :=
      { v.ctl with metrics := relayOffMetrics (p.relayOffTries [0, 1, 2]) v.ctl.metrics }
    have hq := unoffered_segment fun x hx => (reportEffects_unoffered p c .relayWrite true x hx).1
    refine ⟨rfl, ?_, fun f hne => ?_, ⟨rfl, rfl, rfl, rfl, rfl⟩,
      (p.relayOffTries [0, 1, 2]).flatMap relayOffEffects ++ reportEffects p c .relayWrite true,
      List.append_assoc _ _ _, ?_, ?_, ?_, ?_, ?_⟩
    · show (Controller.report c .relayWrite true).hasFault .relayWrite = _
      rw [Controller.hasFault_report, if_pos rfl, hf, Bool.or_true]
    · show (Controller.report c .relayWrite true).hasFault f = _
      rw [Controller.hasFault_report, if_neg hne]
      rfl
    · rw [relayWrites_append, relayWrites_reportEffects, hw, List.append_nil]
      rfl
    · rw [reports_append, reports_reportEffects, hr, hf]
      change [] ++ (if Fault.relayWrite = .relayWrite ∧ v.ctl.hasFault .relayWrite ≠ true ∧
        v.ctl.publishing = true then [true] else []) = _
      cases v.ctl.hasFault .relayWrite <;> cases v.ctl.publishing <;> rfl
    · rw [offers_append, ho, hq.1]
      rfl
    · rw [closings_append, hn, hq.2]
    · rw [List.filterMap_append, hx, List.filterMap_eq_nil_iff.mpr fun x hx =>
        (reportEffects_unoffered p c .relayWrite true x hx).2]
      rfl
  · next hf =>
    refine ⟨rfl, ?_, fun f _ => rfl, ⟨rfl, rfl, rfl, rfl, rfl⟩,
      (p.relayOffTries [0, 1, 2]).flatMap relayOffEffects, rfl, hw, ?_, ho, hn, hx⟩
    · rw [Bool.eq_false_iff.mpr hf, Bool.or_false]
      exact Controller.hasFault_of_faults rfl _
    · rw [hr]
      simp [hf]

/-! ## The first shutdown -/

/-- Publishing changes nothing but the status last published; it offers the status now exactly
when the controller publishes it, and writes no relay, reports no fault, closes nothing and tells
no listener. -/
theorem publish_offers (p : Plant) (v : World) :
    { (exec publish p v).2.ctl with published := v.ctl.published } = v.ctl ∧
      ∃ seg, (exec publish p v).2.trace = v.trace ++ seg ∧ relayWrites seg = [] ∧
        (∀ f, reports f seg = []) ∧
        offers seg = (if v.ctl.publishes p.now then [v.ctl.status p.now] else []) ∧
        closings seg = 0 ∧ seg.filterMap Effect.notice? = [] := by
  rw [exec_publish]
  split
  · next hp =>
    split
    · exact ⟨rfl, _, rfl, rfl, fun _ => rfl, rfl, rfl, rfl⟩
    · exact ⟨rfl, _, rfl, rfl, fun _ => rfl, rfl, rfl, rfl⟩
  · exact ⟨rfl, [], by simp, rfl, fun _ => rfl, rfl, rfl, rfl⟩

/-- What the first shutdown from `w` leaves at `w'` on `p`. -/
structure ShutdownRecord (p : Plant) (path : List ChargingState) (w w' : World) : Prop where
  shut : w'.ctl.shutDown = true
  relay : w'.ctl.relayEnabled = false
  fault : w'.ctl.hasFault .relayWrite = (w.ctl.hasFault .relayWrite || p.relayOffFails)
  faults : ∀ f, f ≠ .relayWrite → w'.ctl.hasFault f = w.ctl.hasFault f
  trace : ∃ seg, w'.trace = w.trace ++ seg ∧ relayWrites seg = relayOffAttempts p ∧
    reports .relayWrite seg = (if p.relayOffFails &&
      !w.ctl.hasFault .relayWrite && w.ctl.publishing then [true] else []) ∧
    offers seg = (if w.ctl.publishing && !(w.ctl.published.any (·.same (w'.ctl.status p.now)))
      then [w'.ctl.status p.now] else []) ∧
    closings seg = 1
  walk : p.Agreeable → Walks "shutdown" path w w'

/-- Publishing changes no field of the controller that does not read the status last
published. -/
theorem publish_keeps {β : Type} (g : Controller → β)
    (hg : ∀ c x, g { c with published := x } = g c) (p : Plant) (v : World) :
    g (exec publish p v).2.ctl = g v.ctl :=
  (hg _ _).symm.trans (congrArg g (publish_offers p v).1)

/-- Forcing the relay open and then publishing walks the machine nowhere and tells no listener. -/
theorem ForcedOpen.walks_publish {p : Plant} {v v₁ : World} (hf : ForcedOpen p v v₁)
    (reason : String) : Walks reason [] v (exec publish p v₁).2 := by
  obtain ⟨hm, hown, -⟩ := hf.kept
  obtain ⟨s₁, ht₁, -, -, -, -, hx₁⟩ := hf.trace
  obtain ⟨-, s₂, ht₂, -, -, -, -, hx₂⟩ := publish_offers p v₁
  have hm₂ := (publish_keeps Controller.machine (fun _ _ => rfl) p v₁).trans hm
  refine ⟨(publish_keeps Controller.ownListener (fun _ _ => rfl) p v₁).trans hown,
    congrArg Machine.listeners hm₂, congrArg Machine.state hm₂, s₁ ++ s₂,
    by rw [ht₂, ht₁, List.append_assoc], ?_⟩
  rw [List.filterMap_append, hx₁, hx₂]
  rfl

/-- The end of a shutdown that has closed the transport once: the relay forced open, the final
status published and a last note. -/
theorem Winding.finish {p : Plant} {path : List ChargingState} {w v : World}
    (h : Winding p path 1 w v) :
    ShutdownRecord p path w (exec (do
      forceRelayOff
      publish
      Control.note .info "Session controller shut down, relay off") p v).2 := by
  simp only [exec_bind, exec_note]
  obtain ⟨hshut, ⟨hpub, hfaults, -, hpublishing, s₀, ht₀', hu₀⟩, ⟨s₀', ht₀, ho₀, hc₀⟩, hwalk, -⟩ :=
    h
  have hs₀ : s₀' = s₀ := List.append_cancel_left (ht₀.symm.trans ht₀')
  subst hs₀
  have hf := forceRelayOff_forces p v
  set v₁ := (exec forceRelayOff p v).2
  set v₂ := (exec publish p v₁).2
  obtain ⟨s₁, ht₁, hw₁, hr₁, ho₁, hc₁, -⟩ := hf.trace
  obtain ⟨-, s₂, ht₂, hw₂, hr₂, ho₂, hc₂, -⟩ := publish_offers p v₁
  obtain ⟨-, -, hsd, hpub₁, hpublishing₁⟩ := hf.kept
  have hfault (f : Fault) : v₂.ctl.hasFault f = v₁.ctl.hasFault f :=
    publish_keeps (·.hasFault f) (fun _ _ => rfl) p v₁
  have hw₀ : ∀ f, v.ctl.hasFault f = w.ctl.hasFault f := Controller.hasFault_of_faults hfaults
  refine ⟨?_, ?_, ?_, fun f hne => ?_, ?_, fun hp => ?_⟩
  · exact (publish_keeps Controller.shutDown (fun _ _ => rfl) p v₁).trans (hsd.trans hshut)
  · exact (publish_keeps Controller.relayEnabled (fun _ _ => rfl) p v₁).trans hf.relay
  · rw [hfault, hf.fault, hw₀]
  · rw [hfault, hf.faults f hne, hw₀]
  · refine ⟨s₀' ++ s₁ ++ s₂ ++ [.note .info "Controller" "Session controller shut down, relay off"],
      by rw [ht₂, ht₁, ht₀]; simp, ?_, ?_, ?_, ?_⟩
    · rw [relayWrites_append, relayWrites_append, relayWrites_append, relayWrites_unbooked hu₀,
        hw₁, hw₂]
      simp [relayWrites]
    · rw [reports_append, reports_append, reports_append, (unbooked_segment hu₀).2.1, hr₁, hr₂,
        hw₀, hpublishing]
      simp [reports, Effect.report?]
    · -- the status offered is the final one, which the last note does not change
      have hstatus : v₂.ctl.status p.now = v₁.ctl.status p.now :=
        publish_keeps (·.status p.now) (fun _ _ => rfl) p v₁
      rw [offers_append, offers_append, offers_append, ho₀, ho₁, ho₂, hstatus,
        Controller.publishes, hpub₁, hpublishing₁, hpub, hpublishing]
      simp [offers, Effect.offered?]
    · rw [closings_append, closings_append, closings_append, hc₀, hc₁, hc₂]
      rfl
  · have hnote : Walks "shutdown" [] v₂
        { v₂ with trace := v₂.trace ++
          [.note .info "Controller" "Session controller shut down, relay off"] } :=
      ⟨rfl, rfl, rfl, [_], rfl, rfl⟩
    simpa using ((hwalk hp).trans (hf.walks_publish "shutdown")).trans hnote

/-- After the transport is closed, a session that is ready or charging is stopped, and then the
shutdown ends; the path is the stop path exactly when the machine was active at the start. -/
theorem Winding.stopping {p : Plant} {w v : World} (h : Winding p [] 1 w v) :
    ShutdownRecord p (if w.ctl.machine.state.isActive then stopPath else []) w (exec (do
      if (← ctl).machine.state.isActive then
        noteFailure .warn "Failed to stop charging on shutdown" (← request .stopCharging "shutdown")
      forceRelayOff
      publish
      Control.note .info "Session controller shut down, relay off") p v).2 := by
  rw [exec_ctl_bind]
  dsimp only
  have hstate : v.ctl.machine.state = w.ctl.machine.state := congrArg Machine.state (h.still rfl)
  by_cases ha : v.ctl.machine.state.isActive = true
  · have hw : w.ctl.machine.state.isActive = true := hstate ▸ ha
    have hs := h.stop ha
    rw [exec_bind, List.nil_append] at hs
    rw [if_pos ha, if_pos hw, exec_bind, exec_bind]
    exact hs.finish
  · have hw : ¬w.ctl.machine.state.isActive = true := hstate ▸ ha
    rw [if_neg ha, if_neg hw]
    exact h.finish

/-- The first shutdown of a controller. -/
theorem shutdown_record (p : Plant) {w : World} (hs : w.ctl.shutDown = false) :
    ShutdownRecord p (if w.ctl.machine.state.isActive then stopPath else []) w
      (exec shutdown p w).2 := by
  unfold shutdown
  rw [exec_ctl_bind, if_neg (show ¬w.ctl.shutDown = true by simp [hs])]
  refine (?_ : Triple p (· = w) _ _) w rfl
  refine Triple.bind (Q := Winding p [] 0 w) (fun v hv => by
    obtain rfl : v = w := hv
    exact Winding.start v)
    fun _ => ?_
  refine Triple.bind (Q := Winding p [] 0 w) (fun v hv => hv.note _ _ _) fun _ => ?_
  refine Triple.bind (Q := Winding p [] 0 w) (fun v hv => hv.pilot _ _) fun _ => ?_
  refine Triple.bind (Q := Winding p [] 1 w) (fun v hv => hv.disconnect) fun _ => ?_
  refine Triple.read_bind ?_
  dsimp only
  split
  · exact Triple.bind (Q := Winding p [] 1 w) (fun v hv => hv.note _ _ _) fun _ v hv => hv.stopping
  · exact fun v hv => hv.stopping

/-! ## After the shutdown -/

/-- With the controller shut down, a shutdown does nothing. -/
theorem exec_shutdown_shut (p : Plant) {v : World} (h : v.ctl.shutDown = true) :
    exec shutdown p v = ((), v) := by
  unfold shutdown
  rw [exec_ctl_bind, if_pos h]
  rfl

theorem step_of_exec {p : Plant} {v : World} {i : Input} {r : Outcome}
    (h : exec i.act p v = (r, v)) : step p v i = (v, r) := by
  rw [step_eq, h]

/-- What a controller shut down at `v` refuses on any plant, changing nothing: a shutdown, which
answers success; a tick, a start of charging, a pressed button, a state envelope and a run of the
loop, which answer that it is shut down; and a band change of the pilot, which it ignores. -/
structure Refuses (v : World) : Prop where
  shutdown : ∀ p, step p v .shutdown = (v, .ok ())
  tick : ∀ p, step p v .tick = (v, .error .shutDown)
  startCharging : ∀ p, step p v .startCharging =
    (v, .error (.operation "start charging" v.ctl.machine.state .charging .shutDown))
  button : ∀ p channel, step p v (.button channel true) = (v, .error .shutDown)
  envelope : ∀ p bytes s h, Wire.Message.decode bytes = .ok (.stateEnvelope s h) →
    step p v (.message bytes) = (v, .error .shutDown)
  run : ∀ p stop, step p v (.run stop) = (v, .error .shutDown)
  pilot : ∀ p old next, exec (pilotChanged old next) p v = ((), v)

theorem refuses_of_shut {v : World} (h : v.ctl.shutDown = true) : Refuses v where
  shutdown p := step_of_exec (by
    show exec (shutdown >>= fun _ => pure (Except.ok ())) p v = _
    rw [exec_bind, exec_shutdown_shut p h]
    rfl)
  tick p := step_of_exec (by
    show exec tick p v = _
    unfold tick
    rw [exec_ctl_bind, if_pos h]
    rfl)
  startCharging p := step_of_exec (by
    show exec startCharging p v = _
    unfold startCharging
    rw [exec_ctl_bind, if_pos h]
    rfl)
  button p channel := step_of_exec (by
    show exec (button channel true) p v = _
    unfold button
    simp only [Bool.not_true, Bool.false_eq_true, if_false]
    rw [exec_ctl_bind, if_pos h]
    rfl)
  envelope p _ _ _ hd := step_of_exec (envelope_shut hd p h)
  run p stop := step_of_exec (by
    show exec (Control.run stop) p v = _
    unfold Control.run
    rw [exec_ctl_bind, if_pos h]
    rfl)
  pilot p old next := exec_pilotChanged_shut old next p h

/-- The first shutdown answers success and leaves its `ShutdownRecord`, the relay-off attempts stop
at the first the plant takes, and the controller refuses what follows. -/
theorem shutdown_forces_relay_open_once (p : Plant) {w : World} (hs : w.ctl.shutDown = false) :
    (step p w .shutdown).2 = .ok () ∧
      ShutdownRecord p (if w.ctl.machine.state.isActive then stopPath else []) w
        (step p w .shutdown).1 ∧
      ((∃ k < 3, (∀ j < k, (p.writeFault Hardware.relay false j).isSome) ∧
          p.writeFault Hardware.relay false k = none ∧
          relayOffAttempts p = List.replicate k (false, false) ++ [(false, true)]) ∨
        (p.relayOffFails = true ∧ relayOffAttempts p = List.replicate 3 (false, false))) ∧
      ∀ run, Refuses ((step p w .shutdown).1.after run) := by
  have hrec := shutdown_record p hs
  exact ⟨rfl, hrec, relayOffAttempts_shape p,
    fun run => refuses_of_shut (shut_run hrec.shut run).1⟩

/-- A fresh controller shut down on a plant that refuses the first attempt at opening the relay
and takes the second opens it without raising fault 3, and refuses the tick after it. -/
theorem shutdown_retries_relay_opening :
    let w : World := ⟨Controller.new ⟨2000000000, 16, true⟩ none false none, []⟩
    let p : Plant := { Plant.ideal ⟨0, 0⟩ with
      writeFault := fun channel value attempt =>
        if channel == Hardware.relay && !value && attempt == 0 then some "busy" else none }
    w.ctl.shutDown = false ∧ (step p w .shutdown).2 = .ok () ∧
      (step p w .shutdown).1.ctl.relayEnabled = false ∧
      relayOffAttempts p = [(false, false), (false, true)] ∧
      (step p w .shutdown).1.ctl.hasFault .relayWrite = false ∧
      step p (step p w .shutdown).1 .tick = ((step p w .shutdown).1, .error .shutDown) := by
  intro w p
  obtain ⟨hok, hrec, -, hrefuse⟩ := shutdown_forces_relay_open_once p (w := w) rfl
  refine ⟨rfl, hok, hrec.relay, by decide, ?_, (hrefuse []).tick p⟩
  rw [hrec.fault]
  decide

end Evse.Control
