import Evse.Proofs.Control.Books
/-!
What each operation of the controller does to its books.
-/
namespace Evse.Control

open ChargingState

theorem KeepsBooks.books {α : Type} {up : List Fault} {x : Act α} (h : KeepsBooks x) :
    Books up x :=
  Books.of_keepsBooks h

/-- A change of fields the books do not look at. -/
theorem Books.modifyCtl {up : List Fault} {f : Controller → Controller}
    (h : ∀ c, (f c).published = c.published ∧ (f c).faults = c.faults ∧ (f c).lastRx = c.lastRx ∧
      (f c).publishing = c.publishing) : Books up (Control.modifyCtl f) :=
  (KeepsBooks.modifyCtl h).books

section Leaves

variable {up : List Fault}

theorem stopSession_books (reason : String) : Books up (stopSession reason) := by
  unfold stopSession
  refine Along.bind (request_keepsBooks _ _).books fun r => ?_
  split
  · exact Along.pure _
  · exact setRelay_books false

theorem disableSessions_books (source : String) : Books up (disableSessions source) := by
  unfold disableSessions
  refine Along.ctl.bind fun c => ?_
  dsimp only
  have tail : Books up (turnSwitch false s!"Session disabled by {source}") :=
    (turnSwitch_keepsBooks _ _).books
  refine Along.ite (fun _ => ?_) fun _ => tail
  refine Along.bind (KeepsBooks.note _ _).books fun _ => ?_
  refine Along.bind (stopSession_books _) fun r => ?_
  exact Along.bind (noteFailure_keepsBooks _ _ r).books fun _ => tail

theorem startCharging_books : Books up startCharging := by
  unfold startCharging
  refine Along.ctl.bind fun c => ?_
  have failed (op : String) (requested : ChargingState) (e : Failure) :
      Books up (opFailure op requested e) := (opFailure_keepsBooks _ _ _).books
  refine Along.ite (fun _ => failed _ _ _) fun _ => ?_
  refine Along.ite (fun _ => Along.bind (KeepsBooks.note _ _).books fun _ => failed _ _ _)
    fun _ => ?_
  refine Along.bind (request_keepsBooks _ _).books fun r => ?_
  split
  · exact failed _ _ _
  refine Along.bind (setRelay_books true) fun r => ?_
  split
  · refine Along.bind (request_keepsBooks _ _).books fun r => ?_
    exact Along.bind (noteFailure_keepsBooks _ _ r).books fun _ => failed _ _ _
  · exact Along.ctl.bind fun c => Along.bind (KeepsBooks.note _ _).books fun _ => Along.pure _

theorem stopCharging_books : Books up stopCharging := by
  unfold stopCharging
  refine Along.bind (stopSession_books _) fun r => ?_
  split
  · exact (opFailure_keepsBooks _ _ _).books
  · exact Along.pure _

theorem pauseCharging_books : Books up pauseCharging := by
  unfold pauseCharging
  refine Along.bind (request_keepsBooks _ _).books fun r => ?_
  split
  · exact (opFailure_keepsBooks _ _ _).books
  · exact Along.pure _

theorem resumeCharging_books : Books up resumeCharging := by
  unfold resumeCharging
  refine Along.ctl.bind fun c => ?_
  refine Along.ite (fun _ => (opFailure_keepsBooks _ _ _).books) fun _ => ?_
  refine Along.bind (request_keepsBooks _ _).books fun r => ?_
  split
  · exact (opFailure_keepsBooks _ _ _).books
  · exact Along.pure _

theorem switchRelay_books (on : Bool) : Books up (switchRelay on) := by
  unfold switchRelay
  exact Along.ctl.bind fun c => Along.ite (fun _ => Along.pure _) fun _ => setRelay_books on

theorem button_books (channel : String) (pressed : Bool) : Books up (button channel pressed) := by
  unfold button
  refine Along.ite (fun _ => Along.pure _) fun _ => ?_
  refine Along.ctl.bind fun c => Along.ite (fun _ => Along.pure _) fun _ => ?_
  refine Along.bind (KeepsBooks.note _ _).books fun _ => ?_
  refine Along.ctl.bind fun c => ?_
  have last : Books up (do publish; pure (.ok ()) : Act Outcome) :=
    Along.bind publish_books fun _ => Along.pure _
  dsimp only
  exact Along.ite (fun _ => Along.bind (disableSessions_books _) fun _ => last)
    fun _ => Along.bind (turnSwitch_keepsBooks _ _).books fun _ => last

theorem returnToIdle_books (reason : String) : Books up (returnToIdle reason) := by
  unfold returnToIdle
  refine Along.ctl.bind fun c => ?_
  have last (r : Outcome) : Books up (noteFailure .error "Failed to return to idle" r) :=
    (noteFailure_keepsBooks _ _ r).books
  dsimp only
  split
  · exact Along.bind (Along.pure _) last
  · exact Along.bind (request_keepsBooks _ _).books last
  · exact Along.bind (request_keepsBooks _ _).books last
  · refine Along.bind (request_keepsBooks _ _).books fun r => ?_
    split
    · exact Along.bind (request_keepsBooks _ _).books last
    · exact Along.bind (Along.pure _) last
  · exact Along.bind (KeepsBooks.note _ _).books fun _ => Along.bind (Along.pure _) last
  · exact Along.bind (request_keepsBooks _ _).books last

theorem applyIntent_books (intent : ChargingState) : Books up (applyIntent intent) := by
  unfold applyIntent
  refine Along.ctl.bind fun c => ?_
  have plain : KeepsBooks (modifyCtl fun c => { c with peerReady := false }) :=
    KeepsBooks.modifyCtl fun _ => ⟨rfl, rfl, rfl, rfl⟩
  refine Along.bind plain.books fun _ => ?_
  have rejected (intent : ChargingState) (why : String) : Books up (rejectPeer intent why) :=
    Along.bind (KeepsBooks.observe _).books fun _ => (KeepsBooks.note _ _).books
  split
  · exact returnToIdle_books _
  · refine Along.ite (fun _ => rejected _ _) fun _ => Along.ite (fun _ => rejected _ _) fun _ => ?_
    exact Along.bind (Books.modifyCtl fun _ => ⟨rfl, rfl, rfl, rfl⟩) fun _ =>
      (KeepsBooks.note _ _).books
  · refine Along.ite (fun _ => Along.pure _) fun _ => Along.ite (fun _ => rejected _ _) fun _ => ?_
    refine Along.ite (fun _ => rejected _ _) fun _ => Along.ite (fun _ => rejected _ _) fun _ => ?_
    exact Along.bind (request_keepsBooks _ _).books fun r => (noteFailure_keepsBooks _ _ r).books
  · refine Along.ite (fun _ => ?_) fun _ => Along.pure _
    exact Along.bind (request_keepsBooks _ _).books fun r => (noteFailure_keepsBooks _ _ r).books
  · exact (KeepsBooks.note _ _).books

theorem applyContactor_books (on : Bool) : Books up (applyContactor on) := by
  unfold applyContactor
  refine Along.ctl.bind fun c => ?_
  refine Along.ite (fun _ => (KeepsBooks.note _ _).books) fun _ => ?_
  refine Along.ite (fun _ => ?_) fun _ => Along.pure _
  exact Along.bind (setRelay_books on) fun r => (noteFailure_keepsBooks _ _ r).books

theorem applyPeer_books (s : Wire.StateReport) (h : Wire.Hardware) : Books up (applyPeer s h) := by
  unfold applyPeer followEnable followIntent followContactor peerState
  refine Along.ctl.bind fun c => ?_
  refine Along.bind ?_ fun st => ?_
  · split
    · exact Along.pure _
    · refine Along.bind (KeepsBooks.observe _).books fun _ => ?_
      refine Along.bind ?_ fun _ => Along.pure _
      refine Along.ctl.bind fun c => Along.ite (fun _ => ?_) fun _ => Along.pure _
      exact Along.bind (Books.modifyCtl fun _ => ⟨rfl, rfl, rfl, rfl⟩) fun _ =>
        (KeepsBooks.note _ _).books
  refine Along.bind ?_ fun _ => ?_
  · refine Along.ite (fun _ => ?_) fun _ => Along.pure _
    refine Along.bind (KeepsBooks.note _ _).books fun _ => Along.ctl.bind fun c => ?_
    exact Along.ite (fun _ => (turnSwitch_keepsBooks _ _).books) fun _ =>
      Along.ite (fun _ => disableSessions_books _) fun _ => Along.pure _
  refine Along.bind ?_ fun _ => ?_
  · refine Along.ite (fun _ => ?_) fun _ => Along.pure _
    exact Along.bind (KeepsBooks.note _ _).books fun _ => applyIntent_books _
  refine Along.bind ?_ fun _ => ?_
  · refine Along.ite (fun _ => ?_) fun _ => Along.pure _
    exact Along.bind (KeepsBooks.note _ _).books fun _ => applyContactor_books _
  exact Along.bind (Books.modifyCtl fun _ => ⟨rfl, rfl, rfl, rfl⟩) fun _ =>
    Along.pure _

end Leaves

/-! ## The pilot monitor, the watchdog and shutdown -/

/-- The faults a band change may raise: the pilot fault on a change into F. -/
def bandFaults : PilotState → List Fault
  | .f => [.pilot]
  | _ => []

/-- The faults an event of the pilot monitor may raise. -/
def eventFaults : Pilot.Event → List Fault
  | .change _ next => bandFaults next
  | .note _ _ => []

/-- Only a change into F may raise the pilot fault. -/
theorem eventFaults_pilot {e : Pilot.Event} (h : Fault.pilot ∈ eventFaults e) :
    ∃ old, e = .change old .f := by
  cases e with
  | change old next => cases next <;> simp_all [eventFaults, bandFaults]
  | note => simp [eventFaults] at h

theorem pilotChanged_books (old next : PilotState) :
    Books (bandFaults next) (pilotChanged old next) := by
  unfold pilotChanged
  refine Along.ctl.bind fun c => ?_
  dsimp only
  refine Along.ite (fun _ => Along.pure _) fun _ => ?_
  refine Along.bind (Books.modifyCtl fun _ => ⟨rfl, rfl, rfl, rfl⟩) fun _ => ?_
  refine Along.bind (KeepsBooks.observe _).books fun _ => ?_
  refine Along.bind (KeepsBooks.note _ _).books fun _ => ?_
  split
  · refine Along.ctl.bind fun c => Along.ite (fun _ => ?_) fun _ => publish_books
    refine Along.bind (KeepsBooks.note _ _).books fun _ => ?_
    refine Along.bind (stopSession_books _) fun r => ?_
    exact Along.bind (noteFailure_keepsBooks _ _ r).books fun _ => publish_books
  · refine Along.bind (KeepsBooks.note _ _).books fun _ => ?_
    refine Along.bind (reportFault_books (by decide)) fun _ => ?_
    refine Along.bind (setRelay_books false) fun r => ?_
    refine Along.bind (noteFailure_keepsBooks _ _ r).books fun _ => ?_
    refine Along.bind (request_keepsBooks _ _).books fun r => ?_
    exact Along.bind (noteFailure_keepsBooks _ _ r).books fun _ => publish_books
  · exact publish_books

theorem pilotEvents_books (evs : List Pilot.Event) :
    Books (evs.flatMap eventFaults) (pilotEvents evs) := by
  induction evs with
  | nil => exact Along.pure _
  | cons e rest ih =>
    rw [List.flatMap_cons]
    cases e with
    | change old next =>
      exact Along.bind ((pilotChanged_books old next).mono (List.subset_append_left _ _))
        fun _ => ih.mono (List.subset_append_right _ _)
    | note severity text =>
      exact Along.bind (KeepsBooks.emit (Effect.unbooked_note _ _ _)).books fun _ => ih

/-- The faults a run of the pilot monitor may raise from controller `c`, the monitor reporting
`evs m` when it is `m`: those of the band changes reported, unless the controller is shut down and
ignores them. -/
def monitorFaults (evs : Pilot.Monitor → List Pilot.Event) (c : Controller) : List Fault :=
  if c.shutDown then [] else c.pilot.elim [] fun m => (evs m).flatMap eventFaults

/-- Only a change into F reported by the monitor of a controller not shut down raises the pilot
fault. -/
theorem monitorFaults_pilot {evs : Pilot.Monitor → List Pilot.Event} {c : Controller}
    (h : Fault.pilot ∈ monitorFaults evs c) :
    c.shutDown = false ∧ ∃ m old, c.pilot = some m ∧ Pilot.Event.change old .f ∈ evs m := by
  unfold monitorFaults at h
  split at h
  · simp at h
  · next hs =>
    cases hm : c.pilot with
    | none => simp [hm] at h
    | some m =>
      rw [hm] at h
      obtain ⟨e, he, hp⟩ := List.mem_flatMap.mp h
      obtain ⟨old, rfl⟩ := eventFaults_pilot hp
      exact ⟨Bool.eq_false_iff.mpr hs, m, old, rfl, he⟩

/-- The monitor faults read only the monitor and the shutdown flag. -/
theorem monitorFaults_congr (evs : Pilot.Monitor → List Pilot.Event) {c d : Controller}
    (hp : d.pilot = c.pilot) (hs : d.shutDown = c.shutDown) :
    monitorFaults evs d = monitorFaults evs c := by
  unfold monitorFaults
  rw [hp, hs]

/-- Running the pilot monitor raises only what the band changes it reports may raise. -/
theorem withPilot_booked {α : Type} (dflt : α)
    (op : Pilot.Monitor → Pilot.Monitor × List Pilot.Event × α) (p : Plant) (w : World) :
    Booked (monitorFaults (fun m => (op m).2.1) w.ctl) w (exec (withPilot dflt op) p w).2 := by
  cases hm : w.ctl.pilot with
  | none =>
    rw [exec_withPilot_none dflt op hm]
    exact Booked.refl w
  | some m =>
    rw [exec_withPilot_some dflt op hm]
    let w₁ : World := { w with ctl := { w.ctl with pilot := some (op m).1 } }
    have hin : Booked ((op m).2.1.flatMap eventFaults) w w₁ :=
      Booked.of_kept ⟨rfl, rfl, rfl, rfl, [], by simp [w₁], by simp⟩
    have hb := hin.trans ((pilotEvents_books _).booked p w₁)
    unfold monitorFaults
    split
    · next hs => exact hb.of_faults (by rw [pilotEvents_shut (w := w₁) _ hs])
    · simpa [hm] using hb

theorem withPilot_books {α : Type} {up : List Fault} (dflt : α)
    (op : Pilot.Monitor → Pilot.Monitor × List Pilot.Event × α)
    (h : ∀ m, (op m).2.1.flatMap eventFaults ⊆ up) : Books up (withPilot dflt op) :=
  Books.of_booked fun p w => by
    refine (withPilot_booked dflt op p w).mono ?_
    unfold monitorFaults
    split
    · exact List.nil_subset _
    · cases w.ctl.pilot with
      | none => exact List.nil_subset _
      | some m => exact h m

/-- Stopping a monitor reports at most a change to unknown, which raises nothing. -/
theorem stop_eventFaults (m : Pilot.Monitor) : m.stop.2.flatMap eventFaults = [] := by
  unfold Pilot.Monitor.stop
  split
  · rfl
  · split
    · by_cases h : m.state = .unknown <;>
        simp [Pilot.Monitor.update, h, eventFaults, bandFaults]
    · rfl
    · rfl

theorem pilotStop_books {up : List Fault} : Books up pilotStop := by
  unfold pilotStop
  refine withPilot_books _ _ fun m => ?_
  have hs := stop_eventFaults m
  revert hs
  rcases m.stop with ⟨m', evs⟩
  intro hs
  simp [hs]

/-! ## The watchdog -/

/-- How long the peer has been silent at `now`: the clamped time since the last reception, or
the longest span there is when nothing was ever heard. -/
def Controller.silence (c : Controller) (now : Time.Instant) : Int :=
  match c.lastRx with
  | some t => Time.clampNanos (now.unixNanos - t.unixNanos)
  | none => Time.maxNanos

/-- Whether the watchdog trips at `now`: a positive timeout, a closed relay and a silence longer
than the timeout. -/
def Controller.trips (c : Controller) (now : Time.Instant) : Bool :=
  decide (0 < c.settings.peerTimeout) && c.relayEnabled &&
    decide (c.settings.peerTimeout < c.silence now)

/-- What a tripped watchdog does, having found the peer silent for `silent`. -/
def watchdogTrip (silent : Int) : Act Unit := do
  note .warn s!"No peer message for {Time.durationText (Time.roundTo silent Time.millisecond)}, de-energizing relay"
  observe (·.watchdogTrip)
  reportFault .peerTimeout true
  if (← ctl).machine.state.isActive then
    noteFailure .error "Failed to stop charging on peer timeout" (← request .stopCharging "peer timeout")
  noteFailure .error "Watchdog could not de-energize relay" (← setRelay false)

/-- The watchdog trips exactly when `Controller.trips` says, and otherwise does nothing. -/
theorem exec_watchdog (p : Plant) (w : World) :
    exec watchdog p w =
      if w.ctl.trips p.now then exec (watchdogTrip (w.ctl.silence p.now)) p w else ((), w) := by
  unfold watchdog
  rw [exec_ctl_bind]
  by_cases hg : (decide (w.ctl.settings.peerTimeout ≤ 0) || !w.ctl.relayEnabled) = true
  · have ht : w.ctl.trips p.now = false := by
      simp only [Bool.or_eq_true, decide_eq_true_eq, Bool.not_eq_eq_eq_not, Bool.not_true] at hg
      simp only [Controller.trips]
      rcases hg with hg | hg <;> simp [hg]
    rw [if_pos hg, ht, if_neg Bool.false_ne_true]
    rfl
  · rw [if_neg hg, exec_bind, exec_read]
    simp only [Bool.or_eq_true, decide_eq_true_eq, Bool.not_eq_eq_eq_not, Bool.not_true,
      not_or] at hg
    -- the silence the watchdog computes is `Controller.silence`
    change exec (if w.ctl.silence p.now ≤ w.ctl.settings.peerTimeout then pure ()
      else watchdogTrip (w.ctl.silence p.now)) p w = _
    by_cases hs : w.ctl.silence p.now ≤ w.ctl.settings.peerTimeout
    · have ht : w.ctl.trips p.now = false := by simp [Controller.trips, hs]
      rw [if_pos hs, ht, if_neg Bool.false_ne_true]
      rfl
    · have ht : w.ctl.trips p.now = true := by simp [Controller.trips, hg]; omega
      rw [if_neg hs, ht, if_pos rfl]

theorem watchdogTrip_books (silent : Int) : Books [.peerTimeout] (watchdogTrip silent) := by
  unfold watchdogTrip
  refine Along.bind (KeepsBooks.note _ _).books fun _ => ?_
  refine Along.bind (KeepsBooks.observe _).books fun _ => ?_
  refine Along.bind (reportFault_books (by decide)) fun _ => ?_
  have last : Books [.peerTimeout] (do
      noteFailure .error "Watchdog could not de-energize relay" (← setRelay false)) :=
    Along.bind (setRelay_books false) fun r => (noteFailure_keepsBooks _ _ r).books
  refine Along.ctl.bind fun c => Along.ite (fun _ => ?_) fun _ => last
  refine Along.bind (request_keepsBooks _ _).books fun r => ?_
  exact Along.bind (noteFailure_keepsBooks _ _ r).books fun _ => last

/-- The faults the watchdog of controller `c` may raise at `now`: the peer timeout, when it
trips. -/
def watchdogFaults (c : Controller) (now : Time.Instant) : List Fault :=
  if c.trips now then [.peerTimeout] else []

theorem watchdog_booked (p : Plant) (w : World) :
    Booked (watchdogFaults w.ctl p.now) w (exec watchdog p w).2 := by
  rw [exec_watchdog]
  unfold watchdogFaults
  split
  · exact (watchdogTrip_books _).booked p w
  · exact Booked.refl w

/-- The faults a tick of controller `c` may raise at `now`: those of its watchdog, before
shutdown. -/
def tickFaults (c : Controller) (now : Time.Instant) : List Fault :=
  if c.shutDown then [] else watchdogFaults c now

theorem tick_booked (p : Plant) (w : World) :
    Booked (tickFaults w.ctl p.now) w (exec tick p w).2 := by
  unfold tick tickFaults
  rw [exec_ctl_bind]
  split
  · exact Booked.refl w
  · have rest : Books (watchdogFaults w.ctl p.now) (do
        refreshLeds
        let r ← sendStatus
        publish
        pure r) :=
      Along.bind refreshLeds_keepsBooks.books fun _ =>
        Along.bind sendStatus_keepsBooks.books fun _ => Along.bind publish_books fun _ =>
          Along.pure _
    rw [exec_bind]
    exact (watchdog_booked p w).trans (rest.booked p _)

/-! ## Forcing the relay open -/

/-- The answers of a plant to the attempts `is` at opening the relay, in order, up to the first
it takes. -/
def Plant.relayOffTries (p : Plant) : List Nat → List (Nat × Option String)
  | [] => []
  | i :: rest =>
    match p.writeFault Hardware.relay false i with
    | none => [(i, none)]
    | some e => (i, some e) :: p.relayOffTries rest

/-- Whether a plant refuses all three attempts at opening the relay. -/
def Plant.relayOffFails (p : Plant) : Bool :=
  [0, 1, 2].all fun i => (p.writeFault Hardware.relay false i).isSome

/-- A plant refuses all three attempts exactly when it refuses each of them. -/
theorem Plant.relayOffFails_iff (p : Plant) :
    p.relayOffFails = true ↔ ∀ j < 3, (p.writeFault Hardware.relay false j).isSome := by
  simp only [Plant.relayOffFails, List.all_cons, List.all_nil, Bool.and_true, Bool.and_eq_true]
  constructor
  · rintro ⟨h₀, h₁, h₂⟩ j hj
    rcases (by omega : j = 0 ∨ j = 1 ∨ j = 2) with rfl | rfl | rfl <;> assumption
  · intro h
    exact ⟨h 0 (by omega), h 1 (by omega), h 2 (by omega)⟩

/-- The effects of an attempt at opening the relay: its write, and a note when it fails. -/
def relayOffEffects : Nat × Option String → List Effect
  | (_, none) => [.write Hardware.relay false true]
  | (i, some e) => [.write Hardware.relay false false,
      .note .error "Controller" s!"Relay off attempt {i + 1} failed: {e}"]

/-- The metrics after counting the attempts at opening the relay. -/
def relayOffMetrics (tries : List (Nat × Option String)) (m : Option Metrics.Book) :
    Option Metrics.Book :=
  tries.foldl (fun m t => m.map (·.relayWrite false t.2.isNone)) m

/-- The attempts stop at the first the plant takes, attempt `k`, after the failures of those
before it. -/
theorem relayOffTries_mends {p : Plant} (h : p.relayOffFails = false) :
    ∃ k < 3, (∀ j < k, (p.writeFault Hardware.relay false j).isSome) ∧
      p.writeFault Hardware.relay false k = none ∧
      p.relayOffTries [0, 1, 2] =
        ((List.range k).map fun j => (j, p.writeFault Hardware.relay false j)) ++ [(k, none)] := by
  unfold Plant.relayOffFails at h
  cases h₀ : p.writeFault Hardware.relay false 0 with
  | none => exact ⟨0, by omega, fun j hj => absurd hj (by omega), h₀, by simp [Plant.relayOffTries, h₀]⟩
  | some e₀ =>
    cases h₁ : p.writeFault Hardware.relay false 1 with
    | none =>
      refine ⟨1, by omega, fun j hj => ?_, h₁, by simp [Plant.relayOffTries, h₀, h₁]⟩
      obtain rfl : j = 0 := by omega
      simp [h₀]
    | some e₁ =>
      cases h₂ : p.writeFault Hardware.relay false 2 with
      | none =>
        refine ⟨2, by omega, fun j hj => ?_, h₂,
          by simp [Plant.relayOffTries, h₀, h₁, h₂, List.range_succ]⟩
        rcases (by omega : j = 0 ∨ j = 1) with rfl | rfl <;> simp [h₀, h₁]
      | some e₂ => simp [h₀, h₁, h₂] at h

/-- A plant that refuses all three attempts is asked three times. -/
theorem relayOffTries_fails {p : Plant} (h : p.relayOffFails = true) :
    p.relayOffTries [0, 1, 2] = [0, 1, 2].map fun j => (j, p.writeFault Hardware.relay false j) := by
  have hs := p.relayOffFails_iff.mp h
  obtain ⟨e₀, h₀⟩ := Option.isSome_iff_exists.mp (hs 0 (by omega))
  obtain ⟨e₁, h₁⟩ := Option.isSome_iff_exists.mp (hs 1 (by omega))
  obtain ⟨e₂, h₂⟩ := Option.isSome_iff_exists.mp (hs 2 (by omega))
  simp [Plant.relayOffTries, h₀, h₁, h₂]

/-- Attempts at opening the relay publish nothing and report no fault. -/
theorem relayOffEffects_unrecorded (tries : List (Nat × Option String)) :
    accepted (tries.flatMap relayOffEffects) = [] ∧
      ∀ f, reports f (tries.flatMap relayOffEffects) = [] := by
  induction tries with
  | nil => exact ⟨rfl, fun _ => rfl⟩
  | cons t rest ih =>
    have head : accepted (relayOffEffects t) = [] ∧ ∀ f, reports f (relayOffEffects t) = [] := by
      obtain ⟨i, _ | e⟩ := t <;> exact ⟨rfl, fun _ => rfl⟩
    rw [List.flatMap_cons, accepted_append, head.1, ih.1]
    exact ⟨rfl, fun f => by rw [reports_append, head.2, ih.2]; rfl⟩

/-- Forcing the relay open: the attempts up to the first the plant takes, each failure noted, then
fault 3 when all three fail. Either way the relay is recorded open. -/
theorem exec_forceRelayOff (p : Plant) (w : World) :
    (exec forceRelayOff p w).2 =
      let tries := p.relayOffTries [0, 1, 2]
      let c := { w.ctl with metrics := relayOffMetrics tries w.ctl.metrics }
      if p.relayOffFails then
        ⟨{ c.report .relayWrite true with relayEnabled := false },
          w.trace ++ tries.flatMap relayOffEffects ++ reportEffects p c .relayWrite true⟩
      else ⟨{ c with relayEnabled := false }, w.trace ++ tries.flatMap relayOffEffects⟩ := by
  unfold forceRelayOff Plant.relayOffFails
  cases h₀ : p.writeFault Hardware.relay false 0 with
  | none =>
    simp [exec_bind, List.forIn_cons, writeLine, exec_read, exec_emit, exec_observe, h₀,
      Plant.relayOffTries, relayOffEffects, relayOffMetrics, exec_modifyCtl]
  | some e₀ =>
    cases h₁ : p.writeFault Hardware.relay false 1 with
    | none =>
      simp [exec_bind, List.forIn_cons, writeLine, exec_read, exec_emit, exec_observe, h₀, h₁,
        Plant.relayOffTries, relayOffEffects, relayOffMetrics, exec_modifyCtl, exec_note]
    | some e₁ =>
      cases h₂ : p.writeFault Hardware.relay false 2 with
      | none =>
        simp [exec_bind, List.forIn_cons, writeLine, exec_read, exec_emit, exec_observe, h₀, h₁,
          h₂, Plant.relayOffTries, relayOffEffects, relayOffMetrics, exec_modifyCtl, exec_note]
      | some e₂ =>
        simp [exec_bind, List.forIn_cons, List.forIn_nil, writeLine, exec_read, exec_emit,
          exec_observe, h₀, h₁, h₂, Plant.relayOffTries, relayOffEffects, relayOffMetrics,
          exec_modifyCtl, exec_note, exec_reportFault]

/-- Forcing the relay open keeps the books: attempts that end with one the plant takes change no
fault, three that fail raise fault 3. -/
theorem forceRelayOff_books {up : List Fault} : Books up forceRelayOff :=
  Books.of_booked fun p w => by
    rw [exec_forceRelayOff]
    obtain ⟨ha, hr⟩ := relayOffEffects_unrecorded (p.relayOffTries [0, 1, 2])
    dsimp only
    split
    · next hf =>
      obtain ⟨e₀, he₀⟩ := Option.isSome_iff_exists.mp (p.relayOffFails_iff.mp hf 0 (by omega))
      refine Booked.of_failedRelay p _ ha hr ⟨false, ?_⟩ rfl rfl rfl rfl rfl
      simp [relayOffTries_fails hf, he₀, relayOffEffects]
    · next hf =>
      obtain ⟨k, -, -, -, ht⟩ := relayOffTries_mends (Bool.eq_false_iff.mpr hf)
      refine ⟨fun hl => hl.grow rfl rfl rfl _ rfl ha hr, rfl, _, rfl, LatchMoves.of_mended rfl ?_⟩
      rw [ht, List.flatMap_append]
      exact not_unmendedFailure_opened _

theorem shutdown_books {up : List Fault} : Books up shutdown := by
  unfold shutdown
  refine Along.ctl.bind fun c => Along.ite (fun _ => Along.pure _) fun _ => ?_
  refine Along.bind (Books.modifyCtl fun _ => ⟨rfl, rfl, rfl, rfl⟩) fun _ => ?_
  refine Along.bind (KeepsBooks.note _ _).books fun _ => ?_
  refine Along.bind pilotStop_books fun _ => ?_
  refine Along.bind (KeepsBooks.emit ⟨rfl, fun _ => rfl, rfl⟩).books fun _ => ?_
  have final : Books up (do
      forceRelayOff
      publish
      note .info "Session controller shut down, relay off") :=
    Along.bind forceRelayOff_books fun _ =>
      Along.bind publish_books fun _ => (KeepsBooks.note _ _).books
  have stop : Books up (do
      if (← ctl).machine.state.isActive then
        noteFailure .warn "Failed to stop charging on shutdown" (← request .stopCharging "shutdown")
      forceRelayOff
      publish
      note .info "Session controller shut down, relay off") := by
    refine Along.ctl.bind fun c => ?_
    dsimp only
    refine Along.ite (fun _ => ?_) fun _ => final
    refine Along.bind (request_keepsBooks _ _).books fun r => ?_
    exact Along.bind (noteFailure_keepsBooks _ _ r).books fun _ => final
  refine Along.read.bind fun q => ?_
  dsimp only
  split
  · exact Along.bind (KeepsBooks.note _ _).books fun _ => stop
  · exact stop

theorem run_booked (stop : RunEnd) (p : Plant) (w : World) :
    Booked (tickFaults w.ctl p.now) w (exec (run stop) p w).2 := by
  unfold run
  rw [exec_ctl_bind]
  split
  · exact Booked.refl w
  · next hs =>
    rw [exec_bind]
    refine (tick_booked p w).trans (Books.booked ?_ p _)
    dsimp only
    cases stop with
    | cancel =>
      split
      · exact Along.bind (KeepsBooks.note _ _).books fun _ => Along.pure _
      · exact Along.pure _
    | shutdown =>
      have last : Books (tickFaults w.ctl p.now) (do shutdown; pure (.ok ()) : Act Outcome) :=
        Along.bind shutdown_books fun _ => Along.pure _
      split
      · exact Along.bind (KeepsBooks.note _ _).books fun _ => last
      · exact last

end Evse.Control
