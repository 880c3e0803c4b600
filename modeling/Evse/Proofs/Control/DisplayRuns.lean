import Evse.Proofs.Control.Display
/-!
What the controller shows along every run that keeps its own listener.
-/
namespace Evse.Control

open ChargingState

/-! ## Every input -/

section Inputs

variable {P : Plant → Prop}

theorem refreshLeds_shows : Shows P refreshLeds :=
  Shows.of fun _ hp _ hw =>
    ⟨(refreshLeds_displays hp hw.toPending).1, (refreshLeds_displays hp hw.toPending).2.2⟩

theorem stopSession_shows (reason : String) : Shows P (stopSession reason) := by
  unfold stopSession
  refine Along.bind (request_shows _ _) fun r => ?_
  split
  · exact Along.pure _
  · exact Shows.of_plain (setRelay_plain _)

theorem enableSessions_shows (source : String) : Shows P (enableSessions source) :=
  turnSwitch_shows true (by simp [Effect.opensSession, toString_string])

theorem disableSessions_shows (source : String) : Shows P (disableSessions source) := by
  have tail : Shows P (turnSwitch false (toString "Session disabled by " ++ toString source)) :=
    turnSwitch_shows false (by simp [Effect.opensSession, toString_string])
  unfold disableSessions
  refine Along.ctl.bind fun c => ?_
  dsimp only
  refine Along.ite (fun _ => ?_) fun _ => tail
  refine Along.bind (Shows.note (by decide)) fun _ => ?_
  refine Along.bind (stopSession_shows _) fun r => ?_
  exact Along.bind (Shows.of_plain (noteFailure_plain (by decide) _ r)) fun _ => tail

theorem pilotChanged_shows (old next : PilotState) : Shows P (pilotChanged old next) := by
  unfold pilotChanged
  refine Along.ctl.bind fun c => ?_
  dsimp only
  refine Along.ite (fun _ => Along.pure _) fun _ => ?_
  refine Along.bind (Shows.of_plain (Plain.modifyCtl fun _ => rfl)) fun _ => ?_
  refine Along.bind (Shows.of_plain (Plain.observe _)) fun _ => ?_
  refine Along.bind (Shows.note (by simp [Effect.opensSession, toString_string])) fun _ => ?_
  have last : Shows P publish := Shows.of_plain publish_plain
  split
  · refine Along.ctl.bind fun c => Along.ite (fun _ => ?_) fun _ => last
    refine Along.bind (Shows.note_of_ne_info (by decide)) fun _ => ?_
    refine Along.bind (stopSession_shows _) fun r => ?_
    exact Along.bind (Shows.of_plain (noteFailure_plain (by decide) _ r)) fun _ => last
  · refine Along.bind (Shows.note_of_ne_info (by decide)) fun _ => ?_
    refine Along.bind (Shows.of_plain (reportFault_plain _ _)) fun _ => ?_
    refine Along.bind (Shows.of_plain (setRelay_plain _)) fun r => ?_
    refine Along.bind (Shows.of_plain (noteFailure_plain (by decide) _ r)) fun _ => ?_
    refine Along.bind (request_shows _ _) fun r => ?_
    exact Along.bind (Shows.of_plain (noteFailure_plain (by decide) _ r)) fun _ => last
  · exact last

theorem pilotEvents_shows (evs : List Pilot.Event) : Shows P (pilotEvents evs) := by
  induction evs with
  | nil => exact Along.pure _
  | cons e rest ih =>
    cases e with
    | change old next => exact Along.bind (pilotChanged_shows old next) fun _ => ih
    | note severity text =>
      exact Along.bind (Shows.of_plain (Plain.emit ⟨by cases severity <;> rfl, rfl⟩)) fun _ => ih

theorem withPilot_shows {α : Type} (dflt : α)
    (f : Pilot.Monitor → Pilot.Monitor × List Pilot.Event × α) : Shows P (withPilot dflt f) := by
  unfold withPilot
  refine Along.ctl.bind fun c => ?_
  split
  · exact Along.pure _
  · next m _ =>
    split
    next m' evs a hf =>
    refine Along.bind (Shows.of_plain (Plain.modifyCtl fun _ => rfl)) fun _ => ?_
    exact Along.bind (pilotEvents_shows evs) fun _ => Along.pure _

theorem startUp_shows : Shows P startUp := by
  unfold startUp
  refine Along.ctl.bind fun c => ?_
  refine Along.bind (Shows.note (by simp [Effect.opensSession, toString_string])) fun _ => ?_
  refine Along.bind (Shows.of_plain (setRelay_plain _)) fun r => ?_
  split
  · exact Along.pure _
  · refine Along.read.bind fun q => ?_
    refine Along.bind (Shows.of_plain (Plain.modifyCtl fun _ => rfl)) fun _ => ?_
    refine Along.bind refreshLeds_shows fun _ => ?_
    refine Along.read.bind fun q => ?_
    refine Along.bind (Shows.of_plain (Plain.emit ⟨rfl, rfl⟩)) fun _ => ?_
    split
    · exact Along.pure _
    · refine Along.bind (withPilot_shows _ _) fun r => ?_
      split
      · exact Along.pure _
      · exact Along.bind (Shows.note (by decide)) fun _ => Along.pure _

theorem watchdog_shows : Shows P watchdog := by
  unfold watchdog
  refine Along.ctl.bind fun c => ?_
  dsimp only
  refine Along.ite (fun _ => Along.pure _) fun _ => ?_
  refine Along.read.bind fun q => ?_
  refine Along.ite (fun _ => Along.pure _) fun _ => ?_
  refine Along.bind (Shows.note_of_ne_info (by decide)) fun _ => ?_
  refine Along.bind (Shows.of_plain (Plain.observe _)) fun _ => ?_
  refine Along.bind (Shows.of_plain (reportFault_plain _ _)) fun _ => ?_
  have last : Shows P (do
      noteFailure .error "Watchdog could not de-energize relay" (← setRelay false)) :=
    Along.bind (Shows.of_plain (setRelay_plain _)) fun r =>
      Shows.of_plain (noteFailure_plain (by decide) _ r)
  refine Along.ctl.bind fun c => Along.ite (fun _ => ?_) fun _ => last
  refine Along.bind (request_shows _ _) fun r => ?_
  exact Along.bind (Shows.of_plain (noteFailure_plain (by decide) _ r)) fun _ => last

theorem tick_shows : Shows P tick := by
  unfold tick
  refine Along.ctl.bind fun c => Along.ite (fun _ => Along.pure _) fun _ => ?_
  refine Along.bind watchdog_shows fun _ => ?_
  refine Along.bind refreshLeds_shows fun _ => ?_
  refine Along.bind (Shows.of_plain sendStatus_plain) fun r => ?_
  exact Along.bind (Shows.of_plain publish_plain) fun _ => Along.pure _

theorem shutdown_shows : Shows P shutdown := by
  unfold shutdown
  refine Along.ctl.bind fun c => Along.ite (fun _ => Along.pure _) fun _ => ?_
  refine Along.bind (Shows.of_plain (Plain.modifyCtl fun _ => rfl)) fun _ => ?_
  refine Along.bind (Shows.note (by decide)) fun _ => ?_
  refine Along.bind (withPilot_shows _ _) fun _ => ?_
  refine Along.bind (Shows.of_plain (Plain.emit ⟨rfl, rfl⟩)) fun _ => ?_
  have final : Shows P (do
      forceRelayOff
      publish
      note .info "Session controller shut down, relay off") :=
    Along.bind (Shows.of_plain forceRelayOff_plain) fun _ =>
      Along.bind (Shows.of_plain publish_plain) fun _ => Shows.note (by decide)
  have stop : Shows P (do
      if (← ctl).machine.state.isActive then
        noteFailure .warn "Failed to stop charging on shutdown" (← request .stopCharging "shutdown")
      forceRelayOff
      publish
      note .info "Session controller shut down, relay off") := by
    refine Along.ctl.bind fun c => ?_
    dsimp only
    refine Along.ite (fun _ => ?_) fun _ => final
    refine Along.bind (request_shows _ _) fun r => ?_
    exact Along.bind (Shows.of_plain (noteFailure_plain (by decide) _ r)) fun _ => final
  refine Along.read.bind fun q => ?_
  dsimp only
  split
  · exact Along.bind (Shows.note_of_ne_info (by decide)) fun _ => stop
  · exact stop

theorem run_shows (stop : RunEnd) : Shows P (run stop) := by
  unfold run
  refine Along.ctl.bind fun c => Along.ite (fun _ => Along.pure _) fun _ => ?_
  refine Along.bind tick_shows fun r => ?_
  dsimp only
  cases stop with
  | cancel =>
    split
    · exact Along.bind (Shows.note_of_ne_info (by decide)) fun _ => Along.pure _
    · exact Along.pure _
  | shutdown =>
    have last : Shows P (do shutdown; pure (.ok ()) : Act Outcome) :=
      Along.bind shutdown_shows fun _ => Along.pure _
    split
    · exact Along.bind (Shows.note_of_ne_info (by decide)) fun _ => last
    · exact last

theorem pilotStart_shows : Shows P pilotStart := by
  unfold pilotStart
  refine Along.bind (withPilot_shows _ _) fun r => ?_
  split <;> exact Along.pure _

theorem startCharging_shows : Shows P startCharging := by
  unfold startCharging
  have failed (op : String) (requested : ChargingState) (e : Failure) :
      Shows P (opFailure op requested e) := Shows.of_plain (opFailure_plain _ _ _)
  refine Along.ctl.bind fun c => Along.ite (fun _ => failed _ _ _) fun _ => ?_
  refine Along.ite (fun _ => ?_) fun _ => ?_
  · exact Along.bind (Shows.note_of_ne_info (by decide)) fun _ => failed _ _ _
  refine Along.bind (request_shows _ _) fun r => ?_
  split
  · exact failed _ _ _
  refine Along.bind (Shows.of_plain (setRelay_plain _)) fun r => ?_
  split
  · refine Along.bind (request_shows _ _) fun r => ?_
    exact Along.bind (Shows.of_plain (noteFailure_plain (by decide) _ r)) fun _ => failed _ _ _
  · refine Along.ctl.bind fun c => ?_
    exact Along.bind (Shows.note (by simp [Effect.opensSession, toString_string]))
      fun _ => Along.pure _

theorem stopCharging_shows : Shows P stopCharging := by
  unfold stopCharging
  refine Along.bind (stopSession_shows _) fun r => ?_
  split
  · exact Shows.of_plain (opFailure_plain _ _ _)
  · exact Along.pure _

theorem pauseCharging_shows : Shows P pauseCharging := by
  unfold pauseCharging
  refine Along.bind (request_shows _ _) fun r => ?_
  split
  · exact Shows.of_plain (opFailure_plain _ _ _)
  · exact Along.pure _

theorem resumeCharging_shows : Shows P resumeCharging := by
  unfold resumeCharging
  refine Along.ctl.bind fun c => ?_
  refine Along.ite (fun _ => Shows.of_plain (opFailure_plain _ _ _)) fun _ => ?_
  refine Along.bind (request_shows _ _) fun r => ?_
  split
  · exact Shows.of_plain (opFailure_plain _ _ _)
  · exact Along.pure _

theorem reset_shows : Shows P reset := by
  unfold reset
  refine Along.bind (request_shows _ _) fun r => ?_
  split
  · exact Shows.of_plain (opFailure_plain _ _ _)
  · refine Along.read.bind fun q => ?_
    refine Along.bind (Along.forIn _ _ fun f _ u => ?_) fun _ => Along.pure _
    refine Along.ctl.bind fun c => ?_
    exact Along.ite (fun _ => Along.bind (Shows.of_plain (reportFault_plain _ _)) fun _ =>
      Along.pure _) fun _ => Along.pure _

theorem switchRelay_shows (on : Bool) : Shows P (switchRelay on) := by
  unfold switchRelay
  exact Along.ctl.bind fun c => Along.ite (fun _ => Along.pure _) fun _ =>
    Shows.of_plain (setRelay_plain on)

theorem command_shows (text : String) : Shows P (command text) := by
  unfold command
  refine Along.bind (Shows.note_of_ne_info (by decide)) fun _ => ?_
  split
  · exact startCharging_shows
  · exact stopCharging_shows
  · exact pauseCharging_shows
  · exact resumeCharging_shows
  · exact Along.bind (enableSessions_shows _) fun _ => Along.pure _
  · exact Along.bind (disableSessions_shows _) fun _ => Along.pure _
  · exact reset_shows
  · exact switchRelay_shows true
  · exact switchRelay_shows false
  · exact Along.pure _

theorem button_shows (channel : String) (pressed : Bool) : Shows P (button channel pressed) := by
  unfold button
  refine Along.ite (fun _ => Along.pure _) fun _ => ?_
  refine Along.ctl.bind fun c => Along.ite (fun _ => Along.pure _) fun _ => ?_
  refine Along.bind (Shows.note (by simp [Effect.opensSession, toString_string])) fun _ => ?_
  refine Along.ctl.bind fun c => ?_
  have last : Shows P (do publish; pure (.ok ()) : Act Outcome) :=
    Along.bind (Shows.of_plain publish_plain) fun _ => Along.pure _
  dsimp only
  exact Along.ite (fun _ => Along.bind (disableSessions_shows _) fun _ => last)
    fun _ => Along.bind (enableSessions_shows _) fun _ => last

theorem returnToIdle_shows (reason : String) : Shows P (returnToIdle reason) := by
  unfold returnToIdle
  refine Along.ctl.bind fun c => ?_
  have last (r : Outcome) : Shows P (noteFailure .error "Failed to return to idle" r) :=
    Shows.of_plain (noteFailure_plain (by decide) _ r)
  dsimp only
  split
  · exact Along.bind (Along.pure _) last
  · exact Along.bind (request_shows _ _) last
  · exact Along.bind (request_shows _ _) last
  · refine Along.bind (request_shows _ _) fun r => ?_
    split
    · exact Along.bind (request_shows _ _) last
    · exact Along.bind (Along.pure _) last
  · exact Along.bind (Shows.note_of_ne_info (by decide)) fun _ => Along.bind (Along.pure _) last
  · exact Along.bind (request_shows _ _) last

theorem applyIntent_shows (intent : ChargingState) : Shows P (applyIntent intent) := by
  unfold applyIntent
  refine Along.ctl.bind fun c => ?_
  refine Along.bind (Shows.of_plain (Plain.modifyCtl fun _ => rfl)) fun _ => ?_
  have rejected (intent : ChargingState) (why : String) : Shows P (rejectPeer intent why) :=
    Shows.of_plain (rejectPeer_plain _ _)
  split
  · exact returnToIdle_shows _
  · refine Along.ite (fun _ => rejected _ _) fun _ => Along.ite (fun _ => rejected _ _) fun _ => ?_
    exact Along.bind (Shows.of_plain (Plain.modifyCtl fun _ => rfl)) fun _ => Shows.note (by decide)
  · refine Along.ite (fun _ => Along.pure _) fun _ => Along.ite (fun _ => rejected _ _) fun _ => ?_
    refine Along.ite (fun _ => rejected _ _) fun _ => Along.ite (fun _ => rejected _ _) fun _ => ?_
    exact Along.bind (request_shows _ _) fun r => Shows.of_plain (noteFailure_plain (by decide) _ r)
  · refine Along.ite (fun _ => ?_) fun _ => Along.pure _
    exact Along.bind (request_shows _ _) fun r => Shows.of_plain (noteFailure_plain (by decide) _ r)
  · exact Shows.note_of_ne_info (by decide)

theorem applyContactor_shows (on : Bool) : Shows P (applyContactor on) := by
  unfold applyContactor
  refine Along.ctl.bind fun c => ?_
  refine Along.ite (fun _ => Shows.note_of_ne_info (by decide)) fun _ => ?_
  refine Along.ite (fun _ => ?_) fun _ => Along.pure _
  exact Along.bind (Shows.of_plain (setRelay_plain on)) fun r =>
    Shows.of_plain (noteFailure_plain (by decide) _ r)

theorem followEnable_shows (prev next : Bool) : Shows P (followEnable prev next) := by
  unfold followEnable
  refine Along.ite (fun _ => ?_) fun _ => Along.pure _
  refine Along.bind (Shows.note (by simp [Effect.opensSession, toString_string])) fun _ => ?_
  refine Along.ctl.bind fun c => ?_
  exact Along.ite (fun _ => enableSessions_shows _) fun _ =>
    Along.ite (fun _ => disableSessions_shows _) fun _ => Along.pure _

theorem followIntent_shows (prev next : ChargingState) : Shows P (followIntent prev next) := by
  unfold followIntent
  refine Along.ite (fun _ => ?_) fun _ => Along.pure _
  exact Along.bind (Shows.note (by simp [Effect.opensSession, toString_string]))
    fun _ => applyIntent_shows _

theorem followContactor_shows (prev next : Bool) : Shows P (followContactor prev next) := by
  unfold followContactor
  refine Along.ite (fun _ => ?_) fun _ => Along.pure _
  exact Along.bind (Shows.note (by simp [Effect.opensSession, toString_string]))
    fun _ => applyContactor_shows _

theorem applyPeer_shows (s : Wire.StateReport) (h : Wire.Hardware) : Shows P (applyPeer s h) := by
  unfold applyPeer
  refine Along.ctl.bind fun c => ?_
  refine Along.bind (Shows.of_plain (peerState_plain _ _)) fun st => ?_
  refine Along.bind (followEnable_shows _ _) fun _ => ?_
  refine Along.bind (followIntent_shows _ _) fun _ => ?_
  refine Along.bind (followContactor_shows _ _) fun _ => ?_
  exact Along.bind (Shows.of_plain (Plain.modifyCtl fun _ => rfl)) fun _ => Along.pure _

theorem handleMessage_shows (bytes : List UInt8) : Shows P (handleMessage bytes) := by
  unfold handleMessage
  have ignored (text : String) : Shows P (do note .debug text; pure (.ok ()) : Act Outcome) :=
    Along.bind (Shows.note_of_ne_info (by decide)) fun _ => Along.pure _
  refine Along.ite (fun _ => ?_) fun _ => ?_
  · refine Along.ctl.bind fun c => ?_
    dsimp only
    split
    · exact Along.ite (fun _ => Along.bind (withPilot_shows _ _) fun _ => Along.pure _)
        fun _ => ignored _
    · exact ignored _
  split
  · refine Along.bind (Shows.of_plain (Plain.observe _)) fun _ => ?_
    exact Along.bind (Shows.of_plain (noteMalformed_plain _)) fun _ => Along.pure _
  · refine Along.ctl.bind fun c => Along.ite (fun _ => Along.pure _) fun _ => ?_
    refine Along.bind (Shows.of_plain peerHeard_plain) fun _ => ?_
    refine Along.bind (applyPeer_shows _ _) fun changed => ?_
    dsimp only
    refine Along.ite (fun _ => ?_) fun _ => Along.pure _
    refine Along.bind (Shows.of_plain sendStatus_plain) fun r => ?_
    refine Along.bind (Shows.of_plain (noteFailure_plain (by decide) _ r)) fun _ => ?_
    exact Along.bind (Shows.of_plain publish_plain) fun _ => Along.pure _
  · exact ignored _

/-- Every input keeps what the controller shows, on every plant of `P`. -/
theorem Input.act_shows (i : Input) : Shows P i.act := by
  cases i with
  | startUp => exact startUp_shows
  | startCharging => exact startCharging_shows
  | stopCharging => exact stopCharging_shows
  | pauseCharging => exact pauseCharging_shows
  | resumeCharging => exact resumeCharging_shows
  | reset => exact reset_shows
  | enable => exact Along.bind (enableSessions_shows _) fun _ => Along.pure _
  | disable => exact Along.bind (disableSessions_shows _) fun _ => Along.pure _
  | relay on => exact switchRelay_shows on
  | command text => exact command_shows text
  | button channel pressed => exact button_shows channel pressed
  | tick => exact tick_shows
  | message bytes => exact handleMessage_shows bytes
  | pilotStart => exact pilotStart_shows
  | pilotStop | pilotSample _ _ => exact Along.bind (withPilot_shows _ _) fun _ => Along.pure _
  | shutdown => exact Along.bind shutdown_shows fun _ => Along.pure _
  | run stop => exact run_shows stop

end Inputs

/-! ## Runs that keep the own listener -/

/-- The worlds a controller reaches from its construction on plants of `P` while its own
listener stays subscribed: a step on any input, and listeners subscribed and unsubscribed
between steps, by any id but the controller's own. -/
inductive Tended (P : Plant → Prop) : World → Prop
  | new (settings : Settings) (pilot : Option Pilot.Monitor) (publishing : Bool)
      (metrics : Option Metrics.Book) :
      Tended P ⟨Controller.new settings pilot publishing metrics, []⟩
  | step {w : World} (p : Plant) (i : Input) : P p → Tended P w → Tended P (step p w i).1
  | subscribe {w : World} : Tended P w → Tended P { w with ctl := w.ctl.subscribe.1 }
  | unsubscribe {w : World} (id : Nat) : id ≠ w.ctl.ownListener → Tended P w →
      Tended P { w with ctl := w.ctl.unsubscribe id }

section Tended

variable {P : Plant → Prop} {w : World}

theorem Tended.reachable (h : Tended P w) : Reachable P w := by
  induction h with
  | new settings pilot publishing metrics => exact .new settings pilot publishing metrics
  | step p i hp _ ih => exact .step p i hp ih
  | subscribe _ ih => exact .subscribe ih
  | unsubscribe id _ _ ih => exact .unsubscribe id ih

theorem Displays.new (settings : Settings) (pilot : Option Pilot.Monitor) (publishing : Bool)
    (metrics : Option Metrics.Book) :
    Displays P ⟨Controller.new settings pilot publishing metrics, []⟩ := by
  refine ⟨⟨⟨rfl, rfl, by simp [Controller.new, Machine.initial, Machine.subscribe], ?_⟩, ?_, ?_⟩,
    ?_⟩
  · simp [Controller.new, Machine.initial, Machine.subscribe]
  · exact ⟨fun _ => rfl, by simp [Controller.new, Machine.initial, Machine.subscribe,
      ChargingState.inSession], Or.inl rfl, rfl⟩
  · exact ⟨fun q hq => by simp [Controller.new] at hq, fun _ x hx => by simp at hx,
      fun x hx => by simp at hx⟩
  · intro q hq
    simp [Controller.new] at hq

/-- Other listeners come and go without touching what the controller shows, as long as its own
stays first. -/
theorem Displays.relisten (h : Displays P w) {m : Machine} (hm : OwnFirst w.ctl.ownListener m)
    (hs : m.state = w.ctl.machine.state) :
    Displays P { w with ctl := { w.ctl with machine := m } } := by
  refine ⟨⟨hm, h.session.congr hs rfl rfl rfl, h.leds.congr rfl rfl⟩, ?_⟩
  intro q hq
  rw [h.current q hq]
  exact congrArg (LedPattern.forState · w.ctl.sessionEnabled) hs.symm

theorem Tended.displays (h : Tended P w) : Displays P w := by
  induction h with
  | new settings pilot publishing metrics => exact Displays.new settings pilot publishing metrics
  | step p i hp _ ih => exact ((Input.act_shows i).run hp ih).1
  | subscribe _ ih => exact ih.relisten ih.own.subscribe rfl
  | unsubscribe id hid _ ih => exact ih.relisten (ih.own.unsubscribe hid) rfl

theorem Displays.shown (h : Displays P w) {q : LedPattern} (hq : w.ctl.leds = some q) :
    (LedPattern.forState w.ctl.machine.state w.ctl.sessionEnabled).Shown (ledWrites w.trace) := by
  rw [← h.current q hq]
  exact h.leds.cached q hq

/-- A last LED write that succeeded leaves a pattern cached. -/
theorem Displays.cached_of_last (h : Displays P w) {x : String × Bool × Bool}
    (hx : (ledWrites w.trace).getLast? = some x) (hok : x.2.2 = true) :
    ∃ q, w.ctl.leds = some q := by
  cases hl : w.ctl.leds with
  | none => exact absurd (h.leds.forgotten hl x hx) (by simp [hok])
  | some q => exact ⟨q, rfl⟩

end Tended

/-- A tick of a running controller on a plant whose LED writes never fail ends with the pattern
of its state and session switch cached. -/
theorem tick_caches {p : Plant} (hleds : p.LedsWork) {w : World} (hs : w.ctl.shutDown = false) :
    (exec tick p w).2.ctl.leds = some (LedPattern.forState (exec tick p w).2.ctl.machine.state
      (exec tick p w).2.ctl.sessionEnabled) := by
  unfold tick
  rw [exec_ctl_bind, if_neg (by simp [hs])]
  simp only [exec_bind, exec_pure]
  obtain ⟨hl, hm, he⟩ := refreshLeds_caches hleds (exec watchdog p w).2
  obtain ⟨hl', hm', he'⟩ :=
    ((sendStatus_plain.unseen p (exec refreshLeds p (exec watchdog p w).2).2).trans
      (publish_plain.unseen p _)).leds
  rw [hl', hm', he', hl, hm, he]

/-! ## What the controller shows along a run -/

/-- Along every run that keeps the controller's own listener, the session id follows the state and
the draws made. -/
theorem session_id_follows_state {P : Plant → Prop} {w : World} (h : Tended P w) :
    (w.ctl.machine.state = idle ∨ w.ctl.machine.state = off → w.ctl.sessionId = "") ∧
      (w.ctl.machine.state.inSession = true →
        w.ctl.sessionId.length = 16 ∧ (∀ c ∈ w.ctl.sessionId.toList, Hex.IsDigit c) ∧
          0 < w.ctl.sessionsDrawn ∧
          ∃ p, P p ∧ w.ctl.sessionId = sessionIdAt p.entropy (w.ctl.sessionsDrawn - 1)) ∧
      w.ctl.sessionsDrawn = w.trace.countP Effect.opensSession ∧
      ∀ p i, P p → SessionTrail w (step p w i).1 := by
  have hd := h.displays
  refine ⟨hd.session.rest, fun hs => ?_, hd.session.drawn, fun p i hp => ?_⟩
  · obtain hempty | ⟨hpos, q, hq, hid⟩ := hd.session.latest
    · exact absurd hempty (hd.session.session hs)
    · rw [hid]
      exact ⟨(sessionIdAt_lower _ _).1, (sessionIdAt_lower _ _).2, hpos, q, hq, rfl⟩
  · rw [step_eq]
    exact ((Input.act_shows i).run hp hd).2

theorem session_id_after_start :
    let w₀ : World := ⟨Controller.new ⟨2000000000, 16, true⟩ none true none, []⟩
    let w := (step (Plant.ideal ⟨0, 0⟩) (step (Plant.ideal ⟨0, 0⟩) w₀ .startUp).1
      .startCharging).1
    Tended (fun _ => True) w ∧
      ((w.ctl.machine.state = idle ∨ w.ctl.machine.state = off → w.ctl.sessionId = "") ∧
      (w.ctl.machine.state.inSession = true →
        w.ctl.sessionId.length = 16 ∧ (∀ c ∈ w.ctl.sessionId.toList, Hex.IsDigit c) ∧
          0 < w.ctl.sessionsDrawn ∧
          ∃ p : Plant, True ∧ w.ctl.sessionId = sessionIdAt p.entropy (w.ctl.sessionsDrawn - 1)) ∧
      w.ctl.sessionsDrawn = w.trace.countP Effect.opensSession ∧
      ∀ p i, True → SessionTrail w (step p w i).1) :=
  have h := Tended.step _ _ trivial (Tended.step _ _ trivial (Tended.new _ _ _ _))
  ⟨h, session_id_follows_state h⟩

/-- Along every run that keeps the controller's own listener, the LED lines show the pattern of the
state and the session switch. -/
theorem leds_show_state {P : Plant → Prop} {w : World} (h : Tended P w) :
    (∀ q, w.ctl.leds = some q →
      q = LedPattern.forState w.ctl.machine.state w.ctl.sessionEnabled ∧
        q.Shown (ledWrites w.trace)) ∧
      (∀ x, (ledWrites w.trace).getLast? = some x → x.2.2 = true →
        (LedPattern.forState w.ctl.machine.state w.ctl.sessionEnabled).Shown (ledWrites w.trace)) ∧
      ((∀ p, P p → p.LedsWork) → ledWrites w.trace ≠ [] →
        (LedPattern.forState w.ctl.machine.state w.ctl.sessionEnabled).Shown (ledWrites w.trace)) ∧
      ∀ p, P p → p.LedsWork → w.ctl.shutDown = false →
        (LedPattern.forState (step p w .tick).1.ctl.machine.state
          (step p w .tick).1.ctl.sessionEnabled).Shown (ledWrites (step p w .tick).1.trace) := by
  have hd := h.displays
  have last (x : String × Bool × Bool) (hx : (ledWrites w.trace).getLast? = some x)
      (hok : x.2.2 = true) :
      (LedPattern.forState w.ctl.machine.state w.ctl.sessionEnabled).Shown (ledWrites w.trace) := by
    obtain ⟨q, hq⟩ := hd.cached_of_last hx hok
    exact hd.shown hq
  refine ⟨fun q hq => ⟨hd.current q hq, hd.leds.cached q hq⟩, last, fun hall hne => ?_,
    fun p hp hleds hs => ?_⟩
  · obtain ⟨x, hx⟩ := Option.ne_none_iff_exists'.mp (mt List.getLast?_eq_none_iff.mp hne)
    refine last x hx ?_
    by_contra hf
    obtain ⟨p, hp, hfault⟩ := hd.leds.honest x (List.mem_of_getLast? hx) (by simpa using hf)
    exact hfault (hall p hp x.1 (ledWrites_lines (List.mem_of_getLast? hx)) x.2.1)
  · have hstep := (h.step p .tick hp).displays
    rw [step_eq] at hstep ⊢
    exact hstep.shown (tick_caches hleds hs)

theorem leds_show_state_after_start :
    let w₀ : World := ⟨Controller.new ⟨2000000000, 16, true⟩ none true none, []⟩
    let w := (step (Plant.ideal ⟨0, 0⟩) w₀ .startUp).1
    Tended (fun _ => True) w ∧
      ((∀ q, w.ctl.leds = some q →
        q = LedPattern.forState w.ctl.machine.state w.ctl.sessionEnabled ∧
          q.Shown (ledWrites w.trace)) ∧
      (∀ x, (ledWrites w.trace).getLast? = some x → x.2.2 = true →
        (LedPattern.forState w.ctl.machine.state w.ctl.sessionEnabled).Shown (ledWrites w.trace)) ∧
      ((∀ p : Plant, True → p.LedsWork) → ledWrites w.trace ≠ [] →
        (LedPattern.forState w.ctl.machine.state w.ctl.sessionEnabled).Shown (ledWrites w.trace)) ∧
      ∀ p : Plant, True → p.LedsWork → w.ctl.shutDown = false →
        (LedPattern.forState (step p w .tick).1.ctl.machine.state
          (step p w .tick).1.ctl.sessionEnabled).Shown (ledWrites (step p w .tick).1.trace)) :=
  have h := Tended.step _ _ trivial (Tended.new _ _ _ _)
  ⟨h, leds_show_state h⟩

/-- Unsubscribing the first id of a new controller removes its own listener: a start then walks
the machine into charging with no session id drawn. -/
theorem own_listener_lost_by_unsubscribe :
    let w : World := ⟨(Controller.new ⟨2000000000, 16, true⟩ none true none).unsubscribe 1, []⟩
    Reachable (fun _ => True) w ∧ w.ctl.machine.listeners = [] ∧
      (step (Plant.ideal ⟨0, 0⟩) w .startCharging).1.ctl.machine.state = charging ∧
      (step (Plant.ideal ⟨0, 0⟩) w .startCharging).1.ctl.sessionId = "" :=
  ⟨.unsubscribe 1 (.new _ _ _ _), by decide⟩

/-- Along every run that never unsubscribes it, the controller's own listener keeps the first id
and is told of every step first. -/
theorem own_listener_runs_first {P : Plant → Prop} {w : World} (h : Tended P w) :
    w.ctl.ownListener = 1 ∧
      (∃ rest, w.ctl.machine.listeners = 1 :: rest ∧ ∀ id ∈ rest, 1 < id) ∧
      1 < w.ctl.subscribe.2 ∧
      (∀ id, id ≠ 1 → ∃ rest, (w.ctl.unsubscribe id).machine.listeners = 1 :: rest) ∧
      ∀ p a b reason, Machine.tell (hearIn p) a b reason w.ctl.machine.listeners w =
        Machine.tell (hearIn p) a b reason w.ctl.machine.listeners.tail
          (exec (onTransition a b reason) p (w.withState b)).2 := by
  have hown := h.displays.own
  have h1 := hown.first
  obtain ⟨rest, hl, hgt⟩ := hown.eq_cons
  refine ⟨h1, ⟨rest, by rw [hl, h1], by rwa [← h1]⟩, by rw [← h1]; exact hown.own_lt_next,
    fun id hid => ?_, fun p a b reason => ?_⟩
  · obtain ⟨rest', hl', -⟩ := (hown.unsubscribe (by rwa [h1])).eq_cons
    exact ⟨rest', by rw [← h1]; exact hl'⟩
  · rw [hl]
    simp only [Machine.tell, hearIn_eq, hear_own ⟨w.ctl.ownListener, a, b, reason⟩ p w rfl,
      List.tail_cons]

theorem own_listener_runs_first_beside_another :
    let w₀ : World := ⟨Controller.new ⟨2000000000, 16, true⟩ none true none, []⟩
    let w₁ : World := { w₀ with ctl := w₀.ctl.subscribe.1 }
    let w₂ : World := { w₁ with ctl := w₁.ctl.subscribe.1 }
    let w : World := { w₂ with ctl := w₂.ctl.unsubscribe 2 }
    Tended (fun _ => True) w ∧
      (w.ctl.ownListener = 1 ∧
      (∃ rest, w.ctl.machine.listeners = 1 :: rest ∧ ∀ id ∈ rest, 1 < id) ∧
      1 < w.ctl.subscribe.2 ∧
      (∀ id, id ≠ 1 → ∃ rest, (w.ctl.unsubscribe id).machine.listeners = 1 :: rest) ∧
      ∀ p a b reason, Machine.tell (hearIn p) a b reason w.ctl.machine.listeners w =
        Machine.tell (hearIn p) a b reason w.ctl.machine.listeners.tail
          (exec (onTransition a b reason) p (w.withState b)).2) :=
  have h := Tended.unsubscribe 2 (by decide) (.subscribe (.subscribe (.new _ _ _ _)))
  ⟨h, own_listener_runs_first h⟩

end Evse.Control
