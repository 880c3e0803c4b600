import Evse.Proofs.Control.Resting
/-!
What each operation of the controller can do, said once as its footprint.
-/
namespace Evse.Control

open ChargingState

/-- `w'` follows `w` with the same settings and session switch, its trace grown by quiet
effects. -/
def Drift (w w' : World) : Prop :=
  w'.ctl.settings = w.ctl.settings ∧ w'.ctl.sessionEnabled = w.ctl.sessionEnabled ∧
    ∃ ns, Grows ns w w'

theorem Drift.refl (w : World) : Drift w w := ⟨rfl, rfl, [], Grows.refl w⟩

theorem Drift.trans {w₁ w₂ w₃ : World} (h₁ : Drift w₁ w₂) (h₂ : Drift w₂ w₃) : Drift w₁ w₃ := by
  obtain ⟨hs₁, he₁, ns₁, hg₁⟩ := h₁
  obtain ⟨hs₂, he₂, ns₂, hg₂⟩ := h₂
  exact ⟨hs₂.trans hs₁, he₂.trans he₁, _, hg₁.trans hg₂⟩

theorem Settled.drift {w w' : World} (h : Settled w w') : Drift w w' :=
  ⟨congrArg Core.settings h.1, congrArg Core.sessionEnabled h.1, [], h.2.2⟩

/-- An action that, on every plant, keeps the settings and the session switch and writes only
quiet effects. -/
abbrev Inert {α : Type} (x : Act α) : Prop := Along (fun _ => True) (fun _ => Drift) x

namespace Inert

variable {α : Type} {x : Act α}

theorem drift (h : Inert x) (p : Plant) (w : World) : Drift w (exec x p w).2 :=
  h p trivial w w (Drift.refl w)

theorem of_drift (h : ∀ p w, Drift w (exec x p w).2) : Inert x :=
  fun p _ _ w hw => hw.trans (h p w)

theorem of_calm (h : Calm x) : Inert x :=
  of_drift fun p w => (h.settled p w).drift

theorem modifyCtl {f : Controller → Controller} (hs : ∀ c, (f c).settings = c.settings)
    (he : ∀ c, (f c).sessionEnabled = c.sessionEnabled) : Inert (Control.modifyCtl f) :=
  of_drift fun _ w => ⟨hs w.ctl, he w.ctl, [], [], by simp, by simp, rfl⟩

end Inert

/-- The footprint of an action: inert on every plant, and on an agreeable plant a step from
rest to rest by moves of `ms` that keeps what the controller last saw of its peer. -/
abbrev Foot {α : Type} (ms : List Move) (x : Act α) : Prop :=
  Along (fun _ => True) (fun p w₀ w => Drift w₀ w ∧ (p.Agreeable → Rests w₀ → Stepped ms w₀ w)) x

namespace Foot

variable {α : Type} {ms ms' : List Move} {x : Act α}

theorem inert (h : Foot ms x) : Inert x :=
  Inert.of_drift fun p w => (h p trivial w w ⟨Drift.refl w, fun _ hw => Stepped.refl hw⟩).1

theorem steps (h : Foot ms x) : Steps ms x :=
  Steps.of fun p hp w hw =>
    (h p trivial w w ⟨Drift.refl w, fun _ hw => Stepped.refl hw⟩).2 hp hw

theorem mk (hi : Inert x) (hs : Steps ms x) : Foot ms x :=
  fun p _ _ w hw => ⟨(hw.1).trans (hi.drift p w), fun hp h₀ => (hw.2 hp h₀).trans
    (hs.run hp (hw.2 hp h₀).rests)⟩

theorem mono (h : ms ⊆ ms') (hx : Foot ms x) : Foot ms' x :=
  mk hx.inert (hx.steps.mono h)

theorem of_calm (h : Calm x) : Foot ms x := mk (Inert.of_calm h) (Steps.of_calm h)

/-- A change of fields the footprint does not look at. -/
theorem modifyCtl {f : Controller → Controller}
    (h : ∀ c, (f c).settings = c.settings ∧ (f c).sessionEnabled = c.sessionEnabled ∧
      (f c).machine = c.machine ∧ (f c).faults = c.faults ∧ (f c).peer = c.peer ∧
      (f c).peerReady = c.peerReady) : Foot ms (Control.modifyCtl f) :=
  mk (Inert.modifyCtl (fun c => (h c).1) fun c => (h c).2.1)
    (Steps.modifyCtl (fun c => (h c).2.2.1) (fun c => (h c).2.1) (fun c => (h c).2.2.2.1)
      (fun c => (h c).2.2.2.2.1) fun c => (h c).2.2.2.2.2)

end Foot

theorem request_inert (req : Request) (reason : String) : Inert (request req reason) :=
  Inert.of_drift fun p w =>
    let ⟨hc, _, ns, hg⟩ := request_core req reason p w
    ⟨congrArg Core.settings hc, congrArg Core.sessionEnabled hc, ns, hg⟩

theorem reportFault_inert (f : Fault) (present : Bool) : Inert (reportFault f present) :=
  Inert.of_drift fun p w => (Drift.refl w).trans (reportFault_settled f present p w).drift

theorem setRelay_off_inert : Inert (setRelay false) :=
  Inert.of_drift fun p w =>
    have hm : Drift w ⟨w.ctl.afterRelay p false,
        w.trace ++ [.write Hardware.relay false (p.writeFault Hardware.relay false 0).isNone]⟩ :=
      ⟨rfl, rfl, _, Grows.emit ⟨rfl, by simp [Effect.closesRelay]⟩⟩
    hm.trans (setRelay_spec false p w).2.drift

theorem setRelay_off_foot {ms : List Move} : Foot ms (setRelay false) :=
  Foot.mk setRelay_off_inert (setRelay_steps false)

theorem reportFault_foot {f : Fault} (hf : f ≠ .pilot) (present : Bool) {ms : List Move} :
    Foot ms (reportFault f present) :=
  Foot.mk (reportFault_inert f present) (reportFault_steps hf present)

theorem request_stop_foot (reason : String) : Foot [.stop] (request .stopCharging reason) :=
  Foot.mk (request_inert _ _) (request_stop_steps reason)

theorem request_pause_foot (reason : String) : Foot [.pause] (request .pauseCharging reason) :=
  Foot.mk (request_inert _ _) (request_pause_steps reason)

theorem request_resume_foot (reason : String) : Foot [.resume] (request .resumeCharging reason) :=
  Foot.mk (request_inert _ _) (request_resume_steps reason)

theorem stopSession_foot (reason : String) : Foot [.stop] (stopSession reason) := by
  unfold stopSession
  refine Along.bind (request_stop_foot _) fun r => ?_
  split
  · exact Along.pure _
  · exact setRelay_off_foot

/-- The moves the controller makes on a new pilot band: a stop on A, a fail on F. -/
def pilotMoves : PilotState → List Move
  | .a => [.stop]
  | .f => [.fail]
  | _ => []

/-- On a pilot fault the controller reports it, opens the relay and enters error. -/
theorem pilotFault_foot : Foot [.fail] (do
    note .error "Pilot fault, de-energizing relay"
    reportFault .pilot true
    noteFailure .error "Failed to de-energize relay on pilot fault" (← setRelay false)
    noteFailure .error "Failed to enter error state" (← request .enterError "pilot fault")
    publish) := by
  refine Foot.mk ?_ ?_
  · refine Along.bind (Inert.of_calm (Calm.note_of_ne_info (by decide))) fun _ => ?_
    refine Along.bind (reportFault_inert _ _) fun _ => ?_
    refine Along.bind setRelay_off_inert fun r => ?_
    refine Along.bind (Inert.of_calm (noteFailure_calm (by decide) _ r)) fun _ => ?_
    refine Along.bind (request_inert _ _) fun r => ?_
    exact Along.bind (Inert.of_calm (noteFailure_calm (by decide) _ r)) fun _ =>
      Inert.of_calm publish_calm
  · refine Steps.of fun p hp w₀ hw₀ => ?_
    let Kept : World → Prop := fun w =>
      w.ctl.peer = w₀.ctl.peer ∧ w.ctl.peerReady = w₀.ctl.peerReady ∧ OffFree w.trace
    let Pending : World → Prop := fun w => Kept w ∧ w.ctl.hasFault .pilot = true
    let Failed : World → Prop := fun w => Pending w ∧ w.ctl.machine.state = error
    have kept {w w' : World} (hs : Settled w w') (h : Kept w) : Kept w' :=
      ⟨(congrArg Core.peer hs.1).trans h.1, (congrArg Core.peerReady hs.1).trans h.2.1,
        h.2.2.grow hs.2.2 (by simp)⟩
    have pending {w w' : World} (hs : Settled w w') (h : Pending w) : Pending w' :=
      ⟨kept hs h.1, (hs.hasFault _).trans h.2⟩
    have failed {w w' : World} (hs : Settled w w') (h : Failed w) : Failed w' :=
      ⟨pending hs h.1, (congrArg Machine.state hs.2.1).trans h.2⟩
    have report : Triple p Kept (reportFault .pilot true) Pending := fun w h =>
      pending (reportFault_settled _ _ p w)
        ⟨h, by rw [Controller.hasFault_report, if_pos rfl]⟩
    have relay : Triple p Pending (setRelay false) Pending := fun w h =>
      pending (setRelay_spec false p w).2
        ⟨⟨h.1.1, h.1.2.1, h.1.2.2.append (by simp [OffFree])⟩,
          (Controller.afterRelay_hasFault_pilot w.ctl p false).trans h.2⟩
    have walk : Triple p Pending (request .enterError "pilot fault") Failed := fun w h => by
      obtain ⟨hc, hs, ns, hg, hns⟩ := request_enterError_lands hp "pilot fault" w
      refine ⟨⟨⟨(congrArg Core.peer hc).trans h.1.1, (congrArg Core.peerReady hc).trans h.1.2.1,
        h.1.2.2.grow hg fun n hn => by simp [hns n hn]⟩, ?_⟩, hs⟩
      exact (Controller.hasFault_congr hc _).trans h.2
    refine Triple.run (R := Stepped [.fail] w₀) (Q := Failed) ?_
      (show Kept w₀ from ⟨rfl, rfl, hw₀.offFree⟩) ?_
    · refine Triple.bind (fun w h => kept ((Calm.note_of_ne_info (by decide)).settled p w) h)
        fun _ => Triple.bind report fun _ => Triple.bind relay fun r => ?_
      refine Triple.bind (fun w h => pending ((noteFailure_calm (by decide) _ r).settled p w) h)
        fun _ => Triple.bind walk fun r => ?_
      exact Triple.bind (fun w h => failed ((noteFailure_calm (by decide) _ r).settled p w) h)
        fun _ w h => failed (publish_calm.settled p w) h
    · rintro w ⟨⟨⟨hpeer, harmed, hoff⟩, hf⟩, hs⟩
      refine ⟨⟨⟨by simp [hs], by simp [hs, isActive], by simp [hf, hs]⟩, hoff⟩, ?_, hpeer, harmed⟩
      rw [hs]
      exact Moves.single (List.mem_singleton_self _) rfl

theorem pilotChanged_foot (old next : PilotState) :
    Foot (pilotMoves next) (pilotChanged old next) := by
  unfold pilotChanged
  refine Along.ctl.bind fun c => ?_
  dsimp only
  refine Along.ite (fun _ => Along.pure _) fun _ => ?_
  refine Along.bind (Foot.modifyCtl fun _ => ⟨rfl, rfl, rfl, rfl, rfl, rfl⟩) fun _ => ?_
  refine Along.bind (Foot.of_calm (Calm.observe _)) fun _ => ?_
  refine Along.bind (Foot.of_calm (Calm.note (by simp [Effect.switch?, toString_string])))
    fun _ => ?_
  have last : Foot (pilotMoves next) publish := Foot.of_calm publish_calm
  split
  · refine Along.ctl.bind fun c => Along.ite (fun _ => ?_) fun _ => last
    refine Along.bind (Foot.of_calm (Calm.note_of_ne_info (by decide))) fun _ => ?_
    refine Along.bind (stopSession_foot _) fun r => ?_
    exact Along.bind (Foot.of_calm (noteFailure_calm (by decide) _ r)) fun _ => last
  · exact pilotFault_foot
  · exact last

/-- The moves an event of the pilot monitor may make the controller take. -/
def eventMoves : Pilot.Event → List Move
  | .change _ next => pilotMoves next
  | .note _ _ => []

theorem eventMoves_subset (evs : List Pilot.Event) : evs.flatMap eventMoves ⊆ [.stop, .fail] := by
  intro m hm
  obtain ⟨e, -, he⟩ := List.mem_flatMap.mp hm
  cases e with
  | change old next => cases next <;> simp_all [eventMoves, pilotMoves]
  | note => simp [eventMoves] at he

theorem Effect.quiet_pilot_note (severity : Log.Severity) (text : String) :
    (Effect.note severity "Pilot" text).Quiet :=
  ⟨by cases severity <;> rfl, rfl⟩

theorem pilotEvents_foot (evs : List Pilot.Event) :
    Foot (evs.flatMap eventMoves) (pilotEvents evs) := by
  induction evs with
  | nil => exact Along.pure _
  | cons e rest ih =>
    rw [List.flatMap_cons]
    cases e with
    | change old next =>
      exact Along.bind ((pilotChanged_foot old next).mono (List.subset_append_left _ _))
        fun _ => ih.mono (List.subset_append_right _ _)
    | note severity text =>
      exact Along.bind (Foot.of_calm (Calm.emit (Effect.quiet_pilot_note severity text) rfl))
        fun _ => ih

/-- Running the pilot monitor moves the controller only as the events it reports do. -/
theorem withPilot_foot {α : Type} {ms : List Move} (dflt : α)
    (f : Pilot.Monitor → Pilot.Monitor × List Pilot.Event × α)
    (h : ∀ m, (f m).2.1.flatMap eventMoves ⊆ ms) : Foot ms (withPilot dflt f) := by
  unfold withPilot
  refine Along.ctl.bind fun c => ?_
  split
  · exact Along.pure _
  · next m _ =>
    split
    next m' evs a hf =>
    refine Along.bind (Foot.modifyCtl fun _ => ⟨rfl, rfl, rfl, rfl, rfl, rfl⟩) fun _ => ?_
    have hm : evs.flatMap eventMoves ⊆ ms := by simpa [hf] using h m
    exact Along.bind ((pilotEvents_foot evs).mono hm) fun _ => Along.pure _

/-- Stopping a monitor reports at most a change to unknown, which moves nothing. -/
theorem stop_eventMoves (m : Pilot.Monitor) : m.stop.2.flatMap eventMoves = [] := by
  unfold Pilot.Monitor.stop
  split
  · rfl
  · split
    · by_cases h : m.state = .unknown <;> simp [Pilot.Monitor.update, h, eventMoves, pilotMoves]
    · rfl
    · rfl

theorem startUp_foot : Foot [.stop, .fail] startUp := by
  unfold startUp
  refine Along.ctl.bind fun c => ?_
  refine Along.bind (Foot.of_calm (Calm.note (by simp [Effect.switch?, toString_string])))
    fun _ => ?_
  refine Along.bind setRelay_off_foot fun r => ?_
  split
  · exact Along.pure _
  · refine Along.read.bind fun q => ?_
    refine Along.bind (Foot.modifyCtl fun _ => ⟨rfl, rfl, rfl, rfl, rfl, rfl⟩) fun _ => ?_
    refine Along.bind (Foot.of_calm refreshLeds_calm) fun _ => ?_
    refine Along.read.bind fun q => ?_
    refine Along.bind (Foot.of_calm (Calm.emit ⟨rfl, rfl⟩ rfl)) fun _ => ?_
    split
    · exact Along.pure _
    · refine Along.bind (withPilot_foot _ _ fun _ => eventMoves_subset _) fun r => ?_
      split
      · exact Along.pure _
      · exact Along.bind (Foot.of_calm (Calm.note (by decide))) fun _ => Along.pure _

theorem watchdog_foot : Foot [.stop] watchdog := by
  unfold watchdog
  refine Along.ctl.bind fun c => ?_
  dsimp only
  refine Along.ite (fun _ => Along.pure _) fun _ => ?_
  refine Along.read.bind fun q => ?_
  refine Along.ite (fun _ => Along.pure _) fun _ => ?_
  refine Along.bind (Foot.of_calm (Calm.note_of_ne_info (by decide))) fun _ => ?_
  refine Along.bind (Foot.of_calm (Calm.observe _)) fun _ => ?_
  refine Along.bind (reportFault_foot (by decide) _) fun _ => ?_
  have last : Foot [.stop] (do
      noteFailure .error "Watchdog could not de-energize relay" (← setRelay false)) :=
    Along.bind setRelay_off_foot fun r => Foot.of_calm (noteFailure_calm (by decide) _ r)
  refine Along.ctl.bind fun c => Along.ite (fun _ => ?_) fun _ => last
  refine Along.bind (request_stop_foot _) fun r => ?_
  exact Along.bind (Foot.of_calm (noteFailure_calm (by decide) _ r)) fun _ => last

theorem tick_foot : Foot [.stop] tick := by
  unfold tick
  refine Along.ctl.bind fun c => Along.ite (fun _ => Along.pure _) fun _ => ?_
  refine Along.bind watchdog_foot fun _ => ?_
  refine Along.bind (Foot.of_calm refreshLeds_calm) fun _ => ?_
  refine Along.bind (Foot.of_calm sendStatus_calm) fun r => ?_
  exact Along.bind (Foot.of_calm publish_calm) fun _ => Along.pure _

theorem forceRelayOff_foot {ms : List Move} : Foot ms forceRelayOff := by
  unfold forceRelayOff
  dsimp only
  have last : Foot ms (modifyCtl fun c => { c with relayEnabled := false }) :=
    Foot.modifyCtl fun _ => ⟨rfl, rfl, rfl, rfl, rfl, rfl⟩
  refine Along.bind (Along.forIn _ _ fun i _ s => ?_) fun s => ?_
  · refine Along.bind (Foot.of_calm (writeLine_calm (by simp))) fun r => ?_
    refine Along.bind (Foot.of_calm (Calm.observe _)) fun _ => ?_
    split
    · exact Along.pure _
    · exact Along.bind (Foot.of_calm (Calm.note_of_ne_info (by decide))) fun _ => Along.pure _
  · exact Along.ite (fun _ => Along.bind (reportFault_foot (by decide) _) fun _ => last)
      fun _ => last

theorem shutdown_foot : Foot [.stop] shutdown := by
  unfold shutdown
  refine Along.ctl.bind fun c => Along.ite (fun _ => Along.pure _) fun _ => ?_
  refine Along.bind (Foot.modifyCtl fun _ => ⟨rfl, rfl, rfl, rfl, rfl, rfl⟩) fun _ => ?_
  refine Along.bind (Foot.of_calm (Calm.note (by decide))) fun _ => ?_
  refine Along.bind (withPilot_foot _ _ fun m => ?_) fun _ => ?_
  · have hs := stop_eventMoves m
    revert hs
    rcases m.stop with ⟨m', evs⟩
    intro hs
    simp [hs]
  refine Along.bind (Foot.of_calm (Calm.emit ⟨rfl, rfl⟩ rfl)) fun _ => ?_
  have final : Foot [.stop] (do
      forceRelayOff
      publish
      note .info "Session controller shut down, relay off") :=
    Along.bind forceRelayOff_foot fun _ =>
      Along.bind (Foot.of_calm publish_calm) fun _ => Foot.of_calm (Calm.note (by decide))
  have stop : Foot [.stop] (do
      if (← ctl).machine.state.isActive then
        noteFailure .warn "Failed to stop charging on shutdown" (← request .stopCharging "shutdown")
      forceRelayOff
      publish
      note .info "Session controller shut down, relay off") := by
    refine Along.ctl.bind fun c => ?_
    dsimp only
    refine Along.ite (fun _ => ?_) fun _ => final
    refine Along.bind (request_stop_foot _) fun r => ?_
    exact Along.bind (Foot.of_calm (noteFailure_calm (by decide) _ r)) fun _ => final
  refine Along.read.bind fun q => ?_
  dsimp only
  split
  · exact Along.bind (Foot.of_calm (Calm.note_of_ne_info (by decide))) fun _ => stop
  · exact stop

theorem run_foot (stop : RunEnd) : Foot [.stop] (run stop) := by
  unfold run
  refine Along.ctl.bind fun c => Along.ite (fun _ => Along.pure _) fun _ => ?_
  refine Along.bind tick_foot fun r => ?_
  dsimp only
  cases stop with
  | cancel =>
    split
    · exact Along.bind (Foot.of_calm (Calm.note_of_ne_info (by decide))) fun _ => Along.pure _
    · exact Along.pure _
  | shutdown =>
    have last : Foot [.stop] (do shutdown; pure (.ok ()) : Act Outcome) :=
      Along.bind shutdown_foot fun _ => Along.pure _
    split
    · exact Along.bind (Foot.of_calm (Calm.note_of_ne_info (by decide))) fun _ => last
    · exact last

theorem pilotStart_foot : Foot [.stop, .fail] pilotStart := by
  unfold pilotStart
  refine Along.bind (withPilot_foot _ _ fun _ => eventMoves_subset _) fun r => ?_
  split <;> exact Along.pure _

theorem pilotSample_foot (probe : Pilot.Probe) (reading : Except String Int) :
    Foot [.stop, .fail] (pilotSample probe reading) :=
  withPilot_foot _ _ fun _ => eventMoves_subset _

theorem pilotStop_foot {ms : List Move} : Foot ms pilotStop := by
  refine withPilot_foot _ _ fun m => ?_
  have hs := stop_eventMoves m
  revert hs
  rcases m.stop with ⟨m', evs⟩
  intro hs
  simp [hs]

theorem stopCharging_foot : Foot [.stop] stopCharging := by
  unfold stopCharging
  refine Along.bind (stopSession_foot _) fun r => ?_
  split
  · exact Foot.of_calm (opFailure_calm _ _ _)
  · exact Along.pure _

theorem pauseCharging_foot : Foot [.pause] pauseCharging := by
  unfold pauseCharging
  refine Along.bind (request_pause_foot _) fun r => ?_
  split
  · exact Foot.of_calm (opFailure_calm _ _ _)
  · exact Along.pure _

theorem resumeCharging_foot : Foot [.resume] resumeCharging := by
  unfold resumeCharging
  refine Along.ctl.bind fun c => ?_
  refine Along.ite (fun _ => Foot.of_calm (opFailure_calm _ _ _)) fun _ => ?_
  refine Along.bind (request_resume_foot _) fun r => ?_
  split
  · exact Foot.of_calm (opFailure_calm _ _ _)
  · exact Along.pure _

theorem peerHeard_foot {ms : List Move} : Foot ms peerHeard := by
  unfold peerHeard
  refine Along.read.bind fun q => ?_
  refine Along.bind (Foot.modifyCtl fun _ => ⟨rfl, rfl, rfl, rfl, rfl, rfl⟩) fun _ => ?_
  exact Along.bind (Foot.of_calm (Calm.observe _)) fun _ => reportFault_foot (by decide) _

theorem peerState_foot {ms : List Move} (code : UInt8) (last : ChargingState) :
    Foot ms (peerState code last) := by
  unfold peerState
  split
  · exact Along.pure _
  · refine Along.bind (Foot.of_calm (Calm.observe _)) fun _ => ?_
    exact Along.bind (Foot.of_calm (noteMalformed_calm _)) fun _ => Along.pure _

end Evse.Control