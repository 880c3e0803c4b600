import Evse.Proofs.Control.Footprint
/-!
The operations that check before they act, from a resting world on an agreeable plant.
-/
namespace Evse.Control

open ChargingState

/-- Turning the session switch notes the turn and changes nothing else the controller decides
on. -/
theorem turnSwitch_spec (v : Bool) (text : String) (p : Plant) (w : World) :
    (exec (turnSwitch v text) p w).2.ctl.sessionEnabled = v ∧
      (exec (turnSwitch v text) p w).2.ctl.machine = w.ctl.machine ∧
      ∃ post, (exec (turnSwitch v text) p w).2.trace =
        w.trace ++ .note .info "Controller" text :: post := by
  unfold turnSwitch
  simp only [exec_bind, exec_modifyCtl, exec_observe, exec_note]
  obtain ⟨hc, hm, seg, ht, -, -⟩ := refreshLeds_calm.settled p
    ⟨{ w.ctl with sessionEnabled := v, metrics := w.ctl.metrics.map (·.sessionSwitch v) },
      w.trace ++ [.note .info "Controller" text]⟩
  exact ⟨congrArg Core.sessionEnabled hc, hm, seg, by rw [ht]; simp⟩

/-- Turning the session switch keeps a controller at rest, unless it turns sessions off
during a session. -/
theorem turnSwitch_stepped {ms : List Move} (v : Bool) (text : String) (p : Plant) {w : World}
    (hw : Rests w) (ha : w.ctl.machine.state.isActive = true → v = true) :
    Stepped ms w (exec (turnSwitch v text) p w).2 := by
  unfold turnSwitch
  simp only [exec_bind, exec_modifyCtl, exec_observe, exec_note]
  refine Stepped.of_settled ?_ (refreshLeds_calm.settled p _) rfl rfl rfl
  exact ⟨⟨hw.ctl.rests, ha, hw.ctl.latched⟩, hw.offFree.append (by simp [OffFree])⟩

theorem enableSessions_steps {ms : List Move} (source : String) :
    Steps ms (enableSessions source) :=
  Steps.of fun p _ _ hw => turnSwitch_stepped true _ p hw fun _ => rfl

/-- A stop from a resting world in a session lands in idle, telling every other listener of
each step of the stop path. -/
theorem stopSession_idle {p : Plant} (hp : p.Agreeable) (reason : String) {w : World}
    (hw : Rests w) (ha : w.ctl.machine.state.isActive = true) :
    Stepped [.stop] w (exec (stopSession reason) p w).2 ∧
      (exec (stopSession reason) p w).2.ctl.machine.state = idle ∧
      Grows (walkNotices w.ctl.ownListener w.ctl.machine.listeners reason w.ctl.machine.state
        stopPath) w (exec (stopSession reason) p w).2 := by
  have hroute : Request.stopCharging.route w.ctl.machine.state = .ok stopPath := by
    simp [Request.route, isActive_iff.mp ha]
  obtain ⟨hr, -, hm, hg⟩ := request_lands hp hroute reason
  have h₁ := (request_stop_steps reason).run hp hw
  obtain ⟨-, hs⟩ := setRelay_spec false p (exec (request .stopCharging reason) p w).2
  have hwrite : Grows [] (exec (request .stopCharging reason) p w).2
      ⟨(exec (request .stopCharging reason) p w).2.ctl.afterRelay p false,
        (exec (request .stopCharging reason) p w).2.trace ++
          [.write Hardware.relay false (p.writeFault Hardware.relay false 0).isNone]⟩ :=
    Grows.emit ⟨rfl, by simp [Effect.closesRelay]⟩
  unfold stopSession
  rw [exec_bind, hr]
  refine ⟨h₁.then hp (setRelay_steps false) (List.Subset.refl _), ?_, ?_⟩
  · show (exec (setRelay false) p _).2.ctl.machine.state = idle
    rw [hs.2.1]
    exact congrArg Machine.state hm
  · simpa using hg.trans (hwrite.trans hs.2.2)

/-- A disable from a resting world in a session first walks the session down to idle, telling
every other listener of each step, and only then records that sessions are off. -/
theorem disableSessions_spec {p : Plant} (hp : p.Agreeable) (source : String) {w : World}
    (hw : Rests w) (ha : w.ctl.machine.state.isActive = true) :
    Stepped [.stop] w (exec (disableSessions source) p w).2 ∧
      (exec (disableSessions source) p w).2.ctl.machine.state = idle ∧
      (exec (disableSessions source) p w).2.ctl.sessionEnabled = false ∧
      ∃ seg post, (exec (disableSessions source) p w).2.trace =
          w.trace ++ seg ++ .note .info "Controller" s!"Session disabled by {source}" :: post ∧
        seg.filterMap Effect.notice? = walkNotices w.ctl.ownListener w.ctl.machine.listeners
          "session disabled" w.ctl.machine.state stopPath := by
  let w₃ := (exec (do
    note .info "Stopping active session before disable"
    noteFailure .error "Failed to stop charging before disable"
      (← stopSession "session disabled")) p w).2
  have hsplit : (exec (disableSessions source) p w).2 =
      (exec (turnSwitch false s!"Session disabled by {source}") p w₃).2 := by
    unfold disableSessions
    rw [exec_ctl_bind]
    dsimp only
    rw [if_pos ha]
    rfl
  have h₃ : Stepped [.stop] w w₃ ∧ w₃.ctl.machine.state = idle ∧
      Grows (walkNotices w.ctl.ownListener w.ctl.machine.listeners "session disabled"
        w.ctl.machine.state stopPath) w w₃ := by
    have hn : Settled w { w with trace := w.trace ++
        [.note .info "Controller" "Stopping active session before disable"] } :=
      Settled.emit ⟨by decide, rfl⟩ rfl
    obtain ⟨hs, hi, hg⟩ := stopSession_idle hp "session disabled" (hw.settled hn) ha
    have hc := noteFailure_calm (show Log.Severity.error ≠ .info by decide)
      "Failed to stop charging before disable"
      (exec (stopSession "session disabled") p
        { w with trace := w.trace ++
          [.note .info "Controller" "Stopping active session before disable"] }).1
    have hf := hc.settled p (exec (stopSession "session disabled") p
      { w with trace := w.trace ++
        [.note .info "Controller" "Stopping active session before disable"] }).2
    refine ⟨((Stepped.refl hw).calm (Calm.note (by decide)) p |>.trans hs).calm hc p,
      (congrArg Machine.state hf.2.1).trans hi, ?_⟩
    have hg₃ := (hn.2.2.trans hg).trans hf.2.2
    simp only [List.nil_append, List.append_nil] at hg₃
    exact hg₃
  obtain ⟨hs₃, hi₃, seg, ht₃, -, hn₃⟩ := h₃
  obtain ⟨he, hm, post, ht⟩ := turnSwitch_spec false s!"Session disabled by {source}" p w₃
  rw [hsplit]
  refine ⟨hs₃.trans (turnSwitch_stepped false _ p hs₃.rests fun h => absurd (hi₃ ▸ h) (by decide)),
    by rw [hm, hi₃], he, seg, post, by rw [ht, ht₃], hn₃⟩

theorem disableSessions_steps (source : String) : Steps [.stop] (disableSessions source) :=
  Steps.of fun p hp w hw => by
    by_cases ha : w.ctl.machine.state.isActive = true
    · exact (disableSessions_spec hp source hw ha).1
    · unfold disableSessions
      rw [exec_ctl_bind]
      dsimp only
      rw [if_neg ha]
      exact turnSwitch_stepped false _ p hw fun h => absurd h ha

/-- An operator start moves the machine into charging only with sessions enabled; a relay that
cannot be closed stops the session again. -/
theorem startCharging_steps : Steps [.start, .stop] startCharging := by
  unfold startCharging
  refine Along.ctl_bind fun p hp w₀ w hw h₀ => ?_
  have failed (op : String) (requested : ChargingState) (e : Failure) :
      Steps [.start, .stop] (opFailure op requested e) := Steps.of_calm (opFailure_calm _ _ _)
  by_cases hs : w.ctl.shutDown = true
  · rw [if_pos hs]
    exact failed _ _ _ p hp w₀ w hw h₀
  rw [if_neg hs]
  by_cases he : w.ctl.sessionEnabled = true
  · rw [if_neg (by simp [he]), exec_bind]
    have h₁ : Stepped [.start, .stop] w₀ (exec (request .startCharging "operator request") p w).2 :=
      (hw h₀).trans ((request_start_stepped hp _ (hw h₀).rests he).mono (by simp))
    refine (?_ : Steps [.start, .stop] _) p hp w₀ _ (fun _ => h₁) h₀
    split
    · exact failed _ _ _
    refine Along.bind (setRelay_steps true) fun r => ?_
    split
    · refine Along.bind ((request_stop_steps _).mono (by simp)) fun r => ?_
      exact Along.bind (Steps.of_calm (noteFailure_calm (by decide) _ r)) fun _ => failed _ _ _
    · refine Along.ctl.bind fun c => ?_
      exact Along.bind (Steps.of_calm (Calm.note (by simp [Effect.switch?, toString_string])))
        fun _ => Along.pure _
  · rw [if_pos (by simp [he])]
    refine Along.bind (Steps.of_calm (Calm.note_of_ne_info (by decide))) (fun _ => failed _ _ _)
      p hp w₀ w hw h₀

theorem switchRelay_steps {ms : List Move} (on : Bool) : Steps ms (switchRelay on) := by
  unfold switchRelay
  exact Along.ctl.bind fun c => Along.ite (fun _ => Along.pure _) fun _ => setRelay_steps on

theorem applyContactor_steps {ms : List Move} (on : Bool) : Steps ms (applyContactor on) := by
  unfold applyContactor
  refine Along.ctl.bind fun c => ?_
  refine Along.ite (fun _ => Steps.of_calm (Calm.note_of_ne_info (by decide))) fun _ => ?_
  refine Along.ite (fun _ => ?_) fun _ => Along.pure _
  exact Along.bind (setRelay_steps on) fun r => Steps.of_calm (noteFailure_calm (by decide) _ r)

theorem followContactor_steps {ms : List Move} (prev next : Bool) :
    Steps ms (followContactor prev next) := by
  unfold followContactor
  refine Along.ite (fun _ => ?_) fun _ => Along.pure _
  exact Along.bind (Steps.of_calm (Calm.note (by simp [Effect.switch?, toString_string])))
    fun _ => applyContactor_steps _

theorem followEnable_steps (prev next : Bool) : Steps [.stop] (followEnable prev next) := by
  unfold followEnable
  refine Along.ite (fun _ => ?_) fun _ => Along.pure _
  refine Along.bind (Steps.of_calm (Calm.note (by simp [Effect.switch?, toString_string])))
    fun _ => ?_
  refine Along.ctl.bind fun c => ?_
  exact Along.ite (fun _ => enableSessions_steps _) fun _ =>
    Along.ite (fun _ => disableSessions_steps _) fun _ => Along.pure _

theorem button_steps (channel : String) (pressed : Bool) :
    Steps [.stop] (button channel pressed) := by
  unfold button
  refine Along.ite (fun _ => Along.pure _) fun _ => ?_
  refine Along.ctl.bind fun c => Along.ite (fun _ => Along.pure _) fun _ => ?_
  refine Along.bind (Steps.of_calm (Calm.note (by simp [Effect.switch?, toString_string])))
    fun _ => ?_
  refine Along.ctl.bind fun c => ?_
  have last : Steps [.stop] (do publish; pure (.ok ()) : Act Outcome) :=
    Along.bind (Steps.of_calm publish_calm) fun _ => Along.pure _
  dsimp only
  exact Along.ite (fun _ => Along.bind (disableSessions_steps _) fun _ => last)
    fun _ => Along.bind (enableSessions_steps _) fun _ => last

/-- A reset from error, on an agreeable plant, succeeds: the machine goes to idle and every fault
is cleared, so the controller rests again. -/
theorem reset_spec {p : Plant} (hp : p.Agreeable) {w : World} (hw : Rests w)
    (he : w.ctl.machine.state = error) :
    (exec reset p w).1 = .ok () ∧ Stepped [.reset] w (exec reset p w).2 ∧
      (exec reset p w).2.ctl.machine.state = idle := by
  have hroute : Request.reset.route w.ctl.machine.state = .ok [idle] := by
    simp [Request.route, he]
  obtain ⟨hr, hc, hm, hg⟩ := request_lands hp hroute "reset"
  let Kept : World → Prop := fun w' =>
    w'.ctl.machine.state = idle ∧ w'.ctl.peer = w.ctl.peer ∧ w'.ctl.peerReady = w.ctl.peerReady ∧
      OffFree w'.trace
  let Cleared : List Fault → World → Prop := fun done w' =>
    Kept w' ∧ ∀ g ∈ done, w'.ctl.hasFault g = false
  have walked : Cleared [] (exec (request .reset "reset") p w).2 := by
    refine ⟨⟨congrArg Machine.state hm, congrArg Core.peer hc, congrArg Core.peerReady hc, ?_⟩,
      by simp⟩
    exact hw.offFree.grow hg fun n hn => by
      have ht := walkNotices_target hn
      simp only [List.mem_singleton] at ht
      simp [ht]
  have cleared : Cleared p.faultOrder.faults (exec reset p w).2 := by
    unfold reset
    rw [exec_bind, hr]
    refine Triple.run (R := Cleared p.faultOrder.faults) (Q := Cleared p.faultOrder.faults)
      (Triple.read_bind ?_) walked fun _ h => h
    refine Triple.bind (Triple.forIn _ _ fun pre a post _ c w' h => ?_) fun _ _ h => h
    simp only [exec_bind, exec_ctl]
    by_cases hf : w'.ctl.hasFault a = true
    · simp only [hf, if_true, exec_bind, exec_pure]
      have hs := reportFault_settled a false p w'
      refine ⟨PUnit.unit, trivial, ⟨?_, ?_, ?_, h.1.2.2.2.grow hs.2.2 (by simp)⟩, fun g hg => ?_⟩
      · exact (congrArg Machine.state hs.2.1).trans h.1.1
      · exact (congrArg Core.peer hs.1).trans h.1.2.1
      · exact (congrArg Core.peerReady hs.1).trans h.1.2.2.1
      · rw [hs.hasFault, Controller.hasFault_report]
        split
        · rfl
        · next hga =>
          rcases List.mem_append.mp hg with hg | hg
          · exact h.2 g hg
          · exact absurd (List.mem_singleton.mp hg) hga
    · simp only [hf, Bool.false_eq_true, if_false, exec_pure]
      refine ⟨PUnit.unit, trivial, h.1, fun g hg => ?_⟩
      rcases List.mem_append.mp hg with hg | hg
      · exact h.2 g hg
      · rw [List.mem_singleton.mp hg]
        simpa using hf
  have hres : (exec reset p w).1 = .ok () := by
    unfold reset
    rw [exec_bind, hr]
    rfl
  obtain ⟨⟨hi, hpeer, harmed, hoff⟩, hfaults⟩ := cleared
  have hpilot : (exec reset p w).2.ctl.hasFault .pilot = false :=
    hfaults _ (p.faultOrder.perm.mem_iff.mpr (by simp [Fault.all]))
  refine ⟨hres, ⟨⟨⟨by simp [hi], by simp [hi, isActive], by simp [hpilot, hi]⟩, hoff⟩, ?_,
    hpeer, harmed⟩, hi⟩
  rw [hi, he]
  exact Moves.single (List.mem_singleton_self _) ⟨rfl, rfl⟩

theorem reset_steps : Steps [.reset] reset :=
  Steps.of fun p hp w hw => by
    by_cases he : w.ctl.machine.state = error
    · exact (reset_spec hp hw he).2.1
    · have hroute : Request.reset.route w.ctl.machine.state =
          .error ⟨"reset", w.ctl.machine.state, idle.code⟩ := by
        simp [Request.route, he]
      unfold reset
      rw [exec_bind, request_refused hroute]
      exact (Stepped.refl hw).calm (opFailure_calm _ _ _) p

theorem reset_inert : Inert reset := by
  unfold reset
  refine Along.bind (request_inert _ _) fun r => ?_
  split
  · exact Inert.of_calm (opFailure_calm _ _ _)
  · refine Along.read.bind fun q => ?_
    refine Along.bind (Along.forIn _ _ fun f _ u => ?_) fun _ => Along.pure _
    refine Along.ctl.bind fun c => ?_
    exact Along.ite (fun _ => Along.bind (reportFault_inert _ _) fun _ => Along.pure _)
      fun _ => Along.pure _

/-- The moves an operator command word may make. -/
def commandMoves : String → List Move
  | "start" => [.start, .stop]
  | "stop" => [.stop]
  | "pause" => [.pause]
  | "resume" => [.resume]
  | "disable" => [.stop]
  | "reset" => [.reset]
  | _ => []

theorem command_steps (text : String) :
    Steps (commandMoves (Text.lower (Text.trimBlanks text))) (command text) := by
  unfold command
  dsimp only
  refine Along.bind (Steps.of_calm (Calm.note_of_ne_info (by decide))) fun _ => ?_
  split
  next h => rw [h]; exact startCharging_steps
  next h => rw [h]; exact stopCharging_foot.steps
  next h => rw [h]; exact pauseCharging_foot.steps
  next h => rw [h]; exact resumeCharging_foot.steps
  next => exact Along.bind (enableSessions_steps _) fun _ => Along.pure _
  next h => rw [h]; exact Along.bind (disableSessions_steps _) fun _ => Along.pure _
  next h => rw [h]; exact reset_steps
  next => exact switchRelay_steps true
  next => exact switchRelay_steps false
  next => exact Along.pure _

theorem returnToIdle_inert (reason : String) : Inert (returnToIdle reason) := by
  unfold returnToIdle
  refine Along.ctl.bind fun c => ?_
  have last (r : Outcome) : Inert (noteFailure .error "Failed to return to idle" r) :=
    Inert.of_calm (noteFailure_calm (by decide) _ r)
  dsimp only
  split
  · exact Along.bind (Along.pure _) last
  · exact Along.bind (request_inert _ _) last
  · exact Along.bind (request_inert _ _) last
  · refine Along.bind (request_inert _ _) fun r => ?_
    split
    · exact Along.bind (request_inert _ _) last
    · exact Along.bind (Along.pure _) last
  · exact Along.bind (Inert.of_calm (Calm.note_of_ne_info (by decide))) fun _ =>
      Along.bind (Along.pure _) last
  · exact Along.bind (request_inert _ _) last

/-- From rest, a return to idle stops a session and stays in error; the single moves it could
take from a state passed through inside a walk are never needed. -/
theorem returnToIdle_steps (reason : String) : Steps [.stop] (returnToIdle reason) := by
  unfold returnToIdle
  refine Along.ctl_bind fun p hp w₀ w hw h₀ => ?_
  have last (r : Outcome) : Steps [.stop] (noteFailure .error "Failed to return to idle" r) :=
    Steps.of_calm (noteFailure_calm (by decide) _ r)
  have hr := (hw h₀).rests.ctl.rests
  simp only [List.mem_cons, List.not_mem_nil, or_false] at hr
  refine (?_ : Steps [.stop] _) p hp w₀ w hw h₀
  rcases hr with h | h | h | h <;> rw [h]
  · exact Along.bind (Along.pure _) last
  · exact Along.bind (request_stop_steps _) last
  · exact Along.bind (request_stop_steps _) last
  · exact Along.bind (Steps.of_calm (Calm.note_of_ne_info (by decide))) fun _ =>
      Along.bind (Along.pure _) last


end Evse.Control
