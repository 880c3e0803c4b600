import Evse.Proofs.Control.PeerSteps
/-!
The relay is closed only while sessions are enabled, as the switch notes of the trace record.
-/
namespace Evse.Control

/-- The session switch after a trace, from the switch `b` before it. -/
def switchAfter (b : Bool) (trace : List Effect) : Bool :=
  trace.foldl (fun s e => e.switch?.getD s) b

/-- Every attempt to close the relay in a trace comes while the switch, from `b`, is on. -/
def closesWhileOn : Bool → List Effect → Prop
  | _, [] => True
  | s, e :: rest => (e.closesRelay = true → s = true) ∧ closesWhileOn (e.switch?.getD s) rest

@[simp] theorem switchAfter_nil (b : Bool) : switchAfter b [] = b := rfl

@[simp] theorem switchAfter_append (b : Bool) (t u : List Effect) :
    switchAfter b (t ++ u) = switchAfter (switchAfter b t) u := List.foldl_append

theorem closesWhileOn_append (b : Bool) (t u : List Effect) :
    closesWhileOn b (t ++ u) ↔ closesWhileOn b t ∧ closesWhileOn (switchAfter b t) u := by
  induction t generalizing b with
  | nil => simp [closesWhileOn]
  | cons e t ih => simp [closesWhileOn, ih, switchAfter, and_assoc]

theorem closesWhileOn_split {b : Bool} {pre post : List Effect} {e : Effect}
    (h : closesWhileOn b (pre ++ e :: post)) (he : e.closesRelay = true) :
    switchAfter b pre = true :=
  ((closesWhileOn_append b pre (e :: post)).1 h).2.1 he

/-- Quiet effects neither turn the switch nor close the relay. -/
theorem quiet_segment {seg : List Effect} (h : ∀ e ∈ seg, e.Quiet) (b : Bool) :
    switchAfter b seg = b ∧ closesWhileOn b seg := by
  induction seg with
  | nil => exact ⟨rfl, trivial⟩
  | cons e seg ih =>
    have he := h e (List.mem_cons_self ..)
    obtain ⟨hs, hc⟩ := ih fun e' h' => h e' (List.mem_cons_of_mem e h')
    simp only [switchAfter, closesWhileOn, List.foldl_cons, he.switch, Option.getD_none] at hs ⊢
    exact ⟨hs, fun hc' => by simp [he.closes] at hc', hc⟩

/-- Along its trace, the session switch of a controller is what its switch notes record
from the switch at construction, and every attempt to close the relay came while it was on. -/
structure Guarded (w : World) : Prop where
  switch : switchAfter w.ctl.settings.startEnabled w.trace = w.ctl.sessionEnabled
  closes : closesWhileOn w.ctl.settings.startEnabled w.trace

theorem Guarded.drift {w w' : World} (h : Guarded w) (hd : Drift w w') : Guarded w' := by
  obtain ⟨hs, he, ns, seg, ht, hq, -⟩ := hd
  obtain ⟨hsq, hcq⟩ := quiet_segment hq (switchAfter w.ctl.settings.startEnabled w.trace)
  refine ⟨?_, ?_⟩
  · rw [ht, hs, he, switchAfter_append, hsq, h.switch]
  · rw [ht, hs, closesWhileOn_append]
    exact ⟨h.closes, hcq⟩

theorem Inert.guarded {α : Type} {x : Act α} (h : Inert x) (p : Plant) : Keeps p Guarded x :=
  fun w hw => hw.drift (h.drift p w)

/-- A write keeps the trace guarded when closing the relay comes while the switch is on. -/
theorem Guarded.write {w : World} (h : Guarded w) {channel : String} {value ok : Bool}
    (hon : (channel == Hardware.relay && value) = true → w.ctl.sessionEnabled = true) :
    Guarded { w with trace := w.trace ++ [.write channel value ok] } := by
  have hs : switchAfter w.ctl.settings.startEnabled (w.trace ++ [.write channel value ok]) =
      w.ctl.sessionEnabled := by
    rw [switchAfter_append, ← h.switch]
    rfl
  have hc : closesWhileOn w.ctl.settings.startEnabled (w.trace ++ [.write channel value ok]) := by
    rw [closesWhileOn_append, h.switch]
    exact ⟨h.closes, hon, trivial⟩
  exact ⟨hs, hc⟩

/-- A guarded trace whose switch is on. -/
def GuardedOn (w : World) : Prop := Guarded w ∧ w.ctl.sessionEnabled = true

theorem Inert.guardedOn {α : Type} {x : Act α} (h : Inert x) (p : Plant) : Keeps p GuardedOn x :=
  fun w hw => ⟨hw.1.drift (h.drift p w), (h.drift p w).2.1.trans hw.2⟩

/-- While the switch is on, writing the relay either way keeps the trace guarded. -/
theorem setRelay_guardedOn (on : Bool) (p : Plant) : Keeps p GuardedOn (setRelay on) := by
  intro w hw
  obtain ⟨-, hs⟩ := setRelay_spec on p w
  have hm : Guarded ⟨w.ctl.afterRelay p on,
      w.trace ++ [.write Hardware.relay on (p.writeFault Hardware.relay on 0).isNone]⟩ :=
    let h := @Guarded.write w hw.1 Hardware.relay on (p.writeFault Hardware.relay on 0).isNone
      fun _ => hw.2
    ⟨h.1, h.2⟩
  exact ⟨hm.drift hs.drift, hs.drift.2.1.trans hw.2⟩

/-- A relay write keeps the trace guarded when it closes the relay only while the switch
is on. -/
theorem setRelay_guarded {on : Bool} (p : Plant) {w : World} (hw : Guarded w)
    (hon : on = true → w.ctl.sessionEnabled = true) : Guarded (exec (setRelay on) p w).2 := by
  cases on with
  | false => exact setRelay_off_inert.guarded p w hw
  | true => exact (setRelay_guardedOn true p w ⟨hw, hon rfl⟩).1

/-- A switch note turns the recorded switch to the controller's. -/
theorem Guarded.turn {w w' : World} (h : Guarded w) {e : Effect} {v : Bool}
    (he : e.switch? = some v) (hc : e.closesRelay = false) (ht : w'.trace = w.trace ++ [e])
    (hs : w'.ctl.settings = w.ctl.settings) (hv : w'.ctl.sessionEnabled = v) : Guarded w' := by
  refine ⟨?_, ?_⟩
  · rw [ht, hs, switchAfter_append, hv]
    simp [switchAfter, he]
  · rw [ht, hs, closesWhileOn_append]
    exact ⟨h.closes, by simp [hc], trivial⟩

/-- Turning the switch, as enabling and disabling sessions end, keeps the trace guarded. -/
theorem turnSwitch_guarded (v : Bool) (text : String)
    (he : (Effect.note .info "Controller" text).switch? = some v) (p : Plant) :
    Keeps p Guarded (turnSwitch v text) := by
  intro w hw
  unfold turnSwitch
  simp only [exec_bind, exec_modifyCtl, exec_observe, exec_note]
  refine (Inert.of_calm refreshLeds_calm).guarded p _ (hw.turn he rfl rfl rfl rfl)

theorem enableSessions_guarded (source : String) (p : Plant) :
    Keeps p Guarded (enableSessions source) :=
  turnSwitch_guarded true _ (by simp [Effect.switch?, toString_string]) p

theorem disableSessions_guarded (source : String) (p : Plant) :
    Keeps p Guarded (disableSessions source) := by
  have tail := turnSwitch_guarded false (toString "Session disabled by " ++ toString source)
    (by simp [Effect.switch?, toString_string]) p
  unfold disableSessions
  refine Keeps.ctl.bind fun c => ?_
  dsimp only
  refine Keeps.ite (fun _ => ?_) fun _ => tail
  refine Keeps.bind ((Inert.of_calm (Calm.note (by decide))).guarded p) fun _ => ?_
  refine Keeps.bind ((stopSession_foot _).inert.guarded p) fun r => ?_
  exact Keeps.bind ((Inert.of_calm (noteFailure_calm (by decide) _ r)).guarded p) fun _ => tail

theorem startCharging_guarded (p : Plant) : Keeps p Guarded startCharging := by
  unfold startCharging
  refine Keeps.ctl_bind fun w hw => ?_
  have failed (op : String) (requested : ChargingState) (e : Failure) :
      Inert (opFailure op requested e) := Inert.of_calm (opFailure_calm _ _ _)
  by_cases hs : w.ctl.shutDown = true
  · rw [if_pos hs]
    exact (failed _ _ _).guarded p w hw
  rw [if_neg hs]
  by_cases he : w.ctl.sessionEnabled = true
  · -- the switch is on from the check to the relay write
    rw [if_neg (by simp [he])]
    refine ((?_ : Keeps p GuardedOn _) w ⟨hw, he⟩).1
    refine Keeps.bind ((request_inert _ _).guardedOn p) fun r => ?_
    split
    · exact (failed _ _ _).guardedOn p
    refine Keeps.bind (setRelay_guardedOn true p) fun r => ?_
    split
    · refine Keeps.bind ((request_inert _ _).guardedOn p) fun r => ?_
      refine Keeps.bind ((Inert.of_calm (noteFailure_calm (by decide) _ r)).guardedOn p)
        fun _ => ?_
      exact (failed _ _ _).guardedOn p
    · refine Keeps.ctl.bind fun c => Keeps.bind ?_ fun _ => Keeps.pure _
      exact (Inert.of_calm (Calm.note (by simp [Effect.switch?, toString_string]))).guardedOn p
  · rw [if_pos (by simp [he])]
    refine Inert.guarded ?_ p w hw
    exact Along.bind (Inert.of_calm (Calm.note_of_ne_info (by decide))) fun _ => failed _ _ _

theorem switchRelay_guarded (on : Bool) (p : Plant) : Keeps p Guarded (switchRelay on) := by
  unfold switchRelay
  refine Keeps.ctl_bind fun w hw => ?_
  by_cases h : (on && !w.ctl.sessionEnabled) = true
  · rw [if_pos h]
    exact hw
  · rw [if_neg h]
    exact setRelay_guarded p hw fun hon => by simpa [hon] using h

theorem command_guarded (text : String) (p : Plant) : Keeps p Guarded (command text) := by
  unfold command
  refine Keeps.bind ((Inert.of_calm (Calm.note_of_ne_info (by decide))).guarded p) fun _ => ?_
  split
  · exact startCharging_guarded p
  · exact stopCharging_foot.inert.guarded p
  · exact pauseCharging_foot.inert.guarded p
  · exact resumeCharging_foot.inert.guarded p
  · exact Keeps.bind (enableSessions_guarded _ p) fun _ => Keeps.pure _
  · exact Keeps.bind (disableSessions_guarded _ p) fun _ => Keeps.pure _
  · exact reset_inert.guarded p
  · exact switchRelay_guarded true p
  · exact switchRelay_guarded false p
  · exact Keeps.pure _

theorem button_guarded (channel : String) (pressed : Bool) (p : Plant) :
    Keeps p Guarded (button channel pressed) := by
  unfold button
  refine Keeps.ite (fun _ => Keeps.pure _) fun _ => ?_
  refine Keeps.ctl.bind fun c => Keeps.ite (fun _ => Keeps.pure _) fun _ => ?_
  refine Keeps.bind
    ((Inert.of_calm (Calm.note (by simp [Effect.switch?, toString_string]))).guarded p) fun _ => ?_
  refine Keeps.ctl.bind fun c => ?_
  have last : Keeps p Guarded (do publish; pure (.ok ()) : Act Outcome) :=
    Keeps.bind ((Inert.of_calm publish_calm).guarded p) fun _ => Keeps.pure _
  dsimp only
  exact Keeps.ite (fun _ => Keeps.bind (disableSessions_guarded _ p) fun _ => last)
    fun _ => Keeps.bind (enableSessions_guarded _ p) fun _ => last

theorem applyContactor_guarded (on : Bool) (p : Plant) : Keeps p Guarded (applyContactor on) := by
  unfold applyContactor
  refine Keeps.ctl_bind fun w hw => ?_
  by_cases h : (on && !w.ctl.sessionEnabled) = true
  · rw [if_pos h]
    exact (Inert.of_calm (Calm.note_of_ne_info (by decide))).guarded p w hw
  · rw [if_neg h]
    by_cases hr : (on != w.ctl.relayEnabled) = true
    · rw [if_pos hr, exec_bind]
      refine (Inert.of_calm (noteFailure_calm (by decide) _ _)).guarded p _ ?_
      exact setRelay_guarded p hw fun hon => by simpa [hon] using h
    · rw [if_neg hr]
      exact hw

theorem followEnable_guarded (prev next : Bool) (p : Plant) :
    Keeps p Guarded (followEnable prev next) := by
  unfold followEnable
  refine Keeps.ite (fun _ => ?_) fun _ => Keeps.pure _
  refine Keeps.bind
    ((Inert.of_calm (Calm.note (by simp [Effect.switch?, toString_string]))).guarded p) fun _ => ?_
  refine Keeps.ctl.bind fun c => ?_
  exact Keeps.ite (fun _ => enableSessions_guarded _ p) fun _ =>
    Keeps.ite (fun _ => disableSessions_guarded _ p) fun _ => Keeps.pure _

theorem followIntent_inert (prev next : ChargingState) : Inert (followIntent prev next) := by
  unfold followIntent
  refine Along.ite (fun _ => ?_) fun _ => Along.pure _
  exact Along.bind (Inert.of_calm (Calm.note (by simp [Effect.switch?, toString_string])))
    fun _ => applyIntent_inert _

theorem followContactor_guarded (prev next : Bool) (p : Plant) :
    Keeps p Guarded (followContactor prev next) := by
  unfold followContactor
  refine Keeps.ite (fun _ => ?_) fun _ => Keeps.pure _
  exact Keeps.bind
    ((Inert.of_calm (Calm.note (by simp [Effect.switch?, toString_string]))).guarded p) fun _ =>
      applyContactor_guarded _ p

theorem applyPeer_guarded (s : Wire.StateReport) (h : Wire.Hardware) (p : Plant) :
    Keeps p Guarded (applyPeer s h) := by
  unfold applyPeer
  refine Keeps.ctl.bind fun c => ?_
  refine Keeps.bind ((peerState_foot _ _ : Foot [] _).inert.guarded p) fun st => ?_
  refine Keeps.bind (followEnable_guarded _ _ p) fun _ => ?_
  refine Keeps.bind ((followIntent_inert _ _).guarded p) fun _ => ?_
  refine Keeps.bind (followContactor_guarded _ _ p) fun _ => ?_
  refine Keeps.bind (Inert.guarded ?_ p) fun _ => Keeps.pure _
  exact Inert.modifyCtl (fun _ => rfl) fun _ => rfl

theorem handleMessage_guarded (bytes : List UInt8) (p : Plant) :
    Keeps p Guarded (handleMessage bytes) := by
  unfold handleMessage
  have ignored (text : String) : Inert (do note .debug text; pure (.ok ()) : Act Outcome) :=
    Along.bind (Inert.of_calm (Calm.note_of_ne_info (by decide))) fun _ => Along.pure _
  refine Keeps.ite (fun _ => Inert.guarded ?_ p) fun _ => ?_
  · refine Along.ctl.bind fun c => ?_
    dsimp only
    split
    · exact Along.ite (fun _ => Along.bind (withPilot_foot _ _ fun _ => eventMoves_subset _).inert
        fun _ => Along.pure _) fun _ => ignored _
    · exact ignored _
  split
  · refine Inert.guarded ?_ p
    refine Along.bind (Inert.of_calm (Calm.observe _)) fun _ => ?_
    exact Along.bind (Inert.of_calm (noteMalformed_calm _)) fun _ => Along.pure _
  · refine Keeps.ctl.bind fun c => Keeps.ite (fun _ => Keeps.pure _) fun _ => ?_
    refine Keeps.bind ((peerHeard_foot : Foot [] _).inert.guarded p) fun _ => ?_
    refine Keeps.bind (applyPeer_guarded _ _ p) fun changed => ?_
    dsimp only
    refine Keeps.ite (fun _ => Inert.guarded ?_ p) fun _ => Keeps.pure _
    refine Along.bind (Inert.of_calm sendStatus_calm) fun r => ?_
    refine Along.bind (Inert.of_calm (noteFailure_calm (by decide) _ r)) fun _ => ?_
    exact Along.bind (Inert.of_calm publish_calm) fun _ => Along.pure _
  · exact (ignored _).guarded p

/-- Every input keeps the trace guarded, on every plant. -/
theorem Input.act_guarded (i : Input) (p : Plant) : Keeps p Guarded i.act := by
  cases i with
  | startUp => exact startUp_foot.inert.guarded p
  | startCharging => exact startCharging_guarded p
  | stopCharging => exact stopCharging_foot.inert.guarded p
  | pauseCharging => exact pauseCharging_foot.inert.guarded p
  | resumeCharging => exact resumeCharging_foot.inert.guarded p
  | reset => exact reset_inert.guarded p
  | enable => exact Keeps.bind (enableSessions_guarded _ p) fun _ => Keeps.pure _
  | disable => exact Keeps.bind (disableSessions_guarded _ p) fun _ => Keeps.pure _
  | relay on => exact switchRelay_guarded on p
  | command text => exact command_guarded text p
  | button channel pressed => exact button_guarded channel pressed p
  | tick => exact tick_foot.inert.guarded p
  | message bytes => exact handleMessage_guarded bytes p
  | pilotStart => exact pilotStart_foot.inert.guarded p
  | pilotStop =>
    exact Keeps.bind ((pilotStop_foot : Foot [] _).inert.guarded p) fun _ => Keeps.pure _
  | pilotSample probe reading =>
    exact Keeps.bind ((pilotSample_foot probe reading).inert.guarded p) fun _ => Keeps.pure _
  | shutdown => exact Keeps.bind (shutdown_foot.inert.guarded p) fun _ => Keeps.pure _
  | run stop => exact (run_foot stop).inert.guarded p

/-- On every run every attempt to close the relay stands where the session switch the trace records
is on. -/
theorem relay_closes_only_while_enabled {w : World} (h : Reachable (fun _ => True) w) :
    switchAfter w.ctl.settings.startEnabled w.trace = w.ctl.sessionEnabled ∧
      ∀ pre ok post, w.trace = pre ++ .write Hardware.relay true ok :: post →
        switchAfter w.ctl.settings.startEnabled pre = true := by
  have hg : Guarded w :=
    Reachable.invariant (fun _ _ _ _ => ⟨rfl, trivial⟩) (fun p _ i => Input.act_guarded i p)
      (fun _ hw => ⟨hw.1, hw.2⟩) (fun _ _ hw => ⟨hw.1, hw.2⟩) h
  refine ⟨hg.switch, fun pre ok post ht => closesWhileOn_split (ht ▸ hg.closes) ?_⟩
  simp [Effect.closesRelay]

/-- A controller built disabled, then enabled and asked to close the relay. -/
theorem relay_closes_after_enable :
    let w₀ : World := ⟨Controller.new ⟨2000000000, 16, false⟩ none true none, []⟩
    let w := (step (Plant.ideal ⟨0, 0⟩) (step (Plant.ideal ⟨0, 0⟩) w₀ .enable).1 (.relay true)).1
    Reachable (fun _ => True) w ∧
      (switchAfter w.ctl.settings.startEnabled w.trace = w.ctl.sessionEnabled ∧
        ∀ pre ok post, w.trace = pre ++ .write Hardware.relay true ok :: post →
          switchAfter w.ctl.settings.startEnabled pre = true) :=
  have h := Reachable.step _ _ trivial (Reachable.step _ _ trivial (Reachable.new _ _ _ _))
  ⟨h, relay_closes_only_while_enabled h⟩

end Evse.Control