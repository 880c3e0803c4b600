import Evse.Proofs.Control.RelayGuard
import Evse.Proofs.Control.ErrorLatch
/-!
Who closes the relay: a start, a relay request while sessions are enabled, or the peer's
contactor flag.
-/
namespace Evse.Control

open ChargingState

/-! ## Traces that leave the relay alone -/

/-- The trace of `w'` is that of `w` grown by effects none of which closes the relay. -/
def KeptOpen (w w' : World) : Prop :=
  ∃ seg, w'.trace = w.trace ++ seg ∧ ∀ e ∈ seg, e.closesRelay = false

/-- Some effect that `w'` adds to the trace of `w` attempts to close the relay. -/
def ClosesRelay (w w' : World) : Prop :=
  ∃ e ∈ w'.trace.drop w.trace.length, e.closesRelay = true

instance (w w' : World) : Decidable (ClosesRelay w w') :=
  inferInstanceAs (Decidable (∃ e ∈ w'.trace.drop w.trace.length, e.closesRelay = true))

namespace KeptOpen

theorem refl (w : World) : KeptOpen w w := ⟨[], by simp, by simp⟩

theorem trans {w₁ w₂ w₃ : World} (h₁ : KeptOpen w₁ w₂) (h₂ : KeptOpen w₂ w₃) :
    KeptOpen w₁ w₃ := by
  obtain ⟨s₁, ht₁, hc₁⟩ := h₁
  obtain ⟨s₂, ht₂, hc₂⟩ := h₂
  refine ⟨s₁ ++ s₂, by rw [ht₂, ht₁, List.append_assoc], fun e he => ?_⟩
  rcases List.mem_append.mp he with he | he
  · exact hc₁ e he
  · exact hc₂ e he

theorem emit {w : World} {e : Effect} (h : e.closesRelay = false) :
    KeptOpen w { w with trace := w.trace ++ [e] } :=
  ⟨[e], rfl, by simpa using h⟩

theorem not_closes {w w' : World} (h : KeptOpen w w') : ¬ClosesRelay w w' := by
  obtain ⟨seg, ht, hc⟩ := h
  rintro ⟨e, he, hclose⟩
  rw [ht, List.drop_left] at he
  rw [hc e he] at hclose
  exact Bool.false_ne_true hclose

end KeptOpen

theorem Drift.keptOpen {w w' : World} (h : Drift w w') : KeptOpen w w' := by
  obtain ⟨-, -, _ns, seg, ht, hq, -⟩ := h
  exact ⟨seg, ht, fun e he => (hq e he).closes⟩

/-- An action that, on every plant, adds nothing to the trace that closes the relay. -/
abbrev NeverCloses {α : Type} (x : Act α) : Prop := Along (fun _ => True) (fun _ => KeptOpen) x

namespace NeverCloses

variable {α β : Type} {x : Act α}

theorem keptOpen (h : NeverCloses x) (p : Plant) (w : World) : KeptOpen w (exec x p w).2 :=
  h p trivial w w (KeptOpen.refl w)

theorem of_keptOpen (h : ∀ p w, KeptOpen w (exec x p w).2) : NeverCloses x :=
  fun p _ _ w hw => hw.trans (h p w)

theorem note (severity : Log.Severity) (text : String) :
    NeverCloses (Control.note severity text) :=
  of_keptOpen fun _ _ => KeptOpen.emit rfl

theorem modifyCtl (f : Controller → Controller) : NeverCloses (Control.modifyCtl f) :=
  of_keptOpen fun _ _ => ⟨[], by simp, by simp⟩

/-- A first step that closes nothing, then a rest that closes nothing from where it ends. -/
theorem keptOpen_bind (hx : NeverCloses x) {f : α → Act β} {p : Plant} {w : World}
    (hf : KeptOpen (exec x p w).2 (exec (f (exec x p w).1) p (exec x p w).2).2) :
    KeptOpen w (exec (x >>= f) p w).2 :=
  (hx.keptOpen p w).trans hf

end NeverCloses

theorem Inert.neverCloses {α : Type} {x : Act α} (h : Inert x) : NeverCloses x :=
  NeverCloses.of_keptOpen fun p w => (h.drift p w).keptOpen

theorem Calm.neverCloses {α : Type} {x : Act α} (h : Calm x) : NeverCloses x :=
  (Inert.of_calm h).neverCloses

/-- An attempt to close the relay between `w` and `w'` is one between any earlier point of the
same trace and `w'`. -/
theorem ClosesRelay.of_later {w₀ w w' : World} (hl : w₀.trace.length ≤ w.trace.length)
    (h : ClosesRelay w w') : ClosesRelay w₀ w' := by
  obtain ⟨e, he, hc⟩ := h
  exact ⟨e, (List.drop_sublist_drop_left _ hl).subset he, hc⟩

/-! ## Actions that never close the relay -/

theorem turnSwitch_neverCloses (v : Bool) (text : String) : NeverCloses (turnSwitch v text) := by
  unfold turnSwitch
  refine Along.bind (NeverCloses.modifyCtl _) fun _ => ?_
  refine Along.bind (Calm.observe _).neverCloses fun _ => ?_
  exact Along.bind (NeverCloses.note _ _) fun _ => refreshLeds_calm.neverCloses

theorem enableSessions_neverCloses (source : String) : NeverCloses (enableSessions source) :=
  turnSwitch_neverCloses _ _

theorem disableSessions_neverCloses (source : String) : NeverCloses (disableSessions source) := by
  unfold disableSessions
  refine Along.ctl.bind fun c => ?_
  dsimp only
  refine Along.ite (fun _ => ?_) fun _ => turnSwitch_neverCloses _ _
  refine Along.bind (NeverCloses.note _ _) fun _ => ?_
  refine Along.bind (stopSession_foot _).inert.neverCloses fun r => ?_
  exact Along.bind (noteFailure_calm (by decide) _ r).neverCloses fun _ =>
    turnSwitch_neverCloses _ _

theorem followEnable_neverCloses (prev next : Bool) : NeverCloses (followEnable prev next) := by
  unfold followEnable
  refine Along.ite (fun _ => ?_) fun _ => Along.pure _
  refine Along.bind (NeverCloses.note _ _) fun _ => ?_
  refine Along.ctl.bind fun c => ?_
  exact Along.ite (fun _ => enableSessions_neverCloses _) fun _ =>
    Along.ite (fun _ => disableSessions_neverCloses _) fun _ => Along.pure _

theorem button_neverCloses (channel : String) (pressed : Bool) :
    NeverCloses (button channel pressed) := by
  unfold button
  refine Along.ite (fun _ => Along.pure _) fun _ => ?_
  refine Along.ctl.bind fun c => Along.ite (fun _ => Along.pure _) fun _ => ?_
  refine Along.bind (NeverCloses.note _ _) fun _ => ?_
  refine Along.ctl.bind fun c => ?_
  have last : NeverCloses (do publish; pure (.ok ()) : Act Outcome) :=
    Along.bind publish_calm.neverCloses fun _ => Along.pure _
  dsimp only
  exact Along.ite (fun _ => Along.bind (disableSessions_neverCloses _) fun _ => last)
    fun _ => Along.bind (enableSessions_neverCloses _) fun _ => last

theorem applyContactor_off_neverCloses : NeverCloses (applyContactor false) := by
  unfold applyContactor
  refine Along.ctl.bind fun c => ?_
  refine Along.ite (fun _ => NeverCloses.note _ _) fun _ => ?_
  refine Along.ite (fun _ => ?_) fun _ => Along.pure _
  exact Along.bind setRelay_off_inert.neverCloses fun r =>
    (noteFailure_calm (by decide) _ r).neverCloses

/-- Following the contactor flag closes the relay only when the flag turns on. -/
theorem followContactor_neverCloses {prev next : Bool} (h : ¬(next = true ∧ prev = false)) :
    NeverCloses (followContactor prev next) := by
  unfold followContactor
  refine Along.ite (fun hc => ?_) fun _ => Along.pure _
  have hn : next = false := by cases next <;> cases prev <;> simp_all
  subst hn
  exact Along.bind (NeverCloses.note _ _) fun _ => applyContactor_off_neverCloses

/-! ## The actions that may close it, and when they do not -/

/-- What a start needs to reach the relay write: a running controller, sessions enabled and a
machine state the start path leads from. -/
def StartAllowed (c : Controller) : Prop :=
  c.shutDown = false ∧ c.sessionEnabled = true ∧
    ∃ path, Request.startCharging.route c.machine.state = .ok path

/-- The start path leads from no error. -/
theorem StartAllowed.ne_error {c : Controller} (h : StartAllowed c) :
    c.machine.state ≠ error := by
  obtain ⟨-, -, path, hr⟩ := h
  intro he
  have hrefused : Request.startCharging.route error =
      .error ⟨"start charging", error, charging.code⟩ := rfl
  rw [he, hrefused] at hr
  cases hr

theorem startCharging_keptOpen {w : World} (h : ¬StartAllowed w.ctl) (p : Plant) :
    KeptOpen w (exec startCharging p w).2 := by
  unfold startCharging
  rw [exec_ctl_bind]
  by_cases hs : w.ctl.shutDown = true
  · rw [if_pos hs]
    exact (opFailure_calm _ _ _).neverCloses.keptOpen p w
  rw [if_neg hs]
  by_cases he : w.ctl.sessionEnabled = true
  · rw [if_neg (by simp [he])]
    -- the start path does not lead from the machine's state, so the machine refuses the start
    obtain ⟨e, hr⟩ : ∃ e, Request.startCharging.route w.ctl.machine.state = .error e := by
      cases hr : Request.startCharging.route w.ctl.machine.state with
      | error e => exact ⟨e, rfl⟩
      | ok path => exact absurd ⟨by simpa using hs, he, path, hr⟩ h
    rw [exec_bind, request_refused hr]
    exact (opFailure_calm _ _ _).neverCloses.keptOpen p w
  · rw [if_pos (by simp [he])]
    refine NeverCloses.keptOpen ?_ p w
    exact Along.bind (NeverCloses.note _ _) fun _ => (opFailure_calm _ _ _).neverCloses

theorem switchRelay_keptOpen {on : Bool} {w : World}
    (h : ¬(on = true ∧ w.ctl.sessionEnabled = true)) (p : Plant) :
    KeptOpen w (exec (switchRelay on) p w).2 := by
  unfold switchRelay
  rw [exec_ctl_bind]
  by_cases hg : (on && !w.ctl.sessionEnabled) = true
  · rw [if_pos hg]
    exact KeptOpen.refl w
  · rw [if_neg hg]
    have hoff : on = false := by cases on <;> simp_all
    subst hoff
    exact setRelay_off_inert.neverCloses.keptOpen p w

theorem command_keptOpen {text : String} {w : World}
    (hs : Text.lower (Text.trimBlanks text) = "start" → ¬StartAllowed w.ctl)
    (hr : ¬(Text.lower (Text.trimBlanks text) = "relay:on" ∧ w.ctl.sessionEnabled = true))
    (p : Plant) : KeptOpen w (exec (command text) p w).2 := by
  unfold command
  refine NeverCloses.keptOpen_bind (NeverCloses.note _ _) ?_
  split
  · next hw =>
    refine startCharging_keptOpen ?_ p
    exact hs hw
  · exact stopCharging_foot.inert.neverCloses.keptOpen p _
  · exact pauseCharging_foot.inert.neverCloses.keptOpen p _
  · exact resumeCharging_foot.inert.neverCloses.keptOpen p _
  · refine NeverCloses.keptOpen ?_ p _
    exact Along.bind (enableSessions_neverCloses _) fun _ => Along.pure _
  · refine NeverCloses.keptOpen ?_ p _
    exact Along.bind (disableSessions_neverCloses _) fun _ => Along.pure _
  · exact reset_inert.neverCloses.keptOpen p _
  · next hw =>
    refine switchRelay_keptOpen ?_ p
    exact fun ⟨_, he⟩ => hr ⟨hw, he⟩
  · exact switchRelay_keptOpen (fun ⟨hon, _⟩ => Bool.false_ne_true hon) p
  · exact KeptOpen.refl _

/-- Being heard keeps what the controller saw of its peer. -/
theorem peerHeard_peer (p : Plant) (w : World) : (exec peerHeard p w).2.ctl.peer = w.ctl.peer := by
  unfold peerHeard
  simp only [exec_bind, exec_read, exec_modifyCtl, exec_observe]
  exact congrArg Core.peer (reportFault_settled _ _ p _).1

theorem applyPeer_keptOpen (s : Wire.StateReport) {h : Wire.Hardware} {w : World}
    (hc : ¬(h.mainContactor = true ∧ w.ctl.peer.contactor = false)) (p : Plant) :
    KeptOpen w (exec (applyPeer s h) p w).2 := by
  unfold applyPeer
  rw [exec_ctl_bind]
  refine NeverCloses.keptOpen ?_ p w
  refine Along.bind (peerState_foot _ _ : Foot [] _).inert.neverCloses fun st => ?_
  refine Along.bind (followEnable_neverCloses _ _) fun _ => ?_
  refine Along.bind (followIntent_inert _ _).neverCloses fun _ => ?_
  refine Along.bind (followContactor_neverCloses hc) fun _ => ?_
  exact Along.bind (NeverCloses.modifyCtl _) fun _ => Along.pure _

/-! ## The inputs that may close the relay -/

/-- An operator start, as an operation or as a command word. -/
def Input.Starts (i : Input) : Prop :=
  i = .startCharging ∨ ∃ text, i = .command text ∧ Text.lower (Text.trimBlanks text) = "start"

/-- A request to close the relay, as an operation or as the command word `relay:on`. -/
def Input.RequestsRelay (i : Input) : Prop :=
  i = .relay true ∨ ∃ text, i = .command text ∧ Text.lower (Text.trimBlanks text) = "relay:on"

/-- A state envelope to a running controller that turns the peer's contactor flag on. -/
def Input.TurnsContactorOn (i : Input) (w : World) : Prop :=
  ∃ bytes s h, i = .message bytes ∧ Wire.Message.decode bytes = .ok (.stateEnvelope s h) ∧
    w.ctl.shutDown = false ∧ h.mainContactor = true ∧ w.ctl.peer.contactor = false

/-- The inputs that may close the relay from `w`: a start the controller may take, a relay
request while sessions are enabled, and an envelope that turns the contactor flag on. -/
def Input.MayClose (i : Input) (w : World) : Prop :=
  (i.Starts ∧ StartAllowed w.ctl) ∨ (i.RequestsRelay ∧ w.ctl.sessionEnabled = true) ∨
    i.TurnsContactorOn w

theorem handleMessage_keptOpen {bytes : List UInt8} {w : World}
    (h : ¬(Input.message bytes).TurnsContactorOn w) (p : Plant) :
    KeptOpen w (exec (handleMessage bytes) p w).2 := by
  by_cases he : ∃ s hw, Wire.Message.decode bytes = .ok (.stateEnvelope s hw) ∧
      w.ctl.shutDown = false
  · obtain ⟨s, hw, hd, hsd⟩ := he
    have hc : ¬(hw.mainContactor = true ∧ (exec peerHeard p w).2.ctl.peer.contactor = false) := by
      rw [peerHeard_peer]
      exact fun ⟨hon, hoff⟩ => h ⟨bytes, s, hw, rfl, hd, hsd, hon, hoff⟩
    exact ((peerHeard_foot : Foot [] _).inert.neverCloses.keptOpen p w).trans
      ((applyPeer_keptOpen s hc p).trans (handleMessage_envelope_settled hd p hsd).drift.keptOpen)
  have ignored (text : String) :
      NeverCloses (do note .debug text; pure (.ok ()) : Act Outcome) :=
    Along.bind (NeverCloses.note _ _) fun _ => Along.pure _
  unfold handleMessage
  by_cases hcp : PilotState.isMessage bytes = true
  · rw [if_pos hcp]
    refine NeverCloses.keptOpen ?_ p w
    refine Along.ctl.bind fun c => ?_
    dsimp only
    split
    · exact Along.ite (fun _ => Along.bind
        (withPilot_foot _ _ fun _ => eventMoves_subset _).inert.neverCloses fun _ => Along.pure _)
        fun _ => ignored _
    · exact ignored _
  rw [if_neg hcp]
  split
  · refine NeverCloses.keptOpen ?_ p w
    exact Along.bind (Calm.observe _).neverCloses fun _ =>
      Along.bind (noteMalformed_calm _).neverCloses fun _ => Along.pure _
  · next s hw hd =>
    -- an envelope comes this far only to a controller shut down, which refuses it
    have hsd : w.ctl.shutDown = true := by
      cases hsd : w.ctl.shutDown with
      | false => exact absurd ⟨s, hw, hd, hsd⟩ he
      | true => rfl
    rw [exec_ctl_bind, if_pos hsd]
    exact KeptOpen.refl w
  · exact (ignored _).keptOpen p w

/-- On every plant, an input that may not close the relay from `w` adds nothing to the trace
that closes it. -/
theorem Input.keptOpen_of_not_mayClose {i : Input} {w : World} (h : ¬i.MayClose w) (p : Plant) :
    KeptOpen w (step p w i).1 := by
  rw [step_eq]
  cases i with
  | startUp => exact startUp_foot.inert.neverCloses.keptOpen p w
  | startCharging => exact startCharging_keptOpen (fun hs => h (.inl ⟨.inl rfl, hs⟩)) p
  | stopCharging => exact stopCharging_foot.inert.neverCloses.keptOpen p w
  | pauseCharging => exact pauseCharging_foot.inert.neverCloses.keptOpen p w
  | resumeCharging => exact resumeCharging_foot.inert.neverCloses.keptOpen p w
  | reset => exact reset_inert.neverCloses.keptOpen p w
  | enable =>
    refine NeverCloses.keptOpen ?_ p w
    exact Along.bind (enableSessions_neverCloses _) fun _ => Along.pure _
  | disable =>
    refine NeverCloses.keptOpen ?_ p w
    exact Along.bind (disableSessions_neverCloses _) fun _ => Along.pure _
  | relay on =>
    refine switchRelay_keptOpen (fun ⟨hon, he⟩ => h (.inr (.inl ⟨.inl ?_, he⟩))) p
    rw [hon]
  | command text =>
    exact command_keptOpen (fun hw hs => h (.inl ⟨.inr ⟨text, rfl, hw⟩, hs⟩))
      (fun ⟨hw, he⟩ => h (.inr (.inl ⟨.inr ⟨text, rfl, hw⟩, he⟩))) p
  | button channel pressed => exact (button_neverCloses channel pressed).keptOpen p w
  | tick => exact tick_foot.inert.neverCloses.keptOpen p w
  | message bytes => exact handleMessage_keptOpen (fun hc => h (.inr (.inr hc))) p
  | pilotStart => exact pilotStart_foot.inert.neverCloses.keptOpen p w
  | pilotStop =>
    refine NeverCloses.keptOpen ?_ p w
    exact Along.bind (pilotStop_foot : Foot [] _).inert.neverCloses fun _ => Along.pure _
  | pilotSample probe reading =>
    refine NeverCloses.keptOpen ?_ p w
    exact Along.bind (pilotSample_foot probe reading).inert.neverCloses fun _ => Along.pure _
  | shutdown =>
    refine NeverCloses.keptOpen ?_ p w
    exact Along.bind shutdown_foot.inert.neverCloses fun _ => Along.pure _
  | run stop => exact (run_foot stop).inert.neverCloses.keptOpen p w

/-- Writing the relay closed grows the trace by an attempt to close it, and a write that
succeeds records the relay closed. -/
theorem setRelay_on_closes (p : Plant) (w : World) :
    w.trace <+: (exec (setRelay true) p w).2.trace ∧ ClosesRelay w (exec (setRelay true) p w).2 ∧
      (p.writeFault Hardware.relay true 0 = none →
        (exec (setRelay true) p w).2.ctl.relayEnabled = true) := by
  obtain ⟨hc, -, seg, ht, -, -⟩ := (setRelay_spec true p w).2
  have hw : Effect.write Hardware.relay true (p.writeFault Hardware.relay true 0).isNone ∈
      (exec (setRelay true) p w).2.trace.drop w.trace.length := by simp [ht]
  refine ⟨⟨_, (List.append_assoc _ _ seg).symm.trans ht.symm⟩, ⟨_, hw, rfl⟩, fun hf => ?_⟩
  simpa [Controller.afterRelay, hf] using congrArg Core.relayEnabled hc

theorem switchRelay_on_closes {w : World} (he : w.ctl.sessionEnabled = true) (p : Plant) :
    w.trace <+: (exec (switchRelay true) p w).2.trace ∧
      ClosesRelay w (exec (switchRelay true) p w).2 ∧
      (p.writeFault Hardware.relay true 0 = none →
        (exec (switchRelay true) p w).2.ctl.relayEnabled = true) := by
  unfold switchRelay
  rw [exec_ctl_bind, if_neg (by simp [he])]
  exact setRelay_on_closes p w

theorem exec_command_relayOn {text : String} (h : Text.lower (Text.trimBlanks text) = "relay:on")
    (p : Plant) (w : World) :
    exec (command text) p w = exec (switchRelay true) p
      { w with trace :=
        w.trace ++ [.note .debug "Controller" "Handling operator command: relay:on"] } := by
  unfold command
  simp only [h, exec_bind, exec_note]
  rfl

/-- While sessions are enabled a relay request grows the trace by an attempt to close the relay,
whatever the machine's state, and a write that succeeds records it closed. -/
theorem Input.RequestsRelay.closes {i : Input} (hi : i.RequestsRelay) {w : World}
    (he : w.ctl.sessionEnabled = true) (p : Plant) :
    w.trace <+: (step p w i).1.trace ∧ ClosesRelay w (step p w i).1 ∧
      (p.writeFault Hardware.relay true 0 = none → (step p w i).1.ctl.relayEnabled = true) := by
  rw [step_eq]
  rcases hi with rfl | ⟨text, rfl, hw⟩
  · exact switchRelay_on_closes he p
  · show w.trace <+: (exec (Control.command text) p w).2.trace ∧
      ClosesRelay w (exec (Control.command text) p w).2 ∧
      (_ → (exec (Control.command text) p w).2.ctl.relayEnabled = true)
    rw [exec_command_relayOn hw]
    obtain ⟨hp, hc, hr⟩ := switchRelay_on_closes (w := { w with trace :=
      w.trace ++ [.note .debug "Controller" "Handling operator command: relay:on"] }) he p
    exact ⟨(List.prefix_append _ _).trans hp, hc.of_later (by simp), hr⟩

/-! ## A band change into F -/

/-- The trace of `w'` is that of `w` grown by effects among which the relay is written open. -/
def WroteOpen (w w' : World) : Prop :=
  ∃ seg, w'.trace = w.trace ++ seg ∧ ∃ ok, Effect.write Hardware.relay false ok ∈ seg

theorem WroteOpen.written {w w' : World} (h : WroteOpen w w') :
    ∃ ok, Effect.write Hardware.relay false ok ∈ w'.trace.drop w.trace.length := by
  obtain ⟨seg, ht, ok, hok⟩ := h
  exact ⟨ok, by rw [ht, List.drop_left]; exact hok⟩

theorem WroteOpen.keptOpen {w w' w'' : World} (h : WroteOpen w w') (h' : KeptOpen w' w'') :
    WroteOpen w w'' := by
  obtain ⟨seg, ht, ok, hok⟩ := h
  obtain ⟨seg', ht', -⟩ := h'
  exact ⟨seg ++ seg', by rw [ht', ht, List.append_assoc], ok, List.mem_append_left _ hok⟩

/-- Writing the relay open after a trace that closed nothing writes it open. -/
theorem setRelay_off_wroteOpen {w w' : World} (h : KeptOpen w w') (p : Plant) :
    WroteOpen w (exec (setRelay false) p w').2 := by
  obtain ⟨-, -, seg, ht, -, -⟩ := (setRelay_spec false p w').2
  obtain ⟨pre, hpre, -⟩ := h
  refine ⟨pre ++ .write Hardware.relay false (p.writeFault Hardware.relay false 0).isNone :: seg,
    by simp [ht, hpre], (p.writeFault Hardware.relay false 0).isNone, by simp⟩

theorem Triple.of_neverCloses {α : Type} {x : Act α} (h : NeverCloses x) (p : Plant)
    (w : World) : Triple p (KeptOpen w) x (KeptOpen w) :=
  fun w' hw' => hw'.trans (h.keptOpen p w')

theorem Triple.wroteOpen {α : Type} {x : Act α} (h : NeverCloses x) (p : Plant) (w : World) :
    Triple p (WroteOpen w) x (WroteOpen w) :=
  fun w' hw' => hw'.keptOpen (h.keptOpen p w')

/-- `w'` follows `w` with the relay written open and, on a plant whose other listeners never
refuse, the machine in error. -/
def Faulted (p : Plant) (w w' : World) : Prop :=
  WroteOpen w w' ∧ (p.Agreeable → w'.ctl.machine.state = error)

theorem Faulted.calm {α : Type} {x : Act α} (h : Calm x) (p : Plant) (w : World) :
    Triple p (Faulted p w) x (Faulted p w) :=
  fun w' hw' => ⟨hw'.1.keptOpen (h.neverCloses.keptOpen p w'),
    fun hp => (congrArg Machine.state (h.settled p w').2.1).trans (hw'.2 hp)⟩

theorem Faulted.opens {p : Plant} {w w' : World} (h : Faulted p w w') :
    (∃ ok, Effect.write Hardware.relay false ok ∈ w'.trace.drop w.trace.length) ∧
      (p.Agreeable → w'.ctl.machine.state = error) :=
  ⟨h.1.written, h.2⟩

/-- Before shutdown, a band change into F writes the relay open, and on a plant whose other
listeners never refuse it ends with the machine in error. -/
theorem pilotChanged_fault_opens (old : PilotState) (p : Plant) {w : World}
    (hsd : w.ctl.shutDown = false) :
    (∃ ok, Effect.write Hardware.relay false ok ∈
        (exec (pilotChanged old .f) p w).2.trace.drop w.trace.length) ∧
      (p.Agreeable → (exec (pilotChanged old .f) p w).2.ctl.machine.state = error) := by
  unfold pilotChanged
  rw [exec_ctl_bind, if_neg (by simp [hsd])]
  dsimp only
  refine Faulted.opens ((?_ : Triple p (KeptOpen w) _ (Faulted p w)) w (KeptOpen.refl w))
  refine Triple.bind (Triple.of_neverCloses (NeverCloses.modifyCtl _) p w) fun _ => ?_
  refine Triple.bind (Triple.of_neverCloses (Calm.observe _).neverCloses p w) fun _ => ?_
  refine Triple.bind (Triple.of_neverCloses (NeverCloses.note _ _) p w) fun _ => ?_
  refine Triple.bind (Triple.of_neverCloses (NeverCloses.note _ _) p w) fun _ => ?_
  refine Triple.bind (Triple.of_neverCloses (reportFault_inert _ _).neverCloses p w) fun _ => ?_
  refine Triple.bind (fun w' hw' => setRelay_off_wroteOpen hw' p) fun r => ?_
  refine Triple.bind (Triple.wroteOpen (noteFailure_calm (by decide) _ r).neverCloses p w)
    fun _ => ?_
  refine Triple.bind (Q := Faulted p w) (fun w' hw' =>
    ⟨hw'.keptOpen ((request_inert _ _).neverCloses.keptOpen p w'),
      fun hp => (request_enterError_lands hp _ w').2.1⟩) fun r => ?_
  refine Triple.bind (Faulted.calm (noteFailure_calm (by decide) _ r) p w) fun _ => ?_
  exact Faulted.calm publish_calm p w

/-! ## In error -/

end Evse.Control
