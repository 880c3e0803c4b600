import Evse.Proofs.Control.RelayClosing
/-!
Shutdown as a latch: a controller shut down stays so, and only a relay request closes its
relay.
-/
namespace Evse.Control

/-! ## Staying shut down -/

/-- `w` is shut down and, unless `closing`, records the relay open. -/
def Shut (closing : Bool) (w : World) : Prop :=
  w.ctl.shutDown = true ∧ (w.ctl.relayEnabled = true → closing = true)

/-- An action that, on every plant, keeps a controller shut down and, unless `closing`, keeps
its relay recorded open. -/
abbrev KeepsShut {α : Type} (closing : Bool) (x : Act α) : Prop :=
  Along (fun _ => True) (fun _ _ => Shut closing) x

namespace KeepsShut

variable {α β : Type} {closing : Bool} {x : Act α}

theorem of_flags (h : ∀ p w, (exec x p w).2.ctl.shutDown = w.ctl.shutDown ∧
    (exec x p w).2.ctl.relayEnabled = w.ctl.relayEnabled) : KeepsShut closing x :=
  fun p _ _ w hw => ⟨(h p w).1.trans hw.1, fun hr => hw.2 ((h p w).2.symm.trans hr)⟩

theorem of_core (h : ∀ p w, (exec x p w).2.ctl.core = w.ctl.core) : KeepsShut closing x :=
  of_flags fun p w => ⟨congrArg Core.shutDown (h p w), congrArg Core.relayEnabled (h p w)⟩

theorem emit (e : Effect) : KeepsShut closing (Control.emit e) :=
  of_flags fun _ _ => ⟨rfl, rfl⟩

theorem note (severity : Log.Severity) (text : String) :
    KeepsShut closing (Control.note severity text) :=
  of_flags fun _ _ => ⟨rfl, rfl⟩

theorem modifyCtl {f : Controller → Controller} (hs : ∀ c, (f c).shutDown = c.shutDown)
    (hr : ∀ c, (f c).relayEnabled = c.relayEnabled) : KeepsShut closing (Control.modifyCtl f) :=
  of_flags fun _ w => ⟨hs w.ctl, hr w.ctl⟩

theorem triple (h : KeepsShut closing x) (p : Plant) : Triple p (Shut closing) x (Shut closing) :=
  fun w hw => h p trivial w w hw

/-- An action that first refuses a controller that is shut down. -/
theorem guard {f : Controller → Act β} (h : ∀ c, c.shutDown = true → KeepsShut closing (f c)) :
    KeepsShut closing (ctl >>= f) :=
  fun p hp w₀ w hw => h w.ctl hw.1 p hp w₀ w hw

/-- A refusal of a controller that is shut down answers at once. -/
theorem refuse {f : Controller → Act β} {a : β} :
    KeepsShut closing (ctl >>= fun c => if c.shutDown = true then pure a else f c) :=
  guard fun c hc => by
    rw [if_pos hc]
    exact Along.pure _

end KeepsShut

theorem Calm.keepsShut {α : Type} {closing : Bool} {x : Act α} (h : Calm x) :
    KeepsShut closing x :=
  KeepsShut.of_core fun p w => (h.settled p w).1

theorem request_keepsShut {closing : Bool} (req : Request) (reason : String) :
    KeepsShut closing (request req reason) :=
  KeepsShut.of_core fun p w => (request_core req reason p w).1

theorem reportFault_keepsShut {closing : Bool} (f : Fault) (present : Bool) :
    KeepsShut closing (reportFault f present) :=
  KeepsShut.of_flags fun p w =>
    ⟨congrArg Core.shutDown (reportFault_settled f present p w).1,
      congrArg Core.relayEnabled (reportFault_settled f present p w).1⟩

/-- Writing the relay open keeps it recorded open; only writing it closed may record it
closed. -/
theorem setRelay_keepsShut {closing on : Bool} (h : on = true → closing = true) :
    KeepsShut closing (setRelay on) := by
  intro p _ _ w hw
  have hc := (setRelay_spec on p w).2.1
  refine ⟨(congrArg Core.shutDown hc).trans hw.1, fun hr => ?_⟩
  have hr' : (w.ctl.afterRelay p on).relayEnabled = true :=
    (congrArg Core.relayEnabled hc).symm.trans hr
  simp only [Controller.afterRelay] at hr'
  split at hr'
  · exact h hr'
  · exact hw.2 hr'

theorem setRelay_off_keepsShut {closing : Bool} : KeepsShut closing (setRelay false) :=
  setRelay_keepsShut fun h => absurd h Bool.false_ne_true

/-- A controller that is shut down plays no pilot event, so running its monitor changes only
the monitor. -/
theorem withPilot_keepsShut {α : Type} {closing : Bool} (dflt : α)
    (f : Pilot.Monitor → Pilot.Monitor × List Pilot.Event × α) :
    KeepsShut closing (withPilot dflt f) := by
  intro p _ _ w hw
  cases hm : w.ctl.pilot with
  | none =>
    rw [exec_withPilot_none dflt f hm]
    exact hw
  | some m =>
    rw [exec_withPilot_some dflt f hm]
    have hc := pilotEvents_shut (f m).2.1 (p := p)
      (w := { w with ctl := { w.ctl with pilot := some (f m).1 } }) hw.1
    unfold Shut
    rw [hc]
    exact hw

theorem stopSession_keepsShut {closing : Bool} (reason : String) :
    KeepsShut closing (stopSession reason) := by
  unfold stopSession
  refine Along.bind (request_keepsShut _ _) fun r => ?_
  split
  · exact Along.pure _
  · exact setRelay_off_keepsShut

theorem turnSwitch_keepsShut {closing : Bool} (v : Bool) (text : String) :
    KeepsShut closing (turnSwitch v text) := by
  unfold turnSwitch
  refine Along.bind (KeepsShut.modifyCtl (fun _ => rfl) fun _ => rfl) fun _ => ?_
  refine Along.bind (Calm.observe _).keepsShut fun _ => ?_
  exact Along.bind (KeepsShut.note _ _) fun _ => refreshLeds_calm.keepsShut

theorem disableSessions_keepsShut {closing : Bool} (source : String) :
    KeepsShut closing (disableSessions source) := by
  unfold disableSessions
  refine Along.ctl.bind fun c => ?_
  dsimp only
  refine Along.ite (fun _ => ?_) fun _ => turnSwitch_keepsShut _ _
  refine Along.bind (KeepsShut.note _ _) fun _ => ?_
  refine Along.bind (stopSession_keepsShut _) fun r => ?_
  exact Along.bind (noteFailure_calm (by decide) _ r).keepsShut fun _ =>
    turnSwitch_keepsShut _ _

/-! ## Every input -/

section Inputs

variable {closing : Bool}

theorem startUp_keepsShut : KeepsShut closing startUp := by
  unfold startUp
  refine Along.ctl.bind fun c => ?_
  refine Along.bind (KeepsShut.note _ _) fun _ => ?_
  refine Along.bind setRelay_off_keepsShut fun r => ?_
  split
  · exact Along.pure _
  · refine Along.read.bind fun q => ?_
    refine Along.bind (KeepsShut.modifyCtl (fun _ => rfl) fun _ => rfl) fun _ => ?_
    refine Along.bind refreshLeds_calm.keepsShut fun _ => ?_
    refine Along.read.bind fun q => ?_
    refine Along.bind (KeepsShut.emit _) fun _ => ?_
    split
    · exact Along.pure _
    · refine Along.bind (withPilot_keepsShut _ _) fun r => ?_
      split
      · exact Along.pure _
      · exact Along.bind (KeepsShut.note _ _) fun _ => Along.pure _

theorem startCharging_keepsShut : KeepsShut closing startCharging := by
  unfold startCharging
  refine KeepsShut.guard fun c hc => ?_
  rw [if_pos hc]
  exact (opFailure_calm _ _ _).keepsShut

theorem stopCharging_keepsShut : KeepsShut closing stopCharging := by
  unfold stopCharging
  refine Along.bind (stopSession_keepsShut _) fun r => ?_
  split
  · exact (opFailure_calm _ _ _).keepsShut
  · exact Along.pure _

theorem pauseCharging_keepsShut : KeepsShut closing pauseCharging := by
  unfold pauseCharging
  refine Along.bind (request_keepsShut _ _) fun r => ?_
  split
  · exact (opFailure_calm _ _ _).keepsShut
  · exact Along.pure _

theorem resumeCharging_keepsShut : KeepsShut closing resumeCharging := by
  unfold resumeCharging
  refine Along.ctl.bind fun c => ?_
  refine Along.ite (fun _ => (opFailure_calm _ _ _).keepsShut) fun _ => ?_
  refine Along.bind (request_keepsShut _ _) fun r => ?_
  split
  · exact (opFailure_calm _ _ _).keepsShut
  · exact Along.pure _

theorem reset_keepsShut : KeepsShut closing reset := by
  unfold reset
  refine Along.bind (request_keepsShut _ _) fun r => ?_
  split
  · exact (opFailure_calm _ _ _).keepsShut
  · refine Along.read.bind fun q => ?_
    refine Along.bind (Along.forIn _ _ fun f _ u => ?_) fun _ => Along.pure _
    refine Along.ctl.bind fun c => ?_
    exact Along.ite (fun _ => Along.bind (reportFault_keepsShut _ _) fun _ => Along.pure _)
      fun _ => Along.pure _

theorem switchRelay_keepsShut {on : Bool} (h : on = true → closing = true) :
    KeepsShut closing (switchRelay on) := by
  unfold switchRelay
  refine Along.ctl.bind fun c => Along.ite (fun _ => Along.pure _) fun _ => ?_
  exact setRelay_keepsShut h

theorem command_keepsShut {text : String}
    (h : Text.lower (Text.trimBlanks text) = "relay:on" → closing = true) :
    KeepsShut closing (command text) := by
  unfold command
  refine Along.bind (KeepsShut.note _ _) fun _ => ?_
  split
  · exact startCharging_keepsShut
  · exact stopCharging_keepsShut
  · exact pauseCharging_keepsShut
  · exact resumeCharging_keepsShut
  · exact Along.bind (turnSwitch_keepsShut _ _) fun _ => Along.pure _
  · exact Along.bind (disableSessions_keepsShut _) fun _ => Along.pure _
  · exact reset_keepsShut
  · next hw => exact switchRelay_keepsShut fun _ => h hw
  · exact switchRelay_keepsShut fun hon => absurd hon Bool.false_ne_true
  · exact Along.pure _

theorem button_keepsShut (channel : String) (pressed : Bool) :
    KeepsShut closing (button channel pressed) := by
  unfold button
  exact Along.ite (fun _ => Along.pure _) fun _ => KeepsShut.refuse

theorem handleMessage_keepsShut (bytes : List UInt8) :
    KeepsShut closing (handleMessage bytes) := by
  unfold handleMessage
  have ignored (text : String) :
      KeepsShut closing (do note .debug text; pure (.ok ()) : Act Outcome) :=
    Along.bind (KeepsShut.note _ _) fun _ => Along.pure _
  refine Along.ite (fun _ => ?_) fun _ => ?_
  · refine Along.ctl.bind fun c => ?_
    dsimp only
    split
    · exact Along.ite (fun _ => Along.bind (withPilot_keepsShut _ _) fun _ => Along.pure _)
        fun _ => ignored _
    · exact ignored _
  split
  · exact Along.bind (Calm.observe _).keepsShut fun _ =>
      Along.bind (noteMalformed_calm _).keepsShut fun _ => Along.pure _
  · exact KeepsShut.refuse
  · exact ignored _

theorem pilotStart_keepsShut : KeepsShut closing pilotStart := by
  unfold pilotStart
  refine Along.bind (withPilot_keepsShut _ _) fun r => ?_
  split <;> exact Along.pure _

/-- No input brings back a controller that is shut down, and only a relay request may record
its relay closed. -/
theorem Input.act_keepsShut (i : Input) (h : i.RequestsRelay → closing = true) :
    KeepsShut closing i.act := by
  cases i with
  | startUp => exact startUp_keepsShut
  | startCharging => exact startCharging_keepsShut
  | stopCharging => exact stopCharging_keepsShut
  | pauseCharging => exact pauseCharging_keepsShut
  | resumeCharging => exact resumeCharging_keepsShut
  | reset => exact reset_keepsShut
  | enable => exact Along.bind (turnSwitch_keepsShut _ _) fun _ => Along.pure _
  | disable => exact Along.bind (disableSessions_keepsShut _) fun _ => Along.pure _
  | relay on =>
    refine switchRelay_keepsShut fun hon => h (.inl ?_)
    rw [hon]
  | command text => exact command_keepsShut fun hw => h (.inr ⟨text, rfl, hw⟩)
  | button channel pressed => exact button_keepsShut channel pressed
  | tick => exact KeepsShut.refuse
  | message bytes => exact handleMessage_keepsShut bytes
  | pilotStart => exact pilotStart_keepsShut
  | pilotStop | pilotSample _ _ => exact Along.bind (withPilot_keepsShut _ _) fun _ => Along.pure _
  | shutdown => exact Along.bind KeepsShut.refuse fun _ => Along.pure _
  | run stop => exact KeepsShut.refuse

end Inputs

/-! ## Shutting down -/

/-- Forcing the relay open records it open, whatever the attempts answer. -/
theorem forceRelayOff_opens (p : Plant) : Triple p (Shut true) forceRelayOff (Shut false) := by
  unfold forceRelayOff
  dsimp only
  refine Triple.bind (Q := Shut true) (fun w hw => ?_) fun last => ?_
  · refine (?_ : KeepsShut true _) p trivial w w hw
    refine Along.forIn _ _ fun i _ s => ?_
    refine Along.bind (writeLine_calm (by simp)).keepsShut fun r => ?_
    refine Along.bind (Calm.observe _).keepsShut fun _ => ?_
    split
    · exact Along.pure _
    · exact Along.bind (Calm.note_of_ne_info (by decide)).keepsShut fun _ => Along.pure _
  · -- both ends of the last check record the relay open
    have last : Triple p (Shut true) (modifyCtl fun c => { c with relayEnabled := false })
        (Shut false) :=
      fun _ hw => ⟨hw.1, fun h => absurd h Bool.false_ne_true⟩
    split
    · exact Triple.bind ((reportFault_keepsShut _ _).triple p) fun _ => last
    · exact last

/-- Shutting down a running controller sets the flag and records the relay open. -/
theorem shutdown_opens (p : Plant) {w : World} (h : w.ctl.shutDown = false) :
    Shut false (exec shutdown p w).2 := by
  have final : Triple p (Shut true) (do
      forceRelayOff
      publish
      note .info "Session controller shut down, relay off") (Shut false) :=
    Triple.bind (forceRelayOff_opens p) fun _ =>
      Triple.bind (publish_calm.keepsShut.triple p) fun _ => (KeepsShut.note _ _).triple p
  have stop : Triple p (Shut true) (do
      if (← ctl).machine.state.isActive then
        noteFailure .warn "Failed to stop charging on shutdown" (← request .stopCharging "shutdown")
      forceRelayOff
      publish
      note .info "Session controller shut down, relay off") (Shut false) := by
    intro w' hw'
    rw [exec_ctl_bind]
    dsimp only
    split
    · refine Triple.bind ((request_keepsShut _ _).triple p) (fun r => ?_) w' hw'
      exact Triple.bind ((noteFailure_calm (by decide) _ r).keepsShut.triple p) fun _ => final
    · exact final w' hw'
  unfold shutdown
  rw [exec_ctl_bind, if_neg (by simp [h])]
  refine (?_ : Triple p (fun _ => True) _ (Shut false)) w trivial
  refine Triple.bind (Q := Shut true) (fun _ _ => ⟨rfl, fun _ => rfl⟩) fun _ => ?_
  refine Triple.bind ((KeepsShut.note _ _).triple p) fun _ => ?_
  refine Triple.bind ((withPilot_keepsShut _ _).triple p) fun _ => ?_
  refine Triple.bind ((KeepsShut.emit _).triple p) fun _ => ?_
  refine Triple.bind (KeepsShut.triple Along.read p) fun q => ?_
  dsimp only
  split
  · exact Triple.bind ((KeepsShut.note _ _).triple p) fun _ => stop
  · exact stop

/-! ## One step and a run after shutdown -/

/-- A controller shut down takes no start and no peer envelope. -/
theorem Input.mayClose_shut {i : Input} {w : World} (hsd : w.ctl.shutDown = true) :
    i.MayClose w ↔ i.RequestsRelay ∧ w.ctl.sessionEnabled = true := by
  refine ⟨fun h => ?_, fun h => .inr (.inl h)⟩
  rcases h with ⟨_, hs⟩ | hr | ⟨_, _, _, _, _, hoff, _⟩
  · exact absurd (hs.1.symm.trans hsd) Bool.false_ne_true
  · exact hr
  · exact absurd (hoff.symm.trans hsd) Bool.false_ne_true

theorem KeptOpen.grows {w w' : World} (h : KeptOpen w w') : w.trace <+: w'.trace :=
  let ⟨seg, ht, _⟩ := h
  ⟨seg, ht.symm⟩

/-- With sessions disabled a relay request is refused and changes nothing. -/
theorem switchRelay_refused {w : World} (he : w.ctl.sessionEnabled = false) (p : Plant) :
    exec (switchRelay true) p w = (.error .disabled, w) := by
  unfold switchRelay
  rw [exec_ctl_bind, if_pos (by simp [he])]
  rfl

/-- Unless it takes a relay request while sessions are enabled, a step keeps a controller
shut down with the relay recorded open. -/
theorem Shut.step_open {w : World} (hw : Shut false w) {i : Input}
    (hi : ¬(i.RequestsRelay ∧ w.ctl.sessionEnabled = true)) (p : Plant) :
    Shut false (step p w i).1 := by
  rw [step_eq]
  by_cases hr : i.RequestsRelay
  · have he : w.ctl.sessionEnabled = false := Bool.eq_false_iff.mpr fun h => hi ⟨hr, h⟩
    rcases hr with rfl | ⟨text, rfl, hword⟩
    · show Shut false (exec (switchRelay true) p w).2
      rw [switchRelay_refused he]
      exact hw
    · show Shut false (exec (Control.command text) p w).2
      rw [exec_command_relayOn hword, switchRelay_refused (w := { w with trace :=
        w.trace ++ [.note .debug "Controller" "Handling operator command: relay:on"] }) he]
      exact hw
  · exact i.act_keepsShut (fun h => absurd h hr) p trivial w w hw

/-- One step of a controller that is shut down: it stays shut down, its trace only grows, the
step attempts to close the relay exactly on a relay request while sessions are enabled, and
otherwise a relay recorded open stays so. -/
theorem shut_step (p : Plant) {w : World} (hsd : w.ctl.shutDown = true) (i : Input) :
    (step p w i).1.ctl.shutDown = true ∧ w.trace <+: (step p w i).1.trace ∧
      (ClosesRelay w (step p w i).1 ↔ i.RequestsRelay ∧ w.ctl.sessionEnabled = true) ∧
      (Shut false w → ¬(i.RequestsRelay ∧ w.ctl.sessionEnabled = true) →
        Shut false (step p w i).1) := by
  have hshut : (step p w i).1.ctl.shutDown = true :=
    ((i.act_keepsShut fun _ => rfl) p trivial w w ⟨hsd, fun _ => rfl⟩).1
  refine ⟨hshut, ?_, ?_, fun hw hi => hw.step_open hi p⟩
  all_goals by_cases hreq : i.RequestsRelay ∧ w.ctl.sessionEnabled = true
  · exact (hreq.1.closes hreq.2 p).1
  · exact (Input.keptOpen_of_not_mayClose (mt (Input.mayClose_shut hsd).1 hreq) p).grows
  · exact iff_of_true (hreq.1.closes hreq.2 p).2.1 hreq
  · exact iff_of_false
      (Input.keptOpen_of_not_mayClose (mt (Input.mayClose_shut hsd).1 hreq) p).not_closes hreq

/-- The world after a sequence of inputs, each taken on its own plant. -/
def World.after (w : World) : List (Plant × Input) → World
  | [] => w
  | (p, i) :: rest => (step p w i).1.after rest

/-- Some step of a run from `w` takes a relay request while sessions are enabled. -/
def RequestsWhileEnabled (w : World) (run : List (Plant × Input)) : Prop :=
  ∃ pre p i post, run = pre ++ (p, i) :: post ∧ i.RequestsRelay ∧
    (w.after pre).ctl.sessionEnabled = true

theorem requestsWhileEnabled_nil (w : World) : ¬RequestsWhileEnabled w [] := by
  rintro ⟨pre, p, i, post, h, -⟩
  simp at h

theorem requestsWhileEnabled_cons (w : World) (p : Plant) (i : Input)
    (rest : List (Plant × Input)) :
    RequestsWhileEnabled w ((p, i) :: rest) ↔
      (i.RequestsRelay ∧ w.ctl.sessionEnabled = true) ∨
        RequestsWhileEnabled (step p w i).1 rest := by
  constructor
  · rintro ⟨pre, p', i', post, h, hr, he⟩
    cases pre with
    | nil =>
      obtain ⟨hpi, -⟩ := List.cons.inj h
      obtain ⟨rfl, rfl⟩ := Prod.mk.inj hpi
      exact .inl ⟨hr, he⟩
    | cons a pre =>
      obtain ⟨rfl, hrest⟩ := List.cons.inj h
      exact .inr ⟨pre, p', i', post, hrest, hr, he⟩
  · rintro (⟨hr, he⟩ | ⟨pre, p', i', post, h, hr, he⟩)
    · exact ⟨[], p, i, rest, rfl, hr, he⟩
    · exact ⟨(p, i) :: pre, p', i', post, by rw [h]; rfl, hr, he⟩

/-- Along a growing trace, an attempt to close the relay falls in the first stretch or the
second. -/
theorem ClosesRelay.split {w w₁ w₂ : World} (h₁ : w.trace <+: w₁.trace)
    (h₂ : w₁.trace <+: w₂.trace) :
    ClosesRelay w w₂ ↔ ClosesRelay w w₁ ∨ ClosesRelay w₁ w₂ := by
  obtain ⟨s₁, hs₁⟩ := h₁
  obtain ⟨s₂, hs₂⟩ := h₂
  have e₁ : w₂.trace.drop w.trace.length = s₁ ++ s₂ := by
    rw [← hs₂, ← hs₁, List.append_assoc, List.drop_left]
  have e₂ : w₁.trace.drop w.trace.length = s₁ := by rw [← hs₁, List.drop_left]
  have e₃ : w₂.trace.drop w₁.trace.length = s₂ := by rw [← hs₂, List.drop_left]
  simp only [ClosesRelay, e₁, e₂, e₃, List.mem_append, or_and_right, exists_or]

/-- A run from a controller that is shut down: it stays shut down, its trace only grows, the
relay is written closed exactly when some step takes a relay request while sessions are
enabled, and without such a step a relay recorded open stays so. -/
theorem shut_run {w : World} (hsd : w.ctl.shutDown = true) (run : List (Plant × Input)) :
    (w.after run).ctl.shutDown = true ∧ w.trace <+: (w.after run).trace ∧
      (ClosesRelay w (w.after run) ↔ RequestsWhileEnabled w run) ∧
      (Shut false w → ¬RequestsWhileEnabled w run → Shut false (w.after run)) := by
  -- on the run, carrying the shutdown flag from each step to the next
  induction run generalizing w with
  | nil =>
    exact ⟨hsd, List.prefix_refl _, iff_of_false (by simp [ClosesRelay, World.after])
      (requestsWhileEnabled_nil w), fun hw _ => hw⟩
  | cons a rest ih =>
    obtain ⟨p, i⟩ := a
    obtain ⟨hs₁, hp₁, hc₁, ho₁⟩ := shut_step p hsd i
    obtain ⟨hs, hp, hc, ho⟩ := ih hs₁
    refine ⟨hs, hp₁.trans hp, ?_, fun hw hno => ?_⟩
    · rw [requestsWhileEnabled_cons, ← hc₁, ← hc]
      exact ClosesRelay.split hp₁ hp
    · rw [requestsWhileEnabled_cons, not_or] at hno
      exact ho (ho₁ hw hno.1) hno.2

/-- After a shutdown, on any run, the relay is written closed exactly when some step takes a relay
request while sessions are enabled. -/
theorem shutdown_relay_closes_only_on_request (p : Plant) {w : World}
    (hsd : w.ctl.shutDown = false) (run : List (Plant × Input)) :
    (step p w .shutdown).1.ctl.shutDown = true ∧ (step p w .shutdown).1.ctl.relayEnabled = false ∧
      ((step p w .shutdown).1.after run).ctl.shutDown = true ∧
      (ClosesRelay (step p w .shutdown).1 ((step p w .shutdown).1.after run) ↔
        RequestsWhileEnabled (step p w .shutdown).1 run) ∧
      (¬RequestsWhileEnabled (step p w .shutdown).1 run →
        ((step p w .shutdown).1.after run).ctl.relayEnabled = false) := by
  have hw : Shut false (step p w .shutdown).1 := shutdown_opens p hsd
  obtain ⟨hs, -, hc, ho⟩ := shut_run hw.1 run
  refine ⟨hw.1, Bool.eq_false_iff.mpr fun hr => Bool.false_ne_true (hw.2 hr), hs, hc,
    fun hno => Bool.eq_false_iff.mpr fun hr => Bool.false_ne_true ((ho hw hno).2 hr)⟩

/-- A controller just started and then shut down ticks, is asked to open the relay and to start:
the relay stays recorded open and is never written closed. -/
theorem shutdown_keeps_relay_open_after_start :
    let w₀ : World := ⟨Controller.new ⟨2000000000, 16, true⟩ none true none, []⟩
    let p := Plant.ideal ⟨0, 0⟩
    let w := (step p w₀ .startUp).1
    let run := [(p, Input.tick), (p, Input.relay false), (p, Input.startCharging)]
    w.ctl.shutDown = false ∧
      ((step p w .shutdown).1.ctl.shutDown = true ∧
        (step p w .shutdown).1.ctl.relayEnabled = false ∧
        ((step p w .shutdown).1.after run).ctl.shutDown = true ∧
        (ClosesRelay (step p w .shutdown).1 ((step p w .shutdown).1.after run) ↔
          RequestsWhileEnabled (step p w .shutdown).1 run) ∧
        (¬RequestsWhileEnabled (step p w .shutdown).1 run →
          ((step p w .shutdown).1.after run).ctl.relayEnabled = false)) :=
  ⟨by decide, shutdown_relay_closes_only_on_request _ (by decide) _⟩

/-- A controller started and shut down, with the relay recorded open, still takes a relay
request: the relay is written closed and recorded closed. -/
theorem relay_request_closes_after_shutdown :
    let w₀ : World := ⟨Controller.new ⟨2000000000, 16, true⟩ none true none, []⟩
    let w := (step (Plant.ideal ⟨0, 0⟩) (step (Plant.ideal ⟨0, 0⟩) w₀ .startUp).1 .shutdown).1
    w.ctl.shutDown = true ∧ w.ctl.relayEnabled = false ∧
      ClosesRelay w (step (Plant.ideal ⟨0, 0⟩) w (.relay true)).1 ∧
      (step (Plant.ideal ⟨0, 0⟩) w (.relay true)).1.ctl.relayEnabled = true := by
  decide

end Evse.Control
