import Evse.Proofs.Control.RestStates
import Evse.Proofs.Pilot.Changes
/-!
The error latch: the pilot fault is recorded exactly while the machine is in error.
-/
namespace Evse.Control

open ChargingState

/-! ## The moves into and out of error -/

theorem Move.takes_error {m : Move} {s : ChargingState} (h : m.Takes s error) : m = .fail := by
  cases m <;> simp_all [Move.Takes]

theorem Move.takes_from_error {m : Move} {t : ChargingState} (h : m.Takes error t) :
    m = .reset ∨ t = error := by
  cases m <;> simp_all [Move.Takes, isActive]

theorem Moves.ne_error {ms : List Move} (hms : Move.fail ∉ ms) {s t : ChargingState}
    (h : Moves ms s t) (hs : s ≠ error) : t ≠ error :=
  h.never_enters (fun _ hm _ ht => hms (Move.takes_error ht ▸ hm)) hs

theorem Moves.stays_error {ms : List Move} (hms : Move.reset ∉ ms) {t : ChargingState}
    (h : Moves ms error t) : t = error :=
  h.never_leaves fun _ hm _ ht =>
    (Move.takes_from_error ht).resolve_left fun hr => hms (hr ▸ hm)

/-! ## What keeps the pilot monitor -/

/-- `w'` has the pilot monitor and the shutdown flag of `w`. -/
def MonitorKept (w w' : World) : Prop :=
  w'.ctl.pilot = w.ctl.pilot ∧ w'.ctl.shutDown = w.ctl.shutDown

namespace MonitorKept

theorem refl (w : World) : MonitorKept w w := ⟨rfl, rfl⟩

theorem trans {w₁ w₂ w₃ : World} (h₁ : MonitorKept w₁ w₂) (h₂ : MonitorKept w₂ w₃) :
    MonitorKept w₁ w₃ :=
  ⟨h₂.1.trans h₁.1, h₂.2.trans h₁.2⟩

theorem of_core {w w' : World} {c : Controller} (h : w'.ctl.core = c.core)
    (hc : c.pilot = w.ctl.pilot ∧ c.shutDown = w.ctl.shutDown) : MonitorKept w w' :=
  ⟨(congrArg Core.pilot h).trans hc.1, (congrArg Core.shutDown h).trans hc.2⟩

end MonitorKept

/-- An action that keeps the pilot monitor and the shutdown flag, on every plant. -/
abbrev KeepsMonitor {α : Type} (x : Act α) : Prop :=
  Along (fun _ => True) (fun _ => MonitorKept) x

namespace KeepsMonitor

variable {α : Type} {x : Act α}

theorem kept (h : KeepsMonitor x) (p : Plant) (w : World) : MonitorKept w (exec x p w).2 :=
  h p trivial w w (MonitorKept.refl w)

theorem of_kept (h : ∀ p w, MonitorKept w (exec x p w).2) : KeepsMonitor x :=
  fun p _ _ w hw => hw.trans (h p w)

theorem of_calm (h : Calm x) : KeepsMonitor x :=
  of_kept fun p w => .of_core (h.settled p w).1 ⟨rfl, rfl⟩

end KeepsMonitor

theorem request_keepsMonitor (req : Request) (reason : String) :
    KeepsMonitor (request req reason) :=
  KeepsMonitor.of_kept fun p w => .of_core (request_core req reason p w).1 ⟨rfl, rfl⟩

theorem reportFault_keepsMonitor (f : Fault) (present : Bool) :
    KeepsMonitor (reportFault f present) :=
  KeepsMonitor.of_kept fun p w => .of_core (reportFault_settled f present p w).1 ⟨rfl, rfl⟩

theorem setRelay_keepsMonitor (on : Bool) : KeepsMonitor (setRelay on) :=
  KeepsMonitor.of_kept fun p w => .of_core (setRelay_spec on p w).2.1 ⟨rfl, rfl⟩

theorem stopSession_keepsMonitor (reason : String) : KeepsMonitor (stopSession reason) := by
  unfold stopSession
  refine Along.bind (request_keepsMonitor _ _) fun r => ?_
  split
  · exact Along.pure _
  · exact setRelay_keepsMonitor false

theorem pilotChanged_keepsMonitor (old next : PilotState) :
    KeepsMonitor (pilotChanged old next) := by
  unfold pilotChanged
  refine Along.ctl.bind fun c => ?_
  dsimp only
  refine Along.ite (fun _ => Along.pure _) fun _ => ?_
  refine Along.bind (KeepsMonitor.of_kept fun _ _ => MonitorKept.refl _) fun _ => ?_
  refine Along.bind (KeepsMonitor.of_calm (Calm.observe _)) fun _ => ?_
  refine Along.bind (KeepsMonitor.of_calm (Calm.note (by simp [Effect.switch?, toString_string])))
    fun _ => ?_
  have last : KeepsMonitor publish := KeepsMonitor.of_calm publish_calm
  split
  · refine Along.ctl.bind fun c => Along.ite (fun _ => ?_) fun _ => last
    refine Along.bind (KeepsMonitor.of_calm (Calm.note_of_ne_info (by decide))) fun _ => ?_
    refine Along.bind (stopSession_keepsMonitor _) fun r => ?_
    exact Along.bind (KeepsMonitor.of_calm (noteFailure_calm (by decide) _ r)) fun _ => last
  · refine Along.bind (KeepsMonitor.of_calm (Calm.note_of_ne_info (by decide))) fun _ => ?_
    refine Along.bind (reportFault_keepsMonitor _ _) fun _ => ?_
    refine Along.bind (setRelay_keepsMonitor false) fun r => ?_
    refine Along.bind (KeepsMonitor.of_calm (noteFailure_calm (by decide) _ r)) fun _ => ?_
    refine Along.bind (request_keepsMonitor _ _) fun r => ?_
    exact Along.bind (KeepsMonitor.of_calm (noteFailure_calm (by decide) _ r)) fun _ => last
  · exact last

theorem pilotEvents_keepsMonitor (evs : List Pilot.Event) : KeepsMonitor (pilotEvents evs) := by
  induction evs with
  | nil => exact Along.pure _
  | cons e rest ih =>
    cases e with
    | change old next => exact Along.bind (pilotChanged_keepsMonitor old next) fun _ => ih
    | note severity text =>
      exact Along.bind
        (KeepsMonitor.of_calm (Calm.emit (Effect.quiet_pilot_note severity text) rfl)) fun _ => ih

/-- With the controller shut down, a band change of the pilot is ignored. -/
theorem exec_pilotChanged_shut (old next : PilotState) (p : Plant) {w : World}
    (h : w.ctl.shutDown = true) : exec (pilotChanged old next) p w = ((), w) := by
  unfold pilotChanged
  rw [exec_ctl_bind, if_pos h]
  rfl

/-- A controller that is shut down ignores the events of its monitor. -/
theorem pilotEvents_shut (evs : List Pilot.Event) {p : Plant} {w : World}
    (h : w.ctl.shutDown = true) : (exec (pilotEvents evs) p w).2.ctl = w.ctl := by
  induction evs generalizing w with
  | nil => rfl
  | cons e rest ih =>
    cases e with
    | change old next =>
      show (exec (pilotChanged old next >>= fun _ => pilotEvents rest) p w).2.ctl = w.ctl
      rw [exec_bind, exec_pilotChanged_shut old next p h]
      exact ih h
    | note severity text =>
      show (exec (emit _ >>= fun _ => pilotEvents rest) p w).2.ctl = w.ctl
      rw [exec_bind, exec_emit]
      exact ih h

theorem exec_withPilot_none {α : Type} (dflt : α)
    (op : Pilot.Monitor → Pilot.Monitor × List Pilot.Event × α) {p : Plant} {w : World}
    (h : w.ctl.pilot = none) : exec (withPilot dflt op) p w = (dflt, w) := by
  unfold withPilot
  rw [exec_ctl_bind, h]
  rfl

/-- With a monitor, an operation of it installs the monitor it returns and plays its events. -/
theorem exec_withPilot_some {α : Type} (dflt : α)
    (op : Pilot.Monitor → Pilot.Monitor × List Pilot.Event × α) {p : Plant} {w : World}
    {m : Pilot.Monitor} (h : w.ctl.pilot = some m) :
    exec (withPilot dflt op) p w = ((op m).2.2,
      (exec (pilotEvents (op m).2.1) p
        { w with ctl := { w.ctl with pilot := some (op m).1 } }).2) := by
  unfold withPilot
  rw [exec_ctl_bind, h]
  rfl

/-! ## Entering error -/

/-- `w` follows `w₀` through a band change into F: `w₀` was not shut down and had a monitor
outside F, and the monitor of `w` is in F. -/
def BandFault (w₀ w : World) : Prop :=
  w₀.ctl.shutDown = false ∧ ∃ m m', w₀.ctl.pilot = some m ∧ w.ctl.pilot = some m' ∧
    m.state ≠ .f ∧ m'.state = .f

/-- `w` is at rest with the machine state, the monitor and the shutdown flag of `w₀`. -/
structure Still (w₀ w : World) : Prop where
  rests : Rests w
  state : w.ctl.machine.state = w₀.ctl.machine.state
  monitor : MonitorKept w₀ w

/-- If `w` is in error, `w₀` already was, or `w` follows it through a band change into F. -/
def ErrorCause (w₀ w : World) : Prop :=
  w.ctl.machine.state = error → w₀.ctl.machine.state = error ∨ BandFault w₀ w

theorem Still.refl {w : World} (h : Rests w) : Still w w := ⟨h, rfl, MonitorKept.refl w⟩

theorem Still.settled {w₀ w w' : World} (h : Still w₀ w) (hs : Settled w w') : Still w₀ w' :=
  ⟨h.rests.settled hs, (congrArg Machine.state hs.2.1).trans h.state,
    h.monitor.trans (.of_core hs.1 ⟨rfl, rfl⟩)⟩

theorem Still.cause {w₀ w : World} (h : Still w₀ w) : ErrorCause w₀ w :=
  fun he => .inl (h.state.symm.trans he)

theorem ErrorCause.settled {w₀ w w' : World} (h : ErrorCause w₀ w) (hs : Settled w w') :
    ErrorCause w₀ w' := by
  intro he
  rcases h ((congrArg Machine.state hs.2.1).symm.trans he) with h₀ | ⟨hsd, m, m', hm, hm', hf⟩
  · exact .inl h₀
  · exact .inr ⟨hsd, m, m', hm, (congrArg Core.pilot hs.1).trans hm', hf⟩

theorem eventMoves_fail {e : Pilot.Event} (h : Move.fail ∈ eventMoves e) :
    ∃ old, e = .change old .f := by
  cases e with
  | change old next => cases next <;> simp_all [eventMoves, pilotMoves]
  | note => simp [eventMoves] at h

/-- An operation of a monitor that reports its band changes faithfully puts the controller in
error only through a band change into F. -/
theorem withPilot_cause {α : Type} {p : Plant} (hp : p.Agreeable) (dflt : α)
    (op : Pilot.Monitor → Pilot.Monitor × List Pilot.Event × α)
    (hop : ∀ m, Pilot.Monitor.Faithful m (op m).1 (op m).2.1) (w₀ : World) :
    Triple p (Still w₀) (withPilot dflt op) (ErrorCause w₀) := by
  intro w hw
  cases hm : w.ctl.pilot with
  | none =>
    rw [exec_withPilot_none dflt op hm]
    exact hw.cause
  | some m =>
    rw [exec_withPilot_some dflt op hm]
    intro he
    let w₁ : World := { w with ctl := { w.ctl with pilot := some (op m).1 } }
    by_cases hsd : w.ctl.shutDown = true
    · rw [pilotEvents_shut (w := w₁) _ hsd] at he
      exact .inl (hw.state.symm.trans he)
    by_cases h₀ : w₀.ctl.machine.state = error
    · exact .inl h₀
    -- the events moved the machine into error, so one of them is a change into F
    have hr₁ : Rests w₁ := hw.rests.of_fields rfl rfl rfl
    have hmv := ((pilotEvents_foot (op m).2.1).steps.run hp hr₁).moves
    have hfail : Move.fail ∈ (op m).2.1.flatMap eventMoves :=
      Classical.byContradiction fun hf => Moves.ne_error hf hmv (hw.state ▸ h₀) he
    obtain ⟨e, hmem, he'⟩ := List.mem_flatMap.mp hfail
    obtain ⟨old, rfl⟩ := eventMoves_fail he'
    obtain ⟨hold, hnew, hne⟩ := hop m old .f hmem
    refine .inr ⟨hw.monitor.2.symm.trans (Bool.eq_false_iff.mpr hsd), m, (op m).1,
      hw.monitor.1.symm.trans hm, ((pilotEvents_keepsMonitor _).kept p w₁).1, hold ▸ hne,
      hnew.symm⟩

section Entry

variable {p : Plant} (hp : p.Agreeable) (w₀ : World)
include hp

theorem startUp_cause : Triple p (Still w₀) startUp (ErrorCause w₀) := by
  have still {α : Type} {x : Act α} (h : Calm x) : Triple p (Still w₀) x (Still w₀) :=
    fun w hw => hw.settled (h.settled p w)
  have relay : Triple p (Still w₀) (setRelay false) (Still w₀) := fun w hw =>
    have hs := (setRelay_steps false : Steps [] _).run hp hw.rests
    ⟨hs.rests, hs.moves.nil_eq.trans hw.state,
      hw.monitor.trans ((setRelay_keepsMonitor false).kept p w)⟩
  unfold startUp
  refine Triple.bind (Triple.of_keeps Keeps.ctl) fun c => ?_
  refine Triple.bind (still (Calm.note (by simp [Effect.switch?, toString_string])))
    fun _ => ?_
  refine Triple.bind relay fun r => ?_
  split
  · exact fun w hw => hw.cause
  refine Triple.bind (Triple.of_keeps Keeps.read) fun q => ?_
  dsimp only
  have stamp : Triple p (Still w₀) (modifyCtl fun c => { c with lastRx := some q.now })
      (Still w₀) := fun w hw => ⟨hw.rests.of_fields rfl rfl rfl, hw.state, hw.monitor⟩
  refine Triple.bind stamp fun _ => ?_
  refine Triple.bind (still refreshLeds_calm) fun _ => ?_
  refine Triple.bind (Triple.of_keeps Keeps.read) fun q => ?_
  refine Triple.bind (still (Calm.emit ⟨rfl, rfl⟩ rfl)) fun _ => ?_
  split
  · exact fun w hw => hw.cause
  refine Triple.bind (withPilot_cause hp _ _ (fun m => Pilot.Monitor.start_faithful m) w₀)
    fun r => ?_
  split
  · exact fun _ h => h
  · exact Triple.bind (fun w h => h.settled ((Calm.note (by decide)).settled p w))
      fun _ _ h => h

theorem pilotStart_cause : Triple p (Still w₀) pilotStart (ErrorCause w₀) := by
  unfold pilotStart
  refine Triple.bind (withPilot_cause hp _ _ (fun m => Pilot.Monitor.start_faithful m) w₀)
    fun r => ?_
  split <;> exact fun _ h => h

theorem pilotSample_cause (probe : Pilot.Probe) (reading : Except String Int) :
    Triple p (Still w₀) (pilotSample probe reading) (ErrorCause w₀) :=
  withPilot_cause hp _ _ (fun m => Pilot.Monitor.offer_faithful m probe reading) w₀

theorem pilotMessage_cause {bytes : List UInt8} (hb : PilotState.isMessage bytes = true) :
    Triple p (Still w₀) (handleMessage bytes) (ErrorCause w₀) := by
  have ignored : Triple p (Still w₀)
      (note .debug "Ignoring CP message, pilot source is not remote") (Still w₀) :=
    fun w hw => hw.settled ((Calm.note_of_ne_info (by decide)).settled p w)
  unfold handleMessage
  rw [if_pos hb]
  refine Triple.bind (Triple.of_keeps Keeps.ctl) fun c => ?_
  dsimp only
  split
  · split
    · exact Triple.bind (withPilot_cause hp _ _ (fun m => Pilot.Monitor.handle_faithful m bytes)
        w₀) fun _ _ h => h
    · exact Triple.bind ignored fun _ _ h => h.cause
  · exact Triple.bind ignored fun _ _ h => h.cause

end Entry

/-- The inputs that can make the controller fail are those that run the pilot monitor. -/
theorem Input.fail_moves {i : Input} (h : Move.fail ∈ i.moves) :
    i = .startUp ∨ i = .pilotStart ∨ (∃ probe reading, i = .pilotSample probe reading) ∨
      ∃ bytes, i = .message bytes ∧ PilotState.isMessage bytes = true := by
  cases i with
  | startUp => exact .inl rfl
  | pilotStart => exact .inr (.inl rfl)
  | pilotSample probe reading => exact .inr (.inr (.inl ⟨probe, reading, rfl⟩))
  | message bytes =>
    refine .inr (.inr (.inr ⟨bytes, rfl, ?_⟩))
    simp only [Input.moves, messageMoves] at h
    split at h
    · assumption
    · simp at h
  | command text =>
    simp only [Input.moves] at h
    unfold commandMoves at h
    split at h <;> simp at h
  | _ => simp [Input.moves] at h

/-- From rest, a step into error follows a band change into F reported before shutdown. -/
theorem enters_error_by_band_fault {p : Plant} (hp : p.Agreeable) {w : World} (hw : Rests w)
    (i : Input) (hs : w.ctl.machine.state ≠ error)
    (he : (step p w i).1.ctl.machine.state = error) : BandFault w (step p w i).1 := by
  simp only [step_eq] at he ⊢
  have hcause : ErrorCause w (exec i.act p w).2 := by
    by_cases hf : Move.fail ∈ i.moves
    · rcases Input.fail_moves hf with rfl | rfl | ⟨probe, reading, rfl⟩ | ⟨bytes, rfl, hb⟩
      · exact startUp_cause hp w w (Still.refl hw)
      · exact pilotStart_cause hp w w (Still.refl hw)
      · exact Triple.bind (pilotSample_cause hp w probe reading) (fun _ _ h => h) w (Still.refl hw)
      · exact pilotMessage_cause hp w hb w (Still.refl hw)
    · exact fun he' => absurd he' (Moves.ne_error hf (i.act_lands hp hw).moves hs)
  exact (hcause he).resolve_left hs

/-! ## Leaving error -/

/-- An operator reset, as an operation or as a command word. -/
def Input.Resets (i : Input) : Prop :=
  i = .reset ∨ ∃ text, i = .command text ∧ Text.lower (Text.trimBlanks text) = "reset"

theorem commandMoves_reset {word : String} (h : Move.reset ∈ commandMoves word) :
    word = "reset" := by
  unfold commandMoves at h
  split at h <;> simp_all

theorem Input.resets_of_moves {i : Input} (h : Move.reset ∈ i.moves) : i.Resets := by
  cases i with
  | reset => exact .inl rfl
  | command text => exact .inr ⟨text, rfl, commandMoves_reset h⟩
  | message bytes =>
    simp only [Input.moves, messageMoves] at h
    split at h <;> simp at h
  | _ => simp [Input.moves] at h

theorem exec_command_reset {text : String} (h : Text.lower (Text.trimBlanks text) = "reset")
    (p : Plant) (w : World) :
    exec (command text) p w = exec reset p
      { w with trace :=
        w.trace ++ [.note .debug "Controller" "Handling operator command: reset"] } := by
  unfold command
  simp only [h, exec_bind, exec_note]
  rfl

/-- A reset from error succeeds and lands in idle. -/
theorem Input.resets_succeed {i : Input} (hi : i.Resets) {p : Plant} (hp : p.Agreeable)
    {w : World} (hw : Rests w) (he : w.ctl.machine.state = error) :
    (exec i.act p w).1 = .ok () ∧ (exec i.act p w).2.ctl.machine.state = idle := by
  rcases hi with rfl | ⟨text, rfl, hword⟩
  · obtain ⟨hr, -, hs⟩ := reset_spec hp hw he
    exact ⟨hr, hs⟩
  · show (exec (Control.command text) p w).1 = .ok () ∧
      (exec (Control.command text) p w).2.ctl.machine.state = idle
    rw [exec_command_reset hword]
    have hn : Settled w { w with trace :=
        w.trace ++ [.note .debug "Controller" "Handling operator command: reset"] } :=
      Settled.emit (Effect.quiet_of_ne_info (by decide)) rfl
    obtain ⟨hr, -, hs⟩ := reset_spec hp (hw.settled hn) he
    exact ⟨hr, hs⟩

/-- From rest in error, a step that leaves error is a reset that succeeds and lands in idle. -/
theorem leaves_error_by_reset {p : Plant} (hp : p.Agreeable) {w : World} (hw : Rests w)
    (i : Input) (he : w.ctl.machine.state = error)
    (hl : (step p w i).1.ctl.machine.state ≠ error) :
    i.Resets ∧ (step p w i).2 = .ok () ∧ (step p w i).1.ctl.machine.state = idle := by
  simp only [step_eq] at hl ⊢
  by_cases hr : Move.reset ∈ i.moves
  · have hi := Input.resets_of_moves hr
    exact ⟨hi, Input.resets_succeed hi hp hw he⟩
  · have hmv := (i.act_lands hp hw).moves
    rw [he] at hmv
    exact absurd (Moves.stays_error hr hmv) hl

/-! ## The latch -/

/-- On every agreeable run the pilot fault is recorded exactly while the machine is in error, entered
only on a band change into F and left only by a reset. -/
theorem error_latches_pilot_fault {w : World} (h : Reachable Plant.Agreeable w) :
    (w.ctl.hasFault .pilot = true ↔ w.ctl.machine.state = error) ∧
    (∀ p i, p.Agreeable → w.ctl.machine.state ≠ error →
      (step p w i).1.ctl.machine.state = error → BandFault w (step p w i).1) ∧
    (∀ p i, p.Agreeable → w.ctl.machine.state = error →
      (step p w i).1.ctl.machine.state ≠ error →
        i.Resets ∧ (step p w i).2 = .ok () ∧ (step p w i).1.ctl.machine.state = idle) := by
  have hw := h.rests
  exact ⟨hw.ctl.latched, fun p i hp hs he => enters_error_by_band_fault hp hw i hs he,
    fun p i hp he hl => leaves_error_by_reset hp hw i he hl⟩

/-- A controller with a remote pilot that starts and is told of band F. -/
theorem error_latch_after_remote_fault :
    let w₀ : World :=
      ⟨Controller.new ⟨2000000000, 16, true⟩ (some (Pilot.Monitor.new .remote)) true none, []⟩
    let w := (step (Plant.ideal ⟨0, 0⟩) (step (Plant.ideal ⟨0, 0⟩) w₀ .startUp).1
      (.message [PilotState.messageTag, 5])).1
    Reachable Plant.Agreeable w ∧
      ((w.ctl.hasFault .pilot = true ↔ w.ctl.machine.state = error) ∧
      (∀ p i, p.Agreeable → w.ctl.machine.state ≠ error →
        (step p w i).1.ctl.machine.state = error → BandFault w (step p w i).1) ∧
      (∀ p i, p.Agreeable → w.ctl.machine.state = error →
        (step p w i).1.ctl.machine.state ≠ error →
          i.Resets ∧ (step p w i).2 = .ok () ∧ (step p w i).1.ctl.machine.state = idle)) :=
  have h := Reachable.step _ _ (Plant.ideal_agreeable _)
    (Reachable.step _ _ (Plant.ideal_agreeable _) (Reachable.new _ _ _ _))
  ⟨h, error_latches_pilot_fault h⟩

end Evse.Control
