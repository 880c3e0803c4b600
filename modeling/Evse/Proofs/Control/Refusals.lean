import Evse.Proofs.Control.Resting
import Evse.Proofs.Charging.Composite
/-!
Failed operations: a refusal fails before it acts, and a failure is of a kind when it or a
failure it wraps is.
-/
namespace Evse.Control

open ChargingState

/-- The refusals: the table forbids a move, sessions are disabled, the controller has shut
down. -/
def Failure.isRefusal : Failure → Bool
  | .machine (.invalid _) | .disabled | .shutDown => true
  | _ => false

/-- A failed write of the relay. -/
def Failure.isHardware : Failure → Bool
  | .hardwareWrite .. => true
  | _ => false

/-- Whether a failure, or one it wraps, is of a kind. -/
def Failure.hasKind (e : Failure) (kind : Failure → Bool) : Bool := e.chain.any kind

@[simp] theorem Failure.hasKind_operation {kind : Failure → Bool} (op : String)
    (s r : ChargingState) (cause : Failure) (h : kind (.operation op s r cause) = false) :
    (Failure.operation op s r cause).hasKind kind = cause.hasKind kind := by
  simp [Failure.hasKind, Failure.chain, h]

@[simp] theorem Failure.hasKind_refusal_operation (op : String) (s r : ChargingState)
    (cause : Failure) :
    (Failure.operation op s r cause).hasKind Failure.isRefusal = cause.hasKind Failure.isRefusal :=
  Failure.hasKind_operation op s r cause rfl

@[simp] theorem Failure.hasKind_hardware_operation (op : String) (s r : ChargingState)
    (cause : Failure) :
    (Failure.operation op s r cause).hasKind Failure.isHardware =
      cause.hasKind Failure.isHardware :=
  Failure.hasKind_operation op s r cause rfl

/-- Whether an effect is a log note. -/
def Effect.isNote : Effect → Bool
  | .note .. => true
  | _ => false

/-- `w'` is `w` with the same controller, its trace grown by log notes only. -/
def Unmoved (w w' : World) : Prop :=
  w'.ctl = w.ctl ∧ ∃ notes, w'.trace = w.trace ++ notes ∧ ∀ e ∈ notes, e.isNote = true

namespace Unmoved

theorem refl (w : World) : Unmoved w w := ⟨rfl, [], by simp, by simp⟩

theorem trans {w₁ w₂ w₃ : World} (h₁ : Unmoved w₁ w₂) (h₂ : Unmoved w₂ w₃) : Unmoved w₁ w₃ := by
  obtain ⟨hc₁, n₁, ht₁, hn₁⟩ := h₁
  obtain ⟨hc₂, n₂, ht₂, hn₂⟩ := h₂
  refine ⟨hc₂.trans hc₁, n₁ ++ n₂, by rw [ht₂, ht₁, List.append_assoc], fun e he => ?_⟩
  rcases List.mem_append.mp he with he | he
  · exact hn₁ e he
  · exact hn₂ e he

theorem note (w : World) (severity : Log.Severity) (tag text : String) :
    Unmoved w { w with trace := w.trace ++ [.note severity tag text] } :=
  ⟨rfl, _, rfl, by simp [Effect.isNote]⟩

end Unmoved

/-! ## The pieces an operation is made of -/

theorem exec_opFailure (op : String) (requested : ChargingState) (e : Failure) (p : Plant)
    (w : World) :
    exec (opFailure op requested e) p w =
      (.error (.operation op w.ctl.machine.state requested e), w) := rfl

/-- A request fails only as the table's refusal, which changes nothing, or as a listener's. -/
theorem request_failure {req : Request} {reason : String} {p : Plant} {w : World} {e : Failure}
    (h : (exec (request req reason) p w).1 = .error e) :
    (e.hasKind Failure.isRefusal = true → (exec (request req reason) p w).2 = w) ∧
      e.hasKind Failure.isHardware = false := by
  cases hr : req.route w.ctl.machine.state with
  | error t =>
    rw [request_refused hr] at h ⊢
    cases h
    exact ⟨fun _ => rfl, rfl⟩
  | ok path =>
    rw [request_eq] at h
    simp only [Machine.perform, hr] at h
    rcases Machine.walk_walked (hearIn p) w.ctl.machine path reason w with
      ⟨s', -, hw⟩ | ⟨pre, n, post, s₁, s', cause, -, -, -, hw⟩ <;>
      simp only [hw, Except.mapError] at h <;> cases h
    exact ⟨fun h => by simp [Failure.hasKind, Failure.chain, Failure.isRefusal] at h, rfl⟩

/-- A failed relay write only reports the relay fault. -/
theorem Controller.afterRelay_of_failed {c : Controller} {p : Plant} {on : Bool} {err : String}
    (hf : p.writeFault Hardware.relay on 0 = some err) :
    c.afterRelay p on = c.report .relayWrite true := by
  simp [Controller.afterRelay, Controller.report, hf]

/-- A relay write fails only as a hardware failure, which keeps the relay flag and leaves the
relay fault present. -/
theorem setRelay_failure {on : Bool} {p : Plant} {w : World} {e : Failure}
    (h : (exec (setRelay on) p w).1 = .error e) :
    e.hasKind Failure.isRefusal = false ∧ e.hasKind Failure.isHardware = true ∧
      (exec (setRelay on) p w).2.ctl.relayEnabled = w.ctl.relayEnabled ∧
      (exec (setRelay on) p w).2.ctl.hasFault .relayWrite = true := by
  obtain ⟨hr, hs⟩ := setRelay_spec on p w
  rw [hr] at h
  unfold relayOutcome at h
  cases hf : p.writeFault Hardware.relay on 0 with
  | none => simp [hf] at h
  | some cause =>
    simp only [hf, Except.error.injEq] at h
    subst h
    have hrelay := congrArg Core.relayEnabled hs.1
    rw [Controller.core_relayEnabled, Controller.afterRelay_of_failed hf] at hrelay
    exact ⟨rfl, rfl, hrelay, by
      rw [hs.hasFault, Controller.afterRelay_of_failed hf, Controller.hasFault_report, if_pos rfl]⟩

/-! ## How a failure leaves the world -/

/-- The relay flag of `w` kept in `w'`, with the relay fault present. -/
def RelayKept (w w' : World) : Prop :=
  w'.ctl.relayEnabled = w.ctl.relayEnabled ∧ w'.ctl.hasFault .relayWrite = true

/-- What an operation that failed with `e` from `w` left in `w'`: after a refusal nothing but
notes, after a failed relay write the relay flag of `w` and the relay fault. -/
structure FailedFrom (w : World) (e : Failure) (w' : World) : Prop where
  refusal : e.hasKind Failure.isRefusal = true → Unmoved w w'
  hardware : e.hasKind Failure.isHardware = true → RelayKept w w'

namespace FailedFrom

variable {w w₁ w₂ w' : World} {e : Failure}

theorem of_kinds (hr : e.hasKind Failure.isRefusal = false)
    (hh : e.hasKind Failure.isHardware = false) : FailedFrom w e w' :=
  ⟨fun h => by simp [hr] at h, fun h => by simp [hh] at h⟩

theorem refl (hh : e.hasKind Failure.isHardware = false) : FailedFrom w e w :=
  ⟨fun _ => Unmoved.refl w, fun h => by simp [hh] at h⟩

/-- Notes written before a failure change nothing of how it leaves the world. -/
theorem after (h₁ : Unmoved w w₁) (h : FailedFrom w₁ e w₂) : FailedFrom w e w₂ :=
  ⟨fun hr => h₁.trans (h.refusal hr), fun hh => by
    obtain ⟨hrelay, hf⟩ := h.hardware hh
    exact ⟨hrelay.trans (congrArg Controller.relayEnabled h₁.1), hf⟩⟩

/-- A failure that is no refusal, from a world with the core of `w`, leaves the world as it
would from `w`. -/
theorem of_core (h : FailedFrom w₁ e w₂) (hc : w₁.ctl.core = w.ctl.core)
    (hr : e.hasKind Failure.isRefusal = false) : FailedFrom w e w₂ :=
  ⟨fun h' => by simp [hr] at h', fun hh => by
    obtain ⟨hrelay, hf⟩ := h.hardware hh
    exact ⟨hrelay.trans (congrArg Core.relayEnabled hc), hf⟩⟩

/-- A failure wrapped by an operation leaves the world as the failure it wraps. -/
theorem wrap (h : FailedFrom w e w') (op : String) (s r : ChargingState) :
    FailedFrom w (.operation op s r e) w' :=
  ⟨fun hr => h.refusal (by simpa using hr), fun hh => h.hardware (by simpa using hh)⟩

end FailedFrom

/-- A failure in the answer `r` of an operation run from `w` leaves the world as `FailedFrom`
says. -/
def FailsFrom (w : World) (r : Outcome × World) : Prop := ∀ e, r.1 = .error e → FailedFrom w e r.2

/-- Every failure of `x`, on every plant and from every world, leaves the world as `FailedFrom`
says. -/
def FailsCleanly (x : Act Outcome) : Prop := ∀ p w, FailsFrom w (exec x p w)

/-- A request's failure leaves the world as `FailedFrom` says. -/
theorem request_failedFrom {req : Request} {reason : String} {p : Plant} {w : World} {e : Failure}
    (h : (exec (request req reason) p w).1 = .error e) :
    FailedFrom w e (exec (request req reason) p w).2 := by
  obtain ⟨href, hhw⟩ := request_failure h
  exact ⟨fun hr => by rw [href hr]; exact Unmoved.refl w, fun hh => by simp [hhw] at hh⟩

/-- A failed relay write whose world then keeps its core: the relay flag of where the write
started, and the relay fault. -/
theorem setRelay_failedFrom {on : Bool} {p : Plant} {w w' : World} {e : Failure}
    (h : (exec (setRelay on) p w).1 = .error e)
    (hc : w'.ctl.core = (exec (setRelay on) p w).2.ctl.core) : FailedFrom w e w' := by
  obtain ⟨hre, -, hrelay, hfault⟩ := setRelay_failure h
  refine ⟨fun hr => by simp [hre] at hr, fun _ => ⟨?_, ?_⟩⟩
  · exact (congrArg Core.relayEnabled hc).trans hrelay
  · exact (Controller.hasFault_congr hc _).trans hfault

/-! ## The operations of the operator -/

/-- The operation `op` asked for `requested`: every failure is the operation's own, answering the
machine's state when it returns, and leaves the world as `FailedFrom` says. -/
def OperationFails (op : String) (requested : ChargingState) (x : Act Outcome) : Prop :=
  ∀ p w e, (exec x p w).1 = .error e →
    FailedFrom w e (exec x p w).2 ∧
      ∃ cause, e = .operation op (exec x p w).2.ctl.machine.state requested cause

theorem OperationFails.fails {op : String} {requested : ChargingState} {x : Act Outcome}
    (h : OperationFails op requested x) : FailsCleanly x :=
  fun p w e he => (h p w e he).1

/-- A note written before an operation changes nothing of how its failures leave the world. -/
theorem FailsCleanly.after_note {x : Act Outcome} (h : FailsCleanly x) (p : Plant) (w : World)
    (severity : Log.Severity) (tag text : String) :
    FailsFrom w (exec x p { w with trace := w.trace ++ [.note severity tag text] }) :=
  fun e he => (h p _ e he).after (Unmoved.note w severity tag text)

theorem startCharging_fails : OperationFails "start charging" charging startCharging := by
  intro p w e he
  unfold startCharging at he ⊢
  rw [exec_ctl_bind] at he ⊢
  split_ifs at he ⊢ with hs hd
  · rw [exec_opFailure] at he ⊢
    cases he
    exact ⟨FailedFrom.refl rfl, _, rfl⟩
  · simp only [exec_bind, exec_note, exec_opFailure] at he ⊢
    cases he
    exact ⟨FailedFrom.after (Unmoved.note _ _ _ _) (FailedFrom.refl rfl), _, rfl⟩
  simp only [exec_bind] at he ⊢
  rcases hr : (exec (request .startCharging "operator request") p w).1 with e₁ | ⟨⟩
  · simp only [hr, exec_opFailure] at he ⊢
    cases he
    exact ⟨(request_failedFrom hr).wrap _ _ _, _, rfl⟩
  simp only [hr] at he ⊢
  obtain ⟨hc₁, -, -⟩ := request_core .startCharging "operator request" p w
  generalize (exec (request .startCharging "operator request") p w).2 = w₁ at hc₁ he ⊢
  simp only [exec_bind] at he ⊢
  rcases hr₂ : (exec (setRelay true) p w₁).1 with e₂ | ⟨⟩
  · simp only [hr₂, exec_bind, exec_opFailure] at he ⊢
    cases he
    refine ⟨((setRelay_failedFrom hr₂ ?_).of_core hc₁ (setRelay_failure hr₂).1).wrap _ _ _, _, rfl⟩
    exact ((noteFailure_calm (by decide) _ _).settled p _).1.trans
      (request_core .stopCharging "relay energize failed" p (exec (setRelay true) p w₁).2).1
  · simp [hr₂, exec_bind] at he

theorem stopSession_fails (reason : String) : FailsCleanly (stopSession reason) := by
  intro p w e he
  unfold stopSession at he ⊢
  simp only [exec_bind] at he ⊢
  rcases hr : (exec (request .stopCharging reason) p w).1 with e₁ | ⟨⟨⟩⟩
  · simp only [hr, exec_pure] at he ⊢
    cases he
    exact request_failedFrom hr
  · simp only [hr] at he ⊢
    exact (setRelay_failedFrom he rfl).of_core (request_core .stopCharging reason p w).1
      (setRelay_failure he).1

theorem stopCharging_fails : OperationFails "stop charging" idle stopCharging := by
  intro p w e he
  unfold stopCharging at he ⊢
  simp only [exec_bind] at he ⊢
  rcases hr : (exec (stopSession "operator request") p w).1 with e₁ | ⟨⟨⟩⟩
  · simp only [hr, exec_opFailure] at he ⊢
    cases he
    exact ⟨(stopSession_fails _ p w e₁ hr).wrap _ _ _, _, rfl⟩
  · simp [hr] at he

theorem pauseCharging_fails : OperationFails "pause charging" ready pauseCharging := by
  intro p w e he
  unfold pauseCharging at he ⊢
  simp only [exec_bind] at he ⊢
  rcases hr : (exec (request .pauseCharging "operator request") p w).1 with e₁ | ⟨⟨⟩⟩
  · simp only [hr, exec_opFailure] at he ⊢
    cases he
    exact ⟨(request_failedFrom hr).wrap _ _ _, _, rfl⟩
  · simp [hr] at he

theorem resumeCharging_fails : OperationFails "resume charging" charging resumeCharging := by
  intro p w e he
  unfold resumeCharging at he ⊢
  rw [exec_ctl_bind] at he ⊢
  split_ifs at he ⊢
  · rw [exec_opFailure] at he ⊢
    cases he
    exact ⟨FailedFrom.refl rfl, _, rfl⟩
  simp only [exec_bind] at he ⊢
  rcases hr : (exec (request .resumeCharging "operator request") p w).1 with e₁ | ⟨⟨⟩⟩
  · simp only [hr, exec_opFailure] at he ⊢
    cases he
    exact ⟨(request_failedFrom hr).wrap _ _ _, _, rfl⟩
  · simp [hr] at he

theorem reset_fails : OperationFails "reset" idle reset := by
  intro p w e he
  unfold reset at he ⊢
  simp only [exec_bind] at he ⊢
  rcases hr : (exec (request .reset "reset") p w).1 with e₁ | ⟨⟨⟩⟩
  · simp only [hr, exec_opFailure] at he ⊢
    cases he
    exact ⟨(request_failedFrom hr).wrap _ _ _, _, rfl⟩
  · simp [hr] at he

/-! ## The other inputs -/

/-- A failure that is neither a refusal nor a failed relay write. -/
def Failure.Ordinary (e : Failure) : Prop :=
  e.hasKind Failure.isRefusal = false ∧ e.hasKind Failure.isHardware = false

/-- An outcome that is a success or an ordinary failure. -/
def Ordinary (r : Outcome) : Prop := ∀ e, r = .error e → e.Ordinary

/-- Every answer of `x`, on every plant and from every world, is one of `S`. -/
def Answers (S : Outcome → Prop) (x : Act Outcome) : Prop := ∀ p w, S (exec x p w).1

namespace Answers

variable {S : Outcome → Prop}

theorem pure {r : Outcome} (h : S r) : Answers S (pure r) := fun _ _ => h

/-- What `x` answers is what its last action answers. -/
theorem bind {α : Type} {y : Act α} {f : α → Act Outcome} (h : ∀ a, Answers S (f a)) :
    Answers S (y >>= f) :=
  fun p _ => h _ p _

theorem fails {x : Act Outcome} (h : Answers Ordinary x) : FailsCleanly x :=
  fun p w e he => FailedFrom.of_kinds (h p w e he).1 (h p w e he).2

theorem failsFrom {x : Act Outcome} (h : Answers Ordinary x) (p : Plant) (w w₀ : World) :
    FailsFrom w₀ (exec x p w) :=
  fun _ he => FailedFrom.of_kinds (h p w _ he).1 (h p w _ he).2

theorem failedFrom {x : Act Outcome} (h : Answers Ordinary x) {p : Plant} {w : World}
    {e : Failure} (he : (exec x p w).1 = .error e) {w₀ w' : World} : FailedFrom w₀ e w' :=
  FailedFrom.of_kinds (h p w e he).1 (h p w e he).2

theorem ok {x : Act Outcome} (h : Answers (· = .ok ()) x) : Answers Ordinary x :=
  fun p w e he => by rw [h p w] at he; cases he

end Answers

theorem ordinary_plant (t : String) : Ordinary (.error (.plant t)) := by
  rintro e ⟨⟩
  exact ⟨rfl, rfl⟩

theorem ordinary_decode (d : Wire.DecodeError) : Ordinary (.error (.decode d)) := by
  rintro e ⟨⟩
  exact ⟨rfl, rfl⟩

theorem ordinary_ok : Ordinary (.ok ()) := by
  rintro e ⟨⟩

theorem sendStatus_answers : Answers Ordinary sendStatus := by
  unfold sendStatus
  refine Answers.bind fun c => ?_
  dsimp only
  split <;>
  · repeat' refine Answers.bind fun _ => ?_
    split
    · exact Answers.pure (ordinary_plant _)
    · exact Answers.pure ordinary_ok

theorem startUp_fails : FailsCleanly startUp := by
  intro p w e he
  unfold startUp at he ⊢
  simp only [exec_bind, exec_ctl, exec_note] at he ⊢
  rcases hr : (exec (setRelay false) p _).1 with e₁ | ⟨⟨⟩⟩
  · simp only [hr, exec_pure] at he ⊢
    cases he
    exact FailedFrom.after (Unmoved.note _ _ _ _) (setRelay_failedFrom hr rfl)
  · simp only [hr] at he ⊢
    refine Answers.failedFrom ?_ he
    repeat' refine Answers.bind fun _ => ?_
    split
    · exact Answers.pure (ordinary_plant _)
    · repeat' refine Answers.bind fun _ => ?_
      split
      · exact Answers.pure (ordinary_plant _)
      · exact Answers.bind fun _ => Answers.pure ordinary_ok

theorem handleMessage_fails (bytes : List UInt8) : FailsCleanly (handleMessage bytes) := by
  intro p w
  unfold handleMessage
  split
  · refine Answers.failsFrom (Answers.ok ?_) p w w
    refine Answers.bind fun c => ?_
    dsimp only
    split
    · split
      · exact Answers.bind fun _ => Answers.pure rfl
      · exact Answers.bind fun _ => Answers.pure rfl
    · exact Answers.bind fun _ => Answers.pure rfl
  split
  · exact Answers.failsFrom (Answers.bind fun _ => Answers.bind fun _ =>
      Answers.pure (ordinary_decode _)) p w w
  · rw [exec_ctl_bind]
    split_ifs
    · rintro e ⟨⟩
      exact FailedFrom.refl rfl
    · refine Answers.failsFrom (Answers.ok ?_) p w w
      refine Answers.bind fun _ => Answers.bind fun changed => ?_
      dsimp only
      split
      · exact Answers.bind fun _ => Answers.bind fun _ => Answers.bind fun _ => Answers.pure rfl
      · exact Answers.pure rfl
  · exact Answers.failsFrom (Answers.ok (Answers.bind fun _ => Answers.pure rfl)) p w w

theorem switchRelay_fails (on : Bool) : FailsCleanly (switchRelay on) := by
  intro p w
  unfold switchRelay
  rw [exec_ctl_bind]
  split_ifs
  · rintro e ⟨⟩
    exact FailedFrom.refl rfl
  · exact fun e he => setRelay_failedFrom he rfl

theorem button_fails (channel : String) (pressed : Bool) : FailsCleanly (button channel pressed) := by
  intro p w
  unfold button
  split_ifs
  · rintro e ⟨⟩
  rw [exec_ctl_bind]
  split_ifs
  · rintro e ⟨⟩
    exact FailedFrom.refl rfl
  · refine Answers.failsFrom (Answers.ok ?_) p w w
    refine Answers.bind fun _ => Answers.bind fun c => ?_
    dsimp only
    split <;> exact Answers.bind fun _ => Answers.bind fun _ => Answers.pure rfl

theorem tick_fails : FailsCleanly tick := by
  intro p w
  unfold tick
  rw [exec_ctl_bind]
  split_ifs
  · rintro e ⟨⟩
    exact FailedFrom.refl rfl
  · refine Answers.failsFrom ?_ p w w
    refine Answers.bind fun _ => Answers.bind fun _ => fun q v => ?_
    simp only [exec_bind, exec_pure]
    exact sendStatus_answers q v

theorem pilotStart_fails : FailsCleanly pilotStart := by
  intro p w
  unfold pilotStart
  refine Answers.failsFrom (Answers.bind fun r => ?_) p w w
  split
  · exact Answers.pure (ordinary_plant _)
  · exact Answers.pure ordinary_ok

theorem run_fails (stop : RunEnd) : FailsCleanly (run stop) := by
  intro p w
  unfold run
  rw [exec_ctl_bind]
  split_ifs
  · rintro e ⟨⟩
    exact FailedFrom.refl rfl
  refine Answers.failsFrom (Answers.bind fun r => ?_) p w w
  cases stop <;> dsimp only <;> split
  · exact Answers.bind fun _ => Answers.pure (ordinary_plant _)
  · exact Answers.pure (ordinary_plant _)
  · exact Answers.bind fun _ => Answers.bind fun _ => Answers.pure ordinary_ok
  · exact Answers.bind fun _ => Answers.pure ordinary_ok

theorem command_fails (text : String) : FailsCleanly (command text) := by
  intro p w
  unfold command
  simp only [exec_bind, exec_note]
  refine FailsCleanly.after_note ?_ p w _ _ _
  split
  · exact startCharging_fails.fails
  · exact stopCharging_fails.fails
  · exact pauseCharging_fails.fails
  · exact resumeCharging_fails.fails
  · exact (Answers.bind fun _ => Answers.pure ordinary_ok).fails
  · exact (Answers.bind fun _ => Answers.pure ordinary_ok).fails
  · exact reset_fails.fails
  · exact switchRelay_fails true
  · exact switchRelay_fails false
  · exact (Answers.pure (ordinary_plant _)).fails

theorem Input.act_fails : ∀ i : Input, FailsCleanly i.act
  | .startUp => startUp_fails
  | .startCharging => startCharging_fails.fails
  | .stopCharging => stopCharging_fails.fails
  | .pauseCharging => pauseCharging_fails.fails
  | .resumeCharging => resumeCharging_fails.fails
  | .reset => reset_fails.fails
  | .enable => (Answers.bind fun _ => Answers.pure ordinary_ok).fails
  | .disable => (Answers.bind fun _ => Answers.pure ordinary_ok).fails
  | .relay on => switchRelay_fails on
  | .command text => command_fails text
  | .button channel pressed => button_fails channel pressed
  | .tick => tick_fails
  | .message bytes => handleMessage_fails bytes
  | .pilotStart => pilotStart_fails
  | .pilotStop => (Answers.bind fun _ => Answers.pure ordinary_ok).fails
  | .pilotSample _ _ => (Answers.bind fun _ => Answers.pure ordinary_ok).fails
  | .shutdown => (Answers.bind fun _ => Answers.pure ordinary_ok).fails
  | .run ending => run_fails ending

/-- A relay request fails as a disabled session or a failed write, never as the plant's
failure. -/
theorem switchRelay_not_plant {on : Bool} {p : Plant} {w : World} {t : String} :
    (exec (switchRelay on) p w).1 ≠ .error (.plant t) := by
  intro he
  unfold switchRelay at he
  rw [exec_ctl_bind] at he
  split_ifs at he
  · cases he
  · simpa [Failure.hasKind, Failure.chain, Failure.isHardware] using (setRelay_failure he).2.1

/-- A command fails as the plant's failure only when its word names no command, and then it
only noted the word. -/
theorem command_plant {text t : String} {p : Plant} {w : World}
    (he : (exec (command text) p w).1 = .error (.plant t)) : Unmoved w (exec (command text) p w).2 := by
  unfold command at he ⊢
  simp only [exec_bind, exec_note] at he ⊢
  generalize hw₁ : ({ w with trace := w.trace ++ _ } : World) = w₁ at he ⊢
  have operation {op : String} {r : ChargingState} {x : Act Outcome}
      (hx : OperationFails op r x) (he : (exec x p w₁).1 = .error (.plant t)) : False := by
    obtain ⟨-, cause, hc⟩ := hx p w₁ _ he
    cases hc
  revert he
  split
  · exact fun he => (operation startCharging_fails he).elim
  · exact fun he => (operation stopCharging_fails he).elim
  · exact fun he => (operation pauseCharging_fails he).elim
  · exact fun he => (operation resumeCharging_fails he).elim
  · rintro ⟨⟩
  · rintro ⟨⟩
  · exact fun he => (operation reset_fails he).elim
  · exact fun he => (switchRelay_not_plant he).elim
  · exact fun he => (switchRelay_not_plant he).elim
  · intro _
    rw [← hw₁]
    exact Unmoved.note _ _ _ _

/-- The operator operation an input is, by name, with the state it asks for. -/
def Input.operation? : Input → Option (String × ChargingState)
  | .startCharging => some ("start charging", charging)
  | .stopCharging => some ("stop charging", idle)
  | .pauseCharging => some ("pause charging", ready)
  | .resumeCharging => some ("resume charging", charging)
  | .reset => some ("reset", idle)
  | _ => none

/-- Every failure of an operator operation is its own, answering where the machine stands when
it returns and the state it was asked for. -/
theorem Input.operation_fails {i : Input} {op : String} {requested : ChargingState}
    (h : i.operation? = some (op, requested)) : OperationFails op requested i.act := by
  cases i <;> simp only [Input.operation?, reduceCtorEq, Option.some.injEq, Prod.mk.injEq] at h <;>
    obtain ⟨rfl, rfl⟩ := h
  · exact startCharging_fails
  · exact stopCharging_fails
  · exact pauseCharging_fails
  · exact resumeCharging_fails
  · exact reset_fails

/-- On every plant and from every world, a refused input changes nothing and writes only notes, and
every operation failure says what was asked and where the machine stands. -/
theorem refused_operations_change_nothing (p : Plant) (w : World) (i : Input) {e : Failure}
    (he : (step p w i).2 = .error e) :
    (e.hasKind Failure.isRefusal = true ∨
        (∃ text, i = .command text ∧ e = .plant s!"invalid command: {Text.quote text}") →
      Unmoved w (step p w i).1) ∧
    (∀ op requested, i.operation? = some (op, requested) →
      ∃ cause, e = .operation op (step p w i).1.ctl.machine.state requested cause) ∧
    (e.hasKind Failure.isHardware = true → RelayKept w (step p w i).1) := by
  rw [step_eq] at he ⊢
  have hf := Input.act_fails i p w e he
  refine ⟨?_, fun op requested hop => (Input.operation_fails hop p w e he).2, hf.hardware⟩
  rintro (hr | ⟨text, rfl, rfl⟩)
  · exact hf.refusal hr
  · exact command_plant he

/-- A start with sessions disabled is refused and changes nothing. -/
theorem start_refused_when_disabled :
    let w : World := ⟨Controller.new ⟨0, 16, false⟩ none false none, []⟩
    (step (Plant.ideal ⟨0, 0⟩) w .startCharging).2 =
        .error (.operation "start charging" idle charging .disabled) ∧
      Unmoved w (step (Plant.ideal ⟨0, 0⟩) w .startCharging).1 := by
  intro w
  have he : (step (Plant.ideal ⟨0, 0⟩) w .startCharging).2 =
      .error (.operation "start charging" idle charging .disabled) := rfl
  exact ⟨he, (refused_operations_change_nothing _ w _ he).1 (.inl rfl)⟩

end Evse.Control
