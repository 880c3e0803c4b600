import Evse.Proofs.Control.Exec
/-!
The controller's primitive actions.
-/
namespace Evse.Control

theorem writeLine_calm {channel : String} {value : Bool} {attempt : Nat}
    (h : (channel == Hardware.relay && value) = false) : Calm (writeLine channel value attempt) :=
  Along.read.bind fun p =>
    (Calm.emit (show (Effect.write channel value (p.writeFault channel value attempt).isNone).Quiet from
      ⟨rfl, h⟩) rfl).bind
      fun _ => Along.pure _

theorem LedPattern.writes_not_relay (q : LedPattern) :
    ∀ a ∈ q.writes, (a.1 == Hardware.relay && a.2) = false := by
  intro a ha
  simp only [LedPattern.writes, List.mem_cons, List.not_mem_nil, or_false] at ha
  rcases ha with rfl | rfl | rfl <;>
    simp [Hardware.relay, Hardware.ledGreen, Hardware.ledYellow, Hardware.ledRed]

theorem refreshLeds_calm : Calm refreshLeds := by
  unfold refreshLeds
  refine Along.ctl.bind fun c => ?_
  dsimp only
  split
  · exact Along.pure _
  · refine Along.bind (Along.forIn _ _ fun a ha s => ?_) fun r => ?_
    · obtain ⟨line, on⟩ := a
      refine Along.bind (writeLine_calm (LedPattern.writes_not_relay _ _ ha)) fun e => ?_
      split
      · refine Along.bind (Calm.note_of_ne_info (by decide)) fun _ => ?_
        exact Along.bind (Calm.modifyCtl (fun _ => rfl) fun _ => rfl) fun _ => Along.pure _
      · exact Along.pure _
    · split
      · exact Along.pure _
      · exact Calm.modifyCtl (fun _ => rfl) fun _ => rfl

theorem publish_calm : Calm publish := by
  unfold publish
  refine Along.ctl.bind fun c => ?_
  split
  · exact Along.pure _
  · refine Along.read.bind fun p => ?_
    dsimp only
    have failed (s : Status) (e : String) : Calm (do
        emit (.publish s false)
        note .warn s!"Failed to publish status: {e}") :=
      Along.bind (Calm.emit ⟨rfl, rfl⟩ rfl) fun _ => Calm.note_of_ne_info (by decide)
    have done (s : Status) : Calm (do
        emit (.publish s true)
        modifyCtl fun c => { c with published := some s }) :=
      Along.bind (Calm.emit ⟨rfl, rfl⟩ rfl) fun _ => Calm.modifyCtl (fun _ => rfl) fun _ => rfl
    repeat' split
    · exact Along.pure _
    · exact failed _ _
    · exact done _
    · exact failed _ _
    · exact done _

theorem sendStatus_calm : Calm sendStatus := by
  unfold sendStatus
  refine Along.ctl.bind fun c => ?_
  dsimp only
  refine Along.ite (fun _ => Along.bind (Calm.note_of_ne_info (by decide)) fun _ =>
    Along.bind (Calm.modifyCtl (fun _ => rfl) fun _ => rfl) fun _ => ?_) fun _ => ?_
  all_goals
    refine Along.read.bind fun p => ?_
    refine Along.bind (Calm.emit ⟨rfl, rfl⟩ rfl) fun _ => ?_
    refine Along.bind (Calm.observe _) fun _ => ?_
    split <;> exact Along.pure _

theorem onTransition_calm (source target : ChargingState) (reason : String) :
    Calm (onTransition source target reason) := by
  unfold onTransition
  refine Along.bind (Calm.note (by simp [Effect.switch?, toString_string])) fun _ => ?_
  refine Along.bind (Calm.observe _) fun _ => ?_
  have forget : Calm ((modifyCtl fun c => { c with sessionId := "" }) >>= fun _ => refreshLeds) :=
    Along.bind (Calm.modifyCtl (fun _ => rfl) fun _ => rfl) fun _ => refreshLeds_calm
  dsimp only
  split
  · split
    · refine Along.read.bind fun _ => ?_
      exact Along.bind (Calm.modifyCtl (fun _ => rfl) fun _ => rfl) fun _ => refreshLeds_calm
    · exact refreshLeds_calm
  · exact forget
  · exact forget
  · exact refreshLeds_calm

theorem noteFailure_calm {severity : Log.Severity} (h : severity ≠ .info) (context : String)
    (r : Outcome) : Calm (noteFailure severity context r) := by
  unfold noteFailure
  split
  · exact Calm.note_of_ne_info h
  · exact Along.pure _

theorem noteMalformed_calm (text : String) : Calm (noteMalformed text) := by
  unfold noteMalformed
  refine Along.ctl.bind fun c => ?_
  split
  · exact Along.bind (Calm.modifyCtl (fun _ => rfl) fun _ => rfl) fun _ =>
      Calm.note_of_ne_info (by decide)
  · exact Along.pure _

theorem rejectPeer_calm (intent : ChargingState) (why : String) : Calm (rejectPeer intent why) :=
  Along.bind (Calm.observe _) fun _ => Calm.note_of_ne_info (by decide)

theorem opFailure_calm (op : String) (requested : ChargingState) (e : Failure) :
    Calm (opFailure op requested e) :=
  Along.ctl.bind fun _ => Along.pure _

/-- The fault list after `f` is reported as `present`: as it was when the fault already is so,
else with `f` moved to its end with the new presence. -/
def Controller.reported (c : Controller) (f : Fault) (present : Bool) : List (Fault × Bool) :=
  if c.hasFault f == present then c.faults else c.faults.filter (·.1 != f) ++ [(f, present)]

/-- The controller after `f` is reported as `present`. -/
def Controller.report (c : Controller) (f : Fault) (present : Bool) : Controller :=
  { c with faults := c.reported f present }

theorem lookup_filter_fault {l : List (Fault × Bool)} {f g : Fault} :
    (l.filter (·.1 != f)).lookup g = if g = f then none else l.lookup g := by
  induction l with
  | nil => simp
  | cons a l ih =>
    obtain ⟨k, v⟩ := a
    by_cases hk : k = f <;> by_cases hg : g = k <;> grind

theorem Controller.hasFault_report (c : Controller) (f g : Fault) (present : Bool) :
    (c.report f present).hasFault g = if g = f then present else c.hasFault g := by
  by_cases h : (c.hasFault f == present) = true
  · have hr : c.report f present = c := by simp [Controller.report, Controller.reported, h]
    rw [hr]
    split
    · next hg => subst hg; simpa using h
    · rfl
  · simp only [Controller.report, Controller.reported, h, Bool.false_eq_true, if_false]
    simp only [Controller.hasFault, List.lookup_append, lookup_filter_fault]
    by_cases hg : g = f <;> grind

/-- A fault report changes the fault list as `Controller.report` says, and writes only calm
effects. -/
theorem reportFault_settled (f : Fault) (present : Bool) (p : Plant) (w : World) :
    Settled { w with ctl := w.ctl.report f present } (exec (reportFault f present) p w).2 := by
  unfold reportFault
  simp only [exec_bind, exec_ctl]
  by_cases h : (w.ctl.hasFault f == present) = true
  · simpa [Controller.report, Controller.reported, h] using Settled.refl w
  · simp only [h, if_false, Bool.false_eq_true, exec_bind, exec_modifyCtl]
    have hr : w.ctl.report f present =
        { w.ctl with faults := w.ctl.faults.filter (·.1 != f) ++ [(f, present)] } := by
      simp [Controller.report, Controller.reported, h]
    rw [hr]
    refine Calm.settled ?_ p _
    refine Along.ite (fun _ => Along.pure _) fun _ => ?_
    · refine Along.bind (Calm.emit ⟨rfl, rfl⟩ rfl) fun _ => ?_
      refine Along.read.bind fun q => ?_
      split
      · exact Calm.note_of_ne_info (by decide)
      · exact Along.pure _

/-- The controller after the relay is written to `on` on plant `p`: the relay flag follows a
write that succeeds; one that fails records fault 3 and leaves the flag. -/
def Controller.afterRelay (c : Controller) (p : Plant) (on : Bool) : Controller :=
  { c with
    relayEnabled := if (p.writeFault Hardware.relay on 0).isNone then on else c.relayEnabled
    faults := if (p.writeFault Hardware.relay on 0).isNone then c.faults
      else c.reported .relayWrite true }

/-- What writing the relay to `on` answers on plant `p`. -/
def relayOutcome (p : Plant) (on : Bool) : Outcome :=
  match p.writeFault Hardware.relay on 0 with
  | some e => .error (.hardwareWrite on e)
  | none => .ok ()

/-- A relay write: one attempt on the relay line, then the flag or the fault as
`Controller.afterRelay` says, and calm effects. -/
theorem setRelay_spec (on : Bool) (p : Plant) (w : World) :
    (exec (setRelay on) p w).1 = relayOutcome p on ∧
      Settled ⟨w.ctl.afterRelay p on,
        w.trace ++ [.write Hardware.relay on (p.writeFault Hardware.relay on 0).isNone]⟩
        (exec (setRelay on) p w).2 := by
  unfold setRelay
  simp only [exec_bind, writeLine, exec_read, exec_emit, exec_pure, exec_observe]
  cases hf : p.writeFault Hardware.relay on 0 with
  | some e =>
    simp only [exec_bind, exec_note, exec_pure]
    refine ⟨by simp [relayOutcome, hf], ?_⟩
    rw [show w.ctl.afterRelay p on = w.ctl.report .relayWrite true by
      simp [Controller.afterRelay, Controller.report, hf]]
    refine Settled.trans ?_ (reportFault_settled _ _ p _)
    exact ⟨rfl, rfl, _, rfl, by simp [Effect.quiet_of_ne_info], rfl⟩
  | none =>
    have ha : w.ctl.afterRelay p on = { w.ctl with relayEnabled := on } := by
      simp [Controller.afterRelay, hf]
    rw [ha]
    simp only [exec_bind, exec_ctl]
    by_cases hr : (w.ctl.relayEnabled != on) = true
    · simp only [hr, if_true, exec_bind, exec_note, exec_modifyCtl, exec_pure]
      refine ⟨by simp [relayOutcome, hf], rfl, rfl, _, rfl, ?_, rfl⟩
      simp only [List.mem_singleton, forall_eq]
      exact ⟨by cases on <;> simp [Effect.switch?, onOff, toString_string], rfl⟩
    · simp only [hr, if_false, Bool.false_eq_true, exec_bind, exec_pure, exec_modifyCtl]
      exact ⟨by simp [relayOutcome, hf], rfl, rfl, Grows.refl _⟩

end Evse.Control
