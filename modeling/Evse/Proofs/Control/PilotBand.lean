import Evse.Proofs.Control.Publication
import Evse.Proofs.Control.Retransmission
import Evse.Proofs.Control.ShutdownLatch
import Evse.Proofs.Pilot.Lifecycle
/-!
The pilot band a controller records, and what each band change does.
-/
namespace Evse.Control

open ChargingState

/-! ## What keeps the recorded band -/

/-- `w'` has the pilot monitor, the shutdown flag and the recorded band of `w`. -/
def BandKept (w w' : World) : Prop :=
  MonitorKept w w' ∧ w'.ctl.pilotState = w.ctl.pilotState

namespace BandKept

theorem refl (w : World) : BandKept w w := ⟨MonitorKept.refl w, rfl⟩

theorem trans {w₁ w₂ w₃ : World} (h₁ : BandKept w₁ w₂) (h₂ : BandKept w₂ w₃) : BandKept w₁ w₃ :=
  ⟨h₁.1.trans h₂.1, h₂.2.trans h₁.2⟩

theorem of_core {w w' : World} {c : Controller} (h : w'.ctl.core = c.core)
    (hc : c.pilot = w.ctl.pilot ∧ c.pilotState = w.ctl.pilotState ∧ c.shutDown = w.ctl.shutDown) :
    BandKept w w' :=
  ⟨.of_core h ⟨hc.1, hc.2.2⟩, (congrArg Core.pilotState h).trans hc.2.1⟩

end BandKept

/-- An action that keeps the pilot monitor, the shutdown flag and the recorded band, on every
plant. -/
abbrev KeepsBand {α : Type} (x : Act α) : Prop := Along (fun _ => True) (fun _ => BandKept) x

namespace KeepsBand

variable {α : Type} {x : Act α}

theorem kept (h : KeepsBand x) (p : Plant) (w : World) : BandKept w (exec x p w).2 :=
  h p trivial w w (BandKept.refl w)

theorem of_kept (h : ∀ p w, BandKept w (exec x p w).2) : KeepsBand x :=
  fun p _ _ w hw => hw.trans (h p w)

theorem of_core (h : ∀ p w, (exec x p w).2.ctl.core = w.ctl.core) : KeepsBand x :=
  of_kept fun p w => .of_core (h p w) ⟨rfl, rfl, rfl⟩

theorem of_calm (h : Calm x) : KeepsBand x := of_core fun p w => (h.settled p w).1

theorem emit (e : Effect) : KeepsBand (Control.emit e) := of_kept fun _ _ => BandKept.refl _

theorem note (severity : Log.Severity) (text : String) : KeepsBand (Control.note severity text) :=
  emit _

theorem modifyCtl {f : Controller → Controller}
    (h : ∀ c, (f c).pilot = c.pilot ∧ (f c).pilotState = c.pilotState ∧ (f c).shutDown = c.shutDown) :
    KeepsBand (Control.modifyCtl f) :=
  of_kept fun _ w => ⟨⟨(h w.ctl).1, (h w.ctl).2.2⟩, (h w.ctl).2.1⟩

theorem observe (f : Metrics.Book → Metrics.Book) : KeepsBand (Control.observe f) :=
  of_calm (Calm.observe f)

end KeepsBand

theorem request_keepsBand (req : Request) (reason : String) : KeepsBand (request req reason) :=
  KeepsBand.of_core fun p w => (request_core req reason p w).1

theorem reportFault_keepsBand (f : Fault) (present : Bool) : KeepsBand (reportFault f present) :=
  KeepsBand.of_kept fun p w => .of_core (reportFault_settled f present p w).1 ⟨rfl, rfl, rfl⟩

theorem setRelay_keepsBand (on : Bool) : KeepsBand (setRelay on) :=
  KeepsBand.of_kept fun p w => .of_core (setRelay_spec on p w).2.1 ⟨rfl, rfl, rfl⟩

theorem noteFailure_keepsBand (severity : Log.Severity) (context : String) (r : Outcome) :
    KeepsBand (noteFailure severity context r) := by
  unfold noteFailure
  split
  · exact KeepsBand.note _ _
  · exact Along.pure _

theorem stopSession_keepsBand (reason : String) : KeepsBand (stopSession reason) := by
  unfold stopSession
  refine Along.bind (request_keepsBand _ _) fun r => ?_
  split
  · exact Along.pure _
  · exact setRelay_keepsBand false

theorem turnSwitch_keepsBand (v : Bool) (text : String) : KeepsBand (turnSwitch v text) := by
  unfold turnSwitch
  refine Along.bind (KeepsBand.modifyCtl fun _ => ⟨rfl, rfl, rfl⟩) fun _ => ?_
  refine Along.bind (KeepsBand.observe _) fun _ => ?_
  exact Along.bind (KeepsBand.note _ _) fun _ => KeepsBand.of_calm refreshLeds_calm

theorem disableSessions_keepsBand (source : String) : KeepsBand (disableSessions source) := by
  unfold disableSessions
  refine Along.ctl.bind fun c => ?_
  dsimp only
  refine Along.ite (fun _ => ?_) fun _ => turnSwitch_keepsBand _ _
  refine Along.bind (KeepsBand.note _ _) fun _ => ?_
  refine Along.bind (stopSession_keepsBand _) fun r => ?_
  exact Along.bind (noteFailure_keepsBand _ _ r) fun _ => turnSwitch_keepsBand _ _

/-! ## Operator operations -/

theorem opFailure_keepsBand (op : String) (requested : ChargingState) (e : Failure) :
    KeepsBand (opFailure op requested e) :=
  KeepsBand.of_calm (opFailure_calm op requested e)

theorem startCharging_keepsBand : KeepsBand startCharging := by
  unfold startCharging
  refine Along.ctl.bind fun c => ?_
  refine Along.ite (fun _ => opFailure_keepsBand _ _ _) fun _ => ?_
  refine Along.ite (fun _ => Along.bind (KeepsBand.note _ _) fun _ => opFailure_keepsBand _ _ _)
    fun _ => ?_
  refine Along.bind (request_keepsBand _ _) fun r => ?_
  split
  · exact opFailure_keepsBand _ _ _
  · refine Along.bind (setRelay_keepsBand _) fun r => ?_
    split
    · refine Along.bind (request_keepsBand _ _) fun r => ?_
      exact Along.bind (noteFailure_keepsBand _ _ r) fun _ => opFailure_keepsBand _ _ _
    · refine Along.ctl.bind fun c => ?_
      exact Along.bind (KeepsBand.note _ _) fun _ => Along.pure _

theorem stopCharging_keepsBand : KeepsBand stopCharging := by
  unfold stopCharging
  refine Along.bind (stopSession_keepsBand _) fun r => ?_
  split
  · exact opFailure_keepsBand _ _ _
  · exact Along.pure _

theorem pauseCharging_keepsBand : KeepsBand pauseCharging := by
  unfold pauseCharging
  refine Along.bind (request_keepsBand _ _) fun r => ?_
  split
  · exact opFailure_keepsBand _ _ _
  · exact Along.pure _

theorem resumeCharging_keepsBand : KeepsBand resumeCharging := by
  unfold resumeCharging
  refine Along.ctl.bind fun c => ?_
  refine Along.ite (fun _ => opFailure_keepsBand _ _ _) fun _ => ?_
  refine Along.bind (request_keepsBand _ _) fun r => ?_
  split
  · exact opFailure_keepsBand _ _ _
  · exact Along.pure _

theorem reset_keepsBand : KeepsBand reset := by
  unfold reset
  refine Along.bind (request_keepsBand _ _) fun r => ?_
  split
  · exact opFailure_keepsBand _ _ _
  · refine Along.read.bind fun q => ?_
    refine Along.bind (Along.forIn _ _ fun f _ u => ?_) fun _ => Along.pure _
    refine Along.ctl.bind fun c => ?_
    exact Along.ite (fun _ => Along.bind (reportFault_keepsBand _ _) fun _ => Along.pure _)
      fun _ => Along.pure _

theorem switchRelay_keepsBand (on : Bool) : KeepsBand (switchRelay on) := by
  unfold switchRelay
  exact Along.ctl.bind fun c => Along.ite (fun _ => Along.pure _) fun _ => setRelay_keepsBand on

theorem command_keepsBand (text : String) : KeepsBand (command text) := by
  unfold command
  refine Along.bind (KeepsBand.note _ _) fun _ => ?_
  split
  · exact startCharging_keepsBand
  · exact stopCharging_keepsBand
  · exact pauseCharging_keepsBand
  · exact resumeCharging_keepsBand
  · exact Along.bind (turnSwitch_keepsBand _ _) fun _ => Along.pure _
  · exact Along.bind (disableSessions_keepsBand _) fun _ => Along.pure _
  · exact reset_keepsBand
  · exact switchRelay_keepsBand _
  · exact switchRelay_keepsBand _
  · exact Along.pure _

theorem button_keepsBand (channel : String) (pressed : Bool) :
    KeepsBand (button channel pressed) := by
  unfold button
  refine Along.ite (fun _ => Along.pure _) fun _ => ?_
  refine Along.ctl.bind fun c => Along.ite (fun _ => Along.pure _) fun _ => ?_
  refine Along.bind (KeepsBand.note _ _) fun _ => ?_
  refine Along.ctl.bind fun c => ?_
  have last : KeepsBand (do publish; pure (.ok ()) : Act Outcome) :=
    Along.bind (KeepsBand.of_calm publish_calm) fun _ => Along.pure _
  dsimp only
  exact Along.ite (fun _ => Along.bind (disableSessions_keepsBand _) fun _ => last)
    fun _ => Along.bind (turnSwitch_keepsBand _ _) fun _ => last

/-! ## The peer and the tick -/

theorem returnToIdle_keepsBand (reason : String) : KeepsBand (returnToIdle reason) := by
  unfold returnToIdle
  refine Along.ctl.bind fun c => ?_
  have last (r : Outcome) : KeepsBand (noteFailure .error "Failed to return to idle" r) :=
    noteFailure_keepsBand _ _ r
  dsimp only
  split
  · exact Along.bind (Along.pure _) last
  · exact Along.bind (request_keepsBand _ _) last
  · exact Along.bind (request_keepsBand _ _) last
  · refine Along.bind (request_keepsBand _ _) fun r => ?_
    split
    · exact Along.bind (request_keepsBand _ _) last
    · exact Along.bind (Along.pure _) last
  · exact Along.bind (KeepsBand.note _ _) fun _ => Along.bind (Along.pure _) last
  · exact Along.bind (request_keepsBand _ _) last

theorem applyIntent_keepsBand (intent : ChargingState) : KeepsBand (applyIntent intent) := by
  unfold applyIntent
  refine Along.ctl.bind fun c => ?_
  refine Along.bind (KeepsBand.modifyCtl fun _ => ⟨rfl, rfl, rfl⟩) fun _ => ?_
  have rejected (why : String) : KeepsBand (rejectPeer intent why) :=
    KeepsBand.of_calm (rejectPeer_calm _ _)
  split
  · exact returnToIdle_keepsBand _
  · refine Along.ite (fun _ => rejected _) fun _ => Along.ite (fun _ => rejected _) fun _ => ?_
    exact Along.bind (KeepsBand.modifyCtl fun _ => ⟨rfl, rfl, rfl⟩) fun _ => KeepsBand.note _ _
  · refine Along.ite (fun _ => Along.pure _) fun _ => Along.ite (fun _ => rejected _) fun _ => ?_
    refine Along.ite (fun _ => rejected _) fun _ => Along.ite (fun _ => rejected _) fun _ => ?_
    exact Along.bind (request_keepsBand _ _) fun r => noteFailure_keepsBand _ _ r
  · refine Along.ite (fun _ => ?_) fun _ => Along.pure _
    exact Along.bind (request_keepsBand _ _) fun r => noteFailure_keepsBand _ _ r
  · exact KeepsBand.note _ _

theorem applyContactor_keepsBand (on : Bool) : KeepsBand (applyContactor on) := by
  unfold applyContactor
  refine Along.ctl.bind fun c => ?_
  refine Along.ite (fun _ => KeepsBand.note _ _) fun _ => ?_
  refine Along.ite (fun _ => ?_) fun _ => Along.pure _
  exact Along.bind (setRelay_keepsBand on) fun r => noteFailure_keepsBand _ _ r

theorem applyPeer_keepsBand (s : Wire.StateReport) (h : Wire.Hardware) :
    KeepsBand (applyPeer s h) := by
  unfold applyPeer followEnable followIntent followContactor
  refine Along.ctl.bind fun c => ?_
  refine Along.bind (KeepsBand.of_core fun p w => (peerState_recounted _ _ p w).core) fun st => ?_
  refine Along.bind ?_ fun _ => ?_
  · refine Along.ite (fun _ => ?_) fun _ => Along.pure _
    refine Along.bind (KeepsBand.note _ _) fun _ => Along.ctl.bind fun c => ?_
    exact Along.ite (fun _ => turnSwitch_keepsBand _ _) fun _ =>
      Along.ite (fun _ => disableSessions_keepsBand _) fun _ => Along.pure _
  refine Along.bind ?_ fun _ => ?_
  · refine Along.ite (fun _ => ?_) fun _ => Along.pure _
    exact Along.bind (KeepsBand.note _ _) fun _ => applyIntent_keepsBand _
  refine Along.bind ?_ fun _ => ?_
  · refine Along.ite (fun _ => ?_) fun _ => Along.pure _
    exact Along.bind (KeepsBand.note _ _) fun _ => applyContactor_keepsBand _
  exact Along.bind (KeepsBand.modifyCtl fun _ => ⟨rfl, rfl, rfl⟩) fun _ => Along.pure _

theorem peerHeard_keepsBand : KeepsBand peerHeard := by
  unfold peerHeard
  refine Along.read.bind fun q => ?_
  refine Along.bind (KeepsBand.modifyCtl fun _ => ⟨rfl, rfl, rfl⟩) fun _ => ?_
  exact Along.bind (KeepsBand.observe _) fun _ => reportFault_keepsBand _ _

theorem watchdog_keepsBand : KeepsBand watchdog := by
  unfold watchdog
  refine Along.ctl.bind fun c => ?_
  dsimp only
  refine Along.ite (fun _ => Along.pure _) fun _ => ?_
  refine Along.read.bind fun q => ?_
  refine Along.ite (fun _ => Along.pure _) fun _ => ?_
  refine Along.bind (KeepsBand.note _ _) fun _ => ?_
  refine Along.bind (KeepsBand.observe _) fun _ => ?_
  refine Along.bind (reportFault_keepsBand _ _) fun _ => ?_
  have last : KeepsBand (do
      noteFailure .error "Watchdog could not de-energize relay" (← setRelay false)) :=
    Along.bind (setRelay_keepsBand _) fun r => noteFailure_keepsBand _ _ r
  refine Along.ctl.bind fun c => Along.ite (fun _ => ?_) fun _ => last
  refine Along.bind (request_keepsBand _ _) fun r => ?_
  exact Along.bind (noteFailure_keepsBand _ _ r) fun _ => last

theorem tick_keepsBand : KeepsBand tick := by
  unfold tick
  refine Along.ctl.bind fun c => Along.ite (fun _ => Along.pure _) fun _ => ?_
  refine Along.bind watchdog_keepsBand fun _ => ?_
  refine Along.bind (KeepsBand.of_calm refreshLeds_calm) fun _ => ?_
  refine Along.bind (KeepsBand.of_calm sendStatus_calm) fun r => ?_
  exact Along.bind (KeepsBand.of_calm publish_calm) fun _ => Along.pure _

/-- A datagram that is no pilot message keeps the monitor, the shutdown flag and the band. -/
theorem envelope_keepsBand {bytes : List UInt8} (hb : PilotState.isMessage bytes = false) :
    KeepsBand (handleMessage bytes) := by
  unfold handleMessage
  rw [if_neg (by simp [hb])]
  split
  · exact Along.bind (KeepsBand.observe _) fun _ =>
      Along.bind (KeepsBand.of_calm (noteMalformed_calm _)) fun _ => Along.pure _
  · refine Along.ctl.bind fun c => Along.ite (fun _ => Along.pure _) fun _ => ?_
    refine Along.bind peerHeard_keepsBand fun _ => ?_
    refine Along.bind (applyPeer_keepsBand _ _) fun changed => ?_
    refine Along.ite (fun _ => ?_) fun _ => Along.pure _
    refine Along.bind (KeepsBand.of_calm sendStatus_calm) fun r => ?_
    exact Along.bind (noteFailure_keepsBand _ _ r) fun _ =>
      Along.bind (KeepsBand.of_calm publish_calm) fun _ => Along.pure _
  · exact Along.bind (KeepsBand.note _ _) fun _ => Along.pure _

/-! ## A band change -/

/-- `v` has the pilot monitor and the shutdown flag of `w`, and records band `s`. -/
def RecordsBand (s : PilotState) (w v : World) : Prop :=
  MonitorKept w v ∧ v.ctl.pilotState = s

theorem KeepsBand.records {α : Type} {x : Act α} (h : KeepsBand x) (p : Plant) (s : PilotState)
    (w : World) : Triple p (RecordsBand s w) x (RecordsBand s w) := fun v hv =>
  have hk := h.kept p v
  ⟨hv.1.trans hk.1, hk.2.trans hv.2⟩

/-- Before shutdown, a band change is recorded, whatever the reaction to it does. -/
theorem pilotChanged_records {w : World} (hs : w.ctl.shutDown = false) (old next : PilotState)
    (p : Plant) : RecordsBand next w (exec (pilotChanged old next) p w).2 := by
  unfold pilotChanged
  rw [exec_ctl_bind]
  dsimp only
  rw [if_neg (by simp [hs])]
  refine (?_ : Triple p (· = w) _ (RecordsBand next w)) w rfl
  refine Triple.bind (Q := RecordsBand next w) (fun v hv => ?_) fun _ => KeepsBand.records ?_ p next w
  · subst hv
    exact ⟨MonitorKept.refl _, rfl⟩
  refine Along.bind (KeepsBand.observe _) fun _ => ?_
  refine Along.bind (KeepsBand.note _ _) fun _ => ?_
  have last : KeepsBand publish := KeepsBand.of_calm publish_calm
  split
  · refine Along.ctl.bind fun c => Along.ite (fun _ => ?_) fun _ => last
    refine Along.bind (KeepsBand.note _ _) fun _ => ?_
    refine Along.bind (stopSession_keepsBand _) fun r => ?_
    exact Along.bind (noteFailure_keepsBand _ _ r) fun _ => last
  · refine Along.bind (KeepsBand.note _ _) fun _ => ?_
    refine Along.bind (reportFault_keepsBand _ _) fun _ => ?_
    refine Along.bind (setRelay_keepsBand false) fun r => ?_
    refine Along.bind (noteFailure_keepsBand _ _ r) fun _ => ?_
    refine Along.bind (request_keepsBand _ _) fun r => ?_
    exact Along.bind (noteFailure_keepsBand _ _ r) fun _ => last
  · exact last

/-- Before shutdown, the events of the monitor leave the band their changes lead to. -/
theorem pilotEvents_records {evs : List Pilot.Event} {t : PilotState} {w : World}
    (hs : w.ctl.shutDown = false) (hl : Pilot.Leads w.ctl.pilotState (Pilot.changes evs) t)
    (p : Plant) : RecordsBand t w (exec (pilotEvents evs) p w).2 := by
  induction evs generalizing w with
  | nil =>
    cases hl
    exact ⟨MonitorKept.refl w, rfl⟩
  | cons e rest ih =>
    cases e with
    | change old next =>
      obtain ⟨-, -, hrest⟩ := hl
      show RecordsBand t w (exec (pilotChanged old next >>= fun _ => pilotEvents rest) p w).2
      rw [exec_bind]
      have h₁ := pilotChanged_records hs old next p
      have h₂ := ih (h₁.1.2.trans hs) (by rw [h₁.2]; exact hrest)
      exact ⟨h₁.1.trans h₂.1, h₂.2⟩
    | note severity text =>
      show RecordsBand t w (exec (emit _ >>= fun _ => pilotEvents rest) p w).2
      rw [exec_bind, exec_emit]
      exact ih hs hl

/-! ## The reaction to each band -/

/-- Stopping a session that is ready or charging, on a plant whose other listeners never refuse,
lands in idle and writes the relay open. -/
theorem stopSession_unplugs {p : Plant} (hp : p.Agreeable) (reason : String) {w v : World}
    (hk : KeptOpen w v) (ha : v.ctl.machine.state.isActive = true) :
    WroteOpen w (exec (stopSession reason) p v).2 ∧
      (exec (stopSession reason) p v).2.ctl.machine.state = idle := by
  obtain ⟨hr, -, hm, -⟩ := request_lands hp (route_stopCharging_of_active ha) reason
  unfold stopSession
  rw [exec_bind, hr]
  refine ⟨setRelay_off_wroteOpen (hk.trans ((request_inert _ _).neverCloses.keptOpen p v)) p, ?_⟩
  have hs := (setRelay_spec false p (exec (request .stopCharging reason) p v).2).2
  exact (congrArg Machine.state (hs.2.1.trans hm)).trans rfl

/-- Before shutdown, a change to A during a session that is ready or charging writes the relay
open and, on a plant whose other listeners never refuse, walks the machine to idle. -/
theorem pilotChanged_unplugged (old : PilotState) {p : Plant} (hp : p.Agreeable) {w : World}
    (hsd : w.ctl.shutDown = false) (ha : w.ctl.machine.state.isActive = true) :
    WroteOpen w (exec (pilotChanged old .a) p w).2 ∧
      (exec (pilotChanged old .a) p w).2.ctl.machine.state = idle := by
  unfold pilotChanged
  rw [exec_ctl_bind, if_neg (by simp [hsd])]
  dsimp only
  have still {α : Type} {x : Act α} (hx : NeverCloses x)
      (hm : ∀ v, (exec x p v).2.ctl.machine = v.ctl.machine) :
      Triple p (fun v => KeptOpen w v ∧ v.ctl.machine = w.ctl.machine) x
        (fun v => KeptOpen w v ∧ v.ctl.machine = w.ctl.machine) :=
    fun v hv => ⟨hv.1.trans (hx.keptOpen p v), (hm v).trans hv.2⟩
  have stays {α : Type} {x : Act α} (hx : Calm x) :
      Triple p (fun v => WroteOpen w v ∧ v.ctl.machine.state = idle) x
        (fun v => WroteOpen w v ∧ v.ctl.machine.state = idle) :=
    fun v hv => ⟨hv.1.keptOpen (hx.neverCloses.keptOpen p v),
      (congrArg Machine.state (hx.settled p v).2.1).trans hv.2⟩
  refine (?_ : Triple p (fun v => KeptOpen w v ∧ v.ctl.machine = w.ctl.machine) _
    (fun v => WroteOpen w v ∧ v.ctl.machine.state = idle)) w ⟨KeptOpen.refl w, rfl⟩
  refine Triple.bind (still (NeverCloses.modifyCtl _) fun _ => rfl) fun _ => ?_
  refine Triple.bind (still (Calm.observe _).neverCloses fun _ => rfl) fun _ => ?_
  refine Triple.bind (still (NeverCloses.note _ _) fun _ => rfl) fun _ => ?_
  intro v hv
  have hav : v.ctl.machine.state.isActive = true := by rw [hv.2]; exact ha
  rw [exec_ctl_bind, if_pos hav]
  refine (?_ : Triple p (fun v => KeptOpen w v ∧ v.ctl.machine = w.ctl.machine) _
    (fun v => WroteOpen w v ∧ v.ctl.machine.state = idle)) v hv
  refine Triple.bind (still (NeverCloses.note _ _) fun _ => rfl) fun _ => ?_
  refine Triple.bind (Q := fun v => WroteOpen w v ∧ v.ctl.machine.state = idle)
    (fun u hu => stopSession_unplugs hp _ hu.1 (by rw [hu.2]; exact ha)) fun r => ?_
  exact Triple.bind (stays (noteFailure_calm (by decide) _ r)) fun _ => stays publish_calm

/-- Before shutdown, a change to F leaves the pilot fault present. -/
theorem pilotChanged_fault_present (old : PilotState) (p : Plant) {w : World}
    (hsd : w.ctl.shutDown = false) :
    (exec (pilotChanged old .f) p w).2.ctl.hasFault .pilot = true := by
  unfold pilotChanged
  rw [exec_ctl_bind, if_neg (by simp [hsd])]
  dsimp only
  -- once reported, the fault stays: the steps after the report touch no other fault than a
  -- failed relay write
  have keeps {α : Type} {x : Act α}
      (h : ∀ v, (exec x p v).2.ctl.hasFault .pilot = v.ctl.hasFault .pilot) :
      Triple p (fun v => v.ctl.hasFault .pilot = true) x (fun v => v.ctl.hasFault .pilot = true) :=
    fun v hv => (h v).trans hv
  have skip {α : Type} {x : Act α} : Triple p (fun _ => True) x (fun _ => True) :=
    fun _ _ => trivial
  refine (?_ : Triple p (fun _ => True) _ (fun v => v.ctl.hasFault .pilot = true)) w trivial
  refine Triple.bind skip fun _ => Triple.bind skip fun _ => Triple.bind skip fun _ => ?_
  refine Triple.bind skip fun _ => ?_
  refine Triple.bind (Q := fun v => v.ctl.hasFault .pilot = true) (fun v _ => ?_) fun _ => ?_
  · show (exec (reportFault .pilot true) p v).2.ctl.hasFault .pilot = true
    rw [(reportFault_settled .pilot true p v).hasFault .pilot]
    simp [Controller.hasFault_report]
  refine Triple.bind (keeps fun v => ?_) fun r => ?_
  · rw [(setRelay_spec false p v).2.hasFault .pilot]
    exact Controller.afterRelay_hasFault _ _ _ (by decide)
  refine Triple.bind (keeps fun v => ((noteFailure_calm (by decide) _ r).settled p v).hasFault _)
    fun _ => ?_
  refine Triple.bind (keeps fun v => Controller.hasFault_congr (request_core _ _ p v).1 _)
    fun r => ?_
  refine Triple.bind (keeps fun v => ((noteFailure_calm (by decide) _ r).settled p v).hasFault _)
    fun _ => ?_
  exact keeps fun v => (publish_calm.settled p v).hasFault _

/-- Before shutdown, a change to a band other than F, and to A only while no session is ready or
charging, only records the band: the core is that of `w` with the new band, the machine stays,
and the trace grows by quiet effects that tell no listener of a step. -/
theorem pilotChanged_records_only (old : PilotState) {next : PilotState} (hf : next ≠ .f)
    (p : Plant) {w : World} (hsd : w.ctl.shutDown = false)
    (ha : next = .a → w.ctl.machine.state.isActive = false) :
    Settled { w with ctl := { w.ctl with pilotState := next } }
      (exec (pilotChanged old next) p w).2 := by
  unfold pilotChanged
  rw [exec_ctl_bind, if_neg (by simp [hsd])]
  dsimp only
  have calm {α : Type} {x : Act α} (h : Calm x) :
      Triple p (Settled { w with ctl := { w.ctl with pilotState := next } }) x
        (Settled { w with ctl := { w.ctl with pilotState := next } }) :=
    fun v hv => hv.trans (h.settled p v)
  refine (?_ : Triple p (· = w) _ (Settled { w with ctl := { w.ctl with pilotState := next } }))
    w rfl
  refine Triple.bind (Q := Settled { w with ctl := { w.ctl with pilotState := next } })
    (fun v hv => ?_) fun _ => ?_
  · subst hv
    exact Settled.refl _
  refine Triple.bind (calm (Calm.observe _)) fun _ => ?_
  refine Triple.bind (calm (Calm.note (by simp [Effect.switch?, toString_string]))) fun _ => ?_
  split
  · intro v hv
    have hav : v.ctl.machine.state.isActive = false := by rw [hv.2.1]; exact ha rfl
    rw [exec_ctl_bind, if_neg (by simp [hav])]
    exact calm publish_calm v hv
  · exact absurd rfl hf
  · exact calm publish_calm

/-! ## The band in the status follows the monitor -/

/-- Until shutdown, the controller records the band of its pilot monitor. -/
def BandSync (w : World) : Prop :=
  w.ctl.shutDown = false → ∀ m, w.ctl.pilot = some m → w.ctl.pilotState = m.state

namespace BandSync

theorem of_shut {w : World} (h : w.ctl.shutDown = true) : BandSync w :=
  fun hs => absurd (h.symm.trans hs) (by decide)

theorem of_kept {w w' : World} (h : BandSync w) (hk : BandKept w w') : BandSync w' :=
  fun hs m hm => hk.2.trans (h (hk.1.2.symm.trans hs) m (hk.1.1.symm.trans hm))

/-- A new controller records no band, as a monitor that has not started. -/
theorem new (settings : Settings) {pilot : Option Pilot.Monitor}
    (h : ∀ m, pilot = some m → m.state = .unknown) (publishing : Bool)
    (metrics : Option Metrics.Book) : BandSync ⟨Controller.new settings pilot publishing metrics, []⟩ :=
  fun _ m hm => (h m hm).symm

end BandSync

/-- An action that, on every plant, keeps the controller recording the band of its monitor until
shutdown. -/
abbrev KeepsSync {α : Type} (x : Act α) : Prop := Along (fun _ => True) (fun _ _ => BandSync) x

theorem KeepsBand.sync {α : Type} {x : Act α} (h : KeepsBand x) : KeepsSync x :=
  fun p _ _ w hw => hw.of_kept (h.kept p w)

/-- An operation of the monitor that reports each band change it makes, and no other, keeps the
controller recording the band of its monitor: before shutdown the changes lead the recorded band
to the new band of the monitor, and after it they are ignored. -/
theorem withPilot_sync {α : Type} (dflt : α)
    (op : Pilot.Monitor → Pilot.Monitor × List Pilot.Event × α)
    (hop : ∀ m, Pilot.changes (op m).2.1 = Pilot.moveChanges m.state (op m).1.state) :
    KeepsSync (withPilot dflt op) := by
  intro p _ _ w hw
  cases hm : w.ctl.pilot with
  | none =>
    rw [exec_withPilot_none dflt op hm]
    exact hw
  | some m =>
    rw [exec_withPilot_some dflt op hm]
    let w₁ : World := { w with ctl := { w.ctl with pilot := some (op m).1 } }
    cases hsd : w.ctl.shutDown with
    | true =>
      refine BandSync.of_shut ?_
      rw [pilotEvents_shut (w := w₁) _ hsd]
      exact hsd
    | false =>
      have hl : Pilot.Leads w₁.ctl.pilotState (Pilot.changes (op m).2.1) (op m).1.state := by
        rw [hop, show w₁.ctl.pilotState = m.state from hw hsd m hm]
        exact Pilot.leads_moveChanges _ _
      obtain ⟨⟨hpilot, -⟩, hband⟩ := pilotEvents_records (w := w₁) hsd hl p
      intro _ m' hm'
      have hm'' : some m' = some (op m).1 := hm'.symm.trans hpilot
      rw [hband, Option.some.inj hm'']

/-! ## Every input -/

theorem startUp_sync : KeepsSync startUp := by
  unfold startUp
  refine Along.ctl.bind fun c => ?_
  refine Along.bind (KeepsBand.note _ _).sync fun _ => ?_
  refine Along.bind (setRelay_keepsBand _).sync fun r => ?_
  split
  · exact Along.pure _
  · refine Along.read.bind fun q => ?_
    refine Along.bind (KeepsBand.modifyCtl fun _ => ⟨rfl, rfl, rfl⟩).sync fun _ => ?_
    refine Along.bind (KeepsBand.of_calm refreshLeds_calm).sync fun _ => ?_
    refine Along.read.bind fun q => ?_
    refine Along.bind (KeepsBand.emit _).sync fun _ => ?_
    split
    · exact Along.pure _
    · refine Along.bind (withPilot_sync _ _ fun m => Pilot.Monitor.call_changes m .start)
        fun r => ?_
      split
      · exact Along.pure _
      · exact Along.bind (KeepsBand.note _ _).sync fun _ => Along.pure _

theorem pilotStart_sync : KeepsSync pilotStart := by
  unfold pilotStart
  refine Along.bind (withPilot_sync _ _ fun m => Pilot.Monitor.call_changes m .start) fun r => ?_
  split <;> exact Along.pure _

theorem handleMessage_sync (bytes : List UInt8) : KeepsSync (handleMessage bytes) := by
  cases hb : PilotState.isMessage bytes with
  | false => exact (envelope_keepsBand hb).sync
  | true =>
    unfold handleMessage
    rw [if_pos hb]
    have ignored (text : String) : KeepsSync (do note .debug text; pure (.ok ()) : Act Outcome) :=
      Along.bind (KeepsBand.note _ _).sync fun _ => Along.pure _
    refine Along.ctl.bind fun c => ?_
    dsimp only
    split
    · refine Along.ite (fun _ => ?_) fun _ => ignored _
      exact Along.bind (withPilot_sync _ _ fun m => Pilot.Monitor.call_changes m (.message bytes))
        fun _ => Along.pure _
    · exact ignored _

/-- Shutting down ends the span in which the band is followed. -/
theorem shutdown_sync : KeepsSync shutdown := by
  intro p _ _ w hw
  cases hsd : w.ctl.shutDown with
  | true =>
    unfold shutdown
    rw [exec_ctl_bind, if_pos hsd]
    exact hw
  | false => exact BandSync.of_shut (shutdown_opens p hsd).1

theorem run_sync (stop : RunEnd) : KeepsSync (run stop) := by
  unfold run
  refine Along.ctl.bind fun c => Along.ite (fun _ => Along.pure _) fun _ => ?_
  refine Along.bind tick_keepsBand.sync fun r => ?_
  dsimp only
  cases stop with
  | cancel =>
    split
    · exact Along.bind (KeepsBand.note _ _).sync fun _ => Along.pure _
    · exact Along.pure _
  | shutdown =>
    have last : KeepsSync (do shutdown; pure (.ok ()) : Act Outcome) :=
      Along.bind shutdown_sync fun _ => Along.pure _
    split
    · exact Along.bind (KeepsBand.note _ _).sync fun _ => last
    · exact last

/-- Every input keeps the controller recording the band of its monitor until shutdown. -/
theorem Input.act_sync (i : Input) : KeepsSync i.act := by
  cases i with
  | startUp => exact startUp_sync
  | startCharging => exact startCharging_keepsBand.sync
  | stopCharging => exact stopCharging_keepsBand.sync
  | pauseCharging => exact pauseCharging_keepsBand.sync
  | resumeCharging => exact resumeCharging_keepsBand.sync
  | reset => exact reset_keepsBand.sync
  | enable => exact Along.bind (turnSwitch_keepsBand _ _).sync fun _ => Along.pure _
  | disable => exact Along.bind (disableSessions_keepsBand _).sync fun _ => Along.pure _
  | relay on => exact (switchRelay_keepsBand on).sync
  | command text => exact (command_keepsBand text).sync
  | button channel pressed => exact (button_keepsBand channel pressed).sync
  | tick => exact tick_keepsBand.sync
  | message bytes => exact handleMessage_sync bytes
  | pilotStart => exact pilotStart_sync
  | pilotStop =>
    exact Along.bind (withPilot_sync _ _ fun m => Pilot.Monitor.call_changes m .stop) fun _ =>
      Along.pure _
  | pilotSample probe reading =>
    exact Along.bind (withPilot_sync _ _ fun m => Pilot.Monitor.offer_changes m probe reading)
      fun _ => Along.pure _
  | shutdown => exact Along.bind shutdown_sync fun _ => Along.pure _
  | run stop => exact run_sync stop

/-- A run of inputs keeps the controller recording the band of its monitor until shutdown. -/
theorem BandSync.after {w : World} (h : BandSync w) (run : List (Plant × Input)) :
    BandSync (w.after run) := by
  induction run generalizing w with
  | nil => exact h
  | cons step rest ih =>
    obtain ⟨p, i⟩ := step
    exact ih (Input.act_sync i p trivial w w h)

/-! ## The band a controller shows -/

/-- Until shutdown the status shows the band of the pilot monitor after every run, and each band
change does what its band asks for. -/
theorem status_pilot_follows_monitor :
    (∀ (settings : Settings) (source : Pilot.Source) (publishing : Bool)
        (metrics : Option Metrics.Book) (run : List (Plant × Input)),
      let w := World.after ⟨Controller.new settings (some (.new source)) publishing metrics, []⟩ run
      w.ctl.shutDown = false → ∀ m, w.ctl.pilot = some m →
        ∀ now, (w.ctl.status now).pilot = m.state.ordinal) ∧
    ∀ (old next : PilotState) (p : Plant) (w : World),
      let w' := (exec (pilotChanged old next) p w).2
      (w.ctl.shutDown = true → w' = w) ∧
      (w.ctl.shutDown = false →
        w'.ctl.pilotState = next ∧ MonitorKept w w' ∧ Synced p.now w w' ∧
        (next = .a → p.Agreeable →
          (w.ctl.machine.state = ready ∨ w.ctl.machine.state = charging) →
          (∃ ok, Effect.write Hardware.relay false ok ∈ w'.trace.drop w.trace.length) ∧
          w'.ctl.machine.state = idle) ∧
        (next = .f → w'.ctl.hasFault .pilot = true ∧
          (∃ ok, Effect.write Hardware.relay false ok ∈ w'.trace.drop w.trace.length) ∧
          (p.Agreeable → w'.ctl.machine.state = error)) ∧
        (next ≠ .f → (next = .a → w.ctl.machine.state ≠ ready ∧ w.ctl.machine.state ≠ charging) →
          Settled { w with ctl := { w.ctl with pilotState := next } } w')) := by
  refine ⟨fun settings source publishing metrics run hs m hm now => ?_, fun old next p w => ?_⟩
  · have hnew : BandSync ⟨Controller.new settings (some (.new source)) publishing metrics, []⟩ :=
      BandSync.new settings (fun m hm => by rw [← Option.some.inj hm]; rfl) publishing metrics
    exact congrArg PilotState.ordinal (hnew.after run hs m hm)
  refine ⟨fun hsd => congrArg Prod.snd (exec_pilotChanged_shut old next p hsd), fun hsd => ?_⟩
  have hr := pilotChanged_records hsd old next p
  refine ⟨hr.2, hr.1, pilotChanged_synced hsd old next p, ?_, ?_, ?_⟩
  · rintro rfl hp hs
    have hu := pilotChanged_unplugged old hp hsd (isActive_iff.mpr hs.symm)
    exact ⟨hu.1.written, hu.2⟩
  · rintro rfl
    exact ⟨pilotChanged_fault_present old p hsd, pilotChanged_fault_opens old p hsd⟩
  · intro hf ha
    refine pilotChanged_records_only old hf p hsd fun hna => Bool.eq_false_iff.mpr fun h => ?_
    exact (isActive_iff.mp h).elim (ha hna).2 (ha hna).1

/-- A started controller with a remote monitor, sent band C, shows band C. -/
theorem status_pilot_follows_remote_band :
    let w := World.after
      ⟨Controller.new ⟨2000000000, 16, true⟩ (some (.new .remote)) true none, []⟩
      [(Plant.ideal ⟨0, 0⟩, .startUp), (Plant.ideal ⟨0, 0⟩, .message [PilotState.messageTag, 2])]
    w.ctl.shutDown = false ∧ (∃ m, w.ctl.pilot = some m ∧ m.state = .c) ∧
      (w.ctl.status ⟨0, 0⟩).pilot = PilotState.c.ordinal := by
  intro w
  have hs : w.ctl.shutDown = false := by decide
  obtain ⟨m, hm, hc⟩ : ∃ m, w.ctl.pilot = some m ∧ m.state = .c := ⟨_, rfl, by decide⟩
  refine ⟨hs, ⟨m, hm, hc⟩, ?_⟩
  rw [← hc]
  exact status_pilot_follows_monitor.1 _ _ _ _ _ hs m hm _

end Evse.Control
