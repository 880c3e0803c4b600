import Evse.Proofs.Control.PeerArming
import Evse.Proofs.Control.FaultLatch
import Evse.Proofs.Control.ErrorLatch
import Evse.Proofs.Control.Refusals
/-!
A datagram taken twice: the second time only counts.
-/
namespace Evse

namespace Pilot.Monitor

/-- A monitor that a pilot message leaves as it is, reporting notes only. -/
def Holds (m : Monitor) (bytes : List UInt8) : Prop :=
  (m.handle bytes).1 = m ∧ ∀ e ∈ (m.handle bytes).2.1, ∃ severity text, e = .note severity text

theorem update_state (m : Monitor) (s : PilotState) :
    (m.update s).1.state = s ∧ (m.update s).1.running = m.running := by
  unfold update
  split <;> simp_all

/-- A pilot message to a monitor that already has the band it names leaves the monitor as it is
and reports no change, only notes. -/
theorem handle_at_band {m : Monitor} {bytes : List UInt8}
    (hs : m.state = PilotState.ofOrdinal (bytes.getD 1 0)) : m.Holds bytes := by
  unfold Holds handle
  split
  · simp
  split
  · simp
  have hu : m.update (PilotState.ofOrdinal (bytes.getD 1 0)) = (m, []) := by simp [update, hs]
  dsimp only
  rw [hu]
  refine ⟨rfl, fun e he => ?_⟩
  simp only [List.isEmpty_nil, if_true, List.append_nil] at he
  split at he
  · simp at he
  · exact ⟨_, _, List.mem_singleton.mp he⟩

/-- A pilot message taken a second time leaves the monitor as the first time left it and reports
no change, only notes. -/
theorem handle_twice (m : Monitor) (bytes : List UInt8) : (m.handle bytes).1.Holds bytes := by
  by_cases hmsg : PilotState.isMessage bytes = true
  · by_cases hr : m.running = true
    · have hfirst : (m.handle bytes).1 = (m.update (PilotState.ofOrdinal (bytes.getD 1 0))).1 := by
        simp only [handle, hmsg, hr, Bool.not_true]
        rfl
      rw [hfirst]
      exact handle_at_band (update_state m _).1
    · simp [Holds, handle, hmsg, hr]
  · simp [Holds, handle, hmsg]

end Pilot.Monitor

namespace Metrics.Book

/-- A book after one more count on each series of `bumps`, in order. -/
def bumpAll (b : Book) (bumps : List (Family × List String)) : Book :=
  bumps.foldl (fun k s => k.bump s.1 s.2) b

@[simp] theorem bumpAll_nil (b : Book) : b.bumpAll [] = b := rfl

theorem bumpAll_append (b : Book) (xs ys : List (Family × List String)) :
    b.bumpAll (xs ++ ys) = (b.bumpAll xs).bumpAll ys :=
  List.foldl_append

end Metrics.Book

namespace Control

open ChargingState

/-! ## Counting only -/

/-- A controller with its counts forgotten: no books and no logged malformed datagrams. -/
def Controller.uncounted (c : Controller) : Controller :=
  { c with metrics := none, decodeNotes := 0 }

/-- `w'` follows `w` by counting only: the controller is that of `w` but for its counts, its books
count one more on series of received messages and decode errors only, its count of logged
malformed datagrams does not fall, and the trace grew by notes only. -/
structure Recounted (w w' : World) : Prop where
  ctl : w'.ctl.uncounted = w.ctl.uncounted
  counted : ∃ bumps : List (Metrics.Family × List String),
    (∀ b ∈ bumps, b.1 = .received ∨ b.1 = .decodeErrors) ∧
      w'.ctl.metrics = w.ctl.metrics.map (·.bumpAll bumps)
  logged : w.ctl.decodeNotes ≤ w'.ctl.decodeNotes
  notes : ∃ seg, w'.trace = w.trace ++ seg ∧ ∀ e ∈ seg, e.isNote = true

namespace Recounted

variable {w w' w₁ w₂ w₃ : World}

theorem of_unmoved (h : Unmoved w w') : Recounted w w' := by
  obtain ⟨hc, seg, ht, hn⟩ := h
  exact ⟨by rw [hc], ⟨[], by simp, by simp [hc]⟩, by rw [hc], seg, ht, hn⟩

theorem refl (w : World) : Recounted w w := of_unmoved (Unmoved.refl w)

/-- Counting keeps the controller's core. -/
theorem core (h : Recounted w w') : w'.ctl.core = w.ctl.core := by
  have hc := congrArg Controller.core h.ctl
  exact hc

theorem trans (h₁ : Recounted w₁ w₂) (h₂ : Recounted w₂ w₃) : Recounted w₁ w₃ := by
  obtain ⟨b₁, hb₁, hm₁⟩ := h₁.counted
  obtain ⟨b₂, hb₂, hm₂⟩ := h₂.counted
  obtain ⟨s₁, ht₁, hs₁⟩ := h₁.notes
  obtain ⟨s₂, ht₂, hs₂⟩ := h₂.notes
  refine ⟨h₂.ctl.trans h₁.ctl, ⟨b₁ ++ b₂, fun b hb => ?_, ?_⟩, h₁.logged.trans h₂.logged,
    s₁ ++ s₂, by rw [ht₂, ht₁, List.append_assoc], fun e he => ?_⟩
  · rcases List.mem_append.mp hb with hb | hb
    · exact hb₁ b hb
    · exact hb₂ b hb
  · rw [hm₂, hm₁, Option.map_map]
    simp [Function.comp_def, Metrics.Book.bumpAll_append]
  · rcases List.mem_append.mp he with he | he
    · exact hs₁ e he
    · exact hs₂ e he

/-- One more count on series of received messages and decode errors. -/
theorem count (w : World) (bumps : List (Metrics.Family × List String))
    (hb : ∀ b ∈ bumps, b.1 = .received ∨ b.1 = .decodeErrors) :
    Recounted w { w with ctl := { w.ctl with metrics := w.ctl.metrics.map (·.bumpAll bumps) } } :=
  ⟨rfl, ⟨bumps, hb, rfl⟩, le_rfl, [], by simp, by simp⟩

/-- One more malformed datagram logged. -/
theorem log (w : World) (text : String) :
    Recounted w ⟨{ w.ctl with decodeNotes := w.ctl.decodeNotes + 1 },
      w.trace ++ [.note .warn "Controller" text]⟩ :=
  ⟨rfl, ⟨[], by simp, by simp⟩, Nat.le_succ _, [_], rfl, by simp [Effect.isNote]⟩

end Recounted

theorem noteMalformed_recounted (text : String) (p : Plant) (w : World) :
    Recounted w (exec (noteMalformed text) p w).2 := by
  unfold noteMalformed
  rw [exec_ctl_bind]
  split
  · exact Recounted.log w text
  · exact Recounted.refl w

theorem peerState_recounted (code : UInt8) (last : ChargingState) (p : Plant) (w : World) :
    Recounted w (exec (peerState code last) p w).2 := by
  unfold peerState
  split
  · exact Recounted.refl w
  · simp only [exec_bind, exec_observe]
    exact (Recounted.count w [(.decodeErrors, ["invalid state"])] (by simp)).trans
      (noteMalformed_recounted _ p _)

/-! ## An envelope keeps the monitor and the shutdown flag -/

namespace KeepsMonitor

theorem note (severity : Log.Severity) (text : String) : KeepsMonitor (Control.note severity text) :=
  of_kept fun _ _ => MonitorKept.refl _

theorem modifyCtl {f : Controller → Controller}
    (h : ∀ c, (f c).pilot = c.pilot ∧ (f c).shutDown = c.shutDown) :
    KeepsMonitor (Control.modifyCtl f) :=
  of_kept fun _ w => h w.ctl

theorem of_recounted {α : Type} {x : Act α} (h : ∀ p w, Recounted w (exec x p w).2) :
    KeepsMonitor x :=
  of_kept fun p w => .of_core (h p w).core ⟨rfl, rfl⟩

end KeepsMonitor

theorem turnSwitch_keepsMonitor (v : Bool) (text : String) : KeepsMonitor (turnSwitch v text) := by
  unfold turnSwitch
  refine Along.bind (KeepsMonitor.modifyCtl fun _ => ⟨rfl, rfl⟩) fun _ => ?_
  refine Along.bind (KeepsMonitor.of_calm (Calm.observe _)) fun _ => ?_
  exact Along.bind (KeepsMonitor.note _ _) fun _ => KeepsMonitor.of_calm refreshLeds_calm

theorem disableSessions_keepsMonitor (source : String) :
    KeepsMonitor (disableSessions source) := by
  unfold disableSessions
  refine Along.ctl.bind fun c => ?_
  dsimp only
  have tail := turnSwitch_keepsMonitor false s!"Session disabled by {source}"
  refine Along.ite (fun _ => ?_) fun _ => tail
  refine Along.bind (KeepsMonitor.note _ _) fun _ => ?_
  refine Along.bind (stopSession_keepsMonitor _) fun r => ?_
  exact Along.bind (KeepsMonitor.of_calm (noteFailure_calm (by decide) _ r)) fun _ => tail

theorem returnToIdle_keepsMonitor (reason : String) : KeepsMonitor (returnToIdle reason) := by
  unfold returnToIdle
  refine Along.ctl.bind fun c => ?_
  have last (r : Outcome) : KeepsMonitor (noteFailure .error "Failed to return to idle" r) :=
    KeepsMonitor.of_calm (noteFailure_calm (by decide) _ r)
  dsimp only
  split
  · exact Along.bind (Along.pure _) last
  · exact Along.bind (request_keepsMonitor _ _) last
  · exact Along.bind (request_keepsMonitor _ _) last
  · refine Along.bind (request_keepsMonitor _ _) fun r => ?_
    split
    · exact Along.bind (request_keepsMonitor _ _) last
    · exact Along.bind (Along.pure _) last
  · exact Along.bind (KeepsMonitor.note _ _) fun _ => Along.bind (Along.pure _) last
  · exact Along.bind (request_keepsMonitor _ _) last

theorem applyIntent_keepsMonitor (intent : ChargingState) : KeepsMonitor (applyIntent intent) := by
  unfold applyIntent
  refine Along.ctl.bind fun c => ?_
  refine Along.bind (KeepsMonitor.modifyCtl fun _ => ⟨rfl, rfl⟩) fun _ => ?_
  have rejected (intent : ChargingState) (why : String) : KeepsMonitor (rejectPeer intent why) :=
    KeepsMonitor.of_calm (rejectPeer_calm _ _)
  have started (r : Outcome) : KeepsMonitor (noteFailure .error "Failed to start charging for peer" r) :=
    KeepsMonitor.of_calm (noteFailure_calm (by decide) _ r)
  split
  · exact returnToIdle_keepsMonitor _
  · refine Along.ite (fun _ => rejected _ _) fun _ => Along.ite (fun _ => rejected _ _) fun _ => ?_
    exact Along.bind (KeepsMonitor.modifyCtl fun _ => ⟨rfl, rfl⟩) fun _ => KeepsMonitor.note _ _
  · refine Along.ite (fun _ => Along.pure _) fun _ => Along.ite (fun _ => rejected _ _) fun _ => ?_
    refine Along.ite (fun _ => rejected _ _) fun _ => Along.ite (fun _ => rejected _ _) fun _ => ?_
    exact Along.bind (request_keepsMonitor _ _) started
  · refine Along.ite (fun _ => ?_) fun _ => Along.pure _
    exact Along.bind (request_keepsMonitor _ _) fun r =>
      KeepsMonitor.of_calm (noteFailure_calm (by decide) _ r)
  · exact KeepsMonitor.note _ _

theorem applyContactor_keepsMonitor (on : Bool) : KeepsMonitor (applyContactor on) := by
  unfold applyContactor
  refine Along.ctl.bind fun c => ?_
  refine Along.ite (fun _ => KeepsMonitor.note _ _) fun _ => ?_
  refine Along.ite (fun _ => ?_) fun _ => Along.pure _
  exact Along.bind (setRelay_keepsMonitor on) fun r =>
    KeepsMonitor.of_calm (noteFailure_calm (by decide) _ r)

theorem applyPeer_keepsMonitor (s : Wire.StateReport) (h : Wire.Hardware) :
    KeepsMonitor (applyPeer s h) := by
  unfold applyPeer followEnable followIntent followContactor
  refine Along.ctl.bind fun c => ?_
  refine Along.bind (KeepsMonitor.of_recounted (peerState_recounted _ _)) fun st => ?_
  refine Along.bind ?_ fun _ => ?_
  · refine Along.ite (fun _ => ?_) fun _ => Along.pure _
    refine Along.bind (KeepsMonitor.note _ _) fun _ => Along.ctl.bind fun c => ?_
    exact Along.ite (fun _ => turnSwitch_keepsMonitor _ _) fun _ =>
      Along.ite (fun _ => disableSessions_keepsMonitor _) fun _ => Along.pure _
  refine Along.bind ?_ fun _ => ?_
  · refine Along.ite (fun _ => ?_) fun _ => Along.pure _
    exact Along.bind (KeepsMonitor.note _ _) fun _ => applyIntent_keepsMonitor _
  refine Along.bind ?_ fun _ => ?_
  · refine Along.ite (fun _ => ?_) fun _ => Along.pure _
    exact Along.bind (KeepsMonitor.note _ _) fun _ => applyContactor_keepsMonitor _
  exact Along.bind (KeepsMonitor.modifyCtl fun _ => ⟨rfl, rfl⟩) fun _ => Along.pure _

/-! ## A state envelope -/

/-- The view of the peer an envelope with state report `s` and flags `h` makes of the view `v`:
the flags as sent, and the state the byte names, or the state of `v` when it names none. -/
def PeerView.heard (v : PeerView) (s : Wire.StateReport) (h : Wire.Hardware) : PeerView :=
  ⟨h.sourceEnable, (ChargingState.ofCode? s.state).getD v.state, h.mainContactor⟩

/-- An envelope brings nothing new to the view it made: an invalid state byte stands for the state
it stood for before. -/
theorem PeerView.heard_heard (v : PeerView) (s : Wire.StateReport) (h : Wire.Hardware) :
    (v.heard s h).heard s h = v.heard s h := by
  cases hc : ChargingState.ofCode? s.state <;> simp [PeerView.heard, hc]

theorem applyPeer_peer (s : Wire.StateReport) (h : Wire.Hardware) (p : Plant) (w : World) :
    (exec (applyPeer s h) p w).2.ctl.peer = w.ctl.peer.heard s h := by
  rw [PeerView.heard, ← peerState_value s.state w.ctl.peer.state p w]
  rfl

theorem exec_followEnable_same (b : Bool) (p : Plant) (w : World) :
    exec (followEnable b b) p w = ((), w) := by
  unfold followEnable
  rw [if_neg (by simp)]
  rfl

theorem exec_followContactor_same (b : Bool) (p : Plant) (w : World) :
    exec (followContactor b b) p w = ((), w) := by
  unfold followContactor
  rw [if_neg (by simp)]
  rfl

/-- An envelope that brings nothing new to the view of the peer only counts, and answers that
nothing changed. -/
theorem applyPeer_again {s : Wire.StateReport} {h : Wire.Hardware} {w : World}
    (hv : w.ctl.peer.heard s h = w.ctl.peer) (p : Plant) :
    (exec (applyPeer s h) p w).1 = false ∧ Recounted w (exec (applyPeer s h) p w).2 := by
  have hst : (exec (peerState s.state w.ctl.peer.state) p w).1 = w.ctl.peer.state := by
    rw [peerState_value]
    exact congrArg PeerView.state hv
  have hr := peerState_recounted s.state w.ctl.peer.state p w
  have he : h.sourceEnable = w.ctl.peer.enable := congrArg PeerView.enable hv
  have hc : h.mainContactor = w.ctl.peer.contactor := congrArg PeerView.contactor hv
  unfold applyPeer
  rw [exec_ctl_bind, exec_bind]
  generalize exec (peerState s.state w.ctl.peer.state) p w = r at hst hr
  obtain ⟨st, w₁⟩ := r
  dsimp only at hst hr ⊢
  subst hst
  simp only [exec_bind, he, hc, exec_followEnable_same, exec_followIntent_same,
    exec_followContactor_same, exec_modifyCtl, exec_pure]
  have hp : w₁.ctl.peer = w.ctl.peer := congrArg Core.peer hr.core
  refine ⟨by simp, ?_⟩
  rw [← hp]
  exact hr

theorem Controller.report_same {c : Controller} {f : Fault} {present : Bool}
    (h : c.hasFault f = present) : c.report f present = c := by
  simp [Controller.report, Controller.reported, h]

theorem reportEffects_same (p : Plant) {c : Controller} {f : Fault} {present : Bool}
    (h : c.hasFault f = present) : reportEffects p c f present = [] := by
  simp [reportEffects, h]

/-- Hearing the peer again at the time it was last heard, with no peer timeout present, only
counts the message. -/
theorem peerHeard_again {p : Plant} {w : World} (hr : w.ctl.lastRx = some p.now)
    (hf : w.ctl.hasFault .peerTimeout = false) : Recounted w (exec peerHeard p w).2 := by
  rw [exec_peerHeard, reportEffects_same p hf, List.append_nil, Controller.report_same
    (c := { w.ctl with lastRx := some p.now, metrics := w.ctl.metrics.map (·.receivedOne) }) hf,
    ← hr]
  exact Recounted.count w [(.received, [])] (by simp)

/-- A state envelope to a running controller that was heard at this time with no peer timeout, and
whose view of the peer the envelope already made, only counts, and answers success. -/
theorem envelope_again {bytes : List UInt8} {s : Wire.StateReport} {h : Wire.Hardware}
    (hd : Wire.Message.decode bytes = .ok (.stateEnvelope s h)) {p : Plant} {w : World}
    (hsd : w.ctl.shutDown = false) (hr : w.ctl.lastRx = some p.now)
    (hf : w.ctl.hasFault .peerTimeout = false) (hv : w.ctl.peer.heard s h = w.ctl.peer) :
    (exec (handleMessage bytes) p w).1 = .ok () ∧ Recounted w (exec (handleMessage bytes) p w).2 := by
  have hm := Wire.Message.decode_stateEnvelope_isMessage hd
  unfold handleMessage
  rw [if_neg (by rw [hm]; decide)]
  simp only [hd]
  rw [exec_ctl_bind, if_neg (by rw [hsd]; decide), exec_bind, exec_bind]
  have hv₁ : (exec peerHeard p w).2.ctl.peer.heard s h = (exec peerHeard p w).2.ctl.peer := by
    rw [exec_peerHeard]
    exact hv
  obtain ⟨hchanged, hpeer⟩ := applyPeer_again hv₁ p
  rw [hchanged]
  exact ⟨rfl, (peerHeard_again hr hf).trans hpeer⟩

/-- A state envelope to a running controller leaves it running, heard now with no peer timeout
present, and with the view of the peer the envelope makes. -/
theorem envelope_leaves {bytes : List UInt8} {s : Wire.StateReport} {h : Wire.Hardware}
    (hd : Wire.Message.decode bytes = .ok (.stateEnvelope s h)) (p : Plant) {w : World}
    (hsd : w.ctl.shutDown = false) :
    (exec (handleMessage bytes) p w).2.ctl.shutDown = false ∧
      (exec (handleMessage bytes) p w).2.ctl.lastRx = some p.now ∧
      (exec (handleMessage bytes) p w).2.ctl.hasFault .peerTimeout = false ∧
      (exec (handleMessage bytes) p w).2.ctl.peer = w.ctl.peer.heard s h := by
  have hs := handleMessage_envelope_settled hd p hsd
  obtain ⟨-, hrx, seg, -, hl⟩ :=
    (handleMessage_heard (Controller.takesEnvelope_iff.mpr ⟨hsd, s, h, hd⟩) p).1
  have hk := (applyPeer_keepsMonitor s h).kept p (exec peerHeard p w).2
  have hh := exec_peerHeard p w
  have hcleared : (exec peerHeard p w).2.ctl.hasFault .peerTimeout = false := by
    rw [hh, Controller.hasFault_report, if_pos rfl]
  refine ⟨(congrArg Core.shutDown hs.1).trans (hk.2.trans (by rw [hh]; exact hsd)),
    hrx.trans (by rw [hh]; rfl), ?_, ?_⟩
  · cases hq : (exec (handleMessage bytes) p w).2.ctl.hasFault .peerTimeout with
    | false => rfl
    | true => exact absurd (hl.raised .peerTimeout (by decide) hcleared hq) List.not_mem_nil
  · exact (congrArg Core.peer hs.1).trans ((applyPeer_peer s h p _).trans (by rw [hh]; rfl))

/-- A state envelope to a controller shut down is refused and changes nothing. -/
theorem envelope_shut {bytes : List UInt8} {s : Wire.StateReport} {h : Wire.Hardware}
    (hd : Wire.Message.decode bytes = .ok (.stateEnvelope s h)) (p : Plant) {w : World}
    (hsd : w.ctl.shutDown = true) : exec (handleMessage bytes) p w = (.error .shutDown, w) := by
  have hm := Wire.Message.decode_stateEnvelope_isMessage hd
  unfold handleMessage
  rw [if_neg (by rw [hm]; decide)]
  simp only [hd]
  rw [exec_ctl_bind, if_pos hsd]
  rfl

/-! ## Other datagrams -/

/-- Playing events that are notes only writes them. -/
theorem pilotEvents_notes {evs : List Pilot.Event}
    (h : ∀ e ∈ evs, ∃ severity text, e = .note severity text) (p : Plant) (w : World) :
    Unmoved w (exec (pilotEvents evs) p w).2 := by
  induction evs generalizing w with
  | nil => exact Unmoved.refl w
  | cons e rest ih =>
    obtain ⟨severity, text, rfl⟩ := h e (List.mem_cons_self ..)
    show Unmoved w (exec (emit _ >>= fun _ => pilotEvents rest) p w).2
    rw [exec_bind, exec_emit]
    exact (Unmoved.note w _ _ _).trans (ih (fun e he => h e (List.mem_cons_of_mem _ he)) _)

/-- A pilot message answers success, and leaves every remote monitor the controller has as one
that the message leaves as it is. -/
theorem pilotMessage_holds {bytes : List UInt8} (hm : PilotState.isMessage bytes = true)
    (p : Plant) (w : World) :
    (exec (handleMessage bytes) p w).1 = .ok () ∧
      ∀ m, (exec (handleMessage bytes) p w).2.ctl.pilot = some m → m.isRemote = true →
        m.Holds bytes := by
  unfold handleMessage
  rw [if_pos hm, exec_ctl_bind]
  refine ⟨by split <;> (try split) <;> rfl, fun m hpm hr => ?_⟩
  split at hpm
  · next m₀ h₀ =>
    split at hpm
    · rw [exec_bind, exec_withPilot_some false _ h₀] at hpm
      have hk := (pilotEvents_keepsMonitor (m₀.handle bytes).2.1).kept p
        { w with ctl := { w.ctl with pilot := some (m₀.handle bytes).1 } }
      cases Option.some.inj (hpm.symm.trans hk.1)
      exact Pilot.Monitor.handle_twice m₀ bytes
    · next hr₀ =>
      cases Option.some.inj (hpm.symm.trans h₀)
      exact absurd hr hr₀
  · next h₀ => exact absurd (hpm.symm.trans h₀) (by simp)

/-- A pilot message to a controller whose remote monitor, if any, the message leaves as it is
only writes notes, and answers success. -/
theorem pilotMessage_again {bytes : List UInt8} (hm : PilotState.isMessage bytes = true)
    {w : World} (hw : ∀ m, w.ctl.pilot = some m → m.isRemote = true → m.Holds bytes)
    (p : Plant) :
    (exec (handleMessage bytes) p w).1 = .ok () ∧ Unmoved w (exec (handleMessage bytes) p w).2 := by
  unfold handleMessage
  rw [if_pos hm, exec_ctl_bind]
  split
  · next m h₀ =>
    split
    · next hr =>
      obtain ⟨hsame, hnotes⟩ := hw m h₀ hr
      rw [exec_bind, exec_withPilot_some false _ h₀]
      refine ⟨rfl, ?_⟩
      have hw' : { w with ctl := { w.ctl with pilot := some (m.handle bytes).1 } } = w := by
        rw [hsame, ← h₀]
      rw [hw']
      exact pilotEvents_notes hnotes p w
    · exact ⟨rfl, Unmoved.note w _ _ _⟩
  · exact ⟨rfl, Unmoved.note w _ _ _⟩

/-- A malformed datagram answers its decode error and only counts and logs it. -/
theorem malformed_recounted {bytes : List UInt8} {e : Wire.DecodeError}
    (hm : PilotState.isMessage bytes = false) (hd : Wire.Message.decode bytes = .error e)
    (p : Plant) (w : World) :
    (exec (handleMessage bytes) p w).1 = .error (.decode e) ∧
      Recounted w (exec (handleMessage bytes) p w).2 := by
  unfold handleMessage
  rw [if_neg (by simp [hm])]
  simp only [hd, exec_bind, exec_observe]
  exact ⟨rfl, (Recounted.count w [(.decodeErrors, [_])] (by simp)).trans
    (noteMalformed_recounted _ p _)⟩

/-- A datagram that decodes to anything but a state envelope answers success and only writes a
note. -/
theorem ignored_unmoved {bytes : List UInt8} {msg : Wire.Message}
    (hm : PilotState.isMessage bytes = false) (hd : Wire.Message.decode bytes = .ok msg)
    (hne : ∀ s h, msg ≠ .stateEnvelope s h) (p : Plant) (w : World) :
    (exec (handleMessage bytes) p w).1 = .ok () ∧ Unmoved w (exec (handleMessage bytes) p w).2 := by
  unfold handleMessage
  rw [if_neg (by simp [hm])]
  simp only [hd]
  exact ⟨rfl, Unmoved.note w _ _ _⟩

/-! ## A datagram taken twice -/

/-- A datagram taken twice in a row answers the same, and the second time only counts and notes. -/
theorem datagram_repeated_counts_only (p : Plant) (w : World) (bytes : List UInt8) :
    let w₁ := (step p w (.message bytes)).1
    (step p w₁ (.message bytes)).2 = (step p w (.message bytes)).2 ∧
      Recounted w₁ (step p w₁ (.message bytes)).1 := by
  show (exec (handleMessage bytes) p (exec (handleMessage bytes) p w).2).1 =
      (exec (handleMessage bytes) p w).1 ∧
    Recounted (exec (handleMessage bytes) p w).2
      (exec (handleMessage bytes) p (exec (handleMessage bytes) p w).2).2
  cases hm : PilotState.isMessage bytes with
  | true =>
    -- the first message leaves the monitor at its band, so the second only writes notes
    obtain ⟨h₁, hholds⟩ := pilotMessage_holds hm p w
    obtain ⟨h₂, hu⟩ := pilotMessage_again hm hholds p
    exact ⟨h₂.trans h₁.symm, .of_unmoved hu⟩
  | false =>
    rcases hd : Wire.Message.decode bytes with e | msg
    · obtain ⟨h₁, -⟩ := malformed_recounted hm hd p w
      obtain ⟨h₂, hr⟩ := malformed_recounted hm hd p (exec (handleMessage bytes) p w).2
      exact ⟨h₂.trans h₁.symm, hr⟩
    by_cases he : ∃ s h, msg = .stateEnvelope s h
    · obtain ⟨s, h, rfl⟩ := he
      cases hsd : w.ctl.shutDown with
      | true =>
        simp only [envelope_shut hd p hsd]
        exact ⟨trivial, Recounted.refl w⟩
      | false =>
        obtain ⟨hsd₁, hr₁, hf₁, hv₁⟩ := envelope_leaves hd p hsd
        obtain ⟨h₂, hr⟩ := envelope_again hd hsd₁ hr₁ hf₁
          (by rw [hv₁]; exact PeerView.heard_heard w.ctl.peer s h)
        have h₁ := (handleMessage_heard (Controller.takesEnvelope_iff.mpr ⟨hsd, s, h, hd⟩) p).2
        exact ⟨h₂.trans h₁.symm, hr⟩
    · have hne : ∀ s h, msg ≠ .stateEnvelope s h := fun s h hm => he ⟨s, h, hm⟩
      obtain ⟨h₁, -⟩ := ignored_unmoved hm hd hne p w
      obtain ⟨h₂, hu⟩ := ignored_unmoved hm hd hne p (exec (handleMessage bytes) p w).2
      exact ⟨h₂.trans h₁.symm, .of_unmoved hu⟩

end Control

end Evse
