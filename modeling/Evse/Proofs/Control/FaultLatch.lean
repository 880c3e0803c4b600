import Evse.Proofs.Control.BookActions
import Mathlib.Data.List.Nodup
/-!
The fault latches across every input.
-/
namespace Evse.Control

open ChargingState

/-! ## Starting up -/

/-- A start writes the relay open and, once that write succeeds, stamps the last reception; it
raises no fault but those the band changes of the starting monitor raise. -/
theorem startUp_moved (p : Plant) (w : World) :
    Moved (monitorFaults (fun m => m.start.2.1) w.ctl) w (exec startUp p w).2 ∧
      (exec startUp p w).2.ctl.lastRx =
        if (p.writeFault Hardware.relay false 0).isNone then some p.now else w.ctl.lastRx := by
  let w₁ : World := ⟨w.ctl, w.trace ++ [.note .info "Controller"
    s!"Starting session controller (enabled={w.ctl.sessionEnabled})"]⟩
  have hb : Booked [] w (exec (setRelay false) p w₁).2 :=
    (Booked.of_kept (BooksKept.emit (Effect.unbooked_note _ _ _))).trans
      ((setRelay_books false).booked p w₁)
  have hm : MonitorKept w (exec (setRelay false) p w₁).2 := (setRelay_keepsMonitor false).kept p w₁
  unfold startUp
  rw [exec_ctl_bind, exec_bind, exec_note, exec_bind, (setRelay_spec false p _).1]
  change Moved _ w (exec _ p (exec (setRelay false) p w₁).2).2 ∧
    (exec _ p (exec (setRelay false) p w₁).2).2.ctl.lastRx = _
  generalize (exec (setRelay false) p w₁).2 = w₂ at hb hm ⊢
  cases hf : p.writeFault Hardware.relay false 0 with
  | some e =>
    simp only [relayOutcome, hf, exec_pure, Option.isNone_some, Bool.false_eq_true, if_false]
    exact ⟨(hb.mono (List.nil_subset _)).moved, hb.2.1⟩
  | none =>
    simp only [relayOutcome, hf, Option.isNone_none, if_true]
    let U := monitorFaults (fun m => m.start.2.1) w.ctl
    let Stamped : World → Prop := fun w' =>
      Moved [] w w' ∧ MonitorKept w w' ∧ w'.ctl.lastRx = some p.now
    let Done : World → Prop := fun w' => Moved U w w' ∧ w'.ctl.lastRx = some p.now
    have keep {α : Type} {x : Act α} (hx : Books [] x) (hk : KeepsMonitor x) :
        Triple p Stamped x Stamped := fun w' h =>
      ⟨h.1.trans (hx.booked p w').moved, h.2.1.trans (hk.kept p w'),
        (hx.booked p w').2.1.trans h.2.2⟩
    show Done (exec _ p w₂).2
    refine (?_ : Triple p (fun w' => Booked [] w w' ∧ MonitorKept w w') _ Done) w₂ ⟨hb, hm⟩
    refine Triple.read_bind (Triple.bind (Q := Stamped) (fun w' h => ⟨h.1.moved.stamp _, h.2, rfl⟩)
      fun _ => ?_)
    refine Triple.bind (keep refreshLeds_keepsBooks.books (KeepsMonitor.of_calm refreshLeds_calm))
      fun _ => Triple.read_bind ?_
    refine Triple.bind (keep (KeepsBooks.emit ⟨rfl, fun _ => rfl, rfl⟩).books
      (KeepsMonitor.of_calm (Calm.emit ⟨rfl, rfl⟩ rfl))) fun _ => ?_
    split
    · exact fun w' h => ⟨h.1.mono (List.nil_subset _), h.2.2⟩
    refine Triple.bind (Q := Done) (fun w' h => ?_) fun r => ?_
    · -- the monitor the start runs is the one the controller had
      have hw := withPilot_booked (.ok ()) (fun m => (m.start.1, m.start.2.1, m.start.2.2)) p w'
      rw [monitorFaults_congr _ h.2.1.1 h.2.1.2] at hw
      exact ⟨(h.1.mono (List.nil_subset _)).trans hw.moved, hw.2.1.trans h.2.2⟩
    split
    · exact fun _ h => h
    · exact Triple.bind (fun w' h => ⟨h.1.trans ((KeepsBooks.note _ _).books.booked p w').moved,
        ((KeepsBooks.note _ _).books.booked p w' : Booked U _ _).2.1.trans h.2⟩) fun _ _ h => h

/-! ## Hearing the peer -/

/-- Whether controller `c` takes `bytes` as a state envelope: they decode to one, and `c` is not
shut down. -/
def Controller.takesEnvelope (c : Controller) (bytes : List UInt8) : Bool :=
  !c.shutDown && match Wire.Message.decode bytes with
    | .ok (.stateEnvelope _ _) => true
    | _ => false

theorem Controller.takesEnvelope_iff {c : Controller} {bytes : List UInt8} :
    c.takesEnvelope bytes = true ↔
      c.shutDown = false ∧ ∃ s h, Wire.Message.decode bytes = .ok (.stateEnvelope s h) := by
  unfold Controller.takesEnvelope
  split
  · next s h hd => simp [hd]
  · next hne => simpa using fun _ s h hd => hne s h hd

/-- Hearing the peer stamps the last reception and reports the peer timeout cleared. -/
theorem exec_peerHeard (p : Plant) (w : World) :
    (exec peerHeard p w).2 =
      ⟨({ w.ctl with lastRx := some p.now, metrics := w.ctl.metrics.map fun b => b.receivedOne } :
          Controller).report .peerTimeout false,
        w.trace ++ reportEffects p w.ctl .peerTimeout false⟩ := by
  unfold peerHeard
  simp only [exec_bind, exec_read, exec_modifyCtl, exec_observe, exec_reportFault]
  rfl

theorem noteMalformed_keepsBooks (text : String) : KeepsBooks (noteMalformed text) := by
  unfold noteMalformed
  refine Along.ctl.bind fun c => Along.ite (fun _ => ?_) fun _ => Along.pure _
  exact Along.bind (KeepsBooks.modifyCtl fun _ => ⟨rfl, rfl, rfl, rfl⟩) fun _ => KeepsBooks.note _ _

/-- A state envelope the controller takes: after the peer is heard, the books are kept, and the
answer is success. -/
theorem handleMessage_heard {bytes : List UInt8} {w : World}
    (hb : w.ctl.takesEnvelope bytes = true) (p : Plant) :
    Booked [] (exec peerHeard p w).2 (exec (handleMessage bytes) p w).2 ∧
      (exec (handleMessage bytes) p w).1 = .ok () := by
  obtain ⟨hsd, s, h, hd⟩ := Controller.takesEnvelope_iff.mp hb
  have hm := Wire.Message.decode_stateEnvelope_isMessage hd
  unfold handleMessage
  rw [if_neg (by rw [hm]; decide)]
  simp only [hd]
  rw [exec_ctl_bind, if_neg (by rw [hsd]; decide), exec_bind]
  refine ⟨Books.booked ?_ p _, ?_⟩
  · refine Along.bind (applyPeer_books s h) fun a => Along.ite (fun _ => ?_) fun _ => Along.pure _
    refine Along.bind sendStatus_keepsBooks.books fun r => ?_
    exact Along.bind (noteFailure_keepsBooks _ _ r).books fun _ =>
      Along.bind publish_books fun _ => Along.pure _
  · rw [exec_bind]
    split <;> rfl

/-- Every other datagram keeps the stamp of the last reception and raises at most what the band
changes of a remote monitor raise. -/
theorem handleMessage_booked {bytes : List UInt8} {w : World}
    (hb : w.ctl.takesEnvelope bytes = false) (p : Plant) :
    Booked (monitorFaults (fun m => if PilotState.isMessage bytes && m.isRemote then
      (m.handle bytes).2.1 else []) w.ctl) w (exec (handleMessage bytes) p w).2 := by
  have ignore (text : String) : Books [] (do note .debug text; pure (.ok ()) : Act Outcome) :=
    Along.bind (KeepsBooks.note _ _).books fun _ => Along.pure _
  unfold handleMessage
  by_cases hm : PilotState.isMessage bytes = true
  · rw [if_pos hm, exec_ctl_bind]
    split
    · next m hpm =>
      split
      · next hr =>
        rw [exec_bind]
        refine ((withPilot_booked false (fun m => m.handle bytes) p w).trans
          (Booked.refl _)).mono ?_
        simp [monitorFaults, hpm, hm, hr]
      · exact ((ignore _).booked p w).mono (List.nil_subset _)
    · exact ((ignore _).booked p w).mono (List.nil_subset _)
  · rw [if_neg hm]
    split
    · exact Booked.mono (List.nil_subset _) (Books.booked (Along.bind (KeepsBooks.observe _).books
        fun _ => Along.bind (noteMalformed_keepsBooks _).books fun _ => Along.pure _) p w)
    · next s h hd =>
      have hsd : w.ctl.shutDown = true := by
        by_contra hsd
        exact absurd (Controller.takesEnvelope_iff.mpr ⟨by simpa using hsd, s, h, hd⟩)
          (by simp [hb])
      rw [exec_ctl_bind, if_pos hsd]
      exact Booked.refl w
    · exact ((ignore _).booked p w).mono (List.nil_subset _)

/-! ## Resetting -/

/-- `w'` follows `w` through the clearing of the faults `done`, with the effects `seg` between them,
each fault of `done` present before reported cleared once. -/
structure Clearing (done : List Fault) (w w' : World) (seg : List Effect) : Prop where
  ledger : Ledger w → Ledger w'
  lastRx : w'.ctl.lastRx = w.ctl.lastRx
  publishing : w'.ctl.publishing = w.ctl.publishing
  trace : w'.trace = w.trace ++ seg
  faults : ∀ f, w'.ctl.hasFault f = if f ∈ done then false else w.ctl.hasFault f
  writes : ¬FailedWrite seg
  reports : ∀ f, reports f seg =
    if f ∈ done ∧ w.ctl.hasFault f = true ∧ w.ctl.publishing = true then [false] else []

namespace Clearing

variable {done : List Fault} {w w' : World} {seg : List Effect}

theorem start (w : World) : Clearing [] w w [] :=
  ⟨id, rfl, rfl, by simp, by simp, fun ⟨v, hv⟩ => by simp at hv, fun f => by simp [Control.reports]⟩

/-- Books kept before the clearing leave it a clearing. -/
theorem kept {w₀ : World} (hk : BooksKept w₀ w) (h : Clearing done w w' seg) :
    ∃ seg', Clearing done w₀ w' seg' := by
  obtain ⟨-, hf, hx, hu, seg₀, ht, hs⟩ := id hk
  obtain ⟨-, hr, hw⟩ := unbooked_segment hs
  have hfault := Controller.hasFault_of_faults hf
  refine ⟨seg₀ ++ seg, fun hl => h.ledger (hl.kept hk), h.lastRx.trans hx,
    h.publishing.trans hu, by rw [h.trace, ht, List.append_assoc], fun f => ?_, ?_, fun f => ?_⟩
  · rw [h.faults, hfault]
  · rw [failedWrite_append]
    exact fun hw' => hw'.elim hw h.writes
  · rw [reports_append, hr, h.reports, hfault, hu]
    rfl

/-- Clearing one more fault, present or not, by reporting it absent. -/
theorem report (h : Clearing done w w' seg) (p : Plant) {f : Fault} (hf : f ∉ done) :
    Clearing (done ++ [f]) w ⟨w'.ctl.report f false, w'.trace ++ reportEffects p w'.ctl f false⟩
      (seg ++ reportEffects p w'.ctl f false) := by
  have hw : w'.ctl.hasFault f = w.ctl.hasFault f := by rw [h.faults, if_neg hf]
  refine ⟨fun hl => (h.ledger hl).report p f false rfl rfl, h.lastRx, h.publishing,
    by rw [h.trace, List.append_assoc], fun g => ?_, ?_, fun g => ?_⟩
  · rw [Controller.hasFault_report, h.faults]
    by_cases hg : g = f <;> simp [hg]
  · rw [failedWrite_append]
    exact fun hw' => hw'.elim h.writes (reportEffects_failedWrite p _ f false)
  · rw [reports_append, h.reports, reports_reportEffects, hw, h.publishing]
    by_cases hg : g = f
    · subst hg
      simp [hf]
    · simp [hg]

/-- Skipping a fault that is absent clears it as well. -/
theorem skip (h : Clearing done w w' seg) {f : Fault} (hf : f ∉ done)
    (ha : w'.ctl.hasFault f = false) : Clearing (done ++ [f]) w w' seg := by
  have hw : w.ctl.hasFault f = false := by rw [← ha, h.faults, if_neg hf]
  refine ⟨h.ledger, h.lastRx, h.publishing, h.trace, fun g => ?_, h.writes, fun g => ?_⟩
  · by_cases hg : g = f
    · subst hg
      simp [ha]
    · simp [h.faults, hg]
  · by_cases hg : g = f
    · subst hg
      simp [h.reports, hf, hw]
    · simp [h.reports, hg]

end Clearing

/-- A reset that lands clears every fault, in the order the plant ranges over them, reporting
cleared those that were present. -/
theorem reset_clearing (p : Plant) (w : World) (hr : (exec reset p w).1 = .ok ()) :
    ∃ seg, Clearing p.faultOrder.faults w (exec reset p w).2 seg := by
  have hk := (request_keepsBooks .reset "reset").kept p w
  unfold reset at hr ⊢
  rw [exec_bind] at hr ⊢
  generalize exec (request .reset "reset") p w = q at hr hk ⊢
  obtain ⟨r₁, w₁⟩ := q
  cases r₁ with
  | error e => simp [opFailure] at hr
  | ok u =>
    dsimp only at hk ⊢
    rw [exec_bind, exec_read]
    dsimp only
    rw [exec_bind, exec_pure]
    have hnd : p.faultOrder.faults.Nodup := p.faultOrder.perm.nodup_iff.mpr (by decide)
    refine Exists.elim (Triple.forIn (I := fun pre w' => ∃ seg, Clearing pre w₁ w' seg) _ _
      (fun pre a post hl c w' hw => ?_) w₁ ⟨[], Clearing.start w₁⟩) fun seg h => Clearing.kept hk h
    obtain ⟨seg, h⟩ := hw
    have ha : a ∉ pre := fun ha => List.disjoint_of_nodup_append (hl ▸ hnd) ha List.mem_cons_self
    simp only [exec_bind, exec_ctl]
    by_cases hf : w'.ctl.hasFault a = true
    · simp only [hf, if_true, exec_bind, exec_pure, exec_reportFault]
      exact ⟨PUnit.unit, trivial, _, h.report p ha⟩
    · simp only [hf, Bool.false_eq_true, if_false, exec_pure]
      exact ⟨PUnit.unit, trivial, _, h.skip ha (by simpa using hf)⟩

/-- A reset that does not land changes no books. -/
theorem reset_booked (p : Plant) (w : World) (hr : (exec reset p w).1 ≠ .ok ()) :
    Booked [] w (exec reset p w).2 := by
  have hk := (request_keepsBooks .reset "reset").kept p w
  unfold reset at hr ⊢
  rw [exec_bind] at hr ⊢
  generalize exec (request .reset "reset") p w = q at hr hk ⊢
  obtain ⟨r₁, w₁⟩ := q
  cases r₁ with
  | error e => exact Booked.of_kept hk
  | ok u =>
    exfalso
    apply hr
    simp only [exec_bind]
    rfl

theorem command_books {text : String} (h : Text.lower (Text.trimBlanks text) ≠ "reset") :
    Books [] (command text) := by
  unfold command
  dsimp only
  refine Along.bind (KeepsBooks.note _ _).books fun _ => ?_
  split
  next => exact startCharging_books
  next => exact stopCharging_books
  next => exact pauseCharging_books
  next => exact resumeCharging_books
  next => exact Along.bind (turnSwitch_keepsBooks _ _).books fun _ => Along.pure _
  next => exact Along.bind (disableSessions_books _) fun _ => Along.pure _
  next hw => exact absurd hw h
  next => exact switchRelay_books true
  next => exact switchRelay_books false
  next => exact Along.pure _

/-! ## What one input may raise and clear -/

/-- Whether an input ticks: a tick of its own, or the one a run makes before it ends. -/
def Input.ticks : Input → Bool
  | .tick | .run _ => true
  | _ => false

/-- The events the pilot monitor `m` reports when input `i` runs it to start it or to take a
band message. Other inputs run it only to stop it, if at all, which reports no change into F. -/
def Input.monitorEvents : Input → Pilot.Monitor → List Pilot.Event
  | .startUp, m | .pilotStart, m => m.start.2.1
  | .message bytes, m =>
    if PilotState.isMessage bytes && m.isRemote then (m.handle bytes).2.1 else []
  | .pilotSample probe reading, m => (m.offer probe reading).2
  | _, _ => []

/-- The faults input `i` may raise from controller `c` on plant `p`: the peer timeout when it
ticks, and those the band changes its monitor reports raise. -/
def Input.raises (p : Plant) (c : Controller) (i : Input) : List Fault :=
  (if i.ticks then tickFaults c p.now else []) ++ monitorFaults i.monitorEvents c

/-- Whether input `i` hears the peer: a state envelope controller `c` takes. -/
def Input.hears (c : Controller) : Input → Bool
  | .message bytes => c.takesEnvelope bytes
  | _ => false

/-- Whether input `i` stamps the last reception of `c` on plant `p`: a start whose write of the
relay succeeds, or a state envelope `c` takes. -/
def Input.stamps (p : Plant) (c : Controller) : Input → Bool
  | .startUp => (p.writeFault Hardware.relay false 0).isNone
  | i => i.hears c

theorem tickFaults_mem {c : Controller} {now : Time.Instant} {f : Fault}
    (h : f ∈ tickFaults c now) : f = .peerTimeout ∧ c.shutDown = false ∧ c.trips now = true := by
  unfold tickFaults watchdogFaults at h
  split at h
  · simp at h
  · next hs =>
    split at h
    · next ht => exact ⟨List.mem_singleton.mp h, by simpa using hs, ht⟩
    · simp at h

theorem monitorFaults_mem {evs : Pilot.Monitor → List Pilot.Event} {c : Controller} {f : Fault}
    (h : f ∈ monitorFaults evs c) : f = .pilot := by
  unfold monitorFaults at h
  split at h
  · simp at h
  · cases hm : c.pilot with
    | none => simp [hm] at h
    | some m =>
      rw [hm] at h
      obtain ⟨e, -, he⟩ := List.mem_flatMap.mp h
      cases e with
      | change old next => cases next <;> simp_all [eventFaults, bandFaults]
      | note => simp [eventFaults] at he

/-- Only a tick before shutdown whose watchdog trips may raise the peer timeout. -/
theorem Input.raises_timeout {p : Plant} {c : Controller} {i : Input}
    (h : Fault.peerTimeout ∈ i.raises p c) :
    i.ticks = true ∧ c.shutDown = false ∧ c.trips p.now = true := by
  rcases List.mem_append.mp h with h | h
  · split at h
    · next hi => exact ⟨hi, (tickFaults_mem h).2⟩
    · simp at h
  · exact absurd (monitorFaults_mem h) (by decide)

/-- Only a band change into F the monitor reports before shutdown may raise the pilot fault. -/
theorem Input.raises_pilot {p : Plant} {c : Controller} {i : Input}
    (h : Fault.pilot ∈ i.raises p c) :
    c.shutDown = false ∧ ∃ m old, c.pilot = some m ∧ Pilot.Event.change old .f ∈ i.monitorEvents m := by
  rcases List.mem_append.mp h with h | h
  · split at h
    · exact absurd (tickFaults_mem h).1 (by decide)
    · simp at h
  · exact monitorFaults_pilot h

/-- A reset neither hears the peer nor stamps the last reception. -/
theorem Input.Resets.quiet {i : Input} (hi : i.Resets) (p : Plant) (c : Controller) :
    i.hears c = false ∧ i.stamps p c = false := by
  rcases hi with rfl | ⟨text, rfl, -⟩ <;> exact ⟨rfl, rfl⟩

theorem Fault.mem_all (f : Fault) : f ∈ Fault.all := by
  cases f <;> simp [Fault.all]

/-- How one step from `w` on input `i` moves the fault latches, ending in `w'` with answer `r` and
the effects `seg` between them. -/
structure LatchStep (p : Plant) (w : World) (i : Input) (w' : World) (r : Outcome)
    (seg : List Effect) : Prop where
  /-- The peer timeout is raised only by a tick before shutdown whose watchdog trips. -/
  timeout : w.ctl.hasFault .peerTimeout = false → w'.ctl.hasFault .peerTimeout = true →
    i.ticks = true ∧ w.ctl.shutDown = false ∧ w.ctl.trips p.now = true
  /-- The pilot fault is raised only by a change into F the monitor reports before shutdown. -/
  pilot : w.ctl.hasFault .pilot = false → w'.ctl.hasFault .pilot = true →
    w.ctl.shutDown = false ∧
      ∃ m old, w.ctl.pilot = some m ∧ Pilot.Event.change old .f ∈ i.monitorEvents m
  /-- Fault 3 is raised only by a failed write of the relay... -/
  relayRaised : w.ctl.hasFault .relayWrite = false → w'.ctl.hasFault .relayWrite = true →
    FailedWrite seg
  /-- ...and every failed write of the relay that no later opening of the relay in the step made
  good leaves it present. -/
  relayMarked : UnmendedFailure seg → w'.ctl.hasFault .relayWrite = true
  /-- A fault is cleared only by a state envelope, the peer timeout, or by a reset that lands. -/
  cleared : ∀ f, w.ctl.hasFault f = true → w'.ctl.hasFault f = false →
    (f = .peerTimeout ∧ i.hears w.ctl = true) ∨ (i.Resets ∧ r = .ok ())
  /-- A state envelope taken clears the peer timeout. -/
  heard : i.hears w.ctl = true → w'.ctl.hasFault .peerTimeout = false
  /-- A reset that lands leaves no fault present, and reports cleared exactly the faults present
  before, when there is a publisher. -/
  reset : i.Resets → r = .ok () → ∀ f, w'.ctl.hasFault f = false ∧
    reports f seg = if w.ctl.hasFault f = true ∧ w.ctl.publishing = true then [false] else []

namespace LatchStep

variable {p : Plant} {w w' : World} {i : Input} {r : Outcome} {seg : List Effect}

/-- A step that moves the faults as `LatchMoves` says, raising only what its input may raise, and
neither hears the peer nor resets. -/
theorem of_moves (hm : LatchMoves (i.raises p w.ctl) w.ctl w'.ctl seg)
    (hh : i.hears w.ctl = false) (hr : ¬(i.Resets ∧ r = .ok ())) : LatchStep p w i w' r seg where
  timeout h h' := Input.raises_timeout (hm.raised _ (by decide) h h')
  pilot h h' := Input.raises_pilot (hm.raised _ (by decide) h h')
  relayRaised := hm.failed
  relayMarked := hm.marked
  cleared f h h' := by
    rw [hm.kept f h] at h'
    cases h'
  heard h := by
    rw [hh] at h
    cases h
  reset hi hr' := absurd ⟨hi, hr'⟩ hr

/-- A reset that lands, having cleared every fault in some order. -/
theorem of_clearing {order : FaultOrder} (h : Clearing order.faults w w' seg) (hi : i.Resets)
    (hr : r = .ok ()) : LatchStep p w i w' r seg :=
  have hd (f : Fault) : f ∈ order.faults := order.perm.mem_iff.mpr (Fault.mem_all f)
  { timeout := fun _ h' => by
      rw [h.faults, if_pos (hd _)] at h'
      cases h'
    pilot := fun _ h' => by
      rw [h.faults, if_pos (hd _)] at h'
      cases h'
    relayRaised := fun _ h' => by
      rw [h.faults, if_pos (hd _)] at h'
      cases h'
    relayMarked := fun hw => absurd hw.failedWrite h.writes
    cleared := fun _ _ _ => .inr ⟨hi, hr⟩
    heard := fun hh => by
      rw [(hi.quiet p w.ctl).1] at hh
      cases hh
    reset := fun _ _ f => ⟨by rw [h.faults, if_pos (hd f)], by simp [h.reports, hd f]⟩ }

/-- A state envelope: the peer timeout cleared first, to `w₁`, with the effects `seg₁`, then the
faults moved by `LatchMoves` raising none. -/
theorem of_heard {w₁ : World} {seg₁ seg₂ : List Effect} (hh : i.hears w.ctl = true)
    (hi : ¬i.Resets)
    (hc : ∀ f, w₁.ctl.hasFault f = if f = .peerTimeout then false else w.ctl.hasFault f)
    (hs : ¬FailedWrite seg₁) (hm : LatchMoves [] w₁.ctl w'.ctl seg₂) :
    LatchStep p w i w' r (seg₁ ++ seg₂) := by
  have raised (f : Fault) (hf : f ≠ .relayWrite) (h₁ : w₁.ctl.hasFault f = false)
      (h' : w'.ctl.hasFault f = true) : False := by
    simpa using hm.raised f hf h₁ h'
  have hpt : w'.ctl.hasFault .peerTimeout = false := by
    cases h' : w'.ctl.hasFault .peerTimeout
    · rfl
    · exact (raised _ (by decide) (by simp [hc]) h').elim
  refine ⟨fun _ h' => ?_, fun h h' => ?_, fun h h' => ?_, fun hw => ?_, fun f h h' => ?_,
    fun _ => hpt, fun hr => absurd hr hi⟩
  · rw [hpt] at h'
    cases h'
  · exact (raised _ (by decide) (by simp [hc, h]) h').elim
  · exact failedWrite_append.mpr (.inr (hm.failed (by simp [hc, h]) h'))
  · rcases unmendedFailure_append hw with hw | hw
    · exact absurd hw.failedWrite hs
    · exact hm.marked hw
  · by_cases hf : f = .peerTimeout
    · exact .inl ⟨hf, hh⟩
    · rw [hm.kept f (by simp [hc, hf, h])] at h'
      cases h'

end LatchStep

/-- What one step from `w` on input `i` does to the books, ending in `w'` with answer `r`: they
stay in agreement with the trace, the last reception is stamped exactly by a start whose relay
write succeeds and by a state envelope taken, and the fault latches move as `LatchStep` says. -/
structure StepBooks (p : Plant) (w : World) (i : Input) (w' : World) (r : Outcome) : Prop where
  ledger : Ledger w → Ledger w'
  lastRx : w'.ctl.lastRx = if i.stamps p w.ctl then some p.now else w.ctl.lastRx
  latch : ∃ seg, w'.trace = w.trace ++ seg ∧ LatchStep p w i w' r seg

namespace StepBooks

variable {p : Plant} {w w' : World} {i : Input} {r : Outcome}

theorem of_moved (hm : Moved (i.raises p w.ctl) w w')
    (hx : w'.ctl.lastRx = if i.stamps p w.ctl then some p.now else w.ctl.lastRx)
    (hh : i.hears w.ctl = false) (hr : ¬(i.Resets ∧ r = .ok ())) : StepBooks p w i w' r :=
  ⟨hm.1, hx, hm.2.imp fun _ ⟨ht, hl⟩ => ⟨ht, .of_moves hl hh hr⟩⟩

theorem of_booked (hb : Booked (i.raises p w.ctl) w w') (hs : i.stamps p w.ctl = false)
    (hh : i.hears w.ctl = false) (hr : ¬(i.Resets ∧ r = .ok ())) : StepBooks p w i w' r :=
  .of_moved hb.moved (by rw [hs, if_neg Bool.false_ne_true]; exact hb.2.1) hh hr

/-- An input whose action keeps the books raising nothing. -/
theorem of_books {i : Input} (hx : Books [] i.act) (hs : i.stamps p w.ctl = false)
    (hh : i.hears w.ctl = false) (hr : ¬i.Resets) :
    StepBooks p w i (step p w i).1 (step p w i).2 :=
  .of_booked ((hx.booked p w).mono (List.nil_subset _)) hs hh fun h => hr h.1

/-- A reset, after effects that keep the books. -/
theorem of_reset {i : Input} (hi : i.Resets) {w₁ : World} (hk : BooksKept w w₁)
    (he : exec i.act p w = exec reset p w₁) : StepBooks p w i (step p w i).1 (step p w i).2 := by
  obtain ⟨hh, hs⟩ := hi.quiet p w.ctl
  rw [step_eq, he]
  by_cases hr : (exec reset p w₁).1 = .ok ()
  · obtain ⟨seg, h⟩ := reset_clearing p w₁ hr
    obtain ⟨seg', h'⟩ := h.kept hk
    refine ⟨h'.ledger, ?_, seg', h'.trace, .of_clearing h' hi hr⟩
    rw [hs, if_neg Bool.false_ne_true]
    exact h'.lastRx
  · exact .of_booked (((Booked.of_kept hk).trans (reset_booked p w₁ hr)).mono
      (List.nil_subset _)) hs hh fun h => hr h.2

end StepBooks

/-- A state envelope taken: the peer is heard, then the books are kept. -/
theorem message_heard_books {bytes : List UInt8} (p : Plant) {w : World}
    (hb : w.ctl.takesEnvelope bytes = true) :
    StepBooks p w (.message bytes) (step p w (.message bytes)).1 (step p w (.message bytes)).2 := by
  obtain ⟨hk, hr⟩ := handleMessage_heard hb p
  rw [exec_peerHeard] at hk
  obtain ⟨hl, hx, seg₂, ht, hm⟩ := hk
  let c₁ : Controller :=
    { w.ctl with lastRx := some p.now, metrics := w.ctl.metrics.map fun b => b.receivedOne }
  have hl₀ : Ledger w → Ledger ⟨c₁, w.trace⟩ := fun h =>
    h.grow rfl rfl rfl [] (by simp) rfl fun _ => rfl
  have hl₁ : Ledger w → Ledger ⟨c₁.report .peerTimeout false,
      w.trace ++ reportEffects p w.ctl .peerTimeout false⟩ := fun h =>
    (hl₀ h).report p .peerTimeout false rfl rfl
  refine ⟨hl ∘ hl₁, ?_, reportEffects p w.ctl .peerTimeout false ++ seg₂, ?_, ?_⟩
  · show _ = if w.ctl.takesEnvelope bytes then _ else _
    rw [hb, if_pos rfl]
    exact hx
  · show (exec (handleMessage bytes) p w).2.trace = _
    rw [ht, List.append_assoc]
  · refine .of_heard hb (by simp [Input.Resets]) (fun f => ?_)
      (reportEffects_failedWrite p _ _ _) hm
    rw [Controller.hasFault_report]
    rfl

/-- Every input moves the books of every world as `StepBooks` says. -/
theorem step_books (p : Plant) (w : World) :
    ∀ i, StepBooks p w i (step p w i).1 (step p w i).2
  | .startUp => by
    obtain ⟨hm, hx⟩ := startUp_moved p w
    exact .of_moved (hm.mono (List.subset_append_right _ _)) hx rfl (by simp [Input.Resets])
  | .startCharging => .of_books startCharging_books rfl rfl (by simp [Input.Resets])
  | .stopCharging => .of_books stopCharging_books rfl rfl (by simp [Input.Resets])
  | .pauseCharging => .of_books pauseCharging_books rfl rfl (by simp [Input.Resets])
  | .resumeCharging => .of_books resumeCharging_books rfl rfl (by simp [Input.Resets])
  | .reset => .of_reset (.inl rfl) (BooksKept.refl w) rfl
  | .enable => .of_books (Along.bind (turnSwitch_keepsBooks _ _).books fun _ => Along.pure _)
      rfl rfl (by simp [Input.Resets])
  | .disable => .of_books (Along.bind (disableSessions_books _) fun _ => Along.pure _)
      rfl rfl (by simp [Input.Resets])
  | .relay on => .of_books (switchRelay_books on) rfl rfl (by simp [Input.Resets])
  | .command text => by
    by_cases hw : Text.lower (Text.trimBlanks text) = "reset"
    · exact .of_reset (.inr ⟨text, rfl, hw⟩) (BooksKept.emit (Effect.unbooked_note _ _ _))
        (exec_command_reset hw p w)
    · exact .of_books (command_books hw) rfl rfl fun h => by
        rcases h with h | ⟨t, h, ht⟩
        · cases h
        · cases h
          exact hw ht
  | .button channel pressed => .of_books (button_books channel pressed) rfl rfl
      (by simp [Input.Resets])
  | .tick => .of_booked ((tick_booked p w).mono (List.subset_append_left _ _)) rfl rfl
      (by simp [Input.Resets])
  | .message bytes => by
    cases hb : w.ctl.takesEnvelope bytes
    · exact .of_booked ((handleMessage_booked hb p).mono (List.subset_append_right _ _)) hb hb
        (by simp [Input.Resets])
    · exact message_heard_books p hb
  | .pilotStart => by
    have hb := withPilot_booked (.ok ()) (fun m => (m.start.1, m.start.2.1, m.start.2.2)) p w
    show StepBooks p w .pilotStart (exec pilotStart p w).2 (exec pilotStart p w).1
    unfold pilotStart
    rw [exec_bind]
    split <;> exact .of_booked (hb.mono (List.subset_append_right _ _)) rfl rfl
      (by simp [Input.Resets])
  | .pilotStop => .of_books (Along.bind pilotStop_books fun _ => Along.pure _) rfl rfl
      (by simp [Input.Resets])
  | .pilotSample probe reading => by
    have hb := withPilot_booked ()
      (fun m => ((m.offer probe reading).1, (m.offer probe reading).2, ())) p w
    show StepBooks p w _ (exec (pilotSample probe reading) p w).2 (.ok ())
    exact .of_booked (hb.mono (List.subset_append_right _ _)) rfl rfl (by simp [Input.Resets])
  | .shutdown => .of_books (Along.bind shutdown_books fun _ => Along.pure _) rfl rfl
      (by simp [Input.Resets])
  | .run ending => .of_booked ((run_booked ending p w).mono (List.subset_append_left _ _)) rfl rfl
      (by simp [Input.Resets])

/-! ## Every run -/

theorem Ledger.new (settings : Settings) (pilot : Option Pilot.Monitor) (publishing : Bool)
    (metrics : Option Metrics.Book) :
    Ledger ⟨Controller.new settings pilot publishing metrics, []⟩ :=
  ⟨rfl, List.isChain_nil, fun _ _ => rfl, fun _ _ => rfl, fun _ => List.isChain_singleton _⟩

/-- Every reachable world keeps its books in agreement with its trace. -/
theorem Reachable.ledger {P : Plant → Prop} {w : World} (h : Reachable P w) : Ledger w :=
  Reachable.invariant (fun _ _ _ _ => Ledger.new _ _ _ _)
    (fun p _ i w hl => (step_books p w i).ledger hl)
    (fun _ hl => hl.grow rfl rfl rfl [] (by simp) rfl fun _ => rfl)
    (fun _ _ hl => hl.grow rfl rfl rfl [] (by simp) rfl fun _ => rfl) h

end Evse.Control
