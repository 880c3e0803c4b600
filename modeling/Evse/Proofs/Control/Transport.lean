import Evse.Proofs.Control.Routing
/-!
What the controller writes besides its transport.
-/
namespace Evse.Control

/-- A kind of effect that holds of every local effect: notes, line writes, notices to listeners
and fault reports. A walk of the machine, an operation and the watchdog write only these. -/
structure Effect.Local (E : Effect → Prop) : Prop where
  note : ∀ severity tag text, E (.note severity tag text)
  write : ∀ channel value ok, E (.write channel value ok)
  notify : ∀ n, E (.notify n)
  fault : ∀ code description present, E (.fault code description present)

/-- A kind of effect that holds of every ambient effect: the local ones and publications. -/
structure Effect.Ambient (E : Effect → Prop) : Prop extends Effect.Local E where
  publish : ∀ s ok, E (.publish s ok)

/-- `w'` follows `w` with the same settings and its trace grown by effects of kind `E` only. -/
def Adds (E : Effect → Prop) (w w' : World) : Prop :=
  w'.ctl.settings = w.ctl.settings ∧ ∃ seg, w'.trace = w.trace ++ seg ∧ ∀ e ∈ seg, E e

namespace Adds

variable {E : Effect → Prop} {w₁ w₂ w₃ : World}

theorem refl (w : World) : Adds E w w := ⟨rfl, [], by simp, by simp⟩

theorem trans (h₁ : Adds E w₁ w₂) (h₂ : Adds E w₂ w₃) : Adds E w₁ w₃ := by
  obtain ⟨hc₁, s₁, ht₁, hs₁⟩ := h₁
  obtain ⟨hc₂, s₂, ht₂, hs₂⟩ := h₂
  refine ⟨hc₂.trans hc₁, s₁ ++ s₂, by rw [ht₂, ht₁, List.append_assoc], fun e he => ?_⟩
  rcases List.mem_append.mp he with he | he
  · exact hs₁ e he
  · exact hs₂ e he

theorem of_trace (hc : w₂.ctl.settings = w₁.ctl.settings) (h : w₂.trace = w₁.trace) :
    Adds E w₁ w₂ :=
  ⟨hc, [], by simp [h], by simp⟩

theorem emit {e : Effect} (h : E e) (w : World) : Adds E w { w with trace := w.trace ++ [e] } :=
  ⟨rfl, [e], rfl, by simpa using h⟩

end Adds

/-- An action that, on every plant, writes only effects of kind `E`. -/
abbrev Emits {α : Type} (E : Effect → Prop) (x : Act α) : Prop :=
  Along (fun _ => True) (fun _ => Adds E) x

namespace Emits

variable {α : Type} {E : Effect → Prop} {x : Act α}

theorem adds (h : Emits E x) (p : Plant) (w : World) : Adds E w (exec x p w).2 :=
  h p trivial w w (Adds.refl w)

theorem of_adds (h : ∀ p w, Adds E w (exec x p w).2) : Emits E x :=
  fun p _ _ w hw => hw.trans (h p w)

theorem emit {e : Effect} (h : E e) : Emits E (Control.emit e) :=
  of_adds fun _ w => Adds.emit h w

theorem modifyCtl {f : Controller → Controller} (hf : ∀ c, (f c).settings = c.settings) :
    Emits E (Control.modifyCtl f) :=
  of_adds fun _ w => Adds.of_trace (hf w.ctl) rfl

theorem observe (f : Metrics.Book → Metrics.Book) : Emits E (Control.observe f) :=
  modifyCtl fun _ => rfl

end Emits

theorem opFailure_emits {E : Effect → Prop} (op : String) (requested : ChargingState)
    (e : Failure) : Emits E (opFailure op requested e) :=
  Along.ctl.bind fun _ => Along.pure _
section Local

variable {E : Effect → Prop} (hE : Effect.Local E)
include hE

theorem Emits.note (severity : Log.Severity) (text : String) :
    Emits E (Control.note severity text) :=
  Emits.emit (hE.note _ _ _)

theorem writeLine_emits (channel : String) (value : Bool) {attempt : Nat} :
    Emits E (writeLine channel value attempt) :=
  Along.read.bind fun _ => (Emits.emit (hE.write _ _ _)).bind fun _ => Along.pure _

theorem reportFault_emits (f : Fault) (present : Bool) : Emits E (reportFault f present) :=
  Emits.of_adds fun p w => by
    rw [exec_reportFault]
    refine ⟨rfl, _, rfl, fun e he => ?_⟩
    unfold reportEffects at he
    split at he
    · simp at he
    · simp only [List.mem_cons] at he
      rcases he with rfl | he
      · exact hE.fault _ _ _
      · split at he <;> simp at he
        subst he
        exact hE.note _ _ _

theorem setRelay_emits (on : Bool) : Emits E (setRelay on) := by
  unfold setRelay
  refine Along.bind (writeLine_emits hE _ _) fun r => ?_
  refine Along.bind (Emits.observe _) fun _ => ?_
  split
  · refine Along.bind (Emits.note hE _ _) fun _ => ?_
    exact Along.bind (reportFault_emits hE _ _) fun _ => Along.pure _
  · have last : Emits E (do
        modifyCtl fun c => { c with relayEnabled := on }
        pure (.ok ()) : Act Outcome) :=
      Along.bind (Emits.modifyCtl fun _ => rfl) fun _ => Along.pure _
    exact Along.ctl.bind fun c => Along.ite (fun _ => Along.bind (Emits.note hE _ _) fun _ => last)
      fun _ => last

theorem refreshLeds_emits : Emits E refreshLeds := by
  unfold refreshLeds
  refine Along.ctl.bind fun c => ?_
  dsimp only
  split
  · exact Along.pure _
  · refine Along.bind (Along.forIn _ _ fun a _ s => ?_) fun r => ?_
    · refine Along.bind (writeLine_emits hE _ _) fun e => ?_
      split
      · refine Along.bind (Emits.note hE _ _) fun _ => ?_
        exact Along.bind (Emits.modifyCtl fun _ => rfl) fun _ => Along.pure _
      · exact Along.pure _
    · split
      · exact Along.pure _
      · exact Emits.modifyCtl fun _ => rfl

theorem onTransition_emits (source target : ChargingState) (reason : String) :
    Emits E (onTransition source target reason) := by
  unfold onTransition
  refine Along.bind (Emits.note hE _ _) fun _ => ?_
  refine Along.bind (Emits.observe _) fun _ => ?_
  have forget :
      Emits E ((modifyCtl fun c => { c with sessionId := "" }) >>= fun _ => refreshLeds) :=
    Along.bind (Emits.modifyCtl fun _ => rfl) fun _ => refreshLeds_emits hE
  dsimp only
  split
  · split
    · refine Along.read.bind fun _ => ?_
      exact Along.bind (Emits.modifyCtl fun _ => rfl) fun _ => refreshLeds_emits hE
    · exact refreshLeds_emits hE
  · exact forget
  · exact forget
  · exact refreshLeds_emits hE

/-! ## Walks of the machine -/

theorem hear_adds (n : Notice) (p : Plant) (w : World) : Adds E w (exec (hear n) p w).2 := by
  unfold hear
  simp only [exec_bind, exec_modifyCtl, exec_ctl]
  by_cases h : n.listener = w.ctl.ownListener
  · simp only [h, beq_self_eq_true, if_true, exec_bind, exec_pure]
    exact (Adds.of_trace rfl rfl).trans ((onTransition_emits hE _ _ _).adds p _)
  · simp only [beq_iff_eq, h, if_false, exec_bind, exec_emit, exec_read, exec_pure]
    exact (Adds.of_trace rfl rfl).trans (Adds.emit (hE.notify n) _)

theorem tell_adds (p : Plant) (source target : ChargingState) (reason : String) :
    ∀ (ids : List Nat) (w : World), Adds E w (Machine.tell (hearIn p) source target reason ids w).1
  | [], w => Adds.refl w
  | id :: ids, w => by
    have hh := hear_adds hE ⟨id, source, target, reason⟩ p w
    rcases hx : exec (hear ⟨id, source, target, reason⟩) p w with ⟨v, w₁⟩
    rw [hx] at hh
    cases v with
    | some cause =>
      simp only [Machine.tell, hearIn_eq, hx]
      exact hh
    | none =>
      simp only [Machine.tell, hearIn_eq, hx]
      exact hh.trans (tell_adds p source target reason ids w₁)

theorem walk_adds (p : Plant) (reason : String) :
    ∀ (path : List ChargingState) (m : Machine) (w : World),
      Adds E w (Machine.walk (hearIn p) reason m path w).2.1
  | [], _, w => Adds.refl w
  | t :: rest, m, w => by
    have ht := tell_adds hE p m.state t reason m.listeners w
    rcases hx : Machine.tell (hearIn p) m.state t reason m.listeners w with ⟨w₁, v⟩
    rw [hx] at ht
    cases v with
    | some cause =>
      simp only [Machine.walk, hx]
      exact ht
    | none =>
      simp only [Machine.walk, hx]
      exact ht.trans (walk_adds p reason rest _ w₁)

theorem request_emits (req : Request) (reason : String) : Emits E (request req reason) :=
  Emits.of_adds fun p w => by
    rw [request_eq]
    refine (?_ : Adds E w _).trans (Adds.of_trace rfl rfl)
    unfold Machine.perform
    split
    · exact Adds.refl w
    · exact walk_adds hE p reason _ _ w

/-! ## Operations -/

theorem noteFailure_emits (severity : Log.Severity) (context : String) (r : Outcome) :
    Emits E (noteFailure severity context r) := by
  unfold noteFailure
  split
  · exact Emits.note hE _ _
  · exact Along.pure _

theorem stopSession_emits (reason : String) : Emits E (stopSession reason) := by
  unfold stopSession
  refine Along.bind (request_emits hE _ _) fun r => ?_
  split
  · exact Along.pure _
  · exact setRelay_emits hE false

theorem turnSwitch_emits (v : Bool) (text : String) : Emits E (turnSwitch v text) := by
  unfold turnSwitch
  refine Along.bind (Emits.modifyCtl fun _ => rfl) fun _ => ?_
  refine Along.bind (Emits.observe _) fun _ => ?_
  exact Along.bind (Emits.note hE _ _) fun _ => refreshLeds_emits hE

theorem disableSessions_emits (source : String) : Emits E (disableSessions source) := by
  unfold disableSessions
  refine Along.ctl.bind fun c => ?_
  dsimp only
  refine Along.ite (fun _ => ?_) fun _ => turnSwitch_emits hE _ _
  refine Along.bind (Emits.note hE _ _) fun _ => ?_
  refine Along.bind (stopSession_emits hE _) fun r => ?_
  exact Along.bind (noteFailure_emits hE _ _ r) fun _ => turnSwitch_emits hE _ _

theorem startCharging_emits : Emits E startCharging := by
  unfold startCharging
  refine Along.ctl.bind fun c => ?_
  refine Along.ite (fun _ => opFailure_emits _ _ _) fun _ => ?_
  refine Along.ite (fun _ => Along.bind (Emits.note hE _ _) fun _ => opFailure_emits _ _ _)
    fun _ => ?_
  refine Along.bind (request_emits hE _ _) fun r => ?_
  split
  · exact opFailure_emits _ _ _
  · refine Along.bind (setRelay_emits hE _) fun r => ?_
    split
    · refine Along.bind (request_emits hE _ _) fun r => ?_
      exact Along.bind (noteFailure_emits hE _ _ r) fun _ => opFailure_emits _ _ _
    · refine Along.ctl.bind fun c => ?_
      exact Along.bind (Emits.note hE _ _) fun _ => Along.pure _

theorem stopCharging_emits : Emits E stopCharging := by
  unfold stopCharging
  refine Along.bind (stopSession_emits hE _) fun r => ?_
  split
  · exact opFailure_emits _ _ _
  · exact Along.pure _

theorem pauseCharging_emits : Emits E pauseCharging := by
  unfold pauseCharging
  refine Along.bind (request_emits hE _ _) fun r => ?_
  split
  · exact opFailure_emits _ _ _
  · exact Along.pure _

theorem resumeCharging_emits : Emits E resumeCharging := by
  unfold resumeCharging
  refine Along.ctl.bind fun c => ?_
  refine Along.ite (fun _ => opFailure_emits _ _ _) fun _ => ?_
  refine Along.bind (request_emits hE _ _) fun r => ?_
  split
  · exact opFailure_emits _ _ _
  · exact Along.pure _

theorem reset_emits : Emits E reset := by
  unfold reset
  refine Along.bind (request_emits hE _ _) fun r => ?_
  split
  · exact opFailure_emits _ _ _
  · refine Along.read.bind fun q => ?_
    refine Along.bind (Along.forIn _ _ fun f _ u => ?_) fun _ => Along.pure _
    refine Along.ctl.bind fun c => ?_
    exact Along.ite (fun _ => Along.bind (reportFault_emits hE _ _) fun _ => Along.pure _)
      fun _ => Along.pure _

theorem switchRelay_emits (on : Bool) : Emits E (switchRelay on) := by
  unfold switchRelay
  exact Along.ctl.bind fun c => Along.ite (fun _ => Along.pure _) fun _ => setRelay_emits hE on

theorem command_emits (text : String) : Emits E (command text) := by
  unfold command
  refine Along.bind (Emits.note hE _ _) fun _ => ?_
  split
  · exact startCharging_emits hE
  · exact stopCharging_emits hE
  · exact pauseCharging_emits hE
  · exact resumeCharging_emits hE
  · exact Along.bind (turnSwitch_emits hE _ _) fun _ => Along.pure _
  · exact Along.bind (disableSessions_emits hE _) fun _ => Along.pure _
  · exact reset_emits hE
  · exact switchRelay_emits hE _
  · exact switchRelay_emits hE _
  · exact Along.pure _

/-! ## The peer -/

theorem noteMalformed_emits (text : String) : Emits E (noteMalformed text) := by
  unfold noteMalformed
  refine Along.ctl.bind fun c => ?_
  split
  · exact Along.bind (Emits.modifyCtl fun _ => rfl) fun _ => Emits.note hE _ _
  · exact Along.pure _

theorem returnToIdle_emits (reason : String) : Emits E (returnToIdle reason) := by
  unfold returnToIdle
  refine Along.ctl.bind fun c => ?_
  have last (r : Outcome) : Emits E (noteFailure .error "Failed to return to idle" r) :=
    noteFailure_emits hE _ _ r
  dsimp only
  split
  · exact Along.bind (Along.pure _) last
  · exact Along.bind (request_emits hE _ _) last
  · exact Along.bind (request_emits hE _ _) last
  · refine Along.bind (request_emits hE _ _) fun r => ?_
    split
    · exact Along.bind (request_emits hE _ _) last
    · exact Along.bind (Along.pure _) last
  · exact Along.bind (Emits.note hE _ _) fun _ => Along.bind (Along.pure _) last
  · exact Along.bind (request_emits hE _ _) last

theorem applyIntent_emits (intent : ChargingState) : Emits E (applyIntent intent) := by
  unfold applyIntent
  refine Along.ctl.bind fun c => ?_
  refine Along.bind (Emits.modifyCtl fun _ => rfl) fun _ => ?_
  have rejected (why : String) : Emits E (rejectPeer intent why) :=
    Along.bind (Emits.observe _) fun _ => Emits.note hE _ _
  split
  · exact returnToIdle_emits hE _
  · refine Along.ite (fun _ => rejected _) fun _ => Along.ite (fun _ => rejected _) fun _ => ?_
    exact Along.bind (Emits.modifyCtl fun _ => rfl) fun _ => Emits.note hE _ _
  · refine Along.ite (fun _ => Along.pure _) fun _ => Along.ite (fun _ => rejected _) fun _ => ?_
    refine Along.ite (fun _ => rejected _) fun _ => Along.ite (fun _ => rejected _) fun _ => ?_
    exact Along.bind (request_emits hE _ _) fun r => noteFailure_emits hE _ _ r
  · refine Along.ite (fun _ => ?_) fun _ => Along.pure _
    exact Along.bind (request_emits hE _ _) fun r => noteFailure_emits hE _ _ r
  · exact Emits.note hE _ _

theorem applyContactor_emits (on : Bool) : Emits E (applyContactor on) := by
  unfold applyContactor
  refine Along.ctl.bind fun c => ?_
  refine Along.ite (fun _ => Emits.note hE _ _) fun _ => ?_
  refine Along.ite (fun _ => ?_) fun _ => Along.pure _
  exact Along.bind (setRelay_emits hE on) fun r => noteFailure_emits hE _ _ r

theorem applyPeer_emits (s : Wire.StateReport) (h : Wire.Hardware) : Emits E (applyPeer s h) := by
  unfold applyPeer followEnable followIntent followContactor peerState
  refine Along.ctl.bind fun c => ?_
  refine Along.bind (?_ : Emits E (peerState s.state c.peer.state)) fun st => ?_
  · unfold peerState
    split
    · exact Along.pure _
    · refine Along.bind (Emits.observe _) fun _ => ?_
      exact Along.bind (noteMalformed_emits hE _) fun _ => Along.pure _
  refine Along.bind ?_ fun _ => ?_
  · refine Along.ite (fun _ => ?_) fun _ => Along.pure _
    refine Along.bind (Emits.note hE _ _) fun _ => Along.ctl.bind fun c => ?_
    exact Along.ite (fun _ => turnSwitch_emits hE _ _) fun _ =>
      Along.ite (fun _ => disableSessions_emits hE _) fun _ => Along.pure _
  refine Along.bind ?_ fun _ => ?_
  · refine Along.ite (fun _ => ?_) fun _ => Along.pure _
    exact Along.bind (Emits.note hE _ _) fun _ => applyIntent_emits hE _
  refine Along.bind ?_ fun _ => ?_
  · refine Along.ite (fun _ => ?_) fun _ => Along.pure _
    exact Along.bind (Emits.note hE _ _) fun _ => applyContactor_emits hE _
  exact Along.bind (Emits.modifyCtl fun _ => rfl) fun _ => Along.pure _

theorem peerHeard_emits : Emits E peerHeard := by
  unfold peerHeard
  refine Along.read.bind fun q => ?_
  refine Along.bind (Emits.modifyCtl fun _ => rfl) fun _ => ?_
  exact Along.bind (Emits.observe _) fun _ => reportFault_emits hE _ _

/-! ## The watchdog and the forced opening -/

theorem watchdog_emits : Emits E watchdog := by
  unfold watchdog
  refine Along.ctl.bind fun c => ?_
  dsimp only
  refine Along.ite (fun _ => Along.pure _) fun _ => ?_
  refine Along.read.bind fun q => ?_
  refine Along.ite (fun _ => Along.pure _) fun _ => ?_
  refine Along.bind (Emits.note hE _ _) fun _ => ?_
  refine Along.bind (Emits.observe _) fun _ => ?_
  refine Along.bind (reportFault_emits hE _ _) fun _ => ?_
  have last : Emits E (do
      noteFailure .error "Watchdog could not de-energize relay" (← setRelay false)) :=
    Along.bind (setRelay_emits hE _) fun r => noteFailure_emits hE _ _ r
  refine Along.ctl.bind fun c => Along.ite (fun _ => ?_) fun _ => last
  refine Along.bind (request_emits hE _ _) fun r => ?_
  exact Along.bind (noteFailure_emits hE _ _ r) fun _ => last

theorem forceRelayOff_emits : Emits E forceRelayOff := by
  unfold forceRelayOff
  dsimp only
  refine Along.bind (Along.forIn _ _ fun i _ s => ?_) fun last => ?_
  · refine Along.bind (writeLine_emits hE _ _) fun r => ?_
    refine Along.bind (Emits.observe _) fun _ => ?_
    split
    · exact Along.pure _
    · exact Along.bind (Emits.note hE _ _) fun _ => Along.pure _
  · have opened : Emits E (modifyCtl fun c => { c with relayEnabled := false }) :=
      Emits.modifyCtl fun _ => rfl
    exact Along.ite (fun _ => Along.bind (reportFault_emits hE _ _) fun _ => opened) fun _ => opened

/-! ## The status message -/

theorem sendStatus_emits (hs : ∀ bytes ok, E (.send bytes ok)) : Emits E sendStatus := by
  unfold sendStatus
  refine Along.ctl.bind fun c => ?_
  dsimp only
  refine Along.ite (fun _ => Along.bind (Emits.note hE _ _) fun _ =>
    Along.bind (Emits.modifyCtl fun _ => rfl) fun _ => ?_) fun _ => ?_
  all_goals
    refine Along.read.bind fun p => ?_
    refine Along.bind (Emits.emit (hs _ _)) fun _ => ?_
    refine Along.bind (Emits.observe _) fun _ => ?_
    split <;> exact Along.pure _

end Local

section Ambient

variable {E : Effect → Prop} (hE : Effect.Ambient E)
include hE

theorem publish_emits : Emits E publish := by
  unfold publish
  refine Along.ctl.bind fun c => ?_
  split
  · exact Along.pure _
  · refine Along.read.bind fun p => ?_
    dsimp only
    have failed (s : Status) (e : String) : Emits E (do
        emit (.publish s false)
        note .warn s!"Failed to publish status: {e}") :=
      Along.bind (Emits.emit (hE.publish _ _)) fun _ => Emits.note hE.toLocal _ _
    have done (s : Status) : Emits E (do
        emit (.publish s true)
        modifyCtl fun c => { c with published := some s }) :=
      Along.bind (Emits.emit (hE.publish _ _)) fun _ => Emits.modifyCtl fun _ => rfl
    repeat' split
    · exact Along.pure _
    · exact failed _ _
    · exact done _
    · exact failed _ _
    · exact done _

theorem button_emits (channel : String) (pressed : Bool) : Emits E (button channel pressed) := by
  unfold button
  refine Along.ite (fun _ => Along.pure _) fun _ => ?_
  refine Along.ctl.bind fun c => Along.ite (fun _ => Along.pure _) fun _ => ?_
  refine Along.bind (Emits.note hE.toLocal _ _) fun _ => ?_
  refine Along.ctl.bind fun c => ?_
  have last : Emits E (do publish; pure (.ok ()) : Act Outcome) :=
    Along.bind (publish_emits hE) fun _ => Along.pure _
  dsimp only
  exact Along.ite (fun _ => Along.bind (disableSessions_emits hE.toLocal _) fun _ => last)
    fun _ => Along.bind (turnSwitch_emits hE.toLocal _ _) fun _ => last

/-! ## The pilot -/

theorem pilotChanged_emits (old next : PilotState) : Emits E (pilotChanged old next) := by
  unfold pilotChanged
  refine Along.ctl.bind fun c => ?_
  dsimp only
  refine Along.ite (fun _ => Along.pure _) fun _ => ?_
  refine Along.bind (Emits.modifyCtl fun _ => rfl) fun _ => ?_
  refine Along.bind (Emits.observe _) fun _ => ?_
  refine Along.bind (Emits.note hE.toLocal _ _) fun _ => ?_
  have last : Emits E publish := publish_emits hE
  split
  · refine Along.ctl.bind fun c => Along.ite (fun _ => ?_) fun _ => last
    refine Along.bind (Emits.note hE.toLocal _ _) fun _ => ?_
    refine Along.bind (stopSession_emits hE.toLocal _) fun r => ?_
    exact Along.bind (noteFailure_emits hE.toLocal _ _ r) fun _ => last
  · refine Along.bind (Emits.note hE.toLocal _ _) fun _ => ?_
    refine Along.bind (reportFault_emits hE.toLocal _ _) fun _ => ?_
    refine Along.bind (setRelay_emits hE.toLocal _) fun r => ?_
    refine Along.bind (noteFailure_emits hE.toLocal _ _ r) fun _ => ?_
    refine Along.bind (request_emits hE.toLocal _ _) fun r => ?_
    exact Along.bind (noteFailure_emits hE.toLocal _ _ r) fun _ => last
  · exact last

theorem pilotEvents_emits (evs : List Pilot.Event) : Emits E (pilotEvents evs) := by
  induction evs with
  | nil => exact Along.pure _
  | cons e rest ih =>
    cases e with
    | change old next => exact Along.bind (pilotChanged_emits hE old next) fun _ => ih
    | note severity text => exact Along.bind (Emits.emit (hE.note _ _ _)) fun _ => ih

theorem withPilot_emits {α : Type} (dflt : α)
    (f : Pilot.Monitor → Pilot.Monitor × List Pilot.Event × α) : Emits E (withPilot dflt f) := by
  unfold withPilot
  refine Along.ctl.bind fun c => ?_
  split
  · exact Along.pure _
  · refine Along.bind (Emits.modifyCtl fun _ => rfl) fun _ => ?_
    exact Along.bind (pilotEvents_emits hE _) fun _ => Along.pure _

theorem pilotStart_emits : Emits E pilotStart := by
  unfold pilotStart
  refine Along.bind (withPilot_emits hE _ _) fun r => ?_
  split <;> exact Along.pure _

/-! ## Steps that publish or talk to the transport -/

theorem tick_emits (hs : ∀ bytes ok, E (.send bytes ok)) : Emits E tick := by
  unfold tick
  refine Along.ctl.bind fun c => Along.ite (fun _ => Along.pure _) fun _ => ?_
  refine Along.bind (watchdog_emits hE.toLocal) fun _ => ?_
  refine Along.bind (refreshLeds_emits hE.toLocal) fun _ => ?_
  refine Along.bind (sendStatus_emits hE.toLocal hs) fun r => ?_
  exact Along.bind (publish_emits hE) fun _ => Along.pure _

theorem handleMessage_emits (hs : ∀ bytes ok, E (.send bytes ok)) (bytes : List UInt8) :
    Emits E (handleMessage bytes) := by
  unfold handleMessage
  have ignored (text : String) : Emits E (do note .debug text; pure (.ok ()) : Act Outcome) :=
    Along.bind (Emits.note hE.toLocal _ _) fun _ => Along.pure _
  refine Along.ite (fun _ => ?_) fun _ => ?_
  · refine Along.ctl.bind fun c => ?_
    dsimp only
    split
    · exact Along.ite (fun _ => Along.bind (withPilot_emits hE _ _) fun _ => Along.pure _)
        fun _ => ignored _
    · exact ignored _
  split
  · exact Along.bind (Emits.observe _) fun _ =>
      Along.bind (noteMalformed_emits hE.toLocal _) fun _ => Along.pure _
  · refine Along.ctl.bind fun c => Along.ite (fun _ => Along.pure _) fun _ => ?_
    refine Along.bind (peerHeard_emits hE.toLocal) fun _ => ?_
    refine Along.bind (applyPeer_emits hE.toLocal _ _) fun changed => ?_
    refine Along.ite (fun _ => ?_) fun _ => Along.pure _
    refine Along.bind (sendStatus_emits hE.toLocal hs) fun r => ?_
    exact Along.bind (noteFailure_emits hE.toLocal _ _ r) fun _ =>
      Along.bind (publish_emits hE) fun _ => Along.pure _
  · exact ignored _

theorem startUp_emits (hc : ∀ ok, E (.connect ok)) : Emits E startUp := by
  unfold startUp
  refine Along.ctl.bind fun c => ?_
  refine Along.bind (Emits.note hE.toLocal _ _) fun _ => ?_
  refine Along.bind (setRelay_emits hE.toLocal _) fun r => ?_
  split
  · exact Along.pure _
  · refine Along.read.bind fun q => ?_
    refine Along.bind (Emits.modifyCtl fun _ => rfl) fun _ => ?_
    refine Along.bind (refreshLeds_emits hE.toLocal) fun _ => ?_
    refine Along.read.bind fun q => ?_
    refine Along.bind (Emits.emit (hc _)) fun _ => ?_
    split
    · exact Along.pure _
    · refine Along.bind (withPilot_emits hE _ _) fun r => ?_
      split
      · exact Along.pure _
      · exact Along.bind (Emits.note hE.toLocal _ _) fun _ => Along.pure _

theorem shutdown_emits (hd : E .disconnect) : Emits E shutdown := by
  unfold shutdown
  refine Along.ctl.bind fun c => Along.ite (fun _ => Along.pure _) fun _ => ?_
  refine Along.bind (Emits.modifyCtl fun _ => rfl) fun _ => ?_
  refine Along.bind (Emits.note hE.toLocal _ _) fun _ => ?_
  refine Along.bind (withPilot_emits hE _ _) fun _ => ?_
  refine Along.bind (Emits.emit hd) fun _ => ?_
  have final : Emits E (do
      forceRelayOff
      publish
      note .info "Session controller shut down, relay off") :=
    Along.bind (forceRelayOff_emits hE.toLocal) fun _ =>
      Along.bind (publish_emits hE) fun _ => Emits.note hE.toLocal _ _
  have stop : Emits E (do
      if (← ctl).machine.state.isActive then
        noteFailure .warn "Failed to stop charging on shutdown" (← request .stopCharging "shutdown")
      forceRelayOff
      publish
      note .info "Session controller shut down, relay off") := by
    refine Along.ctl.bind fun c => ?_
    dsimp only
    refine Along.ite (fun _ => ?_) fun _ => final
    refine Along.bind (request_emits hE.toLocal _ _) fun r => ?_
    exact Along.bind (noteFailure_emits hE.toLocal _ _ r) fun _ => final
  refine Along.read.bind fun q => ?_
  dsimp only
  split
  · exact Along.bind (Emits.note hE.toLocal _ _) fun _ => stop
  · exact stop

/-- What a run of the loop does after its tick: a tick that failed is noted, then a cancel
answers and a shutdown shuts down. -/
theorem runTail_emits (hd : E .disconnect) (stop : RunEnd) (r : Outcome) :
    Emits E (do
      if let .error e := r then note .debug s!"Tick: {e.message}"
      match stop with
      | .cancel => pure (.error (.plant "context canceled"))
      | .shutdown => do shutdown; pure (.ok ()) : Act Outcome) := by
  dsimp only
  cases stop with
  | cancel =>
    split
    · exact Along.bind (Emits.note hE.toLocal _ _) fun _ => Along.pure _
    · exact Along.pure _
  | shutdown =>
    have last : Emits E (do shutdown; pure (.ok ()) : Act Outcome) :=
      Along.bind (shutdown_emits hE hd) fun _ => Along.pure _
    split
    · exact Along.bind (Emits.note hE.toLocal _ _) fun _ => last
    · exact last

theorem run_emits (hs : ∀ bytes ok, E (.send bytes ok)) (hd : E .disconnect) (stop : RunEnd) :
    Emits E (run stop) := by
  unfold run
  refine Along.ctl.bind fun c => Along.ite (fun _ => Along.pure _) fun _ => ?_
  exact Along.bind (tick_emits hE hs) fun r => runTail_emits hE hd stop r

/-- Every action an input starts writes only effects of a kind that holds of the ambient ones and
of every send, opening and closing of the transport. -/
theorem Input.act_emits (hs : ∀ bytes ok, E (.send bytes ok)) (hc : ∀ ok, E (.connect ok))
    (hd : E .disconnect) (i : Input) : Emits E i.act := by
  cases i with
  | startUp => exact startUp_emits hE hc
  | startCharging => exact startCharging_emits hE.toLocal
  | stopCharging => exact stopCharging_emits hE.toLocal
  | pauseCharging => exact pauseCharging_emits hE.toLocal
  | resumeCharging => exact resumeCharging_emits hE.toLocal
  | reset => exact reset_emits hE.toLocal
  | enable => exact Along.bind (turnSwitch_emits hE.toLocal _ _) fun _ => Along.pure _
  | disable => exact Along.bind (disableSessions_emits hE.toLocal _) fun _ => Along.pure _
  | relay on => exact switchRelay_emits hE.toLocal on
  | command text => exact command_emits hE.toLocal text
  | button channel pressed => exact button_emits hE channel pressed
  | tick => exact tick_emits hE hs
  | message bytes => exact handleMessage_emits hE hs bytes
  | pilotStart => exact pilotStart_emits hE
  | pilotStop | pilotSample _ _ => exact Along.bind (withPilot_emits hE _ _) fun _ => Along.pure _
  | shutdown => exact Along.bind (shutdown_emits hE hd) fun _ => Along.pure _
  | run stop => exact run_emits hE hs hd stop

end Ambient

end Evse.Control
