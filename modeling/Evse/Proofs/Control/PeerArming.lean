import Evse.Proofs.Control.RestStates
/-!
How the peer arms charging, and the datagrams that move the machine into charging.
-/
namespace Evse

theorem ChargingState.ofCode?_eq_some {c : UInt8} {s : ChargingState}
    (h : ChargingState.ofCode? c = some s) : c = s.code := by
  unfold ChargingState.ofCode? at h
  have hs := List.find?_some h
  exact (beq_iff_eq.mp hs).symm

/-- A byte beyond the code of error names no state. -/
theorem ChargingState.ofCode?_eq_none {c : UInt8} (h : 8 < c) :
    ChargingState.ofCode? c = none := by
  cases hc : ChargingState.ofCode? c with
  | none => rfl
  | some s =>
    have hs := ChargingState.ofCode?_eq_some hc
    subst hs
    cases s <;> revert h <;> decide

namespace Control

open ChargingState

/-! ## Segments that tell no listener -/

/-- `w'` follows `w` with its trace grown by a segment that tells the listeners of exactly the
steps `ns`. -/
def Told (ns : List Notice) (w w' : World) : Prop :=
  ∃ seg, w'.trace = w.trace ++ seg ∧ seg.filterMap Effect.notice? = ns

theorem Told.trans {ns₁ ns₂ : List Notice} {w₁ w₂ w₃ : World} (h₁ : Told ns₁ w₁ w₂)
    (h₂ : Told ns₂ w₂ w₃) : Told (ns₁ ++ ns₂) w₁ w₃ := by
  obtain ⟨s₁, ht₁, hn₁⟩ := h₁
  obtain ⟨s₂, ht₂, hn₂⟩ := h₂
  exact ⟨s₁ ++ s₂, by rw [ht₂, ht₁, List.append_assoc], by rw [List.filterMap_append, hn₁, hn₂]⟩

theorem Grows.told {ns : List Notice} {w w' : World} (h : Grows ns w w') : Told ns w w' :=
  let ⟨seg, ht, _, hn⟩ := h
  ⟨seg, ht, hn⟩

/-- `w'` follows `w` with the machine state and the arming kept, and no listener told of a
step. -/
def Hushed (w w' : World) : Prop :=
  w'.ctl.machine.state = w.ctl.machine.state ∧ w'.ctl.peerReady = w.ctl.peerReady ∧
    Told [] w w'

theorem Hushed.refl (w : World) : Hushed w w := ⟨rfl, rfl, [], by simp, rfl⟩

theorem Hushed.trans {w₁ w₂ w₃ : World} (h₁ : Hushed w₁ w₂) (h₂ : Hushed w₂ w₃) :
    Hushed w₁ w₃ :=
  ⟨h₂.1.trans h₁.1, h₂.2.1.trans h₁.2.1, h₁.2.2.trans h₂.2.2⟩

theorem Settled.hushed {w w' : World} (h : Settled w w') : Hushed w w' :=
  ⟨congrArg Machine.state h.2.1, congrArg Core.peerReady h.1, h.2.2.told⟩

/-- An action that, on every plant, keeps the machine state and the arming and tells no listener
of a step. -/
abbrev Hushes {α : Type} (x : Act α) : Prop := Along (fun _ => True) (fun _ => Hushed) x

namespace Hushes

variable {α : Type} {x : Act α}

theorem hushed (h : Hushes x) (p : Plant) (w : World) : Hushed w (exec x p w).2 :=
  h p trivial w w (Hushed.refl w)

theorem of_hushed (h : ∀ p w, Hushed w (exec x p w).2) : Hushes x :=
  fun p _ _ w hw => hw.trans (h p w)

theorem of_calm (h : Calm x) : Hushes x := of_hushed fun p w => (h.settled p w).hushed

end Hushes

theorem setRelay_hushes (on : Bool) : Hushes (setRelay on) :=
  Hushes.of_hushed fun p w =>
    have hw : Hushed w ⟨w.ctl.afterRelay p on,
        w.trace ++ [.write Hardware.relay on (p.writeFault Hardware.relay on 0).isNone]⟩ :=
      ⟨rfl, rfl, _, rfl, rfl⟩
    hw.trans (setRelay_spec on p w).2.hushed

theorem followContactor_hushes (prev next : Bool) : Hushes (followContactor prev next) := by
  unfold followContactor applyContactor
  refine Along.ite (fun _ => ?_) fun _ => Along.pure _
  refine Along.bind (Hushes.of_calm (Calm.note (by simp [Effect.switch?, toString_string])))
    fun _ => ?_
  refine Along.ctl.bind fun c => ?_
  refine Along.ite (fun _ => Hushes.of_calm (Calm.note_of_ne_info (by decide))) fun _ => ?_
  refine Along.ite (fun _ => ?_) fun _ => Along.pure _
  exact Along.bind (setRelay_hushes _) fun r => Hushes.of_calm (noteFailure_calm (by decide) _ r)

/-! ## An envelope's intent -/

/-- A state byte stands for the state it names, and a byte that names none for the last state
seen. -/
theorem peerState_value (code : UInt8) (last : ChargingState) (p : Plant) (w : World) :
    (exec (peerState code last) p w).1 = (ChargingState.ofCode? code).getD last := by
  unfold peerState
  split
  · next st hst => rw [hst]; rfl
  · next hst => rw [hst]; rfl

theorem exec_followIntent_same (st : ChargingState) (p : Plant) (w : World) :
    exec (followIntent st st) p w = ((), w) := by
  unfold followIntent
  rw [if_neg (by simp)]
  rfl

theorem exec_followIntent_new {prev next : ChargingState} (h : next ≠ prev) (p : Plant)
    (w : World) :
    exec (followIntent prev next) p w = exec (applyIntent next) p
      { w with trace := w.trace ++
        [.note .info "Controller" s!"Peer state {prev.name} -> {next.name}"] } := by
  unfold followIntent
  rw [if_pos (by simpa using h)]
  rfl

/-- A new charging intent moves the machine exactly when the controller takes it: then from idle
through connected, identification and ready into charging, every listener told of each step. -/
theorem followIntent_charging {p : Plant} (hp : p.Agreeable) {prev : ChargingState}
    (hnew : charging ≠ prev) (w : World) :
    (w.ctl.takesCharging = true →
      (exec (followIntent prev charging) p w).2.ctl.machine.state = charging ∧
        Told (walkNotices w.ctl.ownListener w.ctl.machine.listeners "peer charging" idle
          [connected, identification, ready, charging]) w
          (exec (followIntent prev charging) p w).2) ∧
    (w.ctl.takesCharging = false →
      (exec (followIntent prev charging) p w).2.ctl.machine.state = w.ctl.machine.state) := by
  rw [exec_followIntent_new hnew]
  obtain ⟨htake, hrefuse⟩ := applyIntent_charging hp { w with trace := w.trace ++
    [.note .info "Controller" s!"Peer state {prev.name} -> {charging.name}"] }
  refine ⟨fun ht => ?_, hrefuse⟩
  obtain ⟨hstate, hwalk⟩ := htake ht
  have hn : Told [] w { w with trace := w.trace ++
      [.note .info "Controller" s!"Peer state {prev.name} -> {charging.name}"] } :=
    ⟨_, rfl, rfl⟩
  exact ⟨hstate, hn.trans hwalk.told⟩

/-- The intent an envelope's state byte stands for, read against the last state seen, and the
world in which it is acted on: after the peer was heard, the byte read and the enable flag
followed, and before the contactor flag. -/
def envelopeIntent (p : Plant) (w : World) (s : Wire.StateReport) (h : Wire.Hardware) :
    ChargingState × World :=
  let w₁ := (exec peerHeard p w).2
  let r := exec (peerState s.state w₁.ctl.peer.state) p w₁
  (r.1, (exec (followEnable w₁.ctl.peer.enable h.sourceEnable) p r.2).2)

/-- Up to its intent an envelope moves the machine only by the stop of a disable and keeps what
the controller saw of its peer; its intent is the state its byte names, or the last state
seen. -/
theorem envelopeIntent_spec {p : Plant} (hp : p.Agreeable) {w : World} (hw : Rests w)
    (s : Wire.StateReport) (h : Wire.Hardware) :
    Stepped [.stop] w (envelopeIntent p w s h).2 ∧
      (envelopeIntent p w s h).1 = (ChargingState.ofCode? s.state).getD w.ctl.peer.state := by
  have h₁ := (peerHeard_foot : Foot [] _).steps.run hp hw
  have h₂ := (peerState_foot s.state (exec peerHeard p w).2.ctl.peer.state : Foot [] _).steps.run
    hp h₁.rests
  have h₃ := (followEnable_steps (exec peerHeard p w).2.ctl.peer.enable h.sourceEnable).run hp
    h₂.rests
  refine ⟨(h₁.mono (List.nil_subset _)).trans ((h₂.mono (List.nil_subset _)).trans h₃), ?_⟩
  show (exec (peerState s.state (exec peerHeard p w).2.ctl.peer.state) p
    (exec peerHeard p w).2).1 = _
  rw [peerState_value, h₁.peer]

/-- From an envelope's intent on, applying it keeps the machine and the arming as following the
intent left them, tells no listener of a step, and leaves the intent as the peer's state. -/
theorem applyPeer_after_intent (s : Wire.StateReport) (h : Wire.Hardware) (p : Plant)
    (w : World) :
    let r := exec (peerState s.state w.ctl.peer.state) p w
    let w₃ := (exec (followEnable w.ctl.peer.enable h.sourceEnable) p r.2).2
    Hushed (exec (followIntent w.ctl.peer.state r.1) p w₃).2 (exec (applyPeer s h) p w).2 ∧
      (exec (applyPeer s h) p w).2.ctl.peer.state = r.1 := by
  intro r w₃
  have hc := (followContactor_hushes w.ctl.peer.contactor h.mainContactor).hushed p
    (exec (followIntent w.ctl.peer.state r.1) p w₃).2
  exact ⟨⟨hc.1, hc.2.1, hc.2.2⟩, rfl⟩

/-- An envelope for a running controller, from rest: the machine and the arming end as following
the intent left them, no listener is told of a step after it, and the intent becomes the peer's
state. -/
theorem handleMessage_envelope {p : Plant} (hp : p.Agreeable) {bytes : List UInt8}
    {s : Wire.StateReport} {h : Wire.Hardware}
    (hd : Wire.Message.decode bytes = .ok (.stateEnvelope s h)) {w : World} (hw : Rests w)
    (hsd : w.ctl.shutDown = false) :
    Hushed (exec (followIntent w.ctl.peer.state (envelopeIntent p w s h).1) p
        (envelopeIntent p w s h).2).2 (exec (handleMessage bytes) p w).2 ∧
      (exec (handleMessage bytes) p w).2.ctl.peer.state = (envelopeIntent p w s h).1 := by
  have h₁ := (peerHeard_foot : Foot [] _).steps.run hp hw
  have hs := handleMessage_envelope_settled hd p hsd
  obtain ⟨hh, hpeer⟩ := applyPeer_after_intent s h p (exec peerHeard p w).2
  rw [← h₁.peer]
  exact ⟨hh.trans hs.hushed, (congrArg (fun c : Core => c.peer.state) hs.1).trans hpeer⟩

/-! ## The arming -/

/-- The arming stands on a last peer state of ready. -/
def Armed (w : World) : Prop := w.ctl.peerReady = true → w.ctl.peer.state = ready

theorem Armed.of_core {w w' : World} (h : Armed w) (hc : w'.ctl.core = w.ctl.core) : Armed w' :=
  fun hr => (congrArg (fun c : Core => c.peer.state) hc).trans
    (h ((congrArg Core.peerReady hc).symm.trans hr))

theorem Armed.stepped {ms : List Move} {w w' : World} (h : Armed w) (hs : Stepped ms w w') :
    Armed w' :=
  fun hr => (congrArg PeerView.state hs.peer).trans (h (hs.armed.symm.trans hr))

/-- Every input keeps the arming on a last peer state of ready: only a datagram changes either,
and a new intent arms only when it is ready. -/
theorem Armed.step {p : Plant} (hp : p.Agreeable) {w : World} (hw : Rests w) (ha : Armed w)
    (i : Input) : Armed (exec i.act p w).2 := by
  by_cases hm : ∃ bytes, i = .message bytes
  · obtain ⟨bytes, rfl⟩ := hm
    by_cases he : ∃ s h, Wire.Message.decode bytes = .ok (.stateEnvelope s h) ∧
        w.ctl.shutDown = false
    · obtain ⟨s, h, hd, hsd⟩ := he
      obtain ⟨⟨-, harm, -⟩, hpeer⟩ := handleMessage_envelope hp hd hw hsd
      obtain ⟨hst, -⟩ := envelopeIntent_spec hp hw s h
      obtain ⟨-, -, hfr⟩ :=
        followIntent_lands hp w.ctl.peer.state (envelopeIntent p w s h).1 hst.rests
      show Armed (exec (handleMessage bytes) p w).2
      intro hr
      rw [hpeer]
      rw [harm, hfr] at hr
      split at hr
      · next hsame => exact hsame.trans (ha (hst.armed.symm.trans hr))
      · simp only [Bool.and_eq_true, beq_iff_eq] at hr
        exact hr.1.1
    · exact ha.stepped (handleMessage_other hp bytes hw he)
  · exact ha.stepped ((Input.act_steps i fun bytes h => hm ⟨bytes, h⟩).run hp hw)

@[simp] theorem Controller.new_peerReady (settings : Settings) (pilot : Option Pilot.Monitor)
    (publishing : Bool) (metrics : Option Metrics.Book) :
    (Controller.new settings pilot publishing metrics).peerReady = false := rfl

/-- Every world a controller reaches on agreeable plants is at rest with its arming on a last
peer state of ready. -/
theorem Reachable.armed {w : World} (h : Reachable Plant.Agreeable w) : Rests w ∧ Armed w :=
  Reachable.invariant (I := fun w => Rests w ∧ Armed w)
    (fun settings pilot publishing metrics =>
      ⟨Rests.new settings pilot publishing metrics, fun hr => by simp at hr⟩)
    (fun _ hp i w hw => ⟨(i.act_lands hp hw.1).rests, hw.2.step hp hw.1 i⟩)
    (fun w hw => ⟨hw.1.relisten (by simp) (by simp), hw.2.of_core (by simp)⟩)
    (fun w id hw => ⟨hw.1.relisten (by simp) (by simp), hw.2.of_core (by simp)⟩) h

/-! ## Into charging -/

theorem Move.takes_charging {m : Move} {s : ChargingState} (h : m.Takes s charging) :
    m = .start ∨ m = .resume := by
  cases m <;> simp_all [Move.Takes]

theorem Moves.ne_charging {ms : List Move} (hst : Move.start ∉ ms) (hre : Move.resume ∉ ms)
    {s t : ChargingState} (h : Moves ms s t) (hs : s ≠ charging) : t ≠ charging :=
  h.never_enters (fun _ hm _ ht => (Move.takes_charging ht).elim (fun h => hst (h ▸ hm))
    fun h => hre (h ▸ hm)) hs

theorem intentMoves_ne_charging {intent : ChargingState} (h : intent ≠ charging) :
    Move.start ∉ intentMoves intent ∧ Move.resume ∉ intentMoves intent := by
  cases intent <;> simp_all [intentMoves]

/-- From rest, a datagram that moves the machine into charging is a state envelope for a
running controller whose state byte is charging and new, with the last peer state ready; when its
intent is acted on, the controller takes it. -/
theorem enters_charging_by_envelope {p : Plant} (hp : p.Agreeable) {w : World} (hw : Rests w)
    (ha : Armed w) (bytes : List UInt8) (hs : w.ctl.machine.state ≠ charging)
    (he : (exec (handleMessage bytes) p w).2.ctl.machine.state = charging) :
    ∃ s h, Wire.Message.decode bytes = .ok (.stateEnvelope s h) ∧ s.state = charging.code ∧
      w.ctl.peer.state ≠ charging ∧ w.ctl.peer.state = ready ∧
      (envelopeIntent p w s h).2.ctl.takesCharging = true := by
  by_cases henv : ∃ s h, Wire.Message.decode bytes = .ok (.stateEnvelope s h) ∧
      w.ctl.shutDown = false
  · obtain ⟨s, h, hd, hsd⟩ := henv
    obtain ⟨⟨hstate, -, -⟩, -⟩ := handleMessage_envelope hp hd hw hsd
    obtain ⟨hst, hval⟩ := envelopeIntent_spec hp hw s h
    have h₃ : (envelopeIntent p w s h).2.ctl.machine.state ≠ charging :=
      Moves.ne_charging (by simp) (by simp) hst.moves hs
    rw [hstate] at he
    have hl := (followIntent_lands hp w.ctl.peer.state (envelopeIntent p w s h).1 hst.rests).1
    by_cases hch : (envelopeIntent p w s h).1 = charging
    · rw [hch] at he hval
      by_cases hnew : charging = w.ctl.peer.state
      · rw [← hnew, exec_followIntent_same] at he
        exact absurd he h₃
      cases htc : (envelopeIntent p w s h).2.ctl.takesCharging
      · exact absurd (((followIntent_charging hp hnew _).2 htc).symm.trans he) h₃
      have hcode : ChargingState.ofCode? s.state = some charging := by
        cases hc : ChargingState.ofCode? s.state with
        | none => rw [hc] at hval; exact absurd hval hnew
        | some st => rw [hc, Option.getD_some] at hval; rw [hval]
      have harm : w.ctl.peerReady = true := by
        simp only [Controller.takesCharging, Bool.and_eq_true] at htc
        exact hst.armed.symm.trans htc.2
      exact ⟨s, h, hd, ChargingState.ofCode?_eq_some hcode, Ne.symm hnew, ha harm, htc⟩
    · obtain ⟨hns, hnr⟩ := intentMoves_ne_charging hch
      exact absurd he (Moves.ne_charging hns hnr hl.moves h₃)
  · have ho := handleMessage_other hp bytes hw henv
    refine absurd he (Moves.ne_charging ?_ ?_ ho.moves hs) <;> split <;> simp

/-- The converse: an envelope for a running controller whose state byte is charging and new,
taken when its intent is acted on, walks the machine from idle through connected,
identification and ready into charging, every listener told of each step. -/
theorem envelope_starts_charging {p : Plant} (hp : p.Agreeable) {bytes : List UInt8}
    {s : Wire.StateReport} {h : Wire.Hardware}
    (hd : Wire.Message.decode bytes = .ok (.stateEnvelope s h)) {w : World} (hw : Rests w)
    (hsd : w.ctl.shutDown = false) (hc : s.state = charging.code)
    (hnew : w.ctl.peer.state ≠ charging)
    (ht : (envelopeIntent p w s h).2.ctl.takesCharging = true) :
    (exec (handleMessage bytes) p w).2.ctl.machine.state = charging ∧
      Told (walkNotices (envelopeIntent p w s h).2.ctl.ownListener
        (envelopeIntent p w s h).2.ctl.machine.listeners "peer charging" idle
        [connected, identification, ready, charging]) (envelopeIntent p w s h).2
        (exec (handleMessage bytes) p w).2 := by
  obtain ⟨hh, -⟩ := handleMessage_envelope hp hd hw hsd
  obtain ⟨-, hval⟩ := envelopeIntent_spec hp hw s h
  have hst : (envelopeIntent p w s h).1 = charging := by
    rw [hval, hc, ChargingState.ofCode?_code]
    rfl
  rw [hst] at hh
  obtain ⟨hstate, hwalk⟩ := (followIntent_charging hp (Ne.symm hnew) _).1 ht
  refine ⟨hh.1.trans hstate, ?_⟩
  have htold := hwalk.trans hh.2.2
  rwa [List.append_nil] at htold

/-! ## Intents that arm and disarm -/

/-- A state byte beyond the code of error is no new intent: the peer's state and the arming
stay. -/
theorem invalid_state_keeps_intent {p : Plant} (hp : p.Agreeable) {bytes : List UInt8}
    {s : Wire.StateReport} {h : Wire.Hardware}
    (hd : Wire.Message.decode bytes = .ok (.stateEnvelope s h)) {w : World} (hw : Rests w)
    (hsd : w.ctl.shutDown = false) (hc : 8 < s.state) :
    (exec (handleMessage bytes) p w).2.ctl.peer.state = w.ctl.peer.state ∧
      (exec (handleMessage bytes) p w).2.ctl.peerReady = w.ctl.peerReady := by
  obtain ⟨hh, hpeer⟩ := handleMessage_envelope hp hd hw hsd
  obtain ⟨hst, hval⟩ := envelopeIntent_spec hp hw s h
  have hsame : (envelopeIntent p w s h).1 = w.ctl.peer.state := by
    rw [hval, ChargingState.ofCode?_eq_none hc]
    rfl
  rw [hsame, exec_followIntent_same] at hh
  exact ⟨hpeer.trans hsame, hh.2.1.trans hst.armed⟩

/-- A new intent arms exactly when it is a ready accepted with the relay on and the machine idle:
a refused ready arms nothing, and every other intent disarms. -/
theorem new_intent_arms {p : Plant} (hp : p.Agreeable) {bytes : List UInt8}
    {s : Wire.StateReport} {h : Wire.Hardware}
    (hd : Wire.Message.decode bytes = .ok (.stateEnvelope s h)) {w : World} (hw : Rests w)
    (hsd : w.ctl.shutDown = false) (hnew : (envelopeIntent p w s h).1 ≠ w.ctl.peer.state) :
    (exec (handleMessage bytes) p w).2.ctl.peerReady =
      ((envelopeIntent p w s h).1 == ready && (envelopeIntent p w s h).2.ctl.relayEnabled &&
        (envelopeIntent p w s h).2.ctl.machine.state == idle) := by
  obtain ⟨hh, -⟩ := handleMessage_envelope hp hd hw hsd
  obtain ⟨hst, -⟩ := envelopeIntent_spec hp hw s h
  obtain ⟨-, -, harm⟩ :=
    followIntent_lands hp w.ctl.peer.state (envelopeIntent p w s h).1 hst.rests
  rw [hh.2.1, harm, if_neg hnew]

/-! ## Arming charging -/

/-- On every agreeable run the arming stands on a last peer state of ready, and only a new charging
envelope acted on while armed moves the machine into charging. -/
theorem charging_armed_by_accepted_ready {w : World} (hr : Reachable Plant.Agreeable w) :
    (w.ctl.peerReady = true → w.ctl.peer.state = ready) ∧
    (∀ p bytes, p.Agreeable → w.ctl.machine.state ≠ charging →
      (step p w (.message bytes)).1.ctl.machine.state = charging →
      ∃ s h, Wire.Message.decode bytes = .ok (.stateEnvelope s h) ∧ s.state = charging.code ∧
        w.ctl.peer.state ≠ charging ∧ w.ctl.peer.state = ready ∧
        (envelopeIntent p w s h).2.ctl.takesCharging = true) ∧
    (∀ p bytes s h, p.Agreeable → Wire.Message.decode bytes = .ok (.stateEnvelope s h) →
      w.ctl.shutDown = false → s.state = charging.code → w.ctl.peer.state ≠ charging →
      (envelopeIntent p w s h).2.ctl.takesCharging = true →
      (step p w (.message bytes)).1.ctl.machine.state = charging ∧
        Told (walkNotices (envelopeIntent p w s h).2.ctl.ownListener
          (envelopeIntent p w s h).2.ctl.machine.listeners "peer charging" idle
          [connected, identification, ready, charging]) (envelopeIntent p w s h).2
          (step p w (.message bytes)).1) ∧
    (∀ p bytes s h, p.Agreeable → Wire.Message.decode bytes = .ok (.stateEnvelope s h) →
      w.ctl.shutDown = false → 8 < s.state →
      (step p w (.message bytes)).1.ctl.peer.state = w.ctl.peer.state ∧
        (step p w (.message bytes)).1.ctl.peerReady = w.ctl.peerReady) ∧
    (∀ p bytes s h, p.Agreeable → Wire.Message.decode bytes = .ok (.stateEnvelope s h) →
      w.ctl.shutDown = false → (envelopeIntent p w s h).1 ≠ w.ctl.peer.state →
      (step p w (.message bytes)).1.ctl.peerReady =
        ((envelopeIntent p w s h).1 == ready && (envelopeIntent p w s h).2.ctl.relayEnabled &&
          (envelopeIntent p w s h).2.ctl.machine.state == idle)) := by
  obtain ⟨hw, ha⟩ := hr.armed
  exact ⟨ha, fun p bytes hp hs he => enters_charging_by_envelope hp hw ha bytes hs he,
    fun p bytes s h hp hd hsd hc hnew ht => envelope_starts_charging hp hd hw hsd hc hnew ht,
    fun p bytes s h hp hd hsd hc => invalid_state_keeps_intent hp hd hw hsd hc,
    fun p bytes s h hp hd hsd hnew => new_intent_arms hp hd hw hsd hnew⟩

/-- A controller built enabled whose relay is switched on. -/
theorem charging_armed_after_relay_on :
    let w₀ : World := ⟨Controller.new ⟨2000000000, 16, true⟩ none true none, []⟩
    let w := (step (Plant.ideal ⟨0, 0⟩) w₀ (.relay true)).1
    Reachable Plant.Agreeable w ∧
      ((w.ctl.peerReady = true → w.ctl.peer.state = ready) ∧
      (∀ p bytes, p.Agreeable → w.ctl.machine.state ≠ charging →
        (step p w (.message bytes)).1.ctl.machine.state = charging →
        ∃ s h, Wire.Message.decode bytes = .ok (.stateEnvelope s h) ∧ s.state = charging.code ∧
          w.ctl.peer.state ≠ charging ∧ w.ctl.peer.state = ready ∧
          (envelopeIntent p w s h).2.ctl.takesCharging = true) ∧
      (∀ p bytes s h, p.Agreeable → Wire.Message.decode bytes = .ok (.stateEnvelope s h) →
        w.ctl.shutDown = false → s.state = charging.code → w.ctl.peer.state ≠ charging →
        (envelopeIntent p w s h).2.ctl.takesCharging = true →
        (step p w (.message bytes)).1.ctl.machine.state = charging ∧
          Told (walkNotices (envelopeIntent p w s h).2.ctl.ownListener
            (envelopeIntent p w s h).2.ctl.machine.listeners "peer charging" idle
            [connected, identification, ready, charging]) (envelopeIntent p w s h).2
            (step p w (.message bytes)).1) ∧
      (∀ p bytes s h, p.Agreeable → Wire.Message.decode bytes = .ok (.stateEnvelope s h) →
        w.ctl.shutDown = false → 8 < s.state →
        (step p w (.message bytes)).1.ctl.peer.state = w.ctl.peer.state ∧
          (step p w (.message bytes)).1.ctl.peerReady = w.ctl.peerReady) ∧
      (∀ p bytes s h, p.Agreeable → Wire.Message.decode bytes = .ok (.stateEnvelope s h) →
        w.ctl.shutDown = false → (envelopeIntent p w s h).1 ≠ w.ctl.peer.state →
        (step p w (.message bytes)).1.ctl.peerReady =
          ((envelopeIntent p w s h).1 == ready && (envelopeIntent p w s h).2.ctl.relayEnabled &&
            (envelopeIntent p w s h).2.ctl.machine.state == idle))) :=
  have h := Reachable.step _ _ (Plant.ideal_agreeable _) (Reachable.new _ _ _ _)
  ⟨h, charging_armed_by_accepted_ready h⟩

end Control

end Evse
