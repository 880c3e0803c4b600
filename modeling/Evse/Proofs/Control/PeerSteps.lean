import Evse.Proofs.Control.Operations
/-!
The peer's state envelopes at rest.
-/
namespace Evse

/-- Only a datagram as long as a state envelope decodes as one. -/
theorem Wire.Message.decode_stateEnvelope_length {b : Wire.Bytes} {s : Wire.StateReport}
    {h : Wire.Hardware} (hd : Wire.Message.decode b = .ok (.stateEnvelope s h)) :
    Wire.stateSize + Wire.hardwareSize ≤ b.length := by
  unfold Wire.Message.decode at hd
  split at hd
  · cases hd
  dsimp only at hd
  split at hd
  · cases hd
  next want m hl =>
    split at hd
    · cases hd
    next hlen =>
      unfold Wire.Message.layout at hl
      split at hl <;> cases hl <;> cases hd
      omega

/-- A state envelope is no pilot message. -/
theorem Wire.Message.decode_stateEnvelope_isMessage {b : Wire.Bytes} {s : Wire.StateReport}
    {h : Wire.Hardware} (hd : Wire.Message.decode b = .ok (.stateEnvelope s h)) :
    PilotState.isMessage b = false := by
  have hl := decode_stateEnvelope_length hd
  unfold PilotState.isMessage
  split
  · simp [Wire.stateSize, Wire.hardwareSize] at hl
  · rfl

namespace Control

open ChargingState

/-- The moves the peer's intent may make. -/
def intentMoves : ChargingState → List Move
  | .idle | .stop => [.stop]
  | .charging => [.start]
  | _ => []

theorem intentMoves_subset (intent : ChargingState) : intentMoves intent ⊆ [.stop, .start] := by
  cases intent <;> simp [intentMoves]

/-- Whether the controller takes the peer's charging intent: the relay on, sessions enabled, the
machine idle, and armed by an accepted ready. -/
def Controller.takesCharging (c : Controller) : Bool :=
  c.relayEnabled && c.sessionEnabled && c.machine.state == idle && c.peerReady

theorem applyIntent_inert (intent : ChargingState) : Inert (applyIntent intent) := by
  unfold applyIntent
  refine Along.ctl.bind fun c => ?_
  refine Along.bind (Inert.modifyCtl (fun _ => rfl) fun _ => rfl) fun _ => ?_
  have rejected (intent : ChargingState) (why : String) : Inert (rejectPeer intent why) :=
    Inert.of_calm (rejectPeer_calm _ _)
  split
  · exact returnToIdle_inert _
  · refine Along.ite (fun _ => rejected _ _) fun _ => Along.ite (fun _ => rejected _ _) fun _ => ?_
    exact Along.bind (Inert.modifyCtl (fun _ => rfl) fun _ => rfl) fun _ =>
      Inert.of_calm (Calm.note (by decide))
  · refine Along.ite (fun _ => Along.pure _) fun _ => Along.ite (fun _ => rejected _ _) fun _ => ?_
    refine Along.ite (fun _ => rejected _ _) fun _ => Along.ite (fun _ => rejected _ _) fun _ => ?_
    exact Along.bind (request_inert _ _) fun r => Inert.of_calm (noteFailure_calm (by decide) _ r)
  · refine Along.ite (fun _ => ?_) fun _ => Along.pure _
    exact Along.bind (request_inert _ _) fun r => Inert.of_calm (noteFailure_calm (by decide) _ r)
  · exact Inert.of_calm (Calm.note_of_ne_info (by decide))

/-- Landing, followed by a run of an action that moves by fewer kinds of moves. -/
theorem Lands.then {p : Plant} (hp : p.Agreeable) {ms ms' : List Move} {α : Type} {x : Act α}
    {w₀ w : World} (h : Lands ms w₀ w) (hx : Steps ms' x) (hsub : ms' ⊆ ms) :
    Lands ms w₀ (exec x p w).2 :=
  h.trans ((hx.run hp h.rests).lands.mono hsub)

/-- On an agreeable plant, a peer intent acted on from a resting world lands at rest by the
intent's moves and keeps the peer's view; afterwards charging is armed exactly when the intent
is a ready accepted with the relay on and the machine idle. -/
theorem applyIntent_lands {p : Plant} (hp : p.Agreeable) (intent : ChargingState) {w : World}
    (hw : Rests w) :
    Lands (intentMoves intent) w (exec (applyIntent intent) p w).2 ∧
      (exec (applyIntent intent) p w).2.ctl.peer = w.ctl.peer ∧
      (exec (applyIntent intent) p w).2.ctl.peerReady =
        (intent == .ready && w.ctl.relayEnabled && w.ctl.machine.state == .idle) := by
  unfold applyIntent
  rw [exec_ctl_bind]
  simp only [exec_bind, exec_modifyCtl]
  have hw₁ : Rests { w with ctl := { w.ctl with peerReady := false } } :=
    hw.of_fields rfl rfl rfl
  have done {ms : List Move} (hms : ms ⊆ intentMoves intent) {w' : World}
      (h : Stepped ms { w with ctl := { w.ctl with peerReady := false } } w')
      (harm : (intent == .ready && w.ctl.relayEnabled && w.ctl.machine.state == .idle) = false) :
      Lands (intentMoves intent) w w' ∧ w'.ctl.peer = w.ctl.peer ∧
        w'.ctl.peerReady =
          (intent == .ready && w.ctl.relayEnabled && w.ctl.machine.state == .idle) :=
    ⟨⟨h.rests, h.moves.mono hms⟩, h.peer, h.armed.trans harm.symm⟩
  have rejected (why : String) :
      Stepped [] { w with ctl := { w.ctl with peerReady := false } }
        (exec (rejectPeer intent why) p { w with ctl := { w.ctl with peerReady := false } }).2 :=
    (Steps.of_calm (rejectPeer_calm _ _)).run hp hw₁
  have noted (text : String) :
      Stepped [] { w with ctl := { w.ctl with peerReady := false } }
        (exec (note .debug text) p { w with ctl := { w.ctl with peerReady := false } }).2 :=
    (Steps.of_calm (Calm.note_of_ne_info (by decide))).run hp hw₁
  cases intent with
  | idle => exact done (List.Subset.refl _) ((returnToIdle_steps _).run hp hw₁) rfl
  | ready =>
    dsimp only
    split
    · exact done (List.nil_subset _) (rejected _) (by simp_all)
    split
    · exact done (List.nil_subset _) (rejected _) (by simp_all)
    · simp only [exec_bind, exec_modifyCtl, exec_note]
      refine ⟨⟨⟨⟨hw.ctl.rests, hw.ctl.enabled, hw.ctl.latched⟩, ?_⟩, .refl⟩, trivial, by simp_all⟩
      exact hw.offFree.append (by simp [OffFree])
  | charging =>
    dsimp only
    split
    · exact done (List.nil_subset _) (Stepped.refl hw₁) rfl
    split
    · exact done (List.nil_subset _) (rejected _) rfl
    split
    · exact done (List.nil_subset _) (rejected _) rfl
    split
    · exact done (List.nil_subset _) (rejected _) rfl
    next he =>
    rw [exec_bind]
    exact done (List.Subset.refl _) ((request_start_stepped hp _ hw₁ (by simpa using he)).calm
      (noteFailure_calm (by decide) _ _) p) rfl
  | stop =>
    have hx : Steps [.stop] (if (w.ctl.machine.state == charging) = true then do
        noteFailure .error "Failed to stop charging for peer" (← request .stopCharging "peer stop")
        else pure ()) :=
      Along.ite (fun _ => Along.bind (request_stop_steps _) fun r =>
        Steps.of_calm (noteFailure_calm (by decide) _ r)) fun _ => Along.pure _
    exact done (List.Subset.refl _) (hx.run hp hw₁) rfl
  | _ => exact done (List.nil_subset _) (noted _) rfl

/-- A charging intent moves the machine exactly when the controller takes it: then the machine
walks from idle through connected, identification and ready into charging, and every other
listener is told of each step; otherwise the machine stays where it was. -/
theorem applyIntent_charging {p : Plant} (hp : p.Agreeable) (w : World) :
    (w.ctl.takesCharging = true →
      (exec (applyIntent .charging) p w).2.ctl.machine.state = charging ∧
        Grows (walkNotices w.ctl.ownListener w.ctl.machine.listeners "peer charging" idle
          [connected, identification, ready, charging]) w (exec (applyIntent .charging) p w).2) ∧
    (w.ctl.takesCharging = false →
      (exec (applyIntent .charging) p w).2.ctl.machine.state = w.ctl.machine.state) := by
  have start : ∀ w₁ : World, w₁.ctl.machine.state = idle →
      w₁.ctl.ownListener = w.ctl.ownListener →
      w₁.ctl.machine.listeners = w.ctl.machine.listeners → w₁.trace = w.trace →
      (exec (request .startCharging "peer charging" >>= fun r =>
          noteFailure .error "Failed to start charging for peer" r) p w₁).2.ctl.machine.state =
          charging ∧
        Grows (walkNotices w.ctl.ownListener w.ctl.machine.listeners "peer charging" idle
          [connected, identification, ready, charging]) w
          (exec (request .startCharging "peer charging" >>= fun r =>
            noteFailure .error "Failed to start charging for peer" r) p w₁).2 := by
    intro w₁ hi ho hl ht
    have hroute : Request.startCharging.route w₁.ctl.machine.state =
        .ok [connected, identification, ready, charging] := by
      rw [hi]; rfl
    obtain ⟨hr, -, hm, seg, hseg, hq, hn⟩ := request_lands hp hroute "peer charging"
    rw [exec_bind, hr]
    refine ⟨congrArg Machine.state hm, seg, ?_, hq, ?_⟩
    · rw [← ht]
      exact hseg
    · rw [hn, hi, ho, hl]
  unfold applyIntent
  rw [exec_ctl_bind]
  simp only [exec_bind, exec_modifyCtl]
  constructor
  · intro ht
    simp only [Controller.takesCharging, Bool.and_eq_true, beq_iff_eq] at ht
    obtain ⟨⟨⟨hrel, he⟩, hi⟩, harm⟩ := ht
    split
    · next hc => simp [hi] at hc
    split
    · next h => simp [hrel] at h
    split
    · next h => simp [hi, harm] at h
    split
    · next h => simp [he] at h
    exact start _ hi rfl rfl rfl
  · intro hf
    split
    · rfl
    split
    · exact congrArg Machine.state ((rejectPeer_calm _ _).settled p _).2.1
    split
    · exact congrArg Machine.state ((rejectPeer_calm _ _).settled p _).2.1
    split
    · exact congrArg Machine.state ((rejectPeer_calm _ _).settled p _).2.1
    · next hc hrel hseq he =>
      simp only [Controller.takesCharging] at hf
      simp_all

/-- Following the peer's state: a change is acted on as an intent, the same state is not. -/
theorem followIntent_lands {p : Plant} (hp : p.Agreeable) (prev next : ChargingState) {w : World}
    (hw : Rests w) :
    Lands (intentMoves next) w (exec (followIntent prev next) p w).2 ∧
      (exec (followIntent prev next) p w).2.ctl.peer = w.ctl.peer ∧
      (exec (followIntent prev next) p w).2.ctl.peerReady =
        if next = prev then w.ctl.peerReady
        else (next == .ready && w.ctl.relayEnabled && w.ctl.machine.state == .idle) := by
  unfold followIntent
  split
  · next hne =>
    have hn : next ≠ prev := by simpa using hne
    simp only [exec_bind, exec_note]
    have hr : Rests { w with trace := w.trace ++ [.note .info "Controller"
        s!"Peer state {prev.name} -> {next.name}"] } :=
      hw.settled (Settled.emit ⟨by simp [Effect.switch?, toString_string], rfl⟩ rfl)
    obtain ⟨hl, hpeer, harm⟩ := applyIntent_lands hp next hr
    exact ⟨⟨hl.rests, hl.moves⟩, hpeer, by rw [harm, if_neg hn]⟩
  · next heq =>
    have hn : next = prev := by simpa using heq
    exact ⟨⟨hw, .refl⟩, rfl, by rw [if_pos hn]; rfl⟩

/-- A state envelope applied from a resting world on an agreeable plant lands at rest with the
envelope's view of the peer, arming only by a ready just accepted or kept. -/
theorem applyPeer_lands {p : Plant} (hp : p.Agreeable) (s : Wire.StateReport)
    (h : Wire.Hardware) {w : World} (hw : Rests w) :
    Lands [.stop, .start] w (exec (applyPeer s h) p w).2 ∧
      (exec (applyPeer s h) p w).2.ctl.peer =
        ⟨h.sourceEnable, (exec (peerState s.state w.ctl.peer.state) p w).1, h.mainContactor⟩ ∧
      ((exec (applyPeer s h) p w).2.ctl.peerReady = true →
        (exec (peerState s.state w.ctl.peer.state) p w).1 = ready ∨
          (w.ctl.peerReady = true ∧
            (exec (peerState s.state w.ctl.peer.state) p w).1 = w.ctl.peer.state)) := by
  unfold applyPeer
  rw [exec_ctl_bind, exec_bind]
  dsimp only
  generalize (exec (peerState s.state w.ctl.peer.state) p w).1 = st
  have h₁ : Stepped [] w (exec (peerState s.state w.ctl.peer.state) p w).2 :=
    (peerState_foot _ _).steps.run hp hw
  let Kept : World → Prop := fun w' =>
    Lands [.stop, .start] w w' ∧ w'.ctl.peer = w.ctl.peer ∧ w'.ctl.peerReady = w.ctl.peerReady
  let Armed : World → Prop := fun w' =>
    Lands [.stop, .start] w w' ∧ w'.ctl.peer = w.ctl.peer ∧
      (w'.ctl.peerReady = true → st = ready ∨ (w.ctl.peerReady = true ∧ st = w.ctl.peer.state))
  have enable : Triple p Kept (followEnable w.ctl.peer.enable h.sourceEnable) Kept := fun w' h' =>
    have hs := (followEnable_steps _ _).run hp h'.1.rests
    ⟨h'.1.trans (hs.lands.mono (by simp)), hs.peer.trans h'.2.1, hs.armed.trans h'.2.2⟩
  have intent : Triple p Kept (followIntent w.ctl.peer.state st) Armed := fun w' h' => by
    obtain ⟨hl, hpeer, harm⟩ := followIntent_lands hp w.ctl.peer.state st h'.1.rests
    refine ⟨h'.1.trans (hl.mono (intentMoves_subset st)), hpeer.trans h'.2.1, fun hr => ?_⟩
    rw [harm] at hr
    by_cases hs : st = w.ctl.peer.state
    · rw [if_pos hs] at hr
      exact .inr ⟨h'.2.2 ▸ hr, hs⟩
    · rw [if_neg hs] at hr
      simp only [Bool.and_eq_true, beq_iff_eq] at hr
      exact .inl hr.1.1
  have contactor : Triple p Armed (followContactor w.ctl.peer.contactor h.mainContactor) Armed :=
    fun w' h' =>
      have hs := (followContactor_steps _ _ : Steps [] _).run hp h'.1.rests
      ⟨h'.1.trans (hs.lands.mono (List.nil_subset _)), hs.peer.trans h'.2.1,
        fun hr => h'.2.2 (hs.armed ▸ hr)⟩
  let Post : World → Prop := fun w' =>
    Lands [.stop, .start] w w' ∧ w'.ctl.peer = ⟨h.sourceEnable, st, h.mainContactor⟩ ∧
      (w'.ctl.peerReady = true → st = ready ∨ (w.ctl.peerReady = true ∧ st = w.ctl.peer.state))
  refine (?_ : Triple p Kept _ Post) _ ⟨h₁.lands.mono (List.nil_subset _), h₁.peer, h₁.armed⟩
  refine Triple.bind enable fun _ => Triple.bind intent fun _ => Triple.bind contactor fun _ => ?_
  have view : Triple p Armed (modifyCtl fun c => { c with peer := ⟨h.sourceEnable, st,
      h.mainContactor⟩ }) Post :=
    fun w' h' => ⟨⟨h'.1.rests.of_fields rfl rfl rfl, h'.1.moves⟩, rfl, h'.2.2⟩
  exact Triple.bind view fun _ _ h' => h'

/-- The moves a datagram may make: a pilot message those of a band change of the monitor, any
other datagram stops and starts. -/
def messageMoves (bytes : List UInt8) : List Move :=
  if PilotState.isMessage bytes then [.stop, .fail] else [.stop, .start]

/-- A datagram that is no state envelope for a running controller keeps what the controller saw
of its peer; a pilot message moves the machine only as a band change of a remote monitor does,
and any other datagram does not move it. -/
theorem handleMessage_other {p : Plant} (hp : p.Agreeable) (bytes : List UInt8) {w : World}
    (hw : Rests w)
    (hne : ¬∃ s h, Wire.Message.decode bytes = .ok (.stateEnvelope s h) ∧
      w.ctl.shutDown = false) :
    Stepped (if PilotState.isMessage bytes then [.stop, .fail] else []) w
      (exec (handleMessage bytes) p w).2 := by
  have ignored {ms : List Move} (text : String) :
      Steps ms (do note .debug text; pure (.ok ()) : Act Outcome) :=
    Along.bind (Steps.of_calm (Calm.note_of_ne_info (by decide))) fun _ => Along.pure _
  unfold handleMessage
  by_cases hcp : PilotState.isMessage bytes = true
  · rw [if_pos hcp, if_pos hcp]
    refine (?_ : Steps [.stop, .fail] _).run hp hw
    refine Along.ctl.bind fun c => ?_
    dsimp only
    split
    · exact Along.ite (fun _ => Along.bind (withPilot_foot _ _ fun _ => eventMoves_subset _).steps
        fun _ => Along.pure _) fun _ => ignored _
    · exact ignored _
  rw [if_neg hcp, if_neg hcp]
  split
  · refine (?_ : Steps [] _).run hp hw
    exact Along.bind (Steps.of_calm (Calm.observe _)) fun _ =>
      Along.bind (Steps.of_calm (noteMalformed_calm _)) fun _ => Along.pure _
  · next s h hd =>
    -- an envelope comes this far only to a controller shut down, which refuses it
    have hsd : w.ctl.shutDown = true := by
      cases hsd : w.ctl.shutDown with
      | false => exact absurd ⟨s, h, hd, hsd⟩ hne
      | true => rfl
    rw [exec_ctl_bind, if_pos hsd]
    exact Stepped.refl hw
  · exact (ignored _).run hp hw

/-- A state envelope for a running controller: the peer is heard, the envelope applied, and the
answer to a change is calm. -/
theorem handleMessage_envelope_settled {bytes : List UInt8} {s : Wire.StateReport}
    {h : Wire.Hardware} (hd : Wire.Message.decode bytes = .ok (.stateEnvelope s h)) (p : Plant)
    {w : World} (hsd : w.ctl.shutDown = false) :
    Settled (exec (applyPeer s h) p (exec peerHeard p w).2).2
      (exec (handleMessage bytes) p w).2 := by
  have hm := Wire.Message.decode_stateEnvelope_isMessage hd
  unfold handleMessage
  rw [if_neg (by rw [hm]; decide)]
  simp only [hd]
  rw [exec_ctl_bind, if_neg (by rw [hsd]; decide), exec_bind, exec_bind]
  refine Calm.settled ?_ p _
  refine Along.ite (fun _ => ?_) fun _ => Along.pure _
  refine Along.bind sendStatus_calm fun r => ?_
  refine Along.bind (noteFailure_calm (by decide) _ r) fun _ => ?_
  exact Along.bind publish_calm fun _ => Along.pure _

/-- A datagram taken from a resting world on an agreeable plant lands at rest: a pilot message
moves the machine only as a band change of a remote monitor does, a state envelope by stops and
starts, and anything else not at all. -/
theorem handleMessage_lands {p : Plant} (hp : p.Agreeable) (bytes : List UInt8) {w : World}
    (hw : Rests w) : Lands (messageMoves bytes) w (exec (handleMessage bytes) p w).2 := by
  by_cases he : ∃ s h, Wire.Message.decode bytes = .ok (.stateEnvelope s h) ∧
      w.ctl.shutDown = false
  · obtain ⟨s, h, hd, hsd⟩ := he
    have h₁ := (peerHeard_foot : Foot [] _).steps.run hp hw
    have h₂ := (applyPeer_lands hp s h h₁.rests).1
    have hs := handleMessage_envelope_settled hd p hsd
    rw [messageMoves, if_neg (by rw [Wire.Message.decode_stateEnvelope_isMessage hd]; decide)]
    refine (h₁.lands.mono (List.nil_subset _)).trans ⟨h₂.rests.settled hs, ?_⟩
    rw [hs.2.1]
    exact h₂.moves
  · refine (handleMessage_other hp bytes hw he).lands.mono ?_
    unfold messageMoves
    split <;> simp

end Control

end Evse
