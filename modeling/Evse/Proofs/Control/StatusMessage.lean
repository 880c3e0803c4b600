import Evse.Proofs.Control.Transport
import Evse.Proofs.Wire.RoundTrip
import Evse.Config.Basic
/-!
What the controller sends to its peer: the status message, and when.
-/
namespace Evse.Control

/-- The datagram an effect sends to the peer, if it is a send. -/
def Effect.sent? : Effect → Option Wire.Bytes
  | .send bytes _ => some bytes
  | _ => none

/-- The datagrams a trace sends to the peer, in order, whether or not the transport took them. -/
def sent (trace : List Effect) : List Wire.Bytes := trace.filterMap Effect.sent?

@[simp] theorem sent_append (t₁ t₂ : List Effect) : sent (t₁ ++ t₂) = sent t₁ ++ sent t₂ :=
  List.filterMap_append

/-- An effect that sends nothing to the peer. -/
def Effect.Silent (e : Effect) : Prop := e.sent? = none

theorem Effect.ambient_silent : Effect.Ambient Effect.Silent :=
  ⟨⟨fun _ _ _ => rfl, fun _ _ _ => rfl, fun _ => rfl, fun _ _ _ => rfl⟩, fun _ _ => rfl⟩

theorem sent_eq_nil {seg : List Effect} (h : ∀ e ∈ seg, e.Silent) : sent seg = [] :=
  List.filterMap_eq_nil_iff.mpr h

theorem sent_notes {seg : List Effect} (h : ∀ e ∈ seg, e.isNote = true) : sent seg = [] := by
  refine sent_eq_nil fun e he => ?_
  have := h e he
  cases e <;> simp_all [Effect.isNote, Effect.Silent, Effect.sent?]

/-- A world grown by silent effects has sent what it had sent. -/
theorem Adds.sent {w w' : World} (h : Adds Effect.Silent w w') : sent w'.trace = sent w.trace := by
  obtain ⟨_, seg, ht, hs⟩ := h
  rw [ht, sent_append, sent_eq_nil hs, List.append_nil]

/-- A world grown by log notes has sent what it had sent. -/
theorem sent_of_notes {w w' : World}
    (h : ∃ seg, w'.trace = w.trace ++ seg ∧ ∀ e ∈ seg, e.isNote = true) :
    sent w'.trace = sent w.trace := by
  obtain ⟨seg, ht, hs⟩ := h
  rw [ht, sent_append, sent_notes hs, List.append_nil]

/-! ## The status message -/

/-- The status message of a controller: a fresh command envelope with the session switch as its
enable flag, identification confirmed, the demand of the machine's state, the relay as main
contactor and the current limit in tenths of an ampere. -/
theorem Controller.command_eq (c : Controller) :
    c.command = .commandEnvelope
      ⟨0, Wire.seCtrlCmd, c.sessionEnabled, true, Wire.demandFor c.machine.state.code⟩
      ⟨c.relayEnabled, 0, false, false, 0, UInt16.ofInt (c.settings.maxCurrentAmps * 10)⟩ :=
  rfl

/-- The status message reads only the settings, the session switch, the relay flag and the
machine's state. -/
theorem Controller.command_congr {c d : Controller} (hc : d.core = c.core)
    (hm : d.machine.state = c.machine.state) : d.command = c.command := by
  have hs : d.settings = c.settings := congrArg Core.settings hc
  have he : d.sessionEnabled = c.sessionEnabled := congrArg Core.sessionEnabled hc
  have hr : d.relayEnabled = c.relayEnabled := congrArg Core.relayEnabled hc
  rw [Controller.command_eq, Controller.command_eq, hs, he, hr, hm]

theorem Settled.command {w w' : World} (h : Settled w w') : w'.ctl.command = w.ctl.command :=
  Controller.command_congr h.1 (congrArg Machine.state h.2.1)

/-- Sending the status sends, once, the status message of the controller as it stands. -/
theorem sendStatus_sends (p : Plant) (w : World) :
    sent (exec sendStatus p w).2.trace = sent w.trace ++ [w.ctl.command.encode] := by
  unfold sendStatus
  rw [exec_ctl_bind]
  dsimp only
  split <;> rcases hf : p.sendFault with _ | e <;>
    simp [hf, sent, List.filterMap_cons, Effect.sent?]

/-- A tick of a running controller sends the status message once, as the watchdog leaves the
controller; a tick after shutdown sends nothing. -/
theorem tick_sends (p : Plant) (w : World) :
    sent (exec tick p w).2.trace = sent w.trace ++
      if w.ctl.shutDown then [] else [(exec watchdog p w).2.ctl.command.encode] := by
  unfold tick
  rw [exec_ctl_bind]
  split
  · simp
  · simp only [exec_bind, exec_pure]
    let w₁ := (exec watchdog p w).2
    let w₂ := (exec refreshLeds p w₁).2
    have h₁ : sent w₁.trace = sent w.trace :=
      ((watchdog_emits Effect.ambient_silent.toLocal).adds p w).sent
    have h₂ : sent w₂.trace = sent w₁.trace :=
      ((refreshLeds_emits Effect.ambient_silent.toLocal).adds p w₁).sent
    have hc : w₂.ctl.command = w₁.ctl.command := (refreshLeds_calm.settled p w₁).command
    rw [((publish_emits Effect.ambient_silent).adds p _).sent, sendStatus_sends, h₂, h₁, hc]

/-! ## A state envelope -/

/-- A view of the peer differs from another exactly when one of its three fields does. -/
theorem PeerView.bne_fields (v v' : PeerView) :
    (v'.enable != v.enable || v'.state != v.state || v'.contactor != v.contactor) =
      decide (v' ≠ v) := by
  obtain ⟨e, st, c⟩ := v
  obtain ⟨e', st', c'⟩ := v'
  by_cases he : e' = e <;> by_cases hs : st' = st <;> by_cases hc : c' = c <;> simp [he, hs, hc]

/-- An envelope answers that it changed something exactly when the view of the peer it makes is
not the view the controller had. -/
theorem applyPeer_changed (s : Wire.StateReport) (h : Wire.Hardware) (p : Plant) (w : World) :
    (exec (applyPeer s h) p w).1 = decide (w.ctl.peer.heard s h ≠ w.ctl.peer) := by
  have hval := peerState_value s.state w.ctl.peer.state p w
  unfold applyPeer
  rw [exec_ctl_bind, exec_bind]
  generalize exec (peerState s.state w.ctl.peer.state) p w = r at hval
  obtain ⟨st, w₀⟩ := r
  dsimp only at hval ⊢
  subst hval
  simp only [exec_bind, exec_modifyCtl, exec_pure]
  exact PeerView.bne_fields w.ctl.peer (w.ctl.peer.heard s h)

/-- A state envelope to a running controller sends the status message once when it changes the
controller's view of the peer, as the whole envelope leaves the controller, and nothing when it
does not. -/
theorem envelope_sends {bytes : List UInt8} {s : Wire.StateReport} {h : Wire.Hardware}
    (hd : Wire.Message.decode bytes = .ok (.stateEnvelope s h)) (p : Plant) {w : World}
    (hsd : w.ctl.shutDown = false) :
    sent (exec (handleMessage bytes) p w).2.trace =
      sent w.trace ++ if w.ctl.peer.heard s h ≠ w.ctl.peer then
        [(exec (handleMessage bytes) p w).2.ctl.command.encode] else [] := by
  have hm := Wire.Message.decode_stateEnvelope_isMessage hd
  rw [(handleMessage_envelope_settled hd p hsd).command]
  unfold handleMessage
  rw [if_neg (by rw [hm]; decide)]
  simp only [hd]
  rw [exec_ctl_bind, if_neg (by rw [hsd]; decide), exec_bind, exec_bind]
  have hpeer : (exec peerHeard p w).2.ctl.peer = w.ctl.peer := by
    rw [exec_peerHeard]
    rfl
  have hb := applyPeer_changed s h p (exec peerHeard p w).2
  rw [hpeer] at hb
  rw [hb]
  have h₁ := ((peerHeard_emits Effect.ambient_silent.toLocal).adds p w).sent
  have h₂ :=
    ((applyPeer_emits Effect.ambient_silent.toLocal s h).adds p (exec peerHeard p w).2).sent
  by_cases hc : w.ctl.peer.heard s h ≠ w.ctl.peer
  · rw [decide_eq_true hc, if_pos rfl, if_pos hc]
    simp only [exec_bind, exec_pure]
    rw [((publish_emits Effect.ambient_silent).adds p _).sent,
      ((noteFailure_emits Effect.ambient_silent.toLocal _ _ _).adds p _).sent, sendStatus_sends,
      h₂, h₁]
  · rw [decide_eq_false hc, if_neg Bool.false_ne_true, if_neg hc, exec_pure, List.append_nil, h₂,
      h₁]

/-- Whether a running controller takes the datagram as a state envelope that changes its view of
the peer. -/
def Controller.changesView (c : Controller) (bytes : List UInt8) : Bool :=
  !c.shutDown && match Wire.Message.decode bytes with
    | .ok (.stateEnvelope s h) => decide (c.peer.heard s h ≠ c.peer)
    | _ => false

/-- A datagram sends the status message once when it is a state envelope that changes the view of
the peer of a running controller, as the whole datagram leaves the controller; every other
datagram sends nothing. -/
theorem handleMessage_sends (p : Plant) (w : World) (bytes : List UInt8) :
    sent (exec (handleMessage bytes) p w).2.trace =
      sent w.trace ++ if w.ctl.changesView bytes then
        [(exec (handleMessage bytes) p w).2.ctl.command.encode] else [] := by
  cases hm : PilotState.isMessage bytes with
  | true =>
    have hv : w.ctl.changesView bytes = false := by
      unfold Controller.changesView
      split
      · next s h hd => simp [Wire.Message.decode_stateEnvelope_isMessage hd] at hm
      · simp
    rw [hv, if_neg Bool.false_ne_true, List.append_nil]
    by_cases hr : ∃ m, w.ctl.pilot = some m ∧ m.isRemote = true
    · obtain ⟨m, hp, hr⟩ := hr
      rw [pilotMessage_to_monitor hm p hp hr]
      exact ((pilotEvents_emits Effect.ambient_silent _).adds p _).sent
    · have hp : ∀ m, w.ctl.pilot = some m → m.isRemote = false := by
        intro m hpm
        simpa using fun hrm => hr ⟨m, hpm, hrm⟩
      exact sent_of_notes (pilotMessage_dropped hm p hp).2.2
  | false =>
    rcases hd : Wire.Message.decode bytes with e | msg
    · have hv : w.ctl.changesView bytes = false := by simp [Controller.changesView, hd]
      rw [hv, if_neg Bool.false_ne_true, List.append_nil]
      exact sent_of_notes (malformed_counted hm hd p w).2.notes
    · cases msg
      case stateEnvelope s h =>
        cases hsd : w.ctl.shutDown with
        | true =>
          have hv : w.ctl.changesView bytes = false := by simp [Controller.changesView, hsd]
          rw [hv, envelope_shut hd p hsd]
          simp
        | false =>
          have hv : w.ctl.changesView bytes = decide (w.ctl.peer.heard s h ≠ w.ctl.peer) := by
            simp [Controller.changesView, hsd, hd]
          rw [envelope_sends hd p hsd, hv]
          simp only [decide_eq_true_eq]
      all_goals
        have hv : w.ctl.changesView bytes = false := by simp [Controller.changesView, hd]
        rw [hv, if_neg Bool.false_ne_true, List.append_nil]
        exact sent_of_notes (ignored_unmoved hm hd (by simp) p w).2.2

/-! ## Every step and every run -/

/-- A run of the tick loop sends what its tick sends: the failure note and a shutdown that end it
are silent. -/
theorem run_sends (stop : RunEnd) (p : Plant) (w : World) :
    sent (exec (run stop) p w).2.trace = sent w.trace ++
      if w.ctl.shutDown then [] else [(exec watchdog p w).2.ctl.command.encode] := by
  unfold run
  rw [exec_ctl_bind]
  split
  · simp
  · next hsd =>
    rw [exec_bind]
    refine (Emits.adds (runTail_emits Effect.ambient_silent rfl stop _) p _).sent.trans ?_
    rw [tick_sends, if_neg hsd]

theorem Effect.ambient_any : Effect.Ambient fun _ => True :=
  ⟨⟨fun _ _ _ => trivial, fun _ _ _ => trivial, fun _ => trivial, fun _ _ _ => trivial⟩,
    fun _ _ => trivial⟩

/-- No step changes the settings. -/
theorem step_settings (p : Plant) (w : World) (i : Input) :
    (step p w i).1.ctl.settings = w.ctl.settings :=
  ((Input.act_emits Effect.ambient_any (fun _ _ => trivial) (fun _ => trivial) trivial i).adds
    p w).1

/-- The datagrams a step sends to the peer: the status message after a tick's watchdog, or after a
state envelope that changes the view of the peer. -/
def Input.sends (p : Plant) (w : World) : Input → List Wire.Bytes
  | .tick | .run _ => if w.ctl.shutDown then [] else [(exec watchdog p w).2.ctl.command.encode]
  | .message bytes =>
    if w.ctl.changesView bytes then [(exec (handleMessage bytes) p w).2.ctl.command.encode] else []
  | _ => []

theorem step_sends (p : Plant) (w : World) (i : Input) :
    sent (step p w i).1.trace = sent w.trace ++ i.sends p w := by
  have silent {x : Act Outcome} (hx : Emits Effect.Silent x) :
      sent (exec x p w).2.trace = sent w.trace ++ [] := by
    rw [List.append_nil]
    exact (hx.adds p w).sent
  have hE := Effect.ambient_silent
  rw [step_eq]
  cases i with
  | tick => exact tick_sends p w
  | run stop => exact run_sends stop p w
  | message bytes => exact handleMessage_sends p w bytes
  | startUp => exact silent (startUp_emits hE fun _ => rfl)
  | startCharging => exact silent (startCharging_emits hE.toLocal)
  | stopCharging => exact silent (stopCharging_emits hE.toLocal)
  | pauseCharging => exact silent (pauseCharging_emits hE.toLocal)
  | resumeCharging => exact silent (resumeCharging_emits hE.toLocal)
  | reset => exact silent (reset_emits hE.toLocal)
  | enable => exact silent (Along.bind (turnSwitch_emits hE.toLocal _ _) fun _ => Along.pure _)
  | disable => exact silent (Along.bind (disableSessions_emits hE.toLocal _) fun _ => Along.pure _)
  | relay on => exact silent (switchRelay_emits hE.toLocal on)
  | command text => exact silent (command_emits hE.toLocal text)
  | button channel pressed => exact silent (button_emits hE channel pressed)
  | pilotStart => exact silent (pilotStart_emits hE)
  | pilotStop | pilotSample _ _ =>
    exact silent (Along.bind (withPilot_emits hE _ _) fun _ => Along.pure _)
  | shutdown => exact silent (Along.bind (shutdown_emits hE rfl) fun _ => Along.pure _)

/-- Every datagram a step sends is the status message of a controller with the settings the step
started with. -/
theorem Input.sends_status (p : Plant) (w : World) (i : Input) :
    ∀ bytes ∈ i.sends p w,
      ∃ c : Controller, c.settings = w.ctl.settings ∧ bytes = c.command.encode := by
  intro bytes hb
  have watched : (exec watchdog p w).2.ctl.settings = w.ctl.settings :=
    ((watchdog_emits Effect.ambient_any.toLocal).adds p w).1
  cases i with
  | tick | run _ =>
    simp only [Input.sends] at hb
    split at hb
    · simp at hb
    · exact ⟨_, watched, List.mem_singleton.mp hb⟩
  | message bytes =>
    simp only [Input.sends] at hb
    split at hb
    · exact ⟨_, step_settings p w (.message bytes), List.mem_singleton.mp hb⟩
    · simp at hb
  | _ => simp [Input.sends] at hb

/-! ## Runs -/

/-- The datagrams a run of inputs sends, each step's in turn. -/
def World.sendsAlong : World → List (Plant × Input) → List Wire.Bytes
  | _, [] => []
  | w, (p, i) :: rest => i.sends p w ++ (step p w i).1.sendsAlong rest

/-- A run sends the datagrams its steps send, in order, and nothing else. -/
theorem sent_after (w : World) (run : List (Plant × Input)) :
    sent (w.after run).trace = sent w.trace ++ w.sendsAlong run := by
  induction run generalizing w with
  | nil => simp [World.after, World.sendsAlong]
  | cons head rest ih =>
    obtain ⟨p, i⟩ := head
    rw [World.after, World.sendsAlong, ih, step_sends, List.append_assoc]

/-- Every datagram a run sends is the status message of a controller with the settings the run
started with. -/
theorem sendsAlong_status (w : World) (run : List (Plant × Input)) :
    ∀ bytes ∈ w.sendsAlong run,
      ∃ c : Controller, c.settings = w.ctl.settings ∧ bytes = c.command.encode := by
  induction run generalizing w with
  | nil => simp [World.sendsAlong]
  | cons head rest ih =>
    obtain ⟨p, i⟩ := head
    intro bytes hb
    rcases List.mem_append.mp hb with hb | hb
    · exact Input.sends_status p w i bytes hb
    · obtain ⟨c, hc, rfl⟩ := ih _ bytes hb
      exact ⟨c, hc.trans (step_settings p w i), rfl⟩

/-! ## The status message on the wire -/

/-- The status message of a controller is sixteen bytes that read back as a command envelope carrying
its switch, demand, relay and current limit. -/
theorem Controller.command_reads (c : Controller) :
    c.command.encode.length = 16 ∧
      Wire.decodeCommandEnvelope c.command.encode = .ok
        (⟨0, Wire.seCtrlCmd, c.sessionEnabled, true, Wire.demandFor c.machine.state.code⟩,
         ⟨c.relayEnabled, 0, false, false, 0, UInt16.ofInt (c.settings.maxCurrentAmps * 10)⟩) := by
  rw [Controller.command_eq]
  refine ⟨rfl, ?_⟩
  unfold Wire.decodeCommandEnvelope
  rw [Wire.Message.decode_encode]
  rfl

/-- Ten times the limit, written in sixteen bits, is ten times the limit modulo 2^16. -/
theorem current_toNat (amps : Int) :
    (UInt16.ofInt (amps * 10)).toNat = (10 * amps % 65536).toNat := by
  unfold UInt16.ofInt
  have hlt : (amps * 10 % 2 ^ 16).toNat < UInt16.size := by
    show _ < 65536
    omega
  rw [UInt16.toNat_ofNat_of_lt' hlt, Int.mul_comm]
  rfl

end Evse.Control

namespace Evse.Configuration

/-- A configuration that validates has a current limit from 6 to 80 A. -/
theorem maxCurrent_of_valid {c : Config} (h : c.problems = []) :
    6 ≤ c.maxCurrent ∧ c.maxCurrent ≤ 80 := by
  by_contra hc
  -- the limit's check is the seventh of the single checks
  have hmem : Problem.maxCurrent c.maxCurrent ∈ c.problems := by
    have hout : (c.maxCurrent < 6 || c.maxCurrent > 80) = true := by
      simp only [Bool.or_eq_true, decide_eq_true_eq]
      omega
    have hcheck : Problem.maxCurrent c.maxCurrent ∈
        (if (c.maxCurrent < 6 || c.maxCurrent > 80) = true then [Problem.maxCurrent c.maxCurrent]
          else []) := by
      rw [if_pos hout]
      exact List.mem_singleton_self _
    exact List.mem_append_left _ (List.mem_append_left _
      (List.mem_append_left _ (List.mem_append_right _ hcheck)))
  simp [h] at hmem

/-- A configuration that validates offers ten times its limit, in tenths of an ampere, without
wrapping. -/
theorem current_of_valid {c : Config} (h : c.problems = []) :
    (UInt16.ofInt (c.maxCurrent * 10)).toNat = 10 * c.maxCurrent.toNat := by
  have hr := maxCurrent_of_valid h
  rw [Control.current_toNat]
  omega

end Evse.Configuration

namespace Evse.Control

/-- Over every run the peer is sent one status message per tick and per envelope that changes the
view of the peer, each reading back as the controller that sent it. -/
theorem status_sent_per_tick_and_view_change (w : World) (run : List (Plant × Input)) :
    sent (w.after run).trace = sent w.trace ++ w.sendsAlong run ∧
    ∀ bytes ∈ w.sendsAlong run, ∃ c : Controller, c.settings = w.ctl.settings ∧
      bytes = c.command.encode ∧ bytes.length = 16 ∧
      Wire.decodeCommandEnvelope bytes = .ok
        (⟨0, Wire.seCtrlCmd, c.sessionEnabled, true, Wire.demandFor c.machine.state.code⟩,
         ⟨c.relayEnabled, 0, false, false, 0, UInt16.ofInt (w.ctl.settings.maxCurrentAmps * 10)⟩) ∧
      (UInt16.ofInt (w.ctl.settings.maxCurrentAmps * 10)).toNat =
        (10 * w.ctl.settings.maxCurrentAmps % 65536).toNat ∧
      ∀ cfg : Configuration.Config, cfg.problems = [] → cfg.maxCurrent = w.ctl.settings.maxCurrentAmps →
        (UInt16.ofInt (w.ctl.settings.maxCurrentAmps * 10)).toNat = 10 * cfg.maxCurrent.toNat := by
  refine ⟨sent_after w run, fun bytes hb => ?_⟩
  obtain ⟨c, hc, rfl⟩ := sendsAlong_status w run bytes hb
  obtain ⟨hlen, hread⟩ := Controller.command_reads c
  rw [hc] at hread
  refine ⟨c, hc, rfl, hlen, hread, current_toNat _, fun cfg hv hm => ?_⟩
  rw [← hm]
  exact Configuration.current_of_valid hv

/-- A new controller with sessions on, ticked once, sends one status message: sessions enabled,
identification confirmed, the demand of idle, the relay open and 16 A offered. -/
theorem status_sent_by_first_tick :
    sent ((⟨Controller.new ⟨2000000000, 16, true⟩ none false none, []⟩ : World).after
      [(Plant.ideal ⟨0, 0⟩, .tick)]).trace =
      [[0, 4, 1, 1, 0, 10, 0, 0, 0, 0, 0, 0, 0, 0, 0, 160]] := by
  rw [(status_sent_per_tick_and_view_change _ _).1]
  rfl

end Evse.Control
