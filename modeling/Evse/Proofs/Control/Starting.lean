import Evse.Proofs.Control.Refusals
/-!
Starting a session on the operator's request: the walk, then the relay.
-/
namespace Evse.Control

open ChargingState

/-- A trace grown by quiet effects telling listeners of `ns₁`, then by `e`, then by quiet effects
telling listeners of `ns₂`. -/
def Around (ns₁ : List Notice) (e : Effect) (ns₂ : List Notice) (t t' : List Effect) : Prop :=
  ∃ seg rest, t' = t ++ seg ++ e :: rest ∧ (∀ x ∈ seg ++ rest, x.Quiet) ∧
    seg.filterMap Effect.notice? = ns₁ ∧ rest.filterMap Effect.notice? = ns₂

/-- Growth up to a world, one effect, then growth from there. -/
theorem Grows.around {ns₁ ns₂ : List Notice} {w w₁ v w' : World} {e : Effect}
    (h₁ : Grows ns₁ w w₁) (hv : v.trace = w₁.trace ++ [e]) (h₂ : Grows ns₂ v w') :
    Around ns₁ e ns₂ w.trace w'.trace := by
  obtain ⟨seg, ht₁, hq₁, hn₁⟩ := h₁
  obtain ⟨rest, ht₂, hq₂, hn₂⟩ := h₂
  refine ⟨seg, rest, by rw [ht₂, hv, ht₁]; simp, fun x hx => ?_, hn₁, hn₂⟩
  rcases List.mem_append.mp hx with hx | hx
  · exact hq₁ x hx
  · exact hq₂ x hx

/-- What a start from `w` on `p` leaves in `w'` with the answer `r`: the start path told, one attempt
to close the relay, and the stop path when it fails. -/
structure StartAttempt (p : Plant) (w : World) (r : Outcome) (w' : World) : Prop where
  trace : Around
    (walkNotices w.ctl.ownListener w.ctl.machine.listeners "operator request" w.ctl.machine.state
      (startPath.drop (startPath.idxOf w.ctl.machine.state + 1)))
    (.write Hardware.relay true (p.writeFault Hardware.relay true 0).isNone)
    (if (p.writeFault Hardware.relay true 0).isNone then []
      else walkNotices w.ctl.ownListener w.ctl.machine.listeners "relay energize failed" charging
        stopPath)
    w.trace w'.trace
  closed : p.writeFault Hardware.relay true 0 = none →
    r = .ok () ∧ w'.ctl.machine.state = charging ∧ w'.ctl.relayEnabled = true
  failed : ∀ err, p.writeFault Hardware.relay true 0 = some err →
    r = .error (.operation "start charging" idle charging (.hardwareWrite true err)) ∧
      w'.ctl.machine.state = idle ∧ w'.ctl.relayEnabled = w.ctl.relayEnabled ∧
      w'.ctl.hasFault .relayWrite = true

/-- After a failed energize in charging, the start walks the stop path down to idle, telling every
other listener of each step, keeps the controller's core, and answers its failure from idle. -/
theorem energize_failed_stops {p : Plant} (hp : p.Agreeable) {w : World}
    (hc : w.ctl.machine.state = charging) (e : Failure) :
    let r := exec (do
      noteFailure .error "Failed to leave charging after relay failure"
        (← request .stopCharging "relay energize failed")
      opFailure "start charging" charging e) p w
    r.1 = .error (.operation "start charging" idle charging e) ∧ r.2.ctl.core = w.ctl.core ∧
      r.2.ctl.machine = { w.ctl.machine with state := idle } ∧
      Grows (walkNotices w.ctl.ownListener w.ctl.machine.listeners "relay energize failed" charging
        stopPath) w r.2 := by
  have hroute : Request.stopCharging.route w.ctl.machine.state = .ok stopPath := by
    rw [hc]
    rfl
  obtain ⟨hr, hcore, hm, hg⟩ := request_lands hp hroute "relay energize failed"
  simp only [exec_bind, hr, exec_opFailure]
  rw [hc] at hg
  generalize (exec (request .stopCharging "relay energize failed") p w).2 = w₁ at hcore hm hg
  have hs := (noteFailure_calm (show Log.Severity.error ≠ .info by decide)
    "Failed to leave charging after relay failure" (.ok ())).settled p w₁
  refine ⟨?_, hs.1.trans hcore, hs.2.1.trans hm, by simpa using hg.trans hs.2.2⟩
  rw [hs.2.1, hm]
  rfl

/-- An operator start walks into charging before its one attempt to close the relay, and walks back
to idle when that write fails. -/
theorem start_walks_before_energizing {p : Plant} (hp : p.Agreeable) {w : World}
    (hsd : w.ctl.shutDown = false) (hen : w.ctl.sessionEnabled = true)
    (hs : w.ctl.machine.state ∈ [idle, connected, identification, ready]) :
    StartAttempt p w (step p w .startCharging).2 (step p w .startCharging).1 := by
  show StartAttempt p w (exec startCharging p w).1 (exec startCharging p w).2
  replace hs : w.ctl.machine.state ∈ startPath.dropLast := hs
  have hroute : Request.startCharging.route w.ctl.machine.state =
      .ok (startPath.drop (startPath.idxOf w.ctl.machine.state + 1)) := by
    rw [Machine.route_startCharging, if_pos hs]
  obtain ⟨hr₁, hc₁, hm₁, hg₁⟩ := request_lands hp hroute "operator request"
  rw [Machine.startPath_rest_getLast hs, Option.getD_some] at hm₁
  unfold startCharging
  rw [exec_ctl_bind, if_neg (by simp [hsd]), if_neg (by simp [hen]), exec_bind, hr₁]
  generalize (exec (request .startCharging "operator request") p w).2 = w₁ at hc₁ hm₁ hg₁
  dsimp only
  rw [exec_bind]
  obtain ⟨hres, hset⟩ := setRelay_spec true p w₁
  rw [hres]
  generalize (exec (setRelay true) p w₁).2 = w₂ at hset
  have hown₂ : w₂.ctl.ownListener = w.ctl.ownListener :=
    (congrArg Core.ownListener hset.1).trans (congrArg Core.ownListener hc₁)
  have hm₂ : w₂.ctl.machine = { w.ctl.machine with state := charging } := hset.2.1.trans hm₁
  cases hf : p.writeFault Hardware.relay true 0 with
  | none =>
    simp only [relayOutcome, hf]
    rw [exec_ctl_bind]
    simp only [exec_bind, exec_note, exec_pure]
    have hq : (Effect.note .info "Controller"
        s!"Charging started, session {w₂.ctl.sessionId}").Quiet :=
      ⟨by simp [Effect.switch?, toString_string], rfl⟩
    refine ⟨?_, fun _ => ⟨rfl, by simp [hm₂], ?_⟩, fun err h => by simp [hf] at h⟩
    · simpa [hf, Effect.notice?] using Grows.around hg₁ rfl (hset.2.2.trans (Grows.emit hq))
    · have hr := congrArg Core.relayEnabled hset.1
      simpa [Controller.afterRelay, hf] using hr
  | some err =>
    simp only [relayOutcome, hf]
    obtain ⟨hr, hc, hm, hg⟩ := energize_failed_stops hp (congrArg Machine.state hm₂)
      (.hardwareWrite true err)
    have hc₂ := hc.trans hset.1
    refine ⟨?_, fun h => by simp [hf] at h, fun err' h => ?_⟩
    · simpa [hf, hown₂, hm₂] using Grows.around hg₁ rfl (hset.2.2.trans hg)
    cases Option.some.inj (hf.symm.trans h)
    refine ⟨hr, congrArg Machine.state hm, ?_, ?_⟩
    · have hrelay := congrArg Core.relayEnabled hc₂
      simp only [Controller.core_relayEnabled, Controller.afterRelay_of_failed hf] at hrelay
      exact hrelay.trans (congrArg Core.relayEnabled hc₁)
    · rw [Controller.hasFault_congr hc₂, Controller.afterRelay_of_failed hf,
        Controller.hasFault_report, if_pos rfl]

/-- A new controller with sessions enabled starts. -/
theorem start_energizes_new_controller :
    let w : World := ⟨Controller.new ⟨0, 16, true⟩ none false none, []⟩
    w.ctl.shutDown = false ∧ w.ctl.sessionEnabled = true ∧
      w.ctl.machine.state ∈ [idle, connected, identification, ready] ∧
      StartAttempt (Plant.ideal ⟨0, 0⟩) w (step (Plant.ideal ⟨0, 0⟩) w .startCharging).2
        (step (Plant.ideal ⟨0, 0⟩) w .startCharging).1 :=
  ⟨rfl, rfl, by decide, start_walks_before_energizing (Plant.ideal_agreeable _) rfl rfl (by decide)⟩

end Evse.Control
