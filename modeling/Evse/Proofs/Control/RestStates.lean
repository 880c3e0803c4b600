import Evse.Proofs.Control.PeerSteps
/-!
Where the machine rests between operations on plants whose other listeners never refuse.
-/
namespace Evse.Control

open ChargingState

/-! ## The moves of each input -/

/-- The moves an input may make the controller take. -/
def Input.moves : Input → List Move
  | .startUp => [.stop, .fail]
  | .startCharging => [.start, .stop]
  | .stopCharging => [.stop]
  | .pauseCharging => [.pause]
  | .resumeCharging => [.resume]
  | .reset => [.reset]
  | .enable => []
  | .disable => [.stop]
  | .relay _ => []
  | .command text => commandMoves (Text.lower (Text.trimBlanks text))
  | .button _ _ => [.stop]
  | .tick => [.stop]
  | .message bytes => messageMoves bytes
  | .pilotStart => [.stop, .fail]
  | .pilotStop => []
  | .pilotSample .. => [.stop, .fail]
  | .shutdown => [.stop]
  | .run _ => [.stop]

/-- Every input but a datagram takes a resting controller to rest again, by the moves its kind
of input may make, and keeps what the controller last saw of its peer. -/
theorem Input.act_steps (i : Input) (hi : ∀ bytes, i ≠ .message bytes) : Steps i.moves i.act := by
  cases i with
  | startUp => exact startUp_foot.steps
  | startCharging => exact startCharging_steps
  | stopCharging => exact stopCharging_foot.steps
  | pauseCharging => exact pauseCharging_foot.steps
  | resumeCharging => exact resumeCharging_foot.steps
  | reset => exact reset_steps
  | enable => exact Along.bind (enableSessions_steps _) fun _ => Along.pure _
  | disable => exact Along.bind (disableSessions_steps _) fun _ => Along.pure _
  | relay on => exact switchRelay_steps on
  | command text => exact command_steps text
  | button channel pressed => exact button_steps channel pressed
  | tick => exact tick_foot.steps
  | message bytes => exact absurd rfl (hi bytes)
  | pilotStart => exact pilotStart_foot.steps
  | pilotStop => exact Along.bind pilotStop_foot.steps fun _ => Along.pure _
  | pilotSample probe reading =>
    exact Along.bind (pilotSample_foot probe reading).steps fun _ => Along.pure _
  | shutdown => exact Along.bind shutdown_foot.steps fun _ => Along.pure _
  | run stop => exact (run_foot stop).steps

/-- On an agreeable plant every input takes a resting controller to rest again, by the moves its
kind of input may make. -/
theorem Input.act_lands (i : Input) {p : Plant} (hp : p.Agreeable) {w : World} (hw : Rests w) :
    Lands i.moves w (exec i.act p w).2 := by
  cases i with
  | message bytes => exact handleMessage_lands hp bytes hw
  | _ => exact ((Input.act_steps _ fun _ h => by cases h).run hp hw).lands

/-! ## Reachable worlds rest -/

@[simp] theorem Controller.new_state (settings : Settings) (pilot : Option Pilot.Monitor)
    (publishing : Bool) (metrics : Option Metrics.Book) :
    (Controller.new settings pilot publishing metrics).machine.state = idle := rfl

@[simp] theorem Controller.new_faults (settings : Settings) (pilot : Option Pilot.Monitor)
    (publishing : Bool) (metrics : Option Metrics.Book) :
    (Controller.new settings pilot publishing metrics).faults = [] := rfl

theorem Rests.new (settings : Settings) (pilot : Option Pilot.Monitor) (publishing : Bool)
    (metrics : Option Metrics.Book) :
    Rests ⟨Controller.new settings pilot publishing metrics, []⟩ := by
  refine ⟨⟨by simp, fun h => absurd h (by simp [isActive]), by simp [Controller.hasFault]⟩, ?_⟩
  intro n hn
  simp at hn

/-- Listeners subscribed or removed between steps change nothing of a resting world. -/
theorem Rests.relisten {w : World} (h : Rests w) {c : Controller} (hc : c.core = w.ctl.core)
    (hs : c.machine.state = w.ctl.machine.state) : Rests { w with ctl := c } :=
  ⟨h.ctl.congr hc hs, h.offFree⟩

/-- Every world a controller reaches on agreeable plants is at rest. -/
theorem Reachable.rests {w : World} (h : Reachable Plant.Agreeable w) : Rests w :=
  Reachable.invariant Rests.new (fun _ hp i w hw => (i.act_lands hp hw).rests)
    (fun w hw => hw.relisten (by simp) (by simp)) (fun w id hw => hw.relisten (by simp) (by simp))
    h

/-! ## Ready is entered only by a pause -/

/-- Without a pause among its moves the machine never enters ready. -/
theorem Moves.ne_ready {ms : List Move} (hms : Move.pause ∉ ms) {s t : ChargingState}
    (h : Moves ms s t) (hs : s ≠ ready) : t ≠ ready := by
  refine h.never_enters (fun m hm a hab => ?_) hs
  cases m with
  | pause => exact hms hm
  | _ => simp [Move.Takes] at hab

/-- Pauses alone lead from charging to ready and nowhere else. -/
theorem Moves.pause_only {s t : ChargingState} (h : Moves [.pause] s t) :
    s = t ∨ (s = charging ∧ t = ready) := by
  induction h with
  | refl => exact .inl rfl
  | tail _ step ih =>
    obtain ⟨m, hm, hmt⟩ := step
    rw [List.mem_singleton] at hm
    subst hm
    obtain ⟨rfl, rfl⟩ := hmt
    rcases ih with rfl | ⟨-, h⟩
    · exact .inr ⟨rfl, rfl⟩
    · cases h

/-- An operator pause, as an operation or as a command word. -/
def Input.Pauses (i : Input) : Prop :=
  i = .pauseCharging ∨ ∃ text, i = .command text ∧ Text.lower (Text.trimBlanks text) = "pause"

theorem commandMoves_pause {word : String} (h : Move.pause ∈ commandMoves word) :
    word = "pause" := by
  unfold commandMoves at h
  split at h <;> simp_all

theorem Input.pauses_of_moves {i : Input} (h : Move.pause ∈ i.moves) :
    i.moves = [.pause] ∧ i.Pauses := by
  cases i with
  | pauseCharging => exact ⟨rfl, .inl rfl⟩
  | command text =>
    have hw := commandMoves_pause h
    refine ⟨?_, .inr ⟨text, rfl, hw⟩⟩
    simp only [Input.moves, hw]
    rfl
  | message bytes =>
    simp only [Input.moves, messageMoves] at h
    split at h <;> simp at h
  | _ => simp [Input.moves] at h

/-- A step from rest into ready comes from charging, by an operator pause. -/
theorem ready_only_by_pause {p : Plant} (hp : p.Agreeable) {w : World} (hw : Rests w)
    (i : Input) (hs : w.ctl.machine.state ≠ ready)
    (ht : (step p w i).1.ctl.machine.state = ready) :
    w.ctl.machine.state = charging ∧ i.Pauses := by
  have hl := i.act_lands hp hw
  simp only [step_eq] at ht
  by_cases hm : Move.pause ∈ i.moves
  · obtain ⟨hms, hi⟩ := Input.pauses_of_moves hm
    have hmv := hl.moves
    rw [hms] at hmv
    rcases Moves.pause_only hmv with h | ⟨h, -⟩
    · exact absurd (h.trans ht) hs
    · exact ⟨h, hi⟩
  · exact absurd ht (Moves.ne_ready hm hl.moves hs)

/-! ## Where the machine rests -/

/-- On every agreeable run the machine rests in idle, ready, charging or error between operations,
and ready is entered only by a pause. -/
theorem machine_rests_between_operations {w : World} (h : Reachable Plant.Agreeable w) :
    (w.ctl.machine.state ∈ [idle, ready, charging, error] ∧
      (w.ctl.machine.state = ready ∨ w.ctl.machine.state = charging →
        w.ctl.sessionEnabled = true) ∧
      ∀ n, Effect.notify n ∈ w.trace → n.target ≠ off) ∧
    (∀ p i, p.Agreeable → w.ctl.machine.state ≠ ready →
      (step p w i).1.ctl.machine.state = ready → w.ctl.machine.state = charging ∧ i.Pauses) ∧
    (∀ p source, p.Agreeable → w.ctl.machine.state.isActive = true →
      (exec (disableSessions source) p w).2.ctl.machine.state = idle ∧
        (exec (disableSessions source) p w).2.ctl.sessionEnabled = false ∧
        ∃ seg post, (exec (disableSessions source) p w).2.trace =
            w.trace ++ seg ++ .note .info "Controller" s!"Session disabled by {source}" :: post ∧
          seg.filterMap Effect.notice? = walkNotices w.ctl.ownListener w.ctl.machine.listeners
            "session disabled" w.ctl.machine.state stopPath) := by
  have hw := h.rests
  refine ⟨⟨hw.ctl.rests, fun ha => hw.ctl.enabled (isActive_iff.mpr ha.symm), hw.offFree⟩,
    fun p i hp hs ht => ready_only_by_pause hp hw i hs ht, fun p source hp ha => ?_⟩
  obtain ⟨-, hi, he, hseg⟩ := disableSessions_spec hp source hw ha
  exact ⟨hi, he, hseg⟩

/-- A controller built enabled that starts charging and pauses. -/
theorem machine_rests_after_pause :
    let w₀ : World := ⟨Controller.new ⟨2000000000, 16, true⟩ none true none, []⟩
    let w := (step (Plant.ideal ⟨0, 0⟩) (step (Plant.ideal ⟨0, 0⟩) w₀ .startCharging).1
      .pauseCharging).1
    Reachable Plant.Agreeable w ∧
      ((w.ctl.machine.state ∈ [idle, ready, charging, error] ∧
        (w.ctl.machine.state = ready ∨ w.ctl.machine.state = charging →
          w.ctl.sessionEnabled = true) ∧
        ∀ n, Effect.notify n ∈ w.trace → n.target ≠ off) ∧
      (∀ p i, p.Agreeable → w.ctl.machine.state ≠ ready →
        (step p w i).1.ctl.machine.state = ready → w.ctl.machine.state = charging ∧ i.Pauses) ∧
      (∀ p source, p.Agreeable → w.ctl.machine.state.isActive = true →
        (exec (disableSessions source) p w).2.ctl.machine.state = idle ∧
          (exec (disableSessions source) p w).2.ctl.sessionEnabled = false ∧
          ∃ seg post, (exec (disableSessions source) p w).2.trace =
              w.trace ++ seg ++ .note .info "Controller" s!"Session disabled by {source}" :: post ∧
            seg.filterMap Effect.notice? = walkNotices w.ctl.ownListener w.ctl.machine.listeners
              "session disabled" w.ctl.machine.state stopPath)) :=
  have h := Reachable.step _ _ (Plant.ideal_agreeable _)
    (Reachable.step _ _ (Plant.ideal_agreeable _) (Reachable.new _ _ _ _))
  ⟨h, machine_rests_between_operations h⟩

end Evse.Control
