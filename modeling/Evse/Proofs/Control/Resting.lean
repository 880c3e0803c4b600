import Mathlib.Logic.Relation
import Evse.Proofs.Control.Walk
/-!
Where the machine rests, and the kinds of moves each input may make (`Input.moves`).
-/
namespace Evse.Control

open ChargingState

/-- A controller at rest: its machine idle, ready, charging or in error, a session active only
while sessions are enabled, and the pilot fault present exactly in error. -/
structure Resting (c : Controller) : Prop where
  rests : c.machine.state ∈ [idle, ready, charging, error]
  enabled : c.machine.state.isActive = true → c.sessionEnabled = true
  latched : c.hasFault .pilot = true ↔ c.machine.state = error

theorem Controller.hasFault_congr {c d : Controller} (h : d.core = c.core) (f : Fault) :
    d.hasFault f = c.hasFault f := by
  have hl : d.faults = c.faults := congrArg Core.faults h
  simp [Controller.hasFault, hl]

/-- A controller that agrees with a resting one on its machine state, its session switch and its
faults is at rest. -/
theorem Resting.of_fields {c d : Controller} (h : Resting c)
    (hs : d.machine.state = c.machine.state) (he : d.sessionEnabled = c.sessionEnabled)
    (hf : d.faults = c.faults) : Resting d := by
  have hl : d.hasFault .pilot = c.hasFault .pilot := by simp [Controller.hasFault, hf]
  exact ⟨hs ▸ h.rests, fun ha => he ▸ h.enabled (hs ▸ ha), hl ▸ hs ▸ h.latched⟩

theorem Resting.congr {c d : Controller} (h : Resting c) (hc : d.core = c.core)
    (hs : d.machine.state = c.machine.state) : Resting d :=
  h.of_fields hs (congrArg Core.sessionEnabled hc) (congrArg Core.faults hc)

/-- No listener was ever told of a step into off. -/
def OffFree (trace : List Effect) : Prop := ∀ n, Effect.notify n ∈ trace → n.target ≠ off

theorem OffFree.append {t u : List Effect} (ht : OffFree t) (hu : OffFree u) :
    OffFree (t ++ u) := by
  intro n hn
  rcases List.mem_append.mp hn with h | h
  · exact ht n h
  · exact hu n h

theorem offFree_of_notices {seg : List Effect} {ns : List Notice}
    (h : seg.filterMap Effect.notice? = ns) (hns : ∀ n ∈ ns, n.target ≠ off) : OffFree seg := by
  intro n hn
  apply hns n
  rw [← h]
  exact List.mem_filterMap.mpr ⟨_, hn, rfl⟩

/-- A world at rest, whose listeners were never told of off. -/
structure Rests (w : World) : Prop where
  ctl : Resting w.ctl
  offFree : OffFree w.trace

theorem OffFree.grow {w w' : World} {ns : List Notice} (h : OffFree w.trace)
    (hg : Grows ns w w') (hns : ∀ n ∈ ns, n.target ≠ off) : OffFree w'.trace := by
  obtain ⟨seg, ht, -, hn⟩ := hg
  exact ht ▸ h.append (offFree_of_notices hn hns)

theorem Rests.grow {w w' : World} {ns : List Notice} (h : Rests w) (hc : Resting w'.ctl)
    (hg : Grows ns w w') (hns : ∀ n ∈ ns, n.target ≠ off) : Rests w' :=
  ⟨hc, h.offFree.grow hg hns⟩

theorem Rests.settled {w w' : World} (h : Rests w) (hs : Settled w w') : Rests w' :=
  h.grow (h.ctl.congr hs.1 (congrArg Machine.state hs.2.1)) hs.2.2 (by simp)

/-- A change of the controller that keeps its machine state, session switch and faults keeps a
world at rest. -/
theorem Rests.of_fields {w : World} (h : Rests w) {c : Controller}
    (hs : c.machine.state = w.ctl.machine.state) (he : c.sessionEnabled = w.ctl.sessionEnabled)
    (hf : c.faults = w.ctl.faults) : Rests { w with ctl := c } :=
  ⟨h.ctl.of_fields hs he hf, h.offFree⟩

/-- The kinds of moves an operation makes with the machine. -/
inductive Move where
  | stop
  | start
  | pause
  | resume
  | reset
  | fail
deriving DecidableEq, Repr

/-- The states a move leads between. -/
def Move.Takes : Move → ChargingState → ChargingState → Prop
  | stop, s, t => s.isActive = true ∧ t = idle
  | start, s, t => (s = idle ∨ s = ready) ∧ t = charging
  | pause, s, t => s = charging ∧ t = ready
  | resume, s, t => s = ready ∧ t = charging
  | reset, s, t => s = error ∧ t = idle
  | fail, _, t => t = error

/-- The machine goes from `s` to `t` by moves of the kinds `ms`. -/
def Moves (ms : List Move) : ChargingState → ChargingState → Prop :=
  Relation.ReflTransGen fun s t => ∃ m ∈ ms, m.Takes s t

theorem Moves.single {ms : List Move} {m : Move} (hm : m ∈ ms) {s t : ChargingState}
    (h : m.Takes s t) : Moves ms s t :=
  Relation.ReflTransGen.single ⟨m, hm, h⟩

theorem Moves.mono {ms ms' : List Move} (h : ms ⊆ ms') {s t : ChargingState}
    (hm : Moves ms s t) : Moves ms' s t :=
  Relation.ReflTransGen.mono (fun _ _ ⟨m, hm, ht⟩ => ⟨m, h hm, ht⟩) _ _ hm

/-- A state property that every move of the kinds `ms` keeps holds after them. -/
theorem Moves.keeps {ms : List Move} {P : ChargingState → Prop}
    (hP : ∀ m ∈ ms, ∀ s t, m.Takes s t → P s → P t) {s t : ChargingState}
    (h : Moves ms s t) (hs : P s) : P t := by
  induction h with
  | refl => exact hs
  | tail _ step ih =>
    obtain ⟨m, hm, ht⟩ := step
    exact hP m hm _ _ ht ih

/-- A state that no move of the kinds `ms` leads into is never entered by them. -/
theorem Moves.never_enters {ms : List Move} {u : ChargingState}
    (hu : ∀ m ∈ ms, ∀ s, ¬m.Takes s u) {s t : ChargingState} (h : Moves ms s t) (hs : s ≠ u) :
    t ≠ u :=
  h.keeps (P := fun x => x ≠ u) (fun m hm a _ hab _ hb => hu m hm a (hb ▸ hab)) hs

/-- A state that no move of the kinds `ms` leads out of is never left by them. -/
theorem Moves.never_leaves {ms : List Move} {u : ChargingState}
    (hu : ∀ m ∈ ms, ∀ t, m.Takes u t → t = u) {t : ChargingState} (h : Moves ms u t) : t = u :=
  h.keeps (P := fun x => x = u) (fun m hm _ b hab ha => hu m hm b (ha ▸ hab)) rfl

theorem Moves.nil_eq {s t : ChargingState} (h : Moves [] s t) : t = s :=
  h.never_leaves fun _ hm => absurd hm List.not_mem_nil

/-- `w'` is at rest, its machine moved from that of `w` by moves of the kinds `ms`. -/
structure Lands (ms : List Move) (w w' : World) : Prop where
  rests : Rests w'
  moves : Moves ms w.ctl.machine.state w'.ctl.machine.state

theorem Lands.trans {ms : List Move} {w₁ w₂ w₃ : World} (h₁ : Lands ms w₁ w₂)
    (h₂ : Lands ms w₂ w₃) : Lands ms w₁ w₃ :=
  ⟨h₂.rests, h₁.moves.trans h₂.moves⟩

theorem Lands.mono {ms ms' : List Move} (h : ms ⊆ ms') {w w' : World} (hl : Lands ms w w') :
    Lands ms' w w' :=
  ⟨hl.rests, hl.moves.mono h⟩

/-- From the resting world `w`, `w'` is at rest again, its machine moved by moves of `ms`, and
what the controller last saw of its peer is kept. -/
structure Stepped (ms : List Move) (w w' : World) : Prop where
  rests : Rests w'
  moves : Moves ms w.ctl.machine.state w'.ctl.machine.state
  peer : w'.ctl.peer = w.ctl.peer
  armed : w'.ctl.peerReady = w.ctl.peerReady

namespace Stepped

variable {ms ms' : List Move} {w₁ w₂ w₃ : World}

theorem refl (h : Rests w₁) : Stepped ms w₁ w₁ := ⟨h, .refl, rfl, rfl⟩

theorem trans (h₁ : Stepped ms w₁ w₂) (h₂ : Stepped ms w₂ w₃) : Stepped ms w₁ w₃ :=
  ⟨h₂.rests, h₁.moves.trans h₂.moves, h₂.peer.trans h₁.peer, h₂.armed.trans h₁.armed⟩

theorem mono (h : ms ⊆ ms') (hs : Stepped ms w₁ w₂) : Stepped ms' w₁ w₂ :=
  ⟨hs.rests, hs.moves.mono h, hs.peer, hs.armed⟩

theorem lands (h : Stepped ms w₁ w₂) : Lands ms w₁ w₂ := ⟨h.rests, h.moves⟩

/-- A step with no move: a resting world that keeps the machine and what the controller saw of
its peer, followed by calm effects. -/
theorem of_settled {w : World} (h : Rests w₂) (hs : Settled w₂ w₃)
    (hm : w₂.ctl.machine.state = w.ctl.machine.state) (hp : w₂.ctl.peer = w.ctl.peer)
    (hr : w₂.ctl.peerReady = w.ctl.peerReady) : Stepped ms w w₃ :=
  ⟨h.settled hs, by rw [hs.2.1, hm]; exact .refl, (congrArg Core.peer hs.1).trans hp,
    (congrArg Core.peerReady hs.1).trans hr⟩

end Stepped

/-- On every agreeable plant, `x` takes a resting world to a resting one by moves of `ms`,
keeping what the controller last saw of its peer. -/
abbrev Steps {α : Type} (ms : List Move) (x : Act α) : Prop :=
  Along Plant.Agreeable (fun _ w₀ w => Rests w₀ → Stepped ms w₀ w) x

namespace Steps

variable {α : Type} {ms ms' : List Move} {x : Act α}

theorem run (h : Steps ms x) {p : Plant} (hp : p.Agreeable) {w : World} (hw : Rests w) :
    Stepped ms w (exec x p w).2 :=
  h p hp w w (fun _ => Stepped.refl hw) hw

theorem of (h : ∀ p, p.Agreeable → ∀ w, Rests w → Stepped ms w (exec x p w).2) : Steps ms x :=
  fun p hp _ w hw h0 => (hw h0).trans (h p hp w (hw h0).rests)

theorem mono (h : ms ⊆ ms') (hx : Steps ms x) : Steps ms' x :=
  of fun _ hp _ hw => (hx.run hp hw).mono h

theorem of_calm (h : Calm x) : Steps ms x :=
  of fun p _ w hw => Stepped.of_settled hw (h.settled p w) rfl rfl rfl

theorem modifyCtl {f : Controller → Controller} (hm : ∀ c, (f c).machine = c.machine)
    (he : ∀ c, (f c).sessionEnabled = c.sessionEnabled) (hf : ∀ c, (f c).faults = c.faults)
    (hp : ∀ c, (f c).peer = c.peer) (hr : ∀ c, (f c).peerReady = c.peerReady) :
    Steps ms (Control.modifyCtl f) :=
  of fun _ _ w hw =>
    ⟨hw.of_fields (congrArg Machine.state (hm w.ctl)) (he w.ctl) (hf w.ctl),
      by rw [exec_modifyCtl, hm]; exact .refl, hp w.ctl, hr w.ctl⟩

end Steps

/-- A step followed by a calm action. -/
theorem Stepped.calm {ms : List Move} {α : Type} {x : Act α} {w₀ w : World}
    (h : Stepped ms w₀ w) (hx : Calm x) (p : Plant) : Stepped ms w₀ (exec x p w).2 :=
  h.trans (Stepped.of_settled h.rests (hx.settled p w) rfl rfl rfl)

/-- A step followed by a run of an action that moves by fewer kinds of moves. -/
theorem Stepped.then {p : Plant} (hp : p.Agreeable) {ms ms' : List Move} {α : Type} {x : Act α}
    {w₀ w : World} (h : Stepped ms w₀ w) (hx : Steps ms' x) (hsub : ms' ⊆ ms) :
    Stepped ms w₀ (exec x p w).2 :=
  h.trans ((hx.run hp h.rests).mono hsub)

theorem walkNotices_target {own : Nat} {ids : List Nat} {reason : String} {n : Notice} :
    ∀ {s : ChargingState} {path : List ChargingState},
      n ∈ walkNotices own ids reason s path → n.target ∈ path
  | _, [] => by simp [walkNotices]
  | s, t :: rest => by
    intro h
    rcases List.mem_append.mp h with h | h
    · obtain ⟨id, -, rfl⟩ := List.mem_map.mp h
      exact List.mem_cons_self ..
    · exact List.mem_cons_of_mem t (walkNotices_target h)

/-- On an agreeable plant, a request the table allows from a resting world, along a route
that avoids off, lands at rest when the controller rests in the state it lands on. -/
theorem request_stepped {p : Plant} (hp : p.Agreeable) {req : Request} {w : World}
    {path : List ChargingState} (h : req.route w.ctl.machine.state = .ok path) (reason : String)
    (hw : Rests w) (hoff : off ∉ path) {t : ChargingState}
    (hl : path.getLast?.getD w.ctl.machine.state = t) {ms : List Move}
    (hm : Moves ms w.ctl.machine.state t)
    (hr : Resting { w.ctl with machine := { w.ctl.machine with state := t } }) :
    Stepped ms w (exec (request req reason) p w).2 := by
  obtain ⟨-, hc, hmach, hg⟩ := request_lands hp h reason
  rw [hl] at hmach
  have hc' : Resting (exec (request req reason) p w).2.ctl := hr.congr hc (by rw [hmach])
  refine ⟨hw.grow hc' hg fun n hn he => hoff (he ▸ walkNotices_target hn), ?_,
    congrArg Core.peer hc, congrArg Core.peerReady hc⟩
  rw [hmach]
  exact hm

/-- A resting controller rests after its machine moves from a state other than error to idle,
ready or charging, when a session there has sessions enabled. -/
theorem Resting.land {c : Controller} (h : Resting c) (hc : c.machine.state ≠ error)
    {t : ChargingState} (ht : t ∈ [idle, ready, charging])
    (he : t.isActive = true → c.sessionEnabled = true) :
    Resting { c with machine := { c.machine with state := t } } := by
  have hf : c.hasFault .pilot = false := by
    simpa [hc] using h.latched
  have hte : t ≠ error := by
    intro hte
    simp [hte] at ht
  refine ⟨?_, he, ?_⟩
  · simp only [List.mem_cons, List.not_mem_nil, or_false] at ht ⊢
    rcases ht with h | h | h <;> simp [h]
  · show c.hasFault .pilot = true ↔ t = error
    simp [hf, hte]

theorem isActive_iff {s : ChargingState} : s.isActive = true ↔ s = charging ∨ s = ready := by
  cases s <;> simp [isActive]

theorem Resting.active_ne_error {c : Controller} (h : c.machine.state.isActive = true) :
    c.machine.state ≠ error := by
  rcases isActive_iff.mp h with h | h <;> simp [h]

theorem request_refused_stepped {req : Request} {w : World} {e : TransitionError}
    (h : req.route w.ctl.machine.state = .error e) (reason : String) (p : Plant) (hw : Rests w)
    {ms : List Move} : Stepped ms w (exec (request req reason) p w).2 := by
  rw [request_refused h]
  exact Stepped.refl hw

theorem Controller.report_hasFault_of_ne {c : Controller} {f g : Fault} (h : g ≠ f)
    (present : Bool) : (c.report f present).hasFault g = c.hasFault g := by
  rw [Controller.hasFault_report, if_neg h]

theorem Controller.afterRelay_hasFault_pilot (c : Controller) (p : Plant) (on : Bool) :
    (c.afterRelay p on).hasFault .pilot = c.hasFault .pilot := by
  by_cases h : (p.writeFault Hardware.relay on 0).isNone = true
  · simp [Controller.afterRelay, Controller.hasFault, h]
  · have hr : c.afterRelay p on = { c.report .relayWrite true with
        relayEnabled := c.relayEnabled } := by
      simp [Controller.afterRelay, Controller.report, h]
    rw [hr]
    exact Controller.report_hasFault_of_ne (by decide) true

/-- A relay write keeps the controller at rest, whatever it writes. -/
theorem setRelay_steps (on : Bool) {ms : List Move} : Steps ms (setRelay on) :=
  Steps.of fun p _ w hw => by
    obtain ⟨-, hs⟩ := setRelay_spec on p w
    have hm : Rests ⟨w.ctl.afterRelay p on,
        w.trace ++ [.write Hardware.relay on (p.writeFault Hardware.relay on 0).isNone]⟩ := by
      refine ⟨⟨hw.ctl.rests, hw.ctl.enabled, ?_⟩, hw.offFree.append (by simp [OffFree])⟩
      exact (Controller.afterRelay_hasFault_pilot w.ctl p on).symm ▸ hw.ctl.latched
    exact Stepped.of_settled hm hs rfl rfl rfl

/-- Reporting a fault other than the pilot's keeps the controller at rest. -/
theorem reportFault_steps {f : Fault} (hf : f ≠ .pilot) (present : Bool) {ms : List Move} :
    Steps ms (reportFault f present) :=
  Steps.of fun p _ w hw => by
    have hs := reportFault_settled f present p w
    have hm : Rests { w with ctl := w.ctl.report f present } := by
      refine ⟨⟨hw.ctl.rests, hw.ctl.enabled, ?_⟩, hw.offFree⟩
      exact (Controller.report_hasFault_of_ne (Ne.symm hf) present).symm ▸ hw.ctl.latched
    exact Stepped.of_settled hm hs rfl rfl rfl

theorem request_stop_steps (reason : String) : Steps [.stop] (request .stopCharging reason) :=
  Steps.of fun p hp w hw => by
    by_cases ha : w.ctl.machine.state.isActive = true
    · have hroute : Request.stopCharging.route w.ctl.machine.state = .ok stopPath := by
        simp [Request.route, isActive_iff.mp ha]
      refine request_stepped hp hroute reason hw (by decide) (t := idle) rfl
        (Moves.single (List.mem_singleton_self _) ⟨ha, rfl⟩) ?_
      exact hw.ctl.land (Resting.active_ne_error ha) (by simp) (by simp [isActive])
    · have hroute : Request.stopCharging.route w.ctl.machine.state =
          .error ⟨"stop charging", w.ctl.machine.state, stop.code⟩ := by
        simp [Request.route, ← isActive_iff, ha]
      exact request_refused_stepped hroute reason p hw

theorem request_pause_steps (reason : String) : Steps [.pause] (request .pauseCharging reason) :=
  Steps.of fun p hp w hw => by
    by_cases hs : w.ctl.machine.state = charging
    · have hroute : Request.pauseCharging.route w.ctl.machine.state = .ok [ready] := by
        simp [Request.route, hs]
      refine request_stepped hp hroute reason hw (by decide) (t := ready) rfl
        (Moves.single (List.mem_singleton_self _) ⟨hs, rfl⟩) ?_
      exact hw.ctl.land (by simp [hs]) (by simp) fun _ => hw.ctl.enabled (by simp [hs, isActive])
    · have hroute : Request.pauseCharging.route w.ctl.machine.state =
          .error ⟨"pause charging", w.ctl.machine.state, ready.code⟩ := by
        simp [Request.route, hs]
      exact request_refused_stepped hroute reason p hw

theorem request_resume_steps (reason : String) : Steps [.resume] (request .resumeCharging reason) :=
  Steps.of fun p hp w hw => by
    by_cases hs : w.ctl.machine.state = ready
    · have hroute : Request.resumeCharging.route w.ctl.machine.state = .ok [charging] := by
        simp [Request.route, hs]
      refine request_stepped hp hroute reason hw (by decide) (t := charging) rfl
        (Moves.single (List.mem_singleton_self _) ⟨hs, rfl⟩) ?_
      exact hw.ctl.land (by simp [hs]) (by simp) fun _ => hw.ctl.enabled (by simp [hs, isActive])
    · have hroute : Request.resumeCharging.route w.ctl.machine.state =
          .error ⟨"resume charging", w.ctl.machine.state, charging.code⟩ := by
        simp [Request.route, hs]
      exact request_refused_stepped hroute reason p hw

/-- On an agreeable plant, a start with sessions enabled from a resting world lands in charging
when the machine is idle or ready, and is refused otherwise. -/
theorem request_start_stepped {p : Plant} (hp : p.Agreeable) (reason : String) {w : World}
    (hw : Rests w) (he : w.ctl.sessionEnabled = true) :
    Stepped [.start] w (exec (request .startCharging reason) p w).2 := by
  have hland : w.ctl.machine.state = idle ∨ w.ctl.machine.state = ready →
      Resting { w.ctl with machine := { w.ctl.machine with state := charging } } := fun h =>
    hw.ctl.land (by rcases h with h | h <;> simp [h]) (by simp) fun _ => he
  have hstart : w.ctl.machine.state = idle ∨ w.ctl.machine.state = ready →
      Moves [.start] w.ctl.machine.state charging := fun h =>
    Moves.single (List.mem_singleton_self _) ⟨h, rfl⟩
  have hr := hw.ctl.rests
  simp only [List.mem_cons, List.not_mem_nil, or_false] at hr
  rcases hr with h | h | h | h
  · have hroute : Request.startCharging.route w.ctl.machine.state =
        .ok [connected, identification, ready, charging] := by rw [h]; rfl
    exact request_stepped hp hroute reason hw (by decide) (by simp [h]) (hstart (.inl h))
      (hland (.inl h))
  · have hroute : Request.startCharging.route w.ctl.machine.state = .ok [charging] := by
      rw [h]; rfl
    exact request_stepped hp hroute reason hw (by decide) rfl (hstart (.inr h)) (hland (.inr h))
  · have hroute : Request.startCharging.route w.ctl.machine.state =
        .error ⟨"start charging", charging, charging.code⟩ := by rw [h]; rfl
    exact request_refused_stepped hroute reason p hw
  · have hroute : Request.startCharging.route w.ctl.machine.state =
        .error ⟨"start charging", error, charging.code⟩ := by rw [h]; rfl
    exact request_refused_stepped hroute reason p hw

theorem enterError_route (s : ChargingState) :
    Request.enterError.route s = .ok (if s = error then [] else [error]) := by
  cases s <;> rfl

/-- On an agreeable plant a request to fail lands in error, from anywhere, and tells listeners
only of steps into error. -/
theorem request_enterError_lands {p : Plant} (hp : p.Agreeable) (reason : String) (w : World) :
    (exec (request .enterError reason) p w).2.ctl.core = w.ctl.core ∧
      (exec (request .enterError reason) p w).2.ctl.machine.state = error ∧
      ∃ ns, Grows ns w (exec (request .enterError reason) p w).2 ∧ ∀ n ∈ ns, n.target = error := by
  obtain ⟨-, hc, hm, hg⟩ := request_lands hp (enterError_route w.ctl.machine.state) reason
  refine ⟨hc, ?_, _, hg, fun n hn => ?_⟩
  · rw [hm]
    by_cases h : w.ctl.machine.state = error <;> simp [h]
  · have ht := walkNotices_target hn
    by_cases h : w.ctl.machine.state = error <;> simp_all

theorem Settled.hasFault {w w' : World} (h : Settled w w') (f : Fault) :
    w'.ctl.hasFault f = w.ctl.hasFault f :=
  Controller.hasFault_congr h.1 f

end Evse.Control