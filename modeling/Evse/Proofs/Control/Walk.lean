import Evse.Proofs.Control.Primitives
/-!
Walks of the charging machine inside a controller.
-/
namespace Evse.Control

/-- A plant whose listeners, other than the controller's own, never refuse a step. -/
def Plant.Agreeable (p : Plant) : Prop := ∀ n, p.verdict n = none

/-- The plant at time `now` on which every attempt succeeds and every listener agrees. -/
def Plant.ideal (now : Time.Instant) : Plant :=
  ⟨now, fun _ _ _ => none, none, none, none, fun _ => none, fun _ _ => none, fun _ => none,
    fun _ => 0, .byCode⟩

theorem Plant.ideal_agreeable (now : Time.Instant) : (Plant.ideal now).Agreeable := fun _ => rfl

/-- The notices of one step `source -> target`: one for each listener but the controller's own,
in subscription order. -/
def stepNotices (own : Nat) (ids : List Nat) (source target : ChargingState) (reason : String) :
    List Notice :=
  (ids.filter (· != own)).map fun id => ⟨id, source, target, reason⟩

/-- The notices of a walk from a state along a route. -/
def walkNotices (own : Nat) (ids : List Nat) (reason : String) :
    ChargingState → List ChargingState → List Notice
  | _, [] => []
  | s, t :: rest => stepNotices own ids s t reason ++ walkNotices own ids reason t rest

theorem hearIn_eq (p : Plant) (n : Notice) (w : World) :
    hearIn p n w = ((exec (hear n) p w).2, (exec (hear n) p w).1) := rfl

theorem hear_spec (p : Plant) (n : Notice) (w : World) :
    (exec (hear n) p w).1 = (if n.listener = w.ctl.ownListener then none else p.verdict n) ∧
      (exec (hear n) p w).2.ctl.core = w.ctl.core ∧
      Grows (if n.listener = w.ctl.ownListener then [] else [n]) w (exec (hear n) p w).2 := by
  unfold hear
  simp only [exec_bind, exec_modifyCtl, exec_ctl]
  by_cases h : n.listener = w.ctl.ownListener
  · simp only [h, beq_self_eq_true, if_true, exec_bind, exec_pure]
    obtain ⟨hc, -, hg⟩ := (onTransition_calm n.source n.target n.reason).settled p
      { w with ctl := { w.ctl with machine := { w.ctl.machine with state := n.target } } }
    exact ⟨trivial, hc, hg⟩
  · simp only [beq_iff_eq, h, if_false, exec_bind, exec_emit, exec_read, exec_pure]
    exact ⟨trivial, rfl, Grows.emit (Effect.quiet_notify n)⟩

/-- Telling listeners of a step keeps the core and tells every listener but the controller's
own, up to the first refusal; on an agreeable plant nobody refuses. -/
theorem tell_spec (p : Plant) (source target : ChargingState) (reason : String) (ids : List Nat)
    (w : World) :
    (Machine.tell (hearIn p) source target reason ids w).1.ctl.core = w.ctl.core ∧
      ∃ ns, Grows ns w (Machine.tell (hearIn p) source target reason ids w).1 ∧
        (p.Agreeable → (Machine.tell (hearIn p) source target reason ids w).2 = none ∧
          ns = stepNotices w.ctl.ownListener ids source target reason) := by
  induction ids generalizing w with
  | nil => exact ⟨rfl, [], Grows.refl w, fun _ => ⟨rfl, rfl⟩⟩
  | cons id ids ih =>
    obtain ⟨hv, hc, hg⟩ := hear_spec p ⟨id, source, target, reason⟩ w
    have hs : stepNotices w.ctl.ownListener (id :: ids) source target reason =
        (if id = w.ctl.ownListener then [] else [⟨id, source, target, reason⟩]) ++
          stepNotices w.ctl.ownListener ids source target reason := by
      by_cases h : id = w.ctl.ownListener <;> simp [stepNotices, h]
    rcases hx : exec (hear ⟨id, source, target, reason⟩) p w with ⟨v, w₁⟩
    rw [hx] at hv hc hg
    cases v with
    | some cause =>
      simp only [Machine.tell, hearIn_eq, hx]
      refine ⟨hc, _, hg, fun hp => ?_⟩
      rw [hp, ite_self] at hv
      cases hv
    | none =>
      simp only [Machine.tell, hearIn_eq, hx]
      obtain ⟨hc', ns, hg', hn⟩ := ih w₁
      have ho : w₁.ctl.ownListener = w.ctl.ownListener := congrArg Core.ownListener hc
      refine ⟨hc'.trans hc, _, hg.trans hg', fun hp => ⟨(hn hp).1, ?_⟩⟩
      rw [(hn hp).2, ho, hs]

/-- A walk keeps the core and leaves the machine in some state; on an agreeable plant it
lands on the last state of the route, telling every other listener of every step. -/
theorem walk_spec (p : Plant) (reason : String) (path : List ChargingState) (m : Machine)
    (w : World) :
    (Machine.walk (hearIn p) reason m path w).2.1.ctl.core = w.ctl.core ∧
      (∃ s, (Machine.walk (hearIn p) reason m path w).1 = { m with state := s }) ∧
      ∃ ns, Grows ns w (Machine.walk (hearIn p) reason m path w).2.1 ∧
        (p.Agreeable → (Machine.walk (hearIn p) reason m path w).1 =
            { m with state := path.getLast?.getD m.state } ∧
          (Machine.walk (hearIn p) reason m path w).2.2 = .ok () ∧
          ns = walkNotices w.ctl.ownListener m.listeners reason m.state path) := by
  induction path generalizing m w with
  | nil => exact ⟨rfl, ⟨m.state, rfl⟩, [], Grows.refl w, fun _ => ⟨rfl, rfl, rfl⟩⟩
  | cons t rest ih =>
    obtain ⟨hc, ns, hg, hn⟩ := tell_spec p m.state t reason m.listeners w
    rcases hx : Machine.tell (hearIn p) m.state t reason m.listeners w with ⟨w₁, v⟩
    rw [hx] at hc hg hn
    cases v with
    | some cause =>
      simp only [Machine.walk, hx]
      exact ⟨hc, ⟨t, rfl⟩, ns, hg, fun hp => nomatch (hn hp).1⟩
    | none =>
      simp only [Machine.walk, hx]
      obtain ⟨hc', ⟨s, hs⟩, ns', hg', hn'⟩ := ih { m with state := t } w₁
      have ho : w₁.ctl.ownListener = w.ctl.ownListener := congrArg Core.ownListener hc
      refine ⟨hc'.trans hc, ⟨s, hs⟩, _, hg.trans hg', fun hp => ⟨?_, (hn' hp).2.1, ?_⟩⟩
      · rw [(hn' hp).1, List.getLast?_cons, Option.getD_some]
      · rw [(hn hp).2, (hn' hp).2.2, ho]
        rfl

theorem request_eq (req : Request) (reason : String) (p : Plant) (w : World) :
    exec (request req reason) p w =
      let r := w.ctl.machine.perform (hearIn p) req reason w
      (r.2.2.mapError .machine, { r.2.1 with ctl := { r.2.1.ctl with machine := r.1 } }) := rfl

/-- A request keeps the core and moves only the machine's state, writing quiet effects. -/
theorem request_core (req : Request) (reason : String) (p : Plant) (w : World) :
    (exec (request req reason) p w).2.ctl.core = w.ctl.core ∧
      (∃ s, (exec (request req reason) p w).2.ctl.machine = { w.ctl.machine with state := s }) ∧
      ∃ ns, Grows ns w (exec (request req reason) p w).2 := by
  rw [request_eq]
  unfold Machine.perform
  split
  · exact ⟨rfl, ⟨_, rfl⟩, [], Grows.refl w⟩
  · next path _ =>
    obtain ⟨hc, hs, ns, hg, -⟩ := walk_spec p reason path w.ctl.machine w
    exact ⟨hc, hs, ns, hg⟩

/-- A request the table refuses changes nothing. -/
theorem request_refused {req : Request} {w : World} {e : TransitionError}
    (h : req.route w.ctl.machine.state = .error e) (reason : String) (p : Plant) :
    exec (request req reason) p w = (.error (.machine (.invalid e)), w) := by
  rw [request_eq]
  simp only [Machine.perform, h]
  rfl

/-- On an agreeable plant, a request the table allows lands on the last state of its route and
tells every other listener of each of its steps. -/
theorem request_lands {p : Plant} (hp : p.Agreeable) {req : Request} {w : World}
    {path : List ChargingState} (h : req.route w.ctl.machine.state = .ok path) (reason : String) :
    (exec (request req reason) p w).1 = .ok () ∧
      (exec (request req reason) p w).2.ctl.core = w.ctl.core ∧
      (exec (request req reason) p w).2.ctl.machine =
        { w.ctl.machine with state := path.getLast?.getD w.ctl.machine.state } ∧
      Grows (walkNotices w.ctl.ownListener w.ctl.machine.listeners reason w.ctl.machine.state path)
        w (exec (request req reason) p w).2 := by
  rw [request_eq]
  simp only [Machine.perform, h]
  obtain ⟨hc, -, ns, hg, hn⟩ := walk_spec p reason path w.ctl.machine w
  obtain ⟨hm, hr, rfl⟩ := hn hp
  exact ⟨by rw [hr]; rfl, hc, hm, hg⟩

end Evse.Control