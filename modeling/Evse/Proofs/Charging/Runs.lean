import Mathlib.Data.List.Chain
import Evse.Charging.Machine
/-!
Runs of the charging machine: requests as notices to every listener, and the live subscriptions
after any run.
-/
namespace Evse.Machine

open ChargingState

/-- An operation on a machine. -/
inductive Op where
  /-- A request, with the reason its listeners are given. -/
  | request (req : Request) (reason : String)
  | subscribe
  | unsubscribe (id : Nat)
  /-- Whether a move to the state of a byte is allowed; the question changes nothing. -/
  | query (target : UInt8)
deriving DecidableEq, Repr

def Op.isSubscribe : Op → Bool
  | .subscribe => true
  | _ => false

/-- How many subscriptions a run makes. -/
def subscriptions (ops : List Op) : Nat := ops.countP Op.isSubscribe

/-- An id is live after a run when a subscription of the run got it (the `k`-th gets `k`) and
no later unsubscription names it. -/
def Live (ops : List Op) (id : Nat) : Prop :=
  ∃ pre post, ops = pre ++ .subscribe :: post ∧ id = subscriptions pre + 1 ∧
    .unsubscribe id ∉ post

/-! ## Live subscriptions -/

@[simp] theorem subscriptions_nil : subscriptions [] = 0 := rfl

@[simp] theorem subscriptions_append (ops ops' : List Op) :
    subscriptions (ops ++ ops') = subscriptions ops + subscriptions ops' :=
  List.countP_append

@[simp] theorem subscriptions_singleton (op : Op) :
    subscriptions [op] = if op.isSubscribe then 1 else 0 := by
  cases h : op.isSubscribe <;> simp [subscriptions, h]

theorem not_live_nil (id : Nat) : ¬Live [] id := by
  rintro ⟨pre, post, h, -⟩
  simp at h

/-- A live id was handed out by the run: it is positive and at most its number of
subscriptions. -/
theorem Live.bounds {ops : List Op} {id : Nat} (h : Live ops id) :
    0 < id ∧ id ≤ subscriptions ops := by
  obtain ⟨pre, post, rfl, rfl, -⟩ := h
  have hc : subscriptions (pre ++ .subscribe :: post) =
      subscriptions pre + 1 + subscriptions post := by
    simp [subscriptions, List.countP_cons, Op.isSubscribe]
    omega
  omega

/-- One more operation keeps the live ids it does not unsubscribe, and a subscription adds the
next id. -/
theorem live_append_iff (ops : List Op) (op : Op) (id : Nat) :
    Live (ops ++ [op]) id ↔
      (Live ops id ∧ op ≠ .unsubscribe id) ∨ (op = .subscribe ∧ id = subscriptions ops + 1) := by
  constructor
  · rintro ⟨pre, post, h, hid, hnot⟩
    rcases List.eq_nil_or_concat post with rfl | ⟨post', z, rfl⟩
    · obtain ⟨rfl, hop⟩ := List.append_inj' h rfl
      exact .inr ⟨by simpa using hop, hid⟩
    · have h' : ops ++ [op] = (pre ++ .subscribe :: post') ++ [z] := by simpa using h
      obtain ⟨rfl, hop⟩ := List.append_inj' h' rfl
      simp only [List.concat_eq_append, List.mem_append, List.mem_singleton, not_or] at hnot
      obtain rfl : op = z := by simpa using hop
      exact .inl ⟨⟨pre, post', rfl, hid, hnot.1⟩, Ne.symm hnot.2⟩
  · rintro (⟨⟨pre, post, rfl, hid, hnot⟩, hop⟩ | ⟨rfl, hid⟩)
    · refine ⟨pre, post ++ [op], by simp, hid, ?_⟩
      simp only [List.mem_append, List.mem_singleton, not_or]
      exact ⟨hnot, Ne.symm hop⟩
    · exact ⟨ops, [], rfl, hid, List.not_mem_nil⟩

/-! ## Runs -/

section Runs

variable {σ : Type} (hear : Notice → σ → σ × Option String)

/-- One operation on a machine and the state of its listeners. -/
def Op.apply : Op → Machine × σ → Machine × σ
  | .request req reason, (m, s) => ((m.perform hear req reason s).1, (m.perform hear req reason s).2.1)
  | .subscribe, (m, s) => (m.subscribe.1, s)
  | .unsubscribe id, (m, s) => (m.unsubscribe id, s)
  | .query _, ms => ms

/-- A run of operations, in order. -/
def run (ops : List Op) (ms : Machine × σ) : Machine × σ :=
  ops.foldl (fun ms op => op.apply hear ms) ms

@[simp] theorem run_nil (ms : Machine × σ) : run hear [] ms = ms := rfl

@[simp] theorem run_append_singleton (ops : List Op) (op : Op) (ms : Machine × σ) :
    run hear (ops ++ [op]) ms = op.apply hear (run hear ops ms) :=
  List.foldl_append ..

/-! ## Requests as deliveries -/

/-- The notices a walk along a route owes its listeners: every listener, in order, of every
step. -/
def schedule (ids : List Nat) (reason : String) : ChargingState → List ChargingState → List Notice
  | _, [] => []
  | s, t :: rest => ids.map (⟨·, s, t, reason⟩) ++ schedule ids reason t rest

/-- Hands notices to the listeners in order until one refuses, answering the notice refused and
why. -/
def deliver : List Notice → σ → σ × Option (Notice × String)
  | [], s => (s, none)
  | n :: rest, s =>
    match hear n s with
    | (s', some cause) => (s', some (n, cause))
    | (s', none) => deliver rest s'

/-- Where a walk along `path` from `m` ends, given what delivering its notices answered: at the
end of the route, or in the state of the step refused. -/
def finish (m : Machine) (path : List ChargingState) :
    σ × Option (Notice × String) → Machine × σ × Except MachineError Unit
  | (s', none) => ({ m with state := path.getLast?.getD m.state }, s', .ok ())
  | (s', some (n, cause)) => ({ m with state := n.target }, s', .error (.refused n.source n.target cause))

theorem deliver_append (l₁ l₂ : List Notice) (s : σ) :
    deliver hear (l₁ ++ l₂) s =
      match deliver hear l₁ s with
      | (s', none) => deliver hear l₂ s'
      | r => r := by
  induction l₁ generalizing s with
  | nil => rfl
  | cons n rest ih =>
    simp only [List.cons_append, deliver]
    split
    · rfl
    · exact ih _

/-- A refusal answers one of the notices handed out. -/
theorem deliver_refused_mem {l : List Notice} {s s' : σ} {n : Notice} {cause : String}
    (h : deliver hear l s = (s', some (n, cause))) : n ∈ l := by
  induction l generalizing s with
  | nil => simp [deliver] at h
  | cons n' rest ih =>
    simp only [deliver] at h
    split at h
    · cases h
      exact List.mem_cons_self ..
    · exact List.mem_cons_of_mem _ (ih h)

theorem tell_eq (source target : ChargingState) (reason : String) (ids : List Nat) (s : σ) :
    tell hear source target reason ids s =
      ((deliver hear (ids.map (⟨·, source, target, reason⟩)) s).1,
        ((deliver hear (ids.map (⟨·, source, target, reason⟩)) s).2.map Prod.snd)) := by
  induction ids generalizing s with
  | nil => rfl
  | cons id ids ih =>
    rcases hx : hear ⟨id, source, target, reason⟩ s with ⟨s', _ | cause⟩
    · simp [tell, deliver, hx, ih]
    · simp [tell, deliver, hx]

/-- A walk delivers the notices its route owes and ends as `finish` says. -/
theorem walk_eq (reason : String) (m : Machine) (path : List ChargingState) (s : σ) :
    walk hear reason m path s = finish m path (deliver hear (schedule m.listeners reason m.state path) s) := by
  induction path generalizing m s with
  | nil => rfl
  | cons t rest ih =>
    simp only [walk, tell_eq, schedule, deliver_append]
    rcases hd : deliver hear (m.listeners.map (⟨·, m.state, t, reason⟩)) s with ⟨s', _ | ⟨n, cause⟩⟩
    · simp only [Option.map_none]
      rw [ih]
      simp only [finish]
      split <;> simp [List.getLast?_cons]
    · obtain ⟨id, -, rfl⟩ := List.mem_map.mp (deliver_refused_mem hear hd)
      rfl

theorem perform_eq (m : Machine) (req : Request) (reason : String) (s : σ) :
    m.perform hear req reason s =
      match req.route m.state with
      | .error e => (m, s, .error (.invalid e))
      | .ok path => finish m path (deliver hear (schedule m.listeners reason m.state path) s) := by
  cases h : req.route m.state <;> simp [perform, h, walk_eq]

/-- A request moves only the machine's state. -/
theorem perform_machine (m : Machine) (req : Request) (reason : String) (s : σ) :
    ∃ t, (m.perform hear req reason s).1 = { m with state := t } := by
  rw [perform_eq]
  split
  · exact ⟨m.state, rfl⟩
  · unfold finish
    split <;> exact ⟨_, rfl⟩

/-- A request answered with a refusal of the table changed nothing. -/
theorem perform_invalid {m : Machine} {req : Request} {reason : String} {s : σ}
    {e : TransitionError} (h : (m.perform hear req reason s).2.2 = .error (.invalid e)) :
    m.perform hear req reason s = (m, s, .error (.invalid e)) := by
  rw [perform_eq] at h ⊢
  cases hr : req.route m.state with
  | error e' =>
    simp only [hr] at h ⊢
    cases h
    rfl
  | ok path =>
    -- a walk answers only refusals of listeners
    simp only [hr, finish] at h
    split at h <;> cases h

/-- A move to the current state succeeds and tells nobody. -/
theorem perform_self (m : Machine) (reason : String) (s : σ) :
    m.perform hear (.moveTo m.state.code) reason s = (m, s, .ok ()) := by
  have hr : (Request.moveTo m.state.code).route m.state = .ok [] := by
    simp [Request.route, moveRoute]
  rw [perform_eq, hr]
  rfl

/-- The listeners after a run from a new machine are its live subscriptions, in increasing
order, and the last id handed out is the number of subscriptions. -/
theorem listeners_run (ops : List Op) (s : σ) :
    (∀ id, id ∈ (run hear ops (initial, s)).1.listeners ↔ Live ops id) ∧
      (run hear ops (initial, s)).1.listeners.Pairwise (· < ·) ∧
      (run hear ops (initial, s)).1.lastId = subscriptions ops := by
  induction ops using List.reverseRecOn with
  | nil => exact ⟨fun id => iff_of_false List.not_mem_nil (not_live_nil id), .nil, rfl⟩
  | append_singleton ops op ih =>
    rw [run_append_singleton]
    rcases hr : run hear ops (initial, s) with ⟨m, s'⟩
    rw [hr] at ih
    obtain ⟨hmem, hsorted, hlast⟩ := ih
    dsimp only at hmem hsorted hlast
    cases op with
    | request req reason =>
      obtain ⟨t, ht⟩ := perform_machine hear m req reason s'
      refine ⟨fun id => ?_, ?_, ?_⟩
      · simp [Op.apply, ht, live_append_iff, hmem]
      · simpa [Op.apply, ht] using hsorted
      · simpa [Op.apply, ht, Op.isSubscribe] using hlast
    | subscribe =>
      refine ⟨fun id => ?_, ?_, ?_⟩
      · simp [Op.apply, subscribe, live_append_iff, hmem, hlast]
      · refine List.pairwise_append.mpr ⟨hsorted, List.pairwise_singleton _ _, ?_⟩
        intro a ha b hb
        have hb : b = m.lastId + 1 := List.mem_singleton.mp hb
        have ha := ((hmem a).mp ha).bounds
        omega
      · simp [Op.apply, subscribe, hlast, Op.isSubscribe]
    | unsubscribe j =>
      have hnodup : m.listeners.Nodup := hsorted.imp Nat.ne_of_lt
      refine ⟨fun id => ?_, hsorted.erase j, ?_⟩
      · simp only [Op.apply, unsubscribe, hnodup.mem_erase_iff, hmem, live_append_iff]
        simp [and_comm, eq_comm]
      · simpa [Op.apply, unsubscribe, Op.isSubscribe] using hlast
    | query target =>
      exact ⟨fun id => by simp [Op.apply, live_append_iff, hmem], hsorted,
        by simpa [Op.apply, Op.isSubscribe] using hlast⟩

example : (run (fun (_ : Notice) (u : Unit) => (u, none))
    [.subscribe, .subscribe, .unsubscribe 1, .unsubscribe 7, .subscribe] (initial, ())).1.listeners =
      [2, 3] := by
  rfl

end Runs

/-! ## Routes -/

/-- A single move takes one edge of the table, or none to the current state. -/
theorem moveRoute_chain {target : UInt8} {s : ChargingState} {path : List ChargingState}
    (h : moveRoute target s = .ok path) : (s :: path).IsChain (fun a b => a.canStep b = true) := by
  unfold moveRoute at h
  split at h
  · cases h
    exact List.isChain_singleton s
  · split at h
    · split at h
      · next hc =>
        cases h
        exact List.isChain_pair.mpr hc
      · cases h
    · cases h

/-- Every route a request takes follows edges of the table. -/
theorem route_chain {req : Request} {s : ChargingState} {path : List ChargingState}
    (h : req.route s = .ok path) : (s :: path).IsChain (fun a b => a.canStep b = true) := by
  cases req with
  | moveTo target => exact moveRoute_chain h
  | enterError => exact moveRoute_chain h
  | startCharging =>
    cases s <;> simp [Request.route, startRest, startPath] at h <;> subst h <;> decide
  | stopCharging => cases s <;> simp [Request.route, stopPath] at h <;> subst h <;> decide
  | pauseCharging =>
    cases s <;> simp [Request.route] at h
    subst h
    decide
  | resumeCharging =>
    cases s <;> simp [Request.route] at h
    subst h
    decide
  | reset =>
    cases s <;> simp [Request.route] at h
    subst h
    decide

/-- Every notice a route owes is of one of its edges, to one of the listeners, with the
request's reason. -/
theorem schedule_edge {ids : List Nat} {reason : String} :
    ∀ {s : ChargingState} {path : List ChargingState},
      (s :: path).IsChain (fun a b => a.canStep b = true) →
      ∀ n ∈ schedule ids reason s path,
        n.source.canStep n.target = true ∧ n.listener ∈ ids ∧ n.reason = reason
  | _, [], _, n, hn => by simp [schedule] at hn
  | s, t :: rest, hc, n, hn => by
    obtain ⟨hst, hrest⟩ := List.isChain_cons_cons.mp hc
    rcases List.mem_append.mp hn with hn | hn
    · obtain ⟨id, hid, rfl⟩ := List.mem_map.mp hn
      exact ⟨hst, hid, rfl⟩
    · exact schedule_edge hrest n hn

/-- A move is allowed exactly when the table takes it. -/
theorem canMoveTo_iff (m : Machine) (target : UInt8) :
    m.canMoveTo target = true ↔ ∃ path, (Request.moveTo target).route m.state = .ok path := by
  simp only [canMoveTo, Request.route, moveRoute, validTransition, ChargingState.ofCode?_code]
  by_cases h : target = m.state.code
  · simp [h]
  · cases ht : ChargingState.ofCode? target with
    | none => simp [h]
    | some t => by_cases hc : m.state.canStep t <;> simp [h, hc]

/-! ## Every run -/

/-- After any run from a new machine its listeners are its live subscriptions in order, and every
request is refused with nothing changed or hands each listener, in order, each step of its route. -/
theorem machine_runs_lawful {σ : Type} (hear : Notice → σ → σ × Option String) (ops : List Op)
    (s₀ : σ) :
    let m := (run hear ops (initial, s₀)).1
    let s := (run hear ops (initial, s₀)).2
    (∀ id, id ∈ m.listeners ↔ Live ops id) ∧ m.listeners.Pairwise (· < ·) ∧
      m.subscribe.2 = subscriptions ops + 1 ∧ (∀ id, ¬Live ops id → m.unsubscribe id = m) ∧
      (∀ target, m.canMoveTo target = true ↔
        ∃ path, (Request.moveTo target).route m.state = .ok path) ∧
      (∀ reason, m.perform hear (.moveTo m.state.code) reason s = (m, s, .ok ())) ∧
      ∀ req reason,
        (∀ e, (m.perform hear req reason s).2.2 = .error (.invalid e) →
          m.perform hear req reason s = (m, s, .error (.invalid e))) ∧
        ∀ path, req.route m.state = .ok path →
          (m.state :: path).IsChain (fun a b => a.canStep b = true) ∧
          (∀ n ∈ schedule m.listeners reason m.state path,
            n.source.canStep n.target = true ∧ n.listener ∈ m.listeners ∧ n.reason = reason) ∧
          m.perform hear req reason s =
            finish m path (deliver hear (schedule m.listeners reason m.state path) s) := by
  intro m s
  obtain ⟨hmem, hsorted, hlast⟩ := listeners_run hear ops s₀
  refine ⟨hmem, hsorted, by simp [m, subscribe, hlast], fun id hid => ?_, canMoveTo_iff m,
    fun reason => perform_self hear m reason s,
    fun req reason => ⟨fun e => perform_invalid hear, fun path hp => ?_⟩⟩
  · -- an id that is not live is no listener
    have hn : id ∉ m.listeners := fun h => hid ((hmem id).mp h)
    simp [unsubscribe, List.erase_of_not_mem hn]
  · have hc := route_chain hp
    refine ⟨hc, schedule_edge hc, ?_⟩
    rw [perform_eq, hp]

end Evse.Machine
