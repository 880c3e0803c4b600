import Evse.Proofs.Charging.Runs
/-!
The composite requests of the charging machine: each walks its path or is refused by the table,
and stops at the first refusal.
-/
namespace Evse.Machine

open ChargingState

section Outcome

variable {σ : Type} (hear : Notice → σ → σ × Option String)

/-- What a walk along `path` from `m` may answer: the listeners hear every notice of every step in
order and the machine ends at the end of the path; or they hear them in order up to the first
refusal, which leaves the machine at the target of the step refused and answers that refusal. -/
def Walked (m : Machine) (path : List ChargingState) (reason : String) (s : σ)
    (result : Machine × σ × Except MachineError Unit) : Prop :=
  (∃ s', deliver hear (schedule m.listeners reason m.state path) s = (s', none) ∧
    result = ({ m with state := path.getLast?.getD m.state }, s', .ok ())) ∨
  ∃ pre n post s₁ s' cause, schedule m.listeners reason m.state path = pre ++ n :: post ∧
    deliver hear pre s = (s₁, none) ∧ hear n s₁ = (s', some cause) ∧
    result = ({ m with state := n.target }, s', .error (.refused n.source n.target cause))

/-- Handing out notices either passes all of them, or stops at the first refusal. -/
theorem deliver_cases (l : List Notice) (s : σ) :
    (∃ s', deliver hear l s = (s', none)) ∨
      ∃ pre n post s₁ s' cause, l = pre ++ n :: post ∧ deliver hear pre s = (s₁, none) ∧
        hear n s₁ = (s', some cause) ∧ deliver hear l s = (s', some (n, cause)) := by
  induction l generalizing s with
  | nil => exact .inl ⟨s, rfl⟩
  | cons n rest ih =>
    rcases hn : hear n s with ⟨s₁, _ | cause⟩
    · rcases ih s₁ with ⟨s', hd⟩ | ⟨pre, n', post, s₂, s', cause, rfl, hpre, hn', hd⟩
      · exact .inl ⟨s', by simp [deliver, hn, hd]⟩
      · refine .inr ⟨n :: pre, n', post, s₂, s', cause, rfl, ?_, hn', ?_⟩
        · simp [deliver, hn, hpre]
        · simp [deliver, hn, hd]
    · exact .inr ⟨[], n, rest, s, s₁, cause, rfl, rfl, hn, by simp [deliver, hn]⟩

/-- Every notice a walk owes is of a step into a state of its path. -/
theorem schedule_target_mem {ids : List Nat} {reason : String} :
    ∀ {s : ChargingState} {path : List ChargingState} {n : Notice},
      n ∈ schedule ids reason s path → n.target ∈ path
  | _, [], _, hn => by simp [schedule] at hn
  | _, t :: rest, n, hn => by
    rcases List.mem_append.mp hn with hn | hn
    · obtain ⟨id, -, rfl⟩ := List.mem_map.mp hn
      exact List.mem_cons_self ..
    · exact List.mem_cons_of_mem t (schedule_target_mem hn)

/-- A walk along a path that goes somewhere ends in one of its states. -/
theorem Walked.state_mem {m : Machine} {path : List ChargingState} {reason : String} {s : σ}
    {result : Machine × σ × Except MachineError Unit} (h : Walked hear m path reason s result)
    (hp : path ≠ []) : result.1.state ∈ path := by
  rcases h with ⟨s', -, rfl⟩ | ⟨pre, n, post, s₁, s', cause, hl, -, -, rfl⟩
  · obtain ⟨t, ht⟩ := List.getLast?_isSome.mpr hp |> Option.isSome_iff_exists.mp
    simpa [ht] using List.mem_of_getLast? ht
  · exact schedule_target_mem (hl ▸ List.mem_append_right pre List.mem_cons_self)

/-- A walk along any path answers as `Walked` says. -/
theorem walk_walked (m : Machine) (path : List ChargingState) (reason : String) (s : σ) :
    Walked hear m path reason s (walk hear reason m path s) := by
  rw [walk_eq]
  rcases deliver_cases hear (schedule m.listeners reason m.state path) s with
    ⟨s', hd⟩ | ⟨pre, n, post, s₁, s', cause, hl, hpre, hn, hd⟩
  · exact .inl ⟨s', hd, by rw [hd]; rfl⟩
  · exact .inr ⟨pre, n, post, s₁, s', cause, hl, hpre, hn, by rw [hd]; rfl⟩

/-- A request the table takes walks its route. -/
theorem perform_walked {m : Machine} {req : Request} {path : List ChargingState}
    (h : req.route m.state = .ok path) (reason : String) (s : σ) :
    Walked hear m path reason s (m.perform hear req reason s) := by
  rw [perform, h]
  exact walk_walked hear m path reason s

/-- A request the table refuses changes nothing and answers the refusal. -/
theorem perform_of_refused {m : Machine} {req : Request} {e : TransitionError}
    (h : req.route m.state = .error e) (reason : String) (s : σ) :
    m.perform hear req reason s = (m, s, .error (.invalid e)) := by
  rw [perform, h]

end Outcome

/-! ## Routes -/

/-- A start walks the rest of the start path from any state on it but charging. -/
theorem route_startCharging (s : ChargingState) :
    Request.startCharging.route s =
      if s ∈ startPath.dropLast then .ok (startPath.drop (startPath.idxOf s + 1))
      else .error ⟨"start charging", s, charging.code⟩ := by
  cases s <;> rfl

theorem route_stopCharging (s : ChargingState) :
    Request.stopCharging.route s =
      if s = ready ∨ s = charging then .ok stopPath
      else .error ⟨"stop charging", s, stop.code⟩ := by
  cases s <;> rfl

/-- The rest of the start path after any state on it but charging ends in charging. -/
theorem startPath_rest_getLast {s : ChargingState} (h : s ∈ startPath.dropLast) :
    (startPath.drop (startPath.idxOf s + 1)).getLast? = some charging := by
  revert h
  cases s <;> decide

/-- A move into error takes the one edge into it from every state but error, where it is a move
to the current state. -/
theorem route_enterError (s : ChargingState) :
    Request.enterError.route s = if s = error then .ok [] else .ok [error] := by
  cases s <;> rfl

section Requests

variable {σ : Type} (hear : Notice → σ → σ × Option String) (m : Machine) (reason : String)
  (s : σ)

/-- A move into error ends in error, whatever the listeners answer. -/
theorem perform_enterError_state : (m.perform hear .enterError reason s).1.state = error := by
  have hr := route_enterError m.state
  by_cases he : m.state = error
  · rw [if_pos he] at hr
    rw [perform, hr]
    exact he
  · rw [if_neg he] at hr
    exact List.mem_singleton.mp
      ((perform_walked hear hr reason s).state_mem hear (List.cons_ne_nil _ _))

/-- From error a move into error does nothing and tells nobody. -/
theorem perform_enterError_of_error (he : m.state = error) :
    m.perform hear .enterError reason s = (m, s, .ok ()) := by
  have hr := route_enterError m.state
  rw [if_pos he] at hr
  rw [perform, hr]
  rfl

/-- Whatever the listeners answer, each composite request walks its path from the states the table
allows, as `Walked` says, and is refused with nothing changed from every other state. -/
theorem composite_requests_walk_or_refuse :
    (if m.state ∈ startPath.dropLast then
      Walked hear m (startPath.drop (startPath.idxOf m.state + 1)) reason s
          (m.perform hear .startCharging reason s) ∧
        (startPath.drop (startPath.idxOf m.state + 1)).getLast? = some charging
    else m.perform hear .startCharging reason s =
      (m, s, .error (.invalid ⟨"start charging", m.state, charging.code⟩))) ∧
    (if m.state = ready ∨ m.state = charging then
      Walked hear m stopPath reason s (m.perform hear .stopCharging reason s)
    else m.perform hear .stopCharging reason s =
      (m, s, .error (.invalid ⟨"stop charging", m.state, stop.code⟩))) ∧
    (if m.state = charging then
      Walked hear m [ready] reason s (m.perform hear .pauseCharging reason s)
    else m.perform hear .pauseCharging reason s =
      (m, s, .error (.invalid ⟨"pause charging", m.state, ready.code⟩))) ∧
    (if m.state = ready then
      Walked hear m [charging] reason s (m.perform hear .resumeCharging reason s)
    else m.perform hear .resumeCharging reason s =
      (m, s, .error (.invalid ⟨"resume charging", m.state, charging.code⟩))) ∧
    (if m.state = error then
      Walked hear m [idle] "reset" s (m.perform hear .reset "reset" s)
    else m.perform hear .reset "reset" s =
      (m, s, .error (.invalid ⟨"reset", m.state, idle.code⟩))) ∧
    (m.perform hear .enterError reason s).1.state = error ∧
    (if m.state = error then m.perform hear .enterError reason s = (m, s, .ok ())
    else Walked hear m [error] reason s (m.perform hear .enterError reason s)) := by
  have start := route_startCharging m.state
  have stopping := route_stopCharging m.state
  have entering := route_enterError m.state
  refine ⟨?_, ?_, ?_, ?_, ?_, perform_enterError_state hear m reason s, ?_⟩
  · split_ifs at start ⊢ with h
    · exact ⟨perform_walked hear start reason s, startPath_rest_getLast h⟩
    · exact perform_of_refused hear start reason s
  · split_ifs at stopping ⊢
    · exact perform_walked hear stopping reason s
    · exact perform_of_refused hear stopping reason s
  · split_ifs with h
    · exact perform_walked hear (by simp [Request.route, h]) reason s
    · exact perform_of_refused hear (by simp [Request.route, h]) reason s
  · split_ifs with h
    · exact perform_walked hear (by simp [Request.route, h]) reason s
    · exact perform_of_refused hear (by simp [Request.route, h]) reason s
  · split_ifs with h
    · exact perform_walked hear (by simp [Request.route, h]) "reset" s
    · exact perform_of_refused hear (by simp [Request.route, h]) "reset" s
  · split_ifs at entering ⊢ with h
    · exact perform_enterError_of_error hear m reason s h
    · exact perform_walked hear entering reason s

end Requests

end Evse.Machine
