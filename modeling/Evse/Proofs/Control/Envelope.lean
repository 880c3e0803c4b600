import Evse.Proofs.Control.Retransmission
/-!
A state envelope applied field by field: heard, enable flag, intent, contactor flag.
-/
namespace Evse.Control

open ChargingState

/-! ## Walks of the machine -/

/-- `w'` follows `w` with the machine walked along `path`: it ends on the path's last state, every
other listener is told of each step with `reason`, and the listeners are those of `w`. -/
structure Walks (reason : String) (path : List ChargingState) (w w' : World) : Prop where
  own : w'.ctl.ownListener = w.ctl.ownListener
  listeners : w'.ctl.machine.listeners = w.ctl.machine.listeners
  state : w'.ctl.machine.state = path.getLast?.getD w.ctl.machine.state
  told : Told (walkNotices w.ctl.ownListener w.ctl.machine.listeners reason
    w.ctl.machine.state path) w w'

theorem walkNotices_append (own : Nat) (ids : List Nat) (reason : String) (s : ChargingState)
    (path path' : List ChargingState) :
    walkNotices own ids reason s (path ++ path') =
      walkNotices own ids reason s path ++
        walkNotices own ids reason (path.getLast?.getD s) path' := by
  induction path generalizing s with
  | nil => simp [walkNotices]
  | cons t rest ih => simp [walkNotices, ih, List.getLast?_cons]

namespace Walks

variable {reason reason' : String} {path path' : List ChargingState} {w w₁ w₂ : World}

theorem trans (h₁ : Walks reason path w w₁) (h₂ : Walks reason path' w₁ w₂) :
    Walks reason (path ++ path') w w₂ where
  own := h₂.own.trans h₁.own
  listeners := h₂.listeners.trans h₁.listeners
  state := by
    rw [h₂.state, h₁.state, List.getLast?_append]
    cases path'.getLast? <;> rfl
  told := by
    have h := h₂.told
    rw [h₁.own, h₁.listeners, h₁.state] at h
    rw [walkNotices_append]
    exact h₁.told.trans h

/-- A world that keeps the machine and tells nobody walks the empty path. -/
theorem of_settled (h : Settled w w₁) : Walks reason [] w w₁ :=
  ⟨congrArg Core.ownListener h.1, congrArg Machine.listeners h.2.1, congrArg Machine.state h.2.1,
    h.2.2.told⟩

/-- The reason of an empty walk is never told. -/
theorem retell (h : Walks reason [] w w₁) : Walks reason' [] w w₁ :=
  ⟨h.own, h.listeners, h.state, h.told⟩

/-- A walk followed by a world that keeps the machine and tells nobody. -/
theorem quiet (h₁ : Walks reason path w w₁) (h₂ : Walks reason' [] w₁ w₂) :
    Walks reason path w w₂ := by
  simpa using h₁.trans h₂.retell

theorem settled (h₁ : Walks reason path w w₁) (h₂ : Settled w₁ w₂) : Walks reason path w w₂ :=
  h₁.quiet (of_settled h₂ : Walks reason [] w₁ w₂)

theorem after (h₁ : Walks reason' [] w w₁) (h₂ : Walks reason path w₁ w₂) :
    Walks reason path w w₂ :=
  h₁.retell.trans h₂

/-- A note keeps the machine and tells nobody. -/
theorem note (reason : String) (w : World) (severity : Log.Severity) (tag text : String) :
    Walks reason [] w { w with trace := w.trace ++ [.note severity tag text] } :=
  ⟨rfl, rfl, rfl, [_], rfl, rfl⟩

end Walks

/-- A request the table allows walks its route on an agreeable plant and keeps the core. -/
theorem request_walks {p : Plant} (hp : p.Agreeable) {req : Request} {w : World}
    {path : List ChargingState} (h : req.route w.ctl.machine.state = .ok path) (reason : String) :
    (exec (request req reason) p w).1 = .ok () ∧
      (exec (request req reason) p w).2.ctl.core = w.ctl.core ∧
      Walks reason path w (exec (request req reason) p w).2 := by
  obtain ⟨hr, hc, hm, hg⟩ := request_lands hp h reason
  exact ⟨hr, hc, ⟨congrArg Core.ownListener hc, by rw [hm], by rw [hm], hg.told⟩⟩

/-- A request the table allows, its failure only noted. -/
theorem request_noted_walks {p : Plant} (hp : p.Agreeable) {req : Request} {w : World}
    {path : List ChargingState} (h : req.route w.ctl.machine.state = .ok path)
    (reason context : String) :
    (exec (do noteFailure .error context (← request req reason)) p w).2.ctl.core = w.ctl.core ∧
      Walks reason path w (exec (do noteFailure .error context (← request req reason)) p w).2 := by
  obtain ⟨-, hc, hw⟩ := request_walks hp h reason
  have hs := (noteFailure_calm (show Log.Severity.error ≠ .info by decide) context
    (exec (request req reason) p w).1).settled p (exec (request req reason) p w).2
  rw [exec_bind]
  exact ⟨hs.1.trans hc, hw.settled hs⟩

/-! ## Back to idle -/

/-- The route a return to idle walks from a state: ready and charging through stop and finished,
stop through finished, idle and error nowhere, any other state straight to idle. -/
def idleRoute : ChargingState → List ChargingState
  | .ready | .charging => stopPath
  | .stop => [finished, idle]
  | .idle | .error => []
  | _ => [idle]

/-- On an agreeable plant a return to idle walks the machine along `idleRoute`, so it ends in idle
from every state but error, and keeps the core. -/
theorem returnToIdle_walks {p : Plant} (hp : p.Agreeable) (reason : String) (w : World) :
    (exec (returnToIdle reason) p w).2.ctl.core = w.ctl.core ∧
      Walks reason (idleRoute w.ctl.machine.state) w (exec (returnToIdle reason) p w).2 := by
  unfold returnToIdle
  rw [exec_ctl_bind]
  have single (req : Request) {path : List ChargingState}
      (h : req.route w.ctl.machine.state = .ok path) :=
    request_noted_walks hp h reason "Failed to return to idle"
  cases hs : w.ctl.machine.state with
  | idle => exact ⟨rfl, Walks.of_settled (Settled.refl w)⟩
  | error =>
    have hn := (Calm.note_of_ne_info (by decide) :
      Calm (note .warn "Staying in error state, reset required")).settled p w
    exact ⟨hn.1, Walks.of_settled hn⟩
  | ready => exact single .stopCharging (by rw [hs]; rfl)
  | charging => exact single .stopCharging (by rw [hs]; rfl)
  | off => exact single (.moveTo idle.code) (by rw [hs]; rfl)
  | connected => exact single (.moveTo idle.code) (by rw [hs]; rfl)
  | identification => exact single (.moveTo idle.code) (by rw [hs]; rfl)
  | finished => exact single (.moveTo idle.code) (by rw [hs]; rfl)
  | stop =>
    have hroute₁ : (Request.moveTo finished.code).route w.ctl.machine.state = .ok [finished] := by
      rw [hs]
      rfl
    obtain ⟨hr₁, hc₁, hw₁⟩ := request_walks hp hroute₁ reason
    have hroute₂ : (Request.moveTo idle.code).route
        (exec (request (.moveTo finished.code) reason) p w).2.ctl.machine.state = .ok [idle] := by
      rw [hw₁.state, hs]
      rfl
    obtain ⟨hc₂, hw₂⟩ := request_noted_walks hp hroute₂ reason "Failed to return to idle"
    simp only [exec_bind, hr₁] at hc₂ hw₂ ⊢
    exact ⟨hc₂.trans hc₁, hw₁.trans hw₂⟩

/-! ## The session switch -/

/-- Turning the session switch walks nowhere and keeps the arming. -/
theorem turnSwitch_walks (v : Bool) (text reason : String) (p : Plant) (w : World) :
    (exec (turnSwitch v text) p w).2.ctl.sessionEnabled = v ∧
      (exec (turnSwitch v text) p w).2.ctl.peerReady = w.ctl.peerReady ∧
      Walks reason [] w (exec (turnSwitch v text) p w).2 := by
  unfold turnSwitch
  simp only [exec_bind, exec_modifyCtl, exec_observe, exec_note]
  let w₁ : World :=
    ⟨{ w.ctl with sessionEnabled := v, metrics := w.ctl.metrics.map (·.sessionSwitch v) },
      w.trace ++ [.note .info "Controller" text]⟩
  have h₁ : Walks reason [] w w₁ := ⟨rfl, rfl, rfl, [_], rfl, rfl⟩
  have hs := refreshLeds_calm.settled p w₁
  exact ⟨congrArg Core.sessionEnabled hs.1, congrArg Core.peerReady hs.1, h₁.settled hs⟩

theorem enableSessions_walks (source reason : String) (p : Plant) (w : World) :
    (exec (enableSessions source) p w).2.ctl.sessionEnabled = true ∧
      (exec (enableSessions source) p w).2.ctl.peerReady = w.ctl.peerReady ∧
      Walks reason [] w (exec (enableSessions source) p w).2 :=
  turnSwitch_walks true _ reason p w

/-- On an agreeable plant a stop of an active session walks the stop path, then opens the relay,
and keeps the arming. -/
theorem stopSession_walks {p : Plant} (hp : p.Agreeable) (reason : String) {w : World}
    (ha : w.ctl.machine.state.isActive = true) :
    (exec (stopSession reason) p w).2.ctl.peerReady = w.ctl.peerReady ∧
      Walks reason stopPath w (exec (stopSession reason) p w).2 := by
  have hroute : Request.stopCharging.route w.ctl.machine.state = .ok stopPath := by
    simp [Request.route, isActive_iff.mp ha]
  obtain ⟨hr, hc, hw⟩ := request_walks hp hroute reason
  let w₁ := (exec (request .stopCharging reason) p w).2
  obtain ⟨-, hs⟩ := setRelay_spec false p w₁
  have hwrite : Walks reason [] w₁ ⟨w₁.ctl.afterRelay p false,
      w₁.trace ++ [.write Hardware.relay false (p.writeFault Hardware.relay false 0).isNone]⟩ :=
    ⟨rfl, rfl, rfl, [_], rfl, rfl⟩
  unfold stopSession
  rw [exec_bind, hr]
  exact ⟨(congrArg Core.peerReady hs.1).trans (congrArg Core.peerReady hc),
    (hw.quiet hwrite).settled hs⟩

/-- On an agreeable plant a disable walks an active session down the stop path, then turns
sessions off, and keeps the arming. -/
theorem disableSessions_walks {p : Plant} (hp : p.Agreeable) (source : String) (w : World) :
    (exec (disableSessions source) p w).2.ctl.sessionEnabled = false ∧
      (exec (disableSessions source) p w).2.ctl.peerReady = w.ctl.peerReady ∧
      Walks "session disabled" (if w.ctl.machine.state.isActive then stopPath else []) w
        (exec (disableSessions source) p w).2 := by
  by_cases ha : w.ctl.machine.state.isActive = true
  · let w₁ : World := { w with trace := w.trace ++
      [.note .info "Controller" "Stopping active session before disable"] }
    let w₃ := (exec (noteFailure .error "Failed to stop charging before disable"
      (exec (stopSession "session disabled") p w₁).1) p
      (exec (stopSession "session disabled") p w₁).2).2
    have hsplit : (exec (disableSessions source) p w).2 =
        (exec (turnSwitch false s!"Session disabled by {source}") p w₃).2 := by
      unfold disableSessions
      rw [exec_ctl_bind]
      dsimp only
      rw [if_pos ha]
      rfl
    obtain ⟨hr₂, hw₂⟩ := stopSession_walks hp "session disabled" (w := w₁) ha
    have hs₃ := (noteFailure_calm (show Log.Severity.error ≠ .info by decide)
      "Failed to stop charging before disable"
      (exec (stopSession "session disabled") p w₁).1).settled p
      (exec (stopSession "session disabled") p w₁).2
    obtain ⟨he, har, hw⟩ := turnSwitch_walks false s!"Session disabled by {source}"
      "session disabled" p w₃
    rw [hsplit, if_pos ha]
    exact ⟨he, har.trans ((congrArg Core.peerReady hs₃.1).trans hr₂),
      ((Walks.after (Walks.note "session disabled" w _ _ _) hw₂).settled hs₃).quiet hw⟩
  · have hsplit : (exec (disableSessions source) p w).2 =
        (exec (turnSwitch false s!"Session disabled by {source}") p w).2 := by
      unfold disableSessions
      rw [exec_ctl_bind]
      dsimp only
      rw [if_neg ha]
    rw [hsplit, if_neg ha]
    exact turnSwitch_walks false _ "session disabled" p w

/-- The route a change of the peer's enable flag to `on` walks: the stop path when it turns off
sessions that are on in ready or charging, nowhere otherwise. -/
def disableRoute (on : Bool) (c : Controller) : List ChargingState :=
  if !on && c.sessionEnabled && c.machine.state.isActive then stopPath else []

/-- What following the peer's enable flag from `prev` to `on` does from `w` to `w'`: nothing when
the flag did not change; when it did, sessions end enabled as the flag says and the machine walks
`disableRoute`; the arming is kept. -/
structure FollowsEnable (prev on : Bool) (w w' : World) : Prop where
  same : on = prev → w' = w
  switched : on ≠ prev → w'.ctl.sessionEnabled = on
  walks : on ≠ prev → Walks "session disabled" (disableRoute on w.ctl) w w'
  armed : w'.ctl.peerReady = w.ctl.peerReady

theorem FollowsEnable.of_changed {prev on : Bool} {w w' : World} (hc : on ≠ prev)
    (h : w'.ctl.sessionEnabled = on ∧ w'.ctl.peerReady = w.ctl.peerReady ∧
      Walks "session disabled" (disableRoute on w.ctl) w w') : FollowsEnable prev on w w' :=
  ⟨fun h' => absurd h' hc, fun _ => h.1, fun _ => h.2.2, h.2.1⟩

theorem followEnable_follows {p : Plant} (hp : p.Agreeable) (prev on : Bool) (w : World) :
    FollowsEnable prev on w (exec (followEnable prev on) p w).2 := by
  by_cases hc : on = prev
  · subst hc
    rw [exec_followEnable_same]
    exact ⟨fun _ => rfl, fun h => absurd rfl h, fun h => absurd rfl h, rfl⟩
  refine FollowsEnable.of_changed hc ?_
  unfold followEnable
  rw [if_pos (by simpa using hc), exec_bind, exec_note]
  dsimp only
  rw [exec_ctl_bind]
  let w₁ : World := { w with trace := w.trace ++
    [.note .info "Controller" s!"Peer enable {prev} -> {on}"] }
  have hn : Walks "session disabled" [] w w₁ := Walks.note _ w _ _ _
  split
  · next hen =>
    obtain ⟨rfl, hoff⟩ : on = true ∧ w.ctl.sessionEnabled = false := by simpa using hen
    obtain ⟨he, har, hw⟩ := enableSessions_walks "peer" "session disabled" p w₁
    exact ⟨he, har, by simpa [disableRoute] using hn.after hw⟩
  split
  · next hen =>
    obtain ⟨rfl, hon⟩ : on = false ∧ w.ctl.sessionEnabled = true := by simpa using hen
    obtain ⟨he, har, hw⟩ := disableSessions_walks hp "peer" w₁
    exact ⟨he, har, by simpa [disableRoute, hon] using hn.after hw⟩
  · next hen₁ hen₂ =>
    have hs : w.ctl.sessionEnabled = on := by cases on <;> simp_all
    have hr : disableRoute on w.ctl = [] := by cases on <;> simp_all [disableRoute]
    exact ⟨hs, rfl, hr ▸ hn⟩

/-! ## The peer's intent -/

theorem Controller.takesCharging_iff {c : Controller} :
    c.takesCharging = true ↔ c.relayEnabled = true ∧ c.sessionEnabled = true ∧
      c.machine.state = idle ∧ c.peerReady = true := by
  simp [Controller.takesCharging, and_assoc]

/-- The route the peer's intent walks the machine of `c` along: an idle intent back to idle, a stop
intent down the stop path from charging, a charging intent the controller takes up the start path
from idle; no other intent walks. -/
def intentRoute (intent : ChargingState) (c : Controller) : List ChargingState :=
  match intent with
  | .idle => idleRoute c.machine.state
  | .stop => if c.machine.state = charging then stopPath else []
  | .charging => if c.takesCharging then [connected, identification, ready, charging] else []
  | _ => []

/-- The reason every listener is told of a step the peer's intent walks. -/
def intentReason : ChargingState → String
  | .idle => "peer idle"
  | .stop => "peer stop"
  | .charging => "peer charging"
  | _ => ""

/-- On an agreeable plant the peer's intent walks the machine along `intentRoute` and keeps the core
but for the arming, which it sets exactly for a ready taken with the relay on and the machine
idle. -/
theorem applyIntent_walks {p : Plant} (hp : p.Agreeable) (intent : ChargingState) (w : World) :
    Walks (intentReason intent) (intentRoute intent w.ctl) w (exec (applyIntent intent) p w).2 ∧
      (∃ armed, (exec (applyIntent intent) p w).2.ctl.core =
        { w.ctl with peerReady := armed }.core) ∧
      (exec (applyIntent intent) p w).2.ctl.peerReady =
        (intent == ready && w.ctl.relayEnabled && w.ctl.machine.state == idle) := by
  unfold applyIntent
  rw [exec_ctl_bind]
  simp only [exec_bind, exec_modifyCtl]
  let w₀ : World := { w with ctl := { w.ctl with peerReady := false } }
  have h₀ (reason : String) : Walks reason [] w w₀ :=
    ⟨rfl, rfl, rfl, [], (List.append_nil _).symm, rfl⟩
  have unarmed {w' : World} (hc : w'.ctl.core = w₀.ctl.core)
      (hf : (intent == ready && w.ctl.relayEnabled && w.ctl.machine.state == idle) = false) :
      (∃ armed, w'.ctl.core = { w.ctl with peerReady := armed }.core) ∧
        w'.ctl.peerReady =
          (intent == ready && w.ctl.relayEnabled && w.ctl.machine.state == idle) :=
    ⟨⟨false, hc⟩, (congrArg Core.peerReady hc).trans hf.symm⟩
  have rejected (why : String) : Settled w₀ (exec (rejectPeer intent why) p w₀).2 :=
    (rejectPeer_calm intent why).settled p w₀
  cases intent with
  | idle =>
    obtain ⟨hc, hw⟩ := returnToIdle_walks hp "peer idle" w₀
    exact ⟨(h₀ "").after hw, unarmed hc rfl⟩
  | stop =>
    dsimp only
    split
    · next hs =>
      replace hs : w.ctl.machine.state = charging := by simpa using hs
      have hroute : Request.stopCharging.route w₀.ctl.machine.state = .ok stopPath := by
        show Request.stopCharging.route w.ctl.machine.state = _
        rw [hs]
        rfl
      obtain ⟨hc, hw⟩ := request_noted_walks hp hroute "peer stop"
        "Failed to stop charging for peer"
      have hi : intentRoute stop w.ctl = stopPath := if_pos hs
      exact ⟨hi ▸ (h₀ "").after hw, unarmed hc rfl⟩
    · next hs =>
      have hi : intentRoute stop w.ctl = [] := if_neg (by simpa using hs)
      exact ⟨hi ▸ h₀ _, unarmed rfl rfl⟩
  | ready =>
    dsimp only
    split
    · exact ⟨(h₀ _).settled (rejected _), unarmed (rejected _).1 (by simp_all)⟩
    split
    · exact ⟨(h₀ _).settled (rejected _), unarmed (rejected _).1 (by simp_all)⟩
    · simp only [exec_bind, exec_modifyCtl, exec_note]
      exact ⟨⟨rfl, rfl, rfl, [_], rfl, rfl⟩, ⟨true, rfl⟩, by simp_all⟩
  | charging =>
    dsimp only
    have refused {w' : World} (hs : Settled w₀ w')
        (ht : ¬(w.ctl.relayEnabled = true ∧ w.ctl.sessionEnabled = true ∧
          w.ctl.machine.state = idle ∧ w.ctl.peerReady = true)) :
        Walks (intentReason charging) (intentRoute charging w.ctl) w w' ∧
          (∃ armed, w'.ctl.core = { w.ctl with peerReady := armed }.core) ∧
          w'.ctl.peerReady =
            (charging == ready && w.ctl.relayEnabled && w.ctl.machine.state == idle) := by
      have hi : intentRoute charging w.ctl = [] := if_neg (by rwa [Controller.takesCharging_iff])
      exact ⟨hi ▸ (h₀ _).settled hs, unarmed hs.1 rfl⟩
    split
    · next hc => exact refused (Settled.refl w₀) fun ht => by simp [ht.2.2.1] at hc
    split
    · next hr => exact refused (rejected _) fun ht => by simp [ht.1] at hr
    split
    · next hs => exact refused (rejected _) fun ht => by simp [ht.2.2.1, ht.2.2.2] at hs
    split
    · next he => exact refused (rejected _) fun ht => by simp [ht.2.1] at he
    · next hc hr hs he =>
      have hidle : w.ctl.machine.state = idle := by simpa using (Bool.or_eq_false_iff.mp
        (Bool.eq_false_iff.mpr hs)).1
      have ht : w.ctl.takesCharging = true := by
        rw [Controller.takesCharging_iff]
        exact ⟨by simpa using hr, by simpa using he, hidle,
          by simpa using (Bool.or_eq_false_iff.mp (Bool.eq_false_iff.mpr hs)).2⟩
      have hroute : Request.startCharging.route w₀.ctl.machine.state =
          .ok [connected, identification, ready, charging] := by
        show Request.startCharging.route w.ctl.machine.state = _
        rw [hidle]
        rfl
      obtain ⟨hc, hw⟩ := request_noted_walks hp hroute "peer charging"
        "Failed to start charging for peer"
      have hi : intentRoute charging w.ctl = [connected, identification, ready, charging] :=
        if_pos ht
      exact ⟨hi ▸ (h₀ "").after hw, unarmed hc rfl⟩
  | _ =>
    exact ⟨(h₀ _).settled ((Calm.note_of_ne_info (by decide)).settled p w₀), unarmed rfl rfl⟩

/-- Following the peer's state from `prev` to `intent`: nothing when it did not change, else the walk
`intentRoute` with the arming set only for a ready taken. -/
structure FollowsIntent (prev intent : ChargingState) (w w' : World) : Prop where
  same : intent = prev → w' = w
  walks : intent ≠ prev → Walks (intentReason intent) (intentRoute intent w.ctl) w w'
  armed : intent ≠ prev →
    w'.ctl.peerReady = (intent == ready && w.ctl.relayEnabled && w.ctl.machine.state == idle)
  switch : w'.ctl.sessionEnabled = w.ctl.sessionEnabled
  relay : w'.ctl.relayEnabled = w.ctl.relayEnabled

theorem followIntent_follows {p : Plant} (hp : p.Agreeable) (prev intent : ChargingState)
    (w : World) : FollowsIntent prev intent w (exec (followIntent prev intent) p w).2 := by
  by_cases hc : intent = prev
  · subst hc
    rw [exec_followIntent_same]
    exact ⟨fun _ => rfl, fun h => absurd rfl h, fun h => absurd rfl h, rfl, rfl⟩
  rw [exec_followIntent_new hc]
  obtain ⟨hw, ⟨armed, hcore⟩, harm⟩ := applyIntent_walks hp intent
    { w with trace := w.trace ++
      [.note .info "Controller" s!"Peer state {prev.name} -> {intent.name}"] }
  exact ⟨fun h => absurd h hc, fun _ => (Walks.note "" w _ _ _).after hw, fun _ => harm,
    congrArg Core.sessionEnabled hcore, congrArg Core.relayEnabled hcore⟩

/-! ## The contactor flag -/

/-- Following the peer's contactor flag from `prev` to `on`: nothing when it did not change, else the
relay follows the flag where the write succeeds, unless it would close with sessions off. -/
structure FollowsContactor (p : Plant) (prev on : Bool) (w w' : World) : Prop where
  same : on = prev → w' = w
  hushed : Hushed w w'
  relay : on ≠ prev → w'.ctl.relayEnabled =
    if on && !w.ctl.sessionEnabled then w.ctl.relayEnabled
    else if (p.writeFault Hardware.relay on 0).isNone then on else w.ctl.relayEnabled

theorem followContactor_follows (prev on : Bool) (p : Plant) (w : World) :
    FollowsContactor p prev on w (exec (followContactor prev on) p w).2 := by
  by_cases hc : on = prev
  · subst hc
    rw [exec_followContactor_same]
    exact ⟨fun _ => rfl, Hushed.refl w, fun h => absurd rfl h⟩
  refine ⟨fun h => absurd h hc, (followContactor_hushes prev on).hushed p w, fun _ => ?_⟩
  unfold followContactor applyContactor
  rw [if_pos (by simpa using hc), exec_bind, exec_note]
  dsimp only
  rw [exec_ctl_bind]
  let w₁ : World := { w with trace := w.trace ++
    [.note .info "Controller" s!"Peer contactor {onOff prev} -> {onOff on}"] }
  by_cases hr : (on && !w.ctl.sessionEnabled) = true
  · rw [if_pos hr, if_pos hr]
    rfl
  rw [if_neg hr, if_neg hr]
  by_cases hne : (on != w.ctl.relayEnabled) = true
  · rw [if_pos hne]
    obtain ⟨-, hs⟩ := setRelay_spec on p w₁
    have hf := (noteFailure_calm (show Log.Severity.error ≠ .info by decide)
      "Failed to apply peer contactor" (exec (setRelay on) p w₁).1).settled p
      (exec (setRelay on) p w₁).2
    exact (congrArg Core.relayEnabled hf.1).trans (congrArg Core.relayEnabled hs.1)
  · rw [if_neg hne]
    have hon : w.ctl.relayEnabled = on := (by simpa using hne : on = _).symm
    show w.ctl.relayEnabled = _
    cases (p.writeFault Hardware.relay on 0).isNone <;> simp [hon]

/-! ## Hearing the peer -/

theorem reportEffects_notices (p : Plant) (c : Controller) (f : Fault) (present : Bool) :
    (reportEffects p c f present).filterMap Effect.notice? = [] := by
  unfold reportEffects
  split
  · rfl
  · split <;> rfl

/-- Counting tells nobody. -/
theorem Recounted.told {w w' : World} (h : Recounted w w') : Told [] w w' := by
  obtain ⟨seg, ht, hn⟩ := h.notes
  refine ⟨seg, ht, List.filterMap_eq_nil_iff.mpr fun e he => ?_⟩
  have := hn e he
  cases e <;> simp_all [Effect.isNote, Effect.notice?]

/-- Hearing the peer and reading its state byte, from `w` to `w'` on plant `p`: the last reception
stamped at the plant's time and the peer timeout cleared; the machine, the arming, the session
switch, the relay and the view of the peer kept, and nobody told. -/
structure Heard (p : Plant) (w w' : World) : Prop where
  stamped : w'.ctl.lastRx = some p.now
  cleared : w'.ctl.hasFault .peerTimeout = false
  hushed : Hushed w w'
  switch : w'.ctl.sessionEnabled = w.ctl.sessionEnabled
  relay : w'.ctl.relayEnabled = w.ctl.relayEnabled
  peer : w'.ctl.peer = w.ctl.peer

theorem peerState_heard (code : UInt8) (p : Plant) (w : World) :
    Heard p w (exec (peerState code w.ctl.peer.state) p (exec peerHeard p w).2).2 := by
  have hh := exec_peerHeard p w
  have hr := peerState_recounted code w.ctl.peer.state p (exec peerHeard p w).2
  have hc := hr.core
  have hm := congrArg Controller.machine hr.ctl
  have hheard : Told [] w (exec peerHeard p w).2 :=
    ⟨reportEffects p w.ctl .peerTimeout false, by rw [hh], reportEffects_notices _ _ _ _⟩
  refine ⟨(congrArg Core.lastRx hc).trans (by rw [hh]; rfl), ?_,
    ⟨(congrArg Machine.state hm).trans (by rw [hh]; rfl),
      (congrArg Core.peerReady hc).trans (by rw [hh]; rfl), hheard.trans hr.told⟩,
    (congrArg Core.sessionEnabled hc).trans (by rw [hh]; rfl),
    (congrArg Core.relayEnabled hc).trans (by rw [hh]; rfl),
    (congrArg Core.peer hc).trans (by rw [hh]; rfl)⟩
  rw [Controller.hasFault_congr hc, hh, Controller.hasFault_report, if_pos rfl]

/-! ## An envelope, field by field -/

/-- Applying an envelope from `w`: its state byte read, then its enable flag, its state and its
contactor flag followed in order against the view of the peer `w` has, then the view the envelope
makes set. -/
theorem applyPeer_stages {p : Plant} (hp : p.Agreeable) (s : Wire.StateReport) (h : Wire.Hardware)
    (w : World) :
    ∃ w₁ w₂ w₃,
      FollowsEnable w.ctl.peer.enable h.sourceEnable
        (exec (peerState s.state w.ctl.peer.state) p w).2 w₁ ∧
      FollowsIntent w.ctl.peer.state (w.ctl.peer.heard s h).state w₁ w₂ ∧
      FollowsContactor p w.ctl.peer.contactor h.mainContactor w₂ w₃ ∧
      (exec (applyPeer s h) p w).2 =
        { w₃ with ctl := { w₃.ctl with peer := w.ctl.peer.heard s h } } := by
  have hval := peerState_value s.state w.ctl.peer.state p w
  unfold applyPeer
  rw [exec_ctl_bind, exec_bind]
  generalize exec (peerState s.state w.ctl.peer.state) p w = r at hval ⊢
  obtain ⟨st, w₀⟩ := r
  dsimp only at hval ⊢
  subst hval
  exact ⟨_, _, _, followEnable_follows hp _ _ w₀, followIntent_follows hp _ _ _,
    followContactor_follows _ _ p _, rfl⟩

/-- A state envelope takes the controller from `w` to `w'` through the worlds after the peer is heard,
the enable flag, the intent and the contactor flag, each followed against the view of `w`. -/
def EnvelopeApplied (p : Plant) (s : Wire.StateReport) (h : Wire.Hardware) (w w' : World) : Prop :=
  ∃ w₀ w₁ w₂ w₃, Heard p w w₀ ∧
    FollowsEnable w.ctl.peer.enable h.sourceEnable w₀ w₁ ∧
    FollowsIntent w.ctl.peer.state (w.ctl.peer.heard s h).state w₁ w₂ ∧
    FollowsContactor p w.ctl.peer.contactor h.mainContactor w₂ w₃ ∧
    Hushed w₃ w' ∧ w'.ctl.sessionEnabled = w₃.ctl.sessionEnabled ∧
    w'.ctl.relayEnabled = w₃.ctl.relayEnabled ∧ w'.ctl.peer = w.ctl.peer.heard s h

/-- A state envelope taken by a running controller on an agreeable plant answers success and is
applied field by field as `EnvelopeApplied` says. -/
theorem envelope_applies_fields_in_order {p : Plant} (hp : p.Agreeable) {bytes : List UInt8}
    {s : Wire.StateReport} {h : Wire.Hardware}
    (hd : Wire.Message.decode bytes = .ok (.stateEnvelope s h)) {w : World}
    (hsd : w.ctl.shutDown = false) :
    (step p w (.message bytes)).2 = .ok () ∧
      EnvelopeApplied p s h w (step p w (.message bytes)).1 ∧
      ∀ settings pilot publishing metrics,
        (Controller.new settings pilot publishing metrics).peer = ⟨true, idle, false⟩ := by
  show (exec (handleMessage bytes) p w).1 = .ok () ∧
    EnvelopeApplied p s h w (exec (handleMessage bytes) p w).2 ∧ _
  have hans := (handleMessage_heard (Controller.takesEnvelope_iff.mpr ⟨hsd, s, h, hd⟩) p).2
  have hs := handleMessage_envelope_settled hd p hsd
  -- hearing the peer keeps its view, so the fields are followed against the view `w` has
  have hpeer : (exec peerHeard p w).2.ctl.peer = w.ctl.peer := by
    rw [exec_peerHeard]
    rfl
  obtain ⟨w₁, w₂, w₃, h₁, h₂, h₃, hend⟩ := applyPeer_stages hp s h (exec peerHeard p w).2
  rw [hpeer] at h₁ h₂ h₃ hend
  rw [hend] at hs
  have hview : Hushed w₃ { w₃ with ctl := { w₃.ctl with peer := w.ctl.peer.heard s h } } :=
    ⟨rfl, rfl, [], (List.append_nil _).symm, rfl⟩
  exact ⟨hans, ⟨_, w₁, w₂, w₃, peerState_heard s.state p w, h₁, h₂, h₃, hview.trans hs.hushed,
    congrArg Core.sessionEnabled hs.1, congrArg Core.relayEnabled hs.1, congrArg Core.peer hs.1⟩,
    fun _ _ _ _ => rfl⟩

/-- A new controller with sessions on takes an envelope that turns the peer's enable flag off,
names ready and turns the contactor on. -/
theorem envelope_applied_to_new_controller :
    let s : Wire.StateReport := { Wire.StateReport.zero with msgType := 5, state := 4 }
    let h : Wire.Hardware := { Wire.Hardware.zero with mainContactor := true }
    let bytes := (Wire.Message.stateEnvelope s h).encode
    let w : World := ⟨Controller.new ⟨0, 16, true⟩ none false none, []⟩
    (Plant.ideal ⟨0, 0⟩).Agreeable ∧ Wire.Message.decode bytes = .ok (.stateEnvelope s h) ∧
      w.ctl.shutDown = false ∧
      ((step (Plant.ideal ⟨0, 0⟩) w (.message bytes)).2 = .ok () ∧
        EnvelopeApplied (Plant.ideal ⟨0, 0⟩) s h w
          (step (Plant.ideal ⟨0, 0⟩) w (.message bytes)).1 ∧
        ∀ settings pilot publishing metrics,
          (Controller.new settings pilot publishing metrics).peer = ⟨true, idle, false⟩) :=
  ⟨Plant.ideal_agreeable _, by decide, rfl,
    envelope_applies_fields_in_order (Plant.ideal_agreeable _) (by decide) rfl⟩

end Evse.Control
