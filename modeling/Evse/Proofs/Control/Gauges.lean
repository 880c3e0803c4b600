import Evse.Proofs.Metrics.Readings
import Evse.Proofs.Control.Watchdog
/-!
The controller's metrics along a run.
-/
namespace Evse

namespace Control

open ChargingState Metrics

/-! ## What the metrics should read -/

/-- Whether an effect is the controller's log line of a step of its machine. -/
def Effect.logsStep : Effect → Bool
  | .note .info "Controller" text => decide ("State ".toList <+: text.toList)
  | _ => false

theorem stepNote_logsStep (a b : ChargingState) (reason : String) :
    (stepNote a b reason).logsStep = true := by
  simp [stepNote, Effect.logsStep, toString_string]

/-- The steps logged along a trace. -/
def stepsLogged (trace : List Effect) : Nat := trace.countP Effect.logsStep

@[simp] theorem stepsLogged_append (t u : List Effect) :
    stepsLogged (t ++ u) = stepsLogged t + stepsLogged u :=
  List.countP_append

/-- The level of the last relay write that succeeded, off while none did. -/
def lastRelayLevel (ws : List (Bool × Bool)) : Bool :=
  ((ws.filter (·.2)).getLast?.map (·.1)).getD false

theorem lastRelayLevel_write (ws : List (Bool × Bool)) (on ok : Bool) :
    lastRelayLevel (ws ++ [(on, ok)]) = if ok then on else lastRelayLevel ws := by
  cases ok <;> simp [lastRelayLevel, List.filter_append]

/-- What the metrics of a world should read: the session switch, the steps logged, the ordinal
of the state once a step was logged and 0 before, the relay writes and the level of the last one
that succeeded. -/
def World.reading (w : World) : Reading :=
  ⟨w.ctl.sessionEnabled.toNat, stepsLogged w.trace,
    if stepsLogged w.trace = 0 then 0 else w.ctl.machine.state.code.toNat,
    (relayWrites w.trace).length, (lastRelayLevel (relayWrites w.trace)).toNat⟩

/-- The metrics of a world are a keyed book that reads what the controller and its trace say,
and what that rests on holds: the controller's own listener heads the machine's listeners, and
the machine rests idle until a step is logged. -/
structure Tallied (w : World) : Prop where
  own : OwnFirst w.ctl.ownListener w.ctl.machine
  idle : stepsLogged w.trace = 0 → w.ctl.machine.state = idle
  books : ∃ b, w.ctl.metrics = some b ∧ b.Keyed ∧ b.reading = w.reading

/-- `w'` follows `w` with the machine, the own listener and the session switch kept, the books
changed aside from what they read, and the trace grown by no logged step and no relay write. -/
structure Untallied (w w' : World) : Prop where
  books : ∃ g, Book.Aside g ∧ w'.ctl.metrics = w.ctl.metrics.map g
  machine : w'.ctl.machine = w.ctl.machine
  own : w'.ctl.ownListener = w.ctl.ownListener
  switch : w'.ctl.sessionEnabled = w.ctl.sessionEnabled
  trace : ∃ seg, w'.trace = w.trace ++ seg ∧ stepsLogged seg = 0 ∧ relayWrites seg = []

namespace Untallied

variable {w₁ w₂ w₃ : World}

theorem refl (w : World) : Untallied w w :=
  ⟨⟨id, Book.aside_id, by simp⟩, rfl, rfl, rfl, [], by simp, rfl, rfl⟩

theorem trans (h₁ : Untallied w₁ w₂) (h₂ : Untallied w₂ w₃) : Untallied w₁ w₃ := by
  obtain ⟨⟨g₁, hg₁, hb₁⟩, hm₁, ho₁, hs₁, s₁, ht₁, hl₁, hr₁⟩ := h₁
  obtain ⟨⟨g₂, hg₂, hb₂⟩, hm₂, ho₂, hs₂, s₂, ht₂, hl₂, hr₂⟩ := h₂
  refine ⟨⟨g₂ ∘ g₁, hg₁.then hg₂, by rw [hb₂, hb₁, Option.map_map]⟩, hm₂.trans hm₁,
    ho₂.trans ho₁, hs₂.trans hs₁, s₁ ++ s₂, by rw [ht₂, ht₁, List.append_assoc], ?_, ?_⟩
  · rw [stepsLogged_append, hl₁, hl₂]
  · rw [relayWrites_append, hr₁, hr₂, List.append_nil]

end Untallied

/-- What the metrics read is kept where nothing they read changes. -/
theorem Tallied.untallied {w w' : World} (h : Tallied w) (hu : Untallied w w') : Tallied w' := by
  obtain ⟨⟨g, hg, hb'⟩, hm, ho, hs, seg, ht, hl, hr⟩ := hu
  have hread : w'.reading = w.reading := by
    simp only [World.reading, hm, hs, ht, stepsLogged_append, hl, relayWrites_append, hr,
      List.append_nil, Nat.add_zero]
  obtain ⟨b, hb, hk, hrb⟩ := h.books
  obtain ⟨hk', hr'⟩ := hg b hk
  refine ⟨by rw [hm, ho]; exact h.own, fun h0 => ?_, g b, by rw [hb', hb]; rfl, hk', ?_⟩
  · rw [hm]
    exact h.idle (by rw [ht, stepsLogged_append, hl] at h0; simpa using h0)
  · rw [hr', hrb, hread]

/-- An action that keeps the tallies, on every plant. -/
abbrev Meters {α : Type} (x : Act α) : Prop := Along (fun _ => True) (fun _ _ => Tallied) x

/-- An action that changes nothing the metrics read, on every plant. -/
abbrev Untallies {α : Type} (x : Act α) : Prop := Along (fun _ => True) (fun _ => Untallied) x

namespace Untallies

variable {α : Type} {x : Act α}

theorem untallied (h : Untallies x) (p : Plant) (w : World) : Untallied w (exec x p w).2 :=
  h p trivial w w (Untallied.refl w)

theorem of_untallied (h : ∀ p w, Untallied w (exec x p w).2) : Untallies x :=
  fun p _ _ w hw => hw.trans (h p w)

theorem emit {e : Effect} (hl : e.logsStep = false) (hr : relayWrites [e] = []) :
    Untallies (Control.emit e) :=
  of_untallied fun _ _ => ⟨⟨id, Book.aside_id, by simp⟩, rfl, rfl, rfl, [e], rfl,
    by simp [stepsLogged, hl], hr⟩

theorem note {severity : Log.Severity} {text : String}
    (h : (Effect.note severity "Controller" text).logsStep = false) :
    Untallies (Control.note severity text) :=
  emit h rfl

theorem note_of_ne_info {severity : Log.Severity} {text : String} (h : severity ≠ .info) :
    Untallies (Control.note severity text) :=
  note (by cases severity <;> simp_all [Effect.logsStep])

theorem modifyCtl {f : Controller → Controller}
    (h : ∀ c, (f c).machine = c.machine ∧ (f c).ownListener = c.ownListener ∧
      (f c).sessionEnabled = c.sessionEnabled ∧ (f c).metrics = c.metrics) :
    Untallies (Control.modifyCtl f) :=
  of_untallied fun _ w => by
    obtain ⟨hm, ho, hs, hb⟩ := h w.ctl
    exact ⟨⟨id, Book.aside_id, by simp [hb]⟩, hm, ho, hs, [], by simp, rfl, rfl⟩

theorem observe {g : Book → Book} (hg : Book.Aside g) : Untallies (Control.observe g) :=
  of_untallied fun _ _ => ⟨⟨g, hg, rfl⟩, rfl, rfl, rfl, [], by simp, rfl, rfl⟩

/-- A count the reading does not show. -/
theorem count {f : Family} (hf : f ∉ Book.readFamilies) (vs : List String) :
    Untallies (Control.observe fun b => b.bump f vs) :=
  observe (Book.aside_bump hf vs)

end Untallies

theorem Meters.of_untallies {α : Type} {x : Act α} (h : Untallies x) : Meters x :=
  fun p _ _ w hw => hw.untallied (h.untallied p w)

theorem Meters.run {α : Type} {x : Act α} (h : Meters x) (p : Plant) {w : World}
    (hw : Tallied w) : Tallied (exec x p w).2 :=
  h p trivial w w hw

namespace Meters

variable {α : Type} {x : Act α}

theorem note {severity : Log.Severity} {text : String}
    (h : (Effect.note severity "Controller" text).logsStep = false) :
    Meters (Control.note severity text) :=
  of_untallies (Untallies.note h)

theorem note_of_ne_info {severity : Log.Severity} {text : String} (h : severity ≠ .info) :
    Meters (Control.note severity text) :=
  of_untallies (Untallies.note_of_ne_info h)

end Meters

/-! ## Actions that leave the tallies alone -/

theorem writeLine_untallies {channel : String} {attempt : Nat} (h : channel ≠ Hardware.relay)
    (value : Bool) : Untallies (writeLine channel value attempt) :=
  Along.read.bind fun _ =>
    (Untallies.emit rfl (by simp [relayWrites, h])).bind fun _ => Along.pure _

theorem reportFault_untallies (f : Fault) (present : Bool) :
    Untallies (reportFault f present) := by
  unfold reportFault
  refine Along.ctl.bind fun c => ?_
  refine Along.ite (fun _ => Along.pure _) fun _ => ?_
  refine Along.bind (Untallies.modifyCtl fun _ => ⟨rfl, rfl, rfl, rfl⟩) fun _ => ?_
  refine Along.ite (fun _ => Along.pure _) fun _ => ?_
  refine Along.bind (Untallies.emit rfl rfl) fun _ => ?_
  refine Along.read.bind fun q => ?_
  split
  · exact Untallies.note_of_ne_info (by decide)
  · exact Along.pure _

theorem refreshLeds_untallies : Untallies refreshLeds := by
  unfold refreshLeds
  refine Along.ctl.bind fun c => ?_
  dsimp only
  split
  · exact Along.pure _
  · refine Along.bind (Along.forIn _ _ fun a ha s => ?_) fun r => ?_
    · obtain ⟨line, on⟩ := a
      have hl : line ≠ Hardware.relay := by
        rintro rfl
        exact relay_not_led (LedPattern.writes_lines _ _ ha)
      refine Along.bind (writeLine_untallies hl _) fun e => ?_
      split
      · refine Along.bind (Untallies.note_of_ne_info (by decide)) fun _ => ?_
        exact Along.bind (Untallies.modifyCtl fun _ => ⟨rfl, rfl, rfl, rfl⟩) fun _ => Along.pure _
      · exact Along.pure _
    · split
      · exact Along.pure _
      · exact Untallies.modifyCtl fun _ => ⟨rfl, rfl, rfl, rfl⟩

theorem publish_untallies : Untallies publish := by
  unfold publish
  refine Along.ctl.bind fun c => ?_
  split
  · exact Along.pure _
  · refine Along.read.bind fun p => ?_
    dsimp only
    have failed (s : Status) (e : String) : Untallies (do
        emit (.publish s false)
        note .warn s!"Failed to publish status: {e}") :=
      Along.bind (Untallies.emit rfl rfl) fun _ => Untallies.note_of_ne_info (by decide)
    have done (s : Status) : Untallies (do
        emit (.publish s true)
        modifyCtl fun c => { c with published := some s }) :=
      Along.bind (Untallies.emit rfl rfl) fun _ => Untallies.modifyCtl fun _ => ⟨rfl, rfl, rfl, rfl⟩
    repeat' split
    · exact Along.pure _
    · exact failed _ _
    · exact done _
    · exact failed _ _
    · exact done _

theorem sendStatus_untallies : Untallies sendStatus := by
  unfold sendStatus
  refine Along.ctl.bind fun c => ?_
  dsimp only
  refine Along.ite (fun _ => Along.bind (Untallies.note_of_ne_info (by decide)) fun _ =>
    Along.bind (Untallies.modifyCtl fun _ => ⟨rfl, rfl, rfl, rfl⟩) fun _ => ?_) fun _ => ?_
  all_goals
    refine Along.read.bind fun p => ?_
    refine Along.bind (Untallies.emit rfl rfl) fun _ => ?_
    refine Along.bind (Untallies.count (by decide) _) fun _ => ?_
    split <;> exact Along.pure _

theorem noteFailure_untallies {severity : Log.Severity} (h : severity ≠ .info) (context : String)
    (r : Outcome) : Untallies (noteFailure severity context r) := by
  unfold noteFailure
  split
  · exact Untallies.note_of_ne_info h
  · exact Along.pure _

theorem noteMalformed_untallies (text : String) : Untallies (noteMalformed text) := by
  unfold noteMalformed
  refine Along.ctl.bind fun c => ?_
  split
  · exact Along.bind (Untallies.modifyCtl fun _ => ⟨rfl, rfl, rfl, rfl⟩) fun _ =>
      Untallies.note_of_ne_info (by decide)
  · exact Along.pure _

theorem rejectPeer_untallies (intent : ChargingState) (why : String) :
    Untallies (rejectPeer intent why) :=
  Along.bind (Untallies.count (by decide) _) fun _ => Untallies.note_of_ne_info (by decide)

theorem opFailure_untallies (op : String) (requested : ChargingState) (e : Failure) :
    Untallies (opFailure op requested e) :=
  Along.ctl.bind fun _ => Along.pure _

theorem peerHeard_untallies : Untallies peerHeard := by
  unfold peerHeard
  refine Along.read.bind fun q => ?_
  refine Along.bind (Untallies.modifyCtl fun _ => ⟨rfl, rfl, rfl, rfl⟩) fun _ => ?_
  exact Along.bind (Untallies.count (by decide) _) fun _ => reportFault_untallies _ _

theorem peerState_untallies (code : UInt8) (last : ChargingState) :
    Untallies (peerState code last) := by
  unfold peerState
  split
  · exact Along.pure _
  · refine Along.bind (Untallies.count (by decide) _) fun _ => ?_
    exact Along.bind (noteMalformed_untallies _) fun _ => Along.pure _

/-! ## Relay writes and the session switch -/

/-- A write of the relay counted as it is made moves the count of writes by one, and the relay
gauge to its level when it succeeded. -/
theorem Tallied.relayWrite {w : World} (h : Tallied w) (on ok : Bool) :
    Tallied ⟨{ w.ctl with metrics := w.ctl.metrics.map (·.relayWrite on ok) },
      w.trace ++ [.write Hardware.relay on ok]⟩ := by
  obtain ⟨b, hb, hk, hr⟩ := h.books
  have hs : stepsLogged [Effect.write Hardware.relay on ok] = 0 := rfl
  refine ⟨h.own, fun h0 => h.idle (by simpa [hs] using h0), b.relayWrite on ok, by simp [hb],
    hk.relayWrite on ok, ?_⟩
  rw [Book.reading_relayWrite hk, hr]
  cases ok <;> simp [World.reading, hs, relayWrites, lastRelayLevel_write]

/-- A write of the relay, counted right after, keeps the tallies, with whatever follows that keeps
them. -/
theorem Meters.relayWrite {β : Type} (on : Bool) (attempt : Nat) {k : Option String → Act β}
    (hk : ∀ r, Meters (k r)) :
    Meters (do
      let r ← writeLine Hardware.relay on attempt
      observe (·.relayWrite on r.isNone)
      k r) := by
  intro p _ _ w hw
  simp only [exec_bind, writeLine, exec_read, exec_emit, exec_pure, exec_observe]
  exact hk _ p trivial w _ (hw.relayWrite on _)

theorem setRelay_meters (on : Bool) : Meters (setRelay on) := by
  unfold setRelay
  refine Meters.relayWrite on 0 fun r => ?_
  split
  · refine Along.bind (Meters.note_of_ne_info (by decide)) fun _ => ?_
    exact Along.bind (Meters.of_untallies (reportFault_untallies _ _)) fun _ => Along.pure _
  · refine Along.ctl.bind fun c => ?_
    have last : Meters (do
        modifyCtl fun c => { c with relayEnabled := on }
        pure (Except.ok ()) : Act Outcome) :=
      Along.bind (Meters.of_untallies (Untallies.modifyCtl fun _ => ⟨rfl, rfl, rfl, rfl⟩))
        fun _ => Along.pure _
    dsimp only
    split
    · refine Along.bind (Meters.note ?_) fun _ => last
      cases on <;> simp [Effect.logsStep, onOff, toString_string]
    · exact last

theorem forceRelayOff_meters : Meters forceRelayOff := by
  unfold forceRelayOff
  dsimp only
  have last : Meters (modifyCtl fun c => { c with relayEnabled := false }) :=
    Meters.of_untallies (Untallies.modifyCtl fun _ => ⟨rfl, rfl, rfl, rfl⟩)
  refine Along.bind (Along.forIn _ _ fun i _ s => ?_) fun s => ?_
  · refine Meters.relayWrite false i fun r => ?_
    split
    · exact Along.pure _
    · exact Along.bind (Meters.note_of_ne_info (by decide)) fun _ => Along.pure _
  · exact Along.ite (fun _ => Along.bind (Meters.of_untallies (reportFault_untallies _ _))
      fun _ => last) fun _ => last

/-- A turn of the session switch, counted as it is made, sets the session gauge. -/
theorem Tallied.switch {w : World} (h : Tallied w) (v : Bool) {text : String}
    (ht : (Effect.note .info "Controller" text).logsStep = false) :
    Tallied ⟨{ w.ctl with sessionEnabled := v, metrics := w.ctl.metrics.map (·.sessionSwitch v) },
      w.trace ++ [.note .info "Controller" text]⟩ := by
  obtain ⟨b, hb, hk, hr⟩ := h.books
  have hs : stepsLogged [Effect.note .info "Controller" text] = 0 := by simp [stepsLogged, ht]
  refine ⟨h.own, fun h0 => h.idle (by simpa [hs] using h0), b.sessionSwitch v, by simp [hb],
    hk.sessionSwitch v, ?_⟩
  rw [Book.reading_sessionSwitch, hr]
  simp [World.reading, hs, relayWrites]

theorem turnSwitch_meters (v : Bool) {text : String}
    (h : (Effect.note .info "Controller" text).logsStep = false) : Meters (turnSwitch v text) := by
  intro p _ _ w hw
  unfold turnSwitch
  simp only [exec_bind, exec_modifyCtl, exec_observe, exec_note]
  exact (hw.switch v h).untallied (refreshLeds_untallies.untallied p _)

/-! ## Steps -/

theorem Controller.reacted_tally (c : Controller) (p : Plant) (a b : ChargingState) :
    (c.reacted p a b).ownListener = c.ownListener ∧
      (c.reacted p a b).sessionEnabled = c.sessionEnabled ∧
      (c.reacted p a b).metrics = c.metrics.map (·.transition a.name b.name b.code.toNat) := by
  unfold Controller.reacted
  split_ifs <;> exact ⟨rfl, rfl, rfl⟩

/-- The controller's reaction to a step logs it, counts it and sets the charging gauge to the
target's ordinal. -/
theorem onTransition_tallied {w : World} (h : Tallied w) (b : ChargingState) (reason : String)
    (p : Plant) :
    let w' := (exec (onTransition w.ctl.machine.state b reason) p (w.withState b)).2
    Tallied w' ∧ w'.ctl.machine = { w.ctl.machine with state := b } ∧
      w'.ctl.ownListener = w.ctl.ownListener := by
  intro w'
  let w₁ : World := ⟨(w.withState b).ctl.reacted p w.ctl.machine.state b,
    (w.withState b).trace ++ [stepNote w.ctl.machine.state b reason]⟩
  obtain ⟨ho, hs, hm⟩ := Controller.reacted_tally (w.withState b).ctl p w.ctl.machine.state b
  have hsn : stepsLogged [stepNote w.ctl.machine.state b reason] = 1 := by
    simp [stepsLogged, stepNote_logsStep]
  have hrn : relayWrites [stepNote w.ctl.machine.state b reason] = [] := rfl
  have h₁ : Tallied w₁ := by
    obtain ⟨bk, hb, hk, hr⟩ := h.books
    refine ⟨?_, fun h0 => ?_, bk.transition w.ctl.machine.state.name b.name b.code.toNat, ?_,
      hk.transition _ _ _, ?_⟩
    · simpa [w₁, ho, World.withState] using h.own.withState b
    · simp [w₁, hsn] at h0
    · show ((w.withState b).ctl.reacted p w.ctl.machine.state b).metrics = _
      rw [hm]
      simp [World.withState, hb]
    · rw [Book.reading_transition hk, hr]
      simp only [w₁, World.reading, hs]
      simp [World.withState, hsn, hrn]
  have hu := refreshLeds_untallies.untallied p w₁
  have hw' : w' = (exec refreshLeds p w₁).2 := by
    simp only [w', onTransition_eq]
    rfl
  rw [hw']
  refine ⟨h₁.untallied hu, ?_, ?_⟩
  · rw [hu.machine]
    simp [w₁, World.withState]
  · rw [hu.own]
    exact ho

/-- The other listeners hear a step without touching what the metrics read. -/
theorem tell_others_untallied (p : Plant) (a b : ChargingState) (reason : String) :
    ∀ (ids : List Nat) (w : World), (∀ k ∈ ids, k ≠ w.ctl.ownListener) →
      w.ctl.machine.state = b → Untallied w (Machine.tell (hearIn p) a b reason ids w).1 := by
  intro ids w hids hb
  obtain ⟨ns, hns⟩ := tell_others_notices p a b reason ids w hids hb
  rw [hns]
  refine ⟨⟨id, Book.aside_id, by simp⟩, rfl, rfl, rfl, _, rfl, ?_, ?_⟩
  · simp [stepsLogged, Effect.logsStep, Function.comp_def]
  · simp [relayWrites]

/-- Telling the listeners of a step: the controller's own hears it first and counts it, and the
others touch nothing the metrics read. -/
theorem tell_tallied {w : World} (h : Tallied w) (b : ChargingState) (reason : String)
    (p : Plant) :
    let w' := (Machine.tell (hearIn p) w.ctl.machine.state b reason w.ctl.machine.listeners w).1
    Tallied w' ∧ w'.ctl.machine = { w.ctl.machine with state := b } := by
  obtain ⟨rest, hl, hgt⟩ := h.own.eq_cons
  obtain ⟨h₁, hm₁, ho₁⟩ := onTransition_tallied h b reason p
  have hh := hear_own ⟨w.ctl.ownListener, w.ctl.machine.state, b, reason⟩ p w rfl
  intro w'
  have hw' : w' = (Machine.tell (hearIn p) w.ctl.machine.state b reason rest
      (exec (onTransition w.ctl.machine.state b reason) p (w.withState b)).2).1 := by
    simp only [w', hl, Machine.tell, hearIn_eq, hh]
  have hu := tell_others_untallied p w.ctl.machine.state b reason rest _
    (fun k hk => ho₁ ▸ (Nat.ne_of_lt (hgt k hk)).symm) (by rw [hm₁])
  rw [← hw'] at hu
  exact ⟨h₁.untallied hu, hu.machine.trans hm₁⟩

/-- A walk along steps keeps the tallies and ends with the world's machine the walk's machine. -/
theorem walk_tallied (p : Plant) (reason : String) :
    ∀ (path : List ChargingState) (w : World), Tallied w →
      (Machine.walk (hearIn p) reason w.ctl.machine path w).2.1.ctl.machine =
          (Machine.walk (hearIn p) reason w.ctl.machine path w).1 ∧
        Tallied (Machine.walk (hearIn p) reason w.ctl.machine path w).2.1
  | [], w, hw => ⟨rfl, hw⟩
  | t :: rest, w, hw => by
    obtain ⟨ht, hm⟩ := tell_tallied hw t reason p
    rcases hx : Machine.tell (hearIn p) w.ctl.machine.state t reason w.ctl.machine.listeners w with
      ⟨w₂, _ | cause⟩
    · rw [hx] at ht hm
      dsimp only at ht hm
      have ih := walk_tallied p reason rest w₂ ht
      rw [hm] at ih
      simp only [Machine.walk, hx]
      exact ih
    · rw [hx] at ht hm
      simp only [Machine.walk, hx]
      exact ⟨hm, ht⟩

theorem request_meters (req : Request) (reason : String) : Meters (request req reason) := by
  intro p _ _ w hw
  rw [request_eq]
  unfold Machine.perform
  split
  · exact hw
  · next path hpath =>
    obtain ⟨hm, ht⟩ := walk_tallied p reason path w hw
    dsimp only
    rw [← hm]
    exact ht

/-! ## Every input -/

theorem stopSession_meters (reason : String) : Meters (stopSession reason) := by
  unfold stopSession
  refine Along.bind (request_meters _ _) fun r => ?_
  split
  · exact Along.pure _
  · exact setRelay_meters _

theorem enableSessions_meters (source : String) : Meters (enableSessions source) :=
  turnSwitch_meters true (by simp [Effect.logsStep, toString_string])

theorem disableSessions_meters (source : String) : Meters (disableSessions source) := by
  have tail : Meters (turnSwitch false (toString "Session disabled by " ++ toString source)) :=
    turnSwitch_meters false (by simp [Effect.logsStep, toString_string])
  unfold disableSessions
  refine Along.ctl.bind fun c => ?_
  dsimp only
  refine Along.ite (fun _ => ?_) fun _ => tail
  refine Along.bind (Meters.note (by decide)) fun _ => ?_
  refine Along.bind (stopSession_meters _) fun r => ?_
  exact Along.bind (Meters.of_untallies (noteFailure_untallies (by decide) _ r)) fun _ => tail

theorem pilotChanged_meters (old next : PilotState) : Meters (pilotChanged old next) := by
  unfold pilotChanged
  refine Along.ctl.bind fun c => ?_
  dsimp only
  refine Along.ite (fun _ => Along.pure _) fun _ => ?_
  refine Along.bind (Meters.of_untallies (Untallies.modifyCtl fun _ => ⟨rfl, rfl, rfl, rfl⟩)) fun _ => ?_
  refine Along.bind (Meters.of_untallies (Untallies.count (by decide) _)) fun _ => ?_
  refine Along.bind (Meters.note (by simp [Effect.logsStep, toString_string])) fun _ => ?_
  have last : Meters publish := Meters.of_untallies publish_untallies
  split
  · refine Along.ctl.bind fun c => Along.ite (fun _ => ?_) fun _ => last
    refine Along.bind (Meters.note_of_ne_info (by decide)) fun _ => ?_
    refine Along.bind (stopSession_meters _) fun r => ?_
    exact Along.bind (Meters.of_untallies (noteFailure_untallies (by decide) _ r)) fun _ => last
  · refine Along.bind (Meters.note_of_ne_info (by decide)) fun _ => ?_
    refine Along.bind (Meters.of_untallies (reportFault_untallies _ _)) fun _ => ?_
    refine Along.bind (setRelay_meters _) fun r => ?_
    refine Along.bind (Meters.of_untallies (noteFailure_untallies (by decide) _ r)) fun _ => ?_
    refine Along.bind (request_meters _ _) fun r => ?_
    exact Along.bind (Meters.of_untallies (noteFailure_untallies (by decide) _ r)) fun _ => last
  · exact last

theorem pilotEvents_meters (evs : List Pilot.Event) : Meters (pilotEvents evs) := by
  induction evs with
  | nil => exact Along.pure _
  | cons e rest ih =>
    cases e with
    | change old next => exact Along.bind (pilotChanged_meters old next) fun _ => ih
    | note severity text =>
      exact Along.bind (Meters.of_untallies (Untallies.emit (by cases severity <;> rfl) rfl)) fun _ => ih

theorem withPilot_meters {α : Type} (dflt : α)
    (f : Pilot.Monitor → Pilot.Monitor × List Pilot.Event × α) : Meters (withPilot dflt f) := by
  unfold withPilot
  refine Along.ctl.bind fun c => ?_
  split
  · exact Along.pure _
  · next m _ =>
    split
    next m' evs a hf =>
    refine Along.bind (Meters.of_untallies (Untallies.modifyCtl fun _ => ⟨rfl, rfl, rfl, rfl⟩)) fun _ => ?_
    exact Along.bind (pilotEvents_meters evs) fun _ => Along.pure _

theorem startUp_meters : Meters startUp := by
  unfold startUp
  refine Along.ctl.bind fun c => ?_
  refine Along.bind (Meters.note (by simp [Effect.logsStep, toString_string])) fun _ => ?_
  refine Along.bind (setRelay_meters _) fun r => ?_
  split
  · exact Along.pure _
  · refine Along.read.bind fun q => ?_
    refine Along.bind (Meters.of_untallies (Untallies.modifyCtl fun _ => ⟨rfl, rfl, rfl, rfl⟩)) fun _ => ?_
    refine Along.bind (Meters.of_untallies refreshLeds_untallies) fun _ => ?_
    refine Along.read.bind fun q => ?_
    refine Along.bind (Meters.of_untallies (Untallies.emit rfl rfl)) fun _ => ?_
    split
    · exact Along.pure _
    · refine Along.bind (withPilot_meters _ _) fun r => ?_
      split
      · exact Along.pure _
      · exact Along.bind (Meters.note (by decide)) fun _ => Along.pure _

theorem watchdog_meters : Meters watchdog := by
  unfold watchdog
  refine Along.ctl.bind fun c => ?_
  dsimp only
  refine Along.ite (fun _ => Along.pure _) fun _ => ?_
  refine Along.read.bind fun q => ?_
  refine Along.ite (fun _ => Along.pure _) fun _ => ?_
  refine Along.bind (Meters.note_of_ne_info (by decide)) fun _ => ?_
  refine Along.bind (Meters.of_untallies (Untallies.count (by decide) _)) fun _ => ?_
  refine Along.bind (Meters.of_untallies (reportFault_untallies _ _)) fun _ => ?_
  have last : Meters (do
      noteFailure .error "Watchdog could not de-energize relay" (← setRelay false)) :=
    Along.bind (setRelay_meters _) fun r =>
      Meters.of_untallies (noteFailure_untallies (by decide) _ r)
  refine Along.ctl.bind fun c => Along.ite (fun _ => ?_) fun _ => last
  refine Along.bind (request_meters _ _) fun r => ?_
  exact Along.bind (Meters.of_untallies (noteFailure_untallies (by decide) _ r)) fun _ => last

theorem tick_meters : Meters tick := by
  unfold tick
  refine Along.ctl.bind fun c => Along.ite (fun _ => Along.pure _) fun _ => ?_
  refine Along.bind watchdog_meters fun _ => ?_
  refine Along.bind (Meters.of_untallies refreshLeds_untallies) fun _ => ?_
  refine Along.bind (Meters.of_untallies sendStatus_untallies) fun r => ?_
  exact Along.bind (Meters.of_untallies publish_untallies) fun _ => Along.pure _

theorem shutdown_meters : Meters shutdown := by
  unfold shutdown
  refine Along.ctl.bind fun c => Along.ite (fun _ => Along.pure _) fun _ => ?_
  refine Along.bind (Meters.of_untallies (Untallies.modifyCtl fun _ => ⟨rfl, rfl, rfl, rfl⟩)) fun _ => ?_
  refine Along.bind (Meters.note (by decide)) fun _ => ?_
  refine Along.bind (withPilot_meters _ _) fun _ => ?_
  refine Along.bind (Meters.of_untallies (Untallies.emit rfl rfl)) fun _ => ?_
  have final : Meters (do
      forceRelayOff
      publish
      note .info "Session controller shut down, relay off") :=
    Along.bind (forceRelayOff_meters) fun _ =>
      Along.bind (Meters.of_untallies publish_untallies) fun _ => Meters.note (by decide)
  have stop : Meters (do
      if (← ctl).machine.state.isActive then
        noteFailure .warn "Failed to stop charging on shutdown" (← request .stopCharging "shutdown")
      forceRelayOff
      publish
      note .info "Session controller shut down, relay off") := by
    refine Along.ctl.bind fun c => ?_
    dsimp only
    refine Along.ite (fun _ => ?_) fun _ => final
    refine Along.bind (request_meters _ _) fun r => ?_
    exact Along.bind (Meters.of_untallies (noteFailure_untallies (by decide) _ r)) fun _ => final
  refine Along.read.bind fun q => ?_
  dsimp only
  split
  · exact Along.bind (Meters.note_of_ne_info (by decide)) fun _ => stop
  · exact stop

theorem run_meters (stop : RunEnd) : Meters (run stop) := by
  unfold run
  refine Along.ctl.bind fun c => Along.ite (fun _ => Along.pure _) fun _ => ?_
  refine Along.bind tick_meters fun r => ?_
  dsimp only
  cases stop with
  | cancel =>
    split
    · exact Along.bind (Meters.note_of_ne_info (by decide)) fun _ => Along.pure _
    · exact Along.pure _
  | shutdown =>
    have last : Meters (do shutdown; pure (.ok ()) : Act Outcome) :=
      Along.bind shutdown_meters fun _ => Along.pure _
    split
    · exact Along.bind (Meters.note_of_ne_info (by decide)) fun _ => last
    · exact last

theorem pilotStart_meters : Meters pilotStart := by
  unfold pilotStart
  refine Along.bind (withPilot_meters _ _) fun r => ?_
  split <;> exact Along.pure _

theorem startCharging_meters : Meters startCharging := by
  unfold startCharging
  have failed (op : String) (requested : ChargingState) (e : Failure) :
      Meters (opFailure op requested e) := Meters.of_untallies (opFailure_untallies _ _ _)
  refine Along.ctl.bind fun c => Along.ite (fun _ => failed _ _ _) fun _ => ?_
  refine Along.ite (fun _ => ?_) fun _ => ?_
  · exact Along.bind (Meters.note_of_ne_info (by decide)) fun _ => failed _ _ _
  refine Along.bind (request_meters _ _) fun r => ?_
  split
  · exact failed _ _ _
  refine Along.bind (setRelay_meters _) fun r => ?_
  split
  · refine Along.bind (request_meters _ _) fun r => ?_
    exact Along.bind (Meters.of_untallies (noteFailure_untallies (by decide) _ r)) fun _ => failed _ _ _
  · refine Along.ctl.bind fun c => ?_
    exact Along.bind (Meters.note (by simp [Effect.logsStep, toString_string]))
      fun _ => Along.pure _

theorem stopCharging_meters : Meters stopCharging := by
  unfold stopCharging
  refine Along.bind (stopSession_meters _) fun r => ?_
  split
  · exact Meters.of_untallies (opFailure_untallies _ _ _)
  · exact Along.pure _

theorem pauseCharging_meters : Meters pauseCharging := by
  unfold pauseCharging
  refine Along.bind (request_meters _ _) fun r => ?_
  split
  · exact Meters.of_untallies (opFailure_untallies _ _ _)
  · exact Along.pure _

theorem resumeCharging_meters : Meters resumeCharging := by
  unfold resumeCharging
  refine Along.ctl.bind fun c => ?_
  refine Along.ite (fun _ => Meters.of_untallies (opFailure_untallies _ _ _)) fun _ => ?_
  refine Along.bind (request_meters _ _) fun r => ?_
  split
  · exact Meters.of_untallies (opFailure_untallies _ _ _)
  · exact Along.pure _

theorem reset_meters : Meters reset := by
  unfold reset
  refine Along.bind (request_meters _ _) fun r => ?_
  split
  · exact Meters.of_untallies (opFailure_untallies _ _ _)
  · refine Along.read.bind fun q => ?_
    refine Along.bind (Along.forIn _ _ fun f _ u => ?_) fun _ => Along.pure _
    refine Along.ctl.bind fun c => ?_
    exact Along.ite (fun _ => Along.bind (Meters.of_untallies (reportFault_untallies _ _)) fun _ =>
      Along.pure _) fun _ => Along.pure _

theorem switchRelay_meters (on : Bool) : Meters (switchRelay on) := by
  unfold switchRelay
  exact Along.ctl.bind fun c => Along.ite (fun _ => Along.pure _) fun _ =>
    setRelay_meters on

theorem command_meters (text : String) : Meters (command text) := by
  unfold command
  refine Along.bind (Meters.note_of_ne_info (by decide)) fun _ => ?_
  split
  · exact startCharging_meters
  · exact stopCharging_meters
  · exact pauseCharging_meters
  · exact resumeCharging_meters
  · exact Along.bind (enableSessions_meters _) fun _ => Along.pure _
  · exact Along.bind (disableSessions_meters _) fun _ => Along.pure _
  · exact reset_meters
  · exact switchRelay_meters true
  · exact switchRelay_meters false
  · exact Along.pure _

theorem button_meters (channel : String) (pressed : Bool) : Meters (button channel pressed) := by
  unfold button
  refine Along.ite (fun _ => Along.pure _) fun _ => ?_
  refine Along.ctl.bind fun c => Along.ite (fun _ => Along.pure _) fun _ => ?_
  refine Along.bind (Meters.note (by simp [Effect.logsStep, toString_string])) fun _ => ?_
  refine Along.ctl.bind fun c => ?_
  have last : Meters (do publish; pure (.ok ()) : Act Outcome) :=
    Along.bind (Meters.of_untallies publish_untallies) fun _ => Along.pure _
  dsimp only
  exact Along.ite (fun _ => Along.bind (disableSessions_meters _) fun _ => last)
    fun _ => Along.bind (enableSessions_meters _) fun _ => last

theorem returnToIdle_meters (reason : String) : Meters (returnToIdle reason) := by
  unfold returnToIdle
  refine Along.ctl.bind fun c => ?_
  have last (r : Outcome) : Meters (noteFailure .error "Failed to return to idle" r) :=
    Meters.of_untallies (noteFailure_untallies (by decide) _ r)
  dsimp only
  split
  · exact Along.bind (Along.pure _) last
  · exact Along.bind (request_meters _ _) last
  · exact Along.bind (request_meters _ _) last
  · refine Along.bind (request_meters _ _) fun r => ?_
    split
    · exact Along.bind (request_meters _ _) last
    · exact Along.bind (Along.pure _) last
  · exact Along.bind (Meters.note_of_ne_info (by decide)) fun _ => Along.bind (Along.pure _) last
  · exact Along.bind (request_meters _ _) last

theorem applyIntent_meters (intent : ChargingState) : Meters (applyIntent intent) := by
  unfold applyIntent
  refine Along.ctl.bind fun c => ?_
  refine Along.bind (Meters.of_untallies (Untallies.modifyCtl fun _ => ⟨rfl, rfl, rfl, rfl⟩)) fun _ => ?_
  have rejected (intent : ChargingState) (why : String) : Meters (rejectPeer intent why) :=
    Meters.of_untallies (rejectPeer_untallies _ _)
  split
  · exact returnToIdle_meters _
  · refine Along.ite (fun _ => rejected _ _) fun _ => Along.ite (fun _ => rejected _ _) fun _ => ?_
    exact Along.bind (Meters.of_untallies (Untallies.modifyCtl fun _ => ⟨rfl, rfl, rfl, rfl⟩)) fun _ => Meters.note (by decide)
  · refine Along.ite (fun _ => Along.pure _) fun _ => Along.ite (fun _ => rejected _ _) fun _ => ?_
    refine Along.ite (fun _ => rejected _ _) fun _ => Along.ite (fun _ => rejected _ _) fun _ => ?_
    exact Along.bind (request_meters _ _) fun r => Meters.of_untallies (noteFailure_untallies (by decide) _ r)
  · refine Along.ite (fun _ => ?_) fun _ => Along.pure _
    exact Along.bind (request_meters _ _) fun r => Meters.of_untallies (noteFailure_untallies (by decide) _ r)
  · exact Meters.note_of_ne_info (by decide)

theorem applyContactor_meters (on : Bool) : Meters (applyContactor on) := by
  unfold applyContactor
  refine Along.ctl.bind fun c => ?_
  refine Along.ite (fun _ => Meters.note_of_ne_info (by decide)) fun _ => ?_
  refine Along.ite (fun _ => ?_) fun _ => Along.pure _
  exact Along.bind (setRelay_meters on) fun r =>
    Meters.of_untallies (noteFailure_untallies (by decide) _ r)

theorem followEnable_meters (prev next : Bool) : Meters (followEnable prev next) := by
  unfold followEnable
  refine Along.ite (fun _ => ?_) fun _ => Along.pure _
  refine Along.bind (Meters.note (by simp [Effect.logsStep, toString_string])) fun _ => ?_
  refine Along.ctl.bind fun c => ?_
  exact Along.ite (fun _ => enableSessions_meters _) fun _ =>
    Along.ite (fun _ => disableSessions_meters _) fun _ => Along.pure _

theorem followIntent_meters (prev next : ChargingState) : Meters (followIntent prev next) := by
  unfold followIntent
  refine Along.ite (fun _ => ?_) fun _ => Along.pure _
  exact Along.bind (Meters.note (by simp [Effect.logsStep, toString_string]))
    fun _ => applyIntent_meters _

theorem followContactor_meters (prev next : Bool) : Meters (followContactor prev next) := by
  unfold followContactor
  refine Along.ite (fun _ => ?_) fun _ => Along.pure _
  exact Along.bind (Meters.note (by simp [Effect.logsStep, toString_string]))
    fun _ => applyContactor_meters _

theorem applyPeer_meters (s : Wire.StateReport) (h : Wire.Hardware) : Meters (applyPeer s h) := by
  unfold applyPeer
  refine Along.ctl.bind fun c => ?_
  refine Along.bind (Meters.of_untallies (peerState_untallies _ _)) fun st => ?_
  refine Along.bind (followEnable_meters _ _) fun _ => ?_
  refine Along.bind (followIntent_meters _ _) fun _ => ?_
  refine Along.bind (followContactor_meters _ _) fun _ => ?_
  exact Along.bind (Meters.of_untallies (Untallies.modifyCtl fun _ => ⟨rfl, rfl, rfl, rfl⟩)) fun _ => Along.pure _

theorem handleMessage_meters (bytes : List UInt8) : Meters (handleMessage bytes) := by
  unfold handleMessage
  have ignored (text : String) : Meters (do note .debug text; pure (.ok ()) : Act Outcome) :=
    Along.bind (Meters.note_of_ne_info (by decide)) fun _ => Along.pure _
  refine Along.ite (fun _ => ?_) fun _ => ?_
  · refine Along.ctl.bind fun c => ?_
    dsimp only
    split
    · exact Along.ite (fun _ => Along.bind (withPilot_meters _ _) fun _ => Along.pure _)
        fun _ => ignored _
    · exact ignored _
  split
  · refine Along.bind (Meters.of_untallies (Untallies.count (by decide) _)) fun _ => ?_
    exact Along.bind (Meters.of_untallies (noteMalformed_untallies _)) fun _ => Along.pure _
  · refine Along.ctl.bind fun c => Along.ite (fun _ => Along.pure _) fun _ => ?_
    refine Along.bind (Meters.of_untallies peerHeard_untallies) fun _ => ?_
    refine Along.bind (applyPeer_meters _ _) fun changed => ?_
    dsimp only
    refine Along.ite (fun _ => ?_) fun _ => Along.pure _
    refine Along.bind (Meters.of_untallies sendStatus_untallies) fun r => ?_
    refine Along.bind (Meters.of_untallies (noteFailure_untallies (by decide) _ r)) fun _ => ?_
    exact Along.bind (Meters.of_untallies publish_untallies) fun _ => Along.pure _
  · exact ignored _

/-- Every input keeps the tallies, on every plant. -/
theorem Input.act_meters (i : Input) : Meters i.act := by
  cases i with
  | startUp => exact startUp_meters
  | startCharging => exact startCharging_meters
  | stopCharging => exact stopCharging_meters
  | pauseCharging => exact pauseCharging_meters
  | resumeCharging => exact resumeCharging_meters
  | reset => exact reset_meters
  | enable => exact Along.bind (enableSessions_meters _) fun _ => Along.pure _
  | disable => exact Along.bind (disableSessions_meters _) fun _ => Along.pure _
  | relay on => exact switchRelay_meters on
  | command text => exact command_meters text
  | button channel pressed => exact button_meters channel pressed
  | tick => exact tick_meters
  | message bytes => exact handleMessage_meters bytes
  | pilotStart => exact pilotStart_meters
  | pilotStop | pilotSample _ _ => exact Along.bind (withPilot_meters _ _) fun _ => Along.pure _
  | shutdown => exact Along.bind shutdown_meters fun _ => Along.pure _
  | run stop => exact run_meters stop

/-! ## Along a run from an empty book -/

/-- The worlds a controller built with an empty metrics book reaches while its own listener
stays subscribed: a step on any plant and input, and listeners subscribed and unsubscribed
between steps, by any id but the controller's own. -/
inductive Metered : World → Prop
  | new (settings : Settings) (pilot : Option Pilot.Monitor) (publishing : Bool) :
      Metered ⟨Controller.new settings pilot publishing (some .empty), []⟩
  | step {w : World} (p : Plant) (i : Input) : Metered w → Metered (step p w i).1
  | subscribe {w : World} : Metered w → Metered { w with ctl := w.ctl.subscribe.1 }
  | unsubscribe {w : World} (id : Nat) : id ≠ w.ctl.ownListener → Metered w →
      Metered { w with ctl := w.ctl.unsubscribe id }

/-- A new controller's book holds the session switch only; nothing else was counted or set. -/
theorem Tallied.new (settings : Settings) (pilot : Option Pilot.Monitor) (publishing : Bool) :
    Tallied ⟨Controller.new settings pilot publishing (some .empty), []⟩ := by
  refine ⟨(Displays.new (P := fun _ => True) settings pilot publishing (some .empty)).own,
    fun _ => rfl, _, rfl, Book.keyed_empty.sessionSwitch _, ?_⟩
  rw [Book.reading_sessionSwitch]
  rfl

/-- Other listeners come and go without touching the tallies, as long as the own stays first. -/
theorem Tallied.relisten {w : World} (h : Tallied w) {m : Machine}
    (hm : OwnFirst w.ctl.ownListener m) (hs : m.state = w.ctl.machine.state) :
    Tallied { w with ctl := { w.ctl with machine := m } } := by
  obtain ⟨b, hb, hk, hr⟩ := h.books
  refine ⟨hm, fun h0 => hs.trans (h.idle h0), b, hb, hk, ?_⟩
  rw [hr]
  simp [World.reading, hs]

theorem Metered.tallied {w : World} (h : Metered w) : Tallied w := by
  induction h with
  | new settings pilot publishing => exact Tallied.new settings pilot publishing
  | step p i _ ih => exact (Input.act_meters i).run p ih
  | subscribe _ ih => exact ih.relisten ih.own.subscribe rfl
  | unsubscribe id hid _ ih => exact ih.relisten (ih.own.unsubscribe hid) rfl

/-- Along every metered run the gauges and counters read what the controller and its trace say; the
charging gauge only once a step was logged. -/
theorem gauges_follow_controller {w : World} (h : Metered w) :
    ∃ b, w.ctl.metrics = some b ∧
      b.get .sessionEnabled [] = w.ctl.sessionEnabled.toNat ∧
      b.total .transitions = stepsLogged w.trace ∧
      b.total .relayWrites = (relayWrites w.trace).length ∧
      b.get .relayEnabled [] = (lastRelayLevel (relayWrites w.trace)).toNat ∧
      (b.get .chargingState [] = w.ctl.machine.state.code.toNat ↔ 0 < stepsLogged w.trace) ∧
      (stepsLogged w.trace = 0 → b.get .chargingState [] = 0 ∧ w.ctl.machine.state = idle) := by
  have ht := h.tallied
  obtain ⟨b, hb, -, hr⟩ := ht.books
  simp only [Book.reading, World.reading, Reading.mk.injEq] at hr
  obtain ⟨hs, hn, hc, hw, hl⟩ := hr
  refine ⟨b, hb, hs, hn, hw, hl, ?_, fun h0 => ⟨by rw [hc, if_pos h0], ht.idle h0⟩⟩
  rw [hc]
  by_cases h0 : stepsLogged w.trace = 0
  · -- idle, whose ordinal is 1, against a gauge at 0
    rw [if_pos h0, ht.idle h0, h0]
    decide
  · rw [if_neg h0]
    exact ⟨fun _ => Nat.pos_of_ne_zero h0, fun _ => rfl⟩

theorem gauges_after_start :
    let w₀ : World := ⟨Controller.new ⟨2000000000, 16, true⟩ none true (some .empty), []⟩
    let w := (step (Plant.ideal ⟨0, 0⟩) w₀ .startUp).1
    Metered w ∧ ∃ b, w.ctl.metrics = some b ∧
      b.get .sessionEnabled [] = w.ctl.sessionEnabled.toNat ∧
      b.total .transitions = stepsLogged w.trace ∧
      b.total .relayWrites = (relayWrites w.trace).length ∧
      b.get .relayEnabled [] = (lastRelayLevel (relayWrites w.trace)).toNat ∧
      (b.get .chargingState [] = w.ctl.machine.state.code.toNat ↔ 0 < stepsLogged w.trace) ∧
      (stepsLogged w.trace = 0 → b.get .chargingState [] = 0 ∧ w.ctl.machine.state = idle) :=
  have h := Metered.step _ _ (Metered.new _ _ _)
  ⟨h, gauges_follow_controller h⟩

/-- Started on an ideal plant, the controller is idle while its charging gauge reads 0. -/
theorem charging_gauge_unset_after_start :
    let w := (step (Plant.ideal ⟨0, 0⟩)
      ⟨Controller.new ⟨2000000000, 16, true⟩ none true (some .empty), []⟩ .startUp).1
    w.ctl.machine.state = idle ∧ w.ctl.metrics.map (·.get .chargingState []) = some 0 := by
  decide

end Control

end Evse
