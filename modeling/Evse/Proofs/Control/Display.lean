import Evse.Proofs.Control.Plain
/-!
What the controller shows: its own listener first, its session id and its LED cache
(`Displays`).
-/
namespace Evse.Control

open ChargingState

/-! ## The invariant -/

/-- The id `own` is the first a machine gave out and heads its listeners, which increase and
stay at or below the last id given out. -/
structure OwnFirst (own : Nat) (m : Machine) : Prop where
  first : own = 1
  head : m.listeners.head? = some own
  sorted : m.listeners.Pairwise (· < ·)
  bound : ∀ id ∈ m.listeners, id ≤ m.lastId

namespace OwnFirst

variable {own : Nat} {m : Machine}

theorem eq_cons (h : OwnFirst own m) :
    ∃ rest, m.listeners = own :: rest ∧ ∀ id ∈ rest, own < id := by
  have hd := h.head
  have hs := h.sorted
  cases hl : m.listeners with
  | nil => simp [hl] at hd
  | cons first rest =>
    rw [hl] at hd hs
    have ho : first = own := Option.some.inj hd
    subst ho
    exact ⟨rest, rfl, (List.pairwise_cons.mp hs).1⟩

theorem own_lt_next (h : OwnFirst own m) : own < m.subscribe.2 := by
  have hmem : own ∈ m.listeners := by
    obtain ⟨rest, hl, -⟩ := h.eq_cons
    simp [hl]
  have := h.bound own hmem
  simp only [Machine.subscribe]
  omega

theorem subscribe (h : OwnFirst own m) : OwnFirst own m.subscribe.1 := by
  obtain ⟨rest, hl, -⟩ := h.eq_cons
  refine ⟨h.first, by simp [Machine.subscribe, hl], ?_, ?_⟩
  · refine List.pairwise_append.mpr ⟨h.sorted, List.pairwise_singleton _ _, fun a ha b hb => ?_⟩
    have := h.bound a ha
    simp only [List.mem_singleton] at hb
    omega
  · intro id hid
    simp only [Machine.subscribe, List.mem_append, List.mem_singleton] at hid ⊢
    rcases hid with hid | rfl
    · exact Nat.le_succ_of_le (h.bound id hid)
    · exact Nat.le_refl _

theorem unsubscribe (h : OwnFirst own m) {id : Nat} (hid : id ≠ own) :
    OwnFirst own (m.unsubscribe id) := by
  obtain ⟨rest, hl, -⟩ := h.eq_cons
  have hne : (own == id) = false := by simpa using Ne.symm hid
  refine ⟨h.first, ?_, h.sorted.sublist List.erase_sublist,
    fun x hx => h.bound x (List.mem_of_mem_erase hx)⟩
  simp [Machine.unsubscribe, hl, hne]

end OwnFirst

/-- The session id is empty at idle and off and set during a session, and it is the id of the
latest draw, on a plant of `P`, unless empty; the draws counted are the steps from idle to
connected in the trace. -/
structure SessionTied (P : Plant → Prop) (w : World) : Prop where
  rest : w.ctl.machine.state = idle ∨ w.ctl.machine.state = off → w.ctl.sessionId = ""
  session : w.ctl.machine.state.inSession = true → w.ctl.sessionId ≠ ""
  latest : w.ctl.sessionId = "" ∨ 0 < w.ctl.sessionsDrawn ∧
    ∃ p, P p ∧ w.ctl.sessionId = sessionIdAt p.entropy (w.ctl.sessionsDrawn - 1)
  drawn : w.ctl.sessionsDrawn = w.trace.countP Effect.opensSession

/-- Every LED write of a trace that failed failed on a plant of `P`. -/
def FailsOn (P : Plant → Prop) (writes : List (String × Bool × Bool)) : Prop :=
  ∀ x ∈ writes, x.2.2 = false → ∃ p, P p ∧ p.writeFault x.1 x.2.1 0 ≠ none

theorem FailsOn.append_ledEffects {P : Plant → Prop} {writes : List (String × Bool × Bool)}
    (h : FailsOn P writes) {p : Plant} (hp : P p) (l : List (String × Bool)) :
    FailsOn P (writes ++ ledWrites (ledEffects p l)) := by
  intro x hx hf
  rcases List.mem_append.mp hx with hx | hx
  · exact h x hx hf
  · exact ⟨p, hp, ledWrites_ledEffects_failed p l x hx hf⟩

/-- A cached pattern is what the LED lines last showed; without one, the last LED write failed. -/
structure LedsKept (P : Plant → Prop) (w : World) : Prop where
  cached : ∀ q, w.ctl.leds = some q → q.Shown (ledWrites w.trace)
  forgotten : w.ctl.leds = none → ∀ x, (ledWrites w.trace).getLast? = some x → x.2.2 = false
  honest : FailsOn P (ledWrites w.trace)

/-- Everything the controller shows but the LED cache following its state. -/
structure Pending (P : Plant → Prop) (w : World) : Prop where
  own : OwnFirst w.ctl.ownListener w.ctl.machine
  session : SessionTied P w
  leds : LedsKept P w

/-- What the controller shows: its own listener first, its session id tied to the state, and an
LED cache that is the pattern of the state and of the session switch. -/
structure Displays (P : Plant → Prop) (w : World) : Prop extends Pending P w where
  current : ∀ q, w.ctl.leds = some q →
    q = LedPattern.forState w.ctl.machine.state w.ctl.sessionEnabled

section Congr

variable {P : Plant → Prop} {w w' : World}

theorem SessionTied.congr (h : SessionTied P w) (hm : w'.ctl.machine.state = w.ctl.machine.state)
    (hs : w'.ctl.sessionId = w.ctl.sessionId) (hd : w'.ctl.sessionsDrawn = w.ctl.sessionsDrawn)
    (ho : w'.trace.countP Effect.opensSession = w.trace.countP Effect.opensSession) :
    SessionTied P w' where
  rest := by rw [hm, hs]; exact h.rest
  session := by rw [hm, hs]; exact h.session
  latest := by rw [hs, hd]; exact h.latest
  drawn := by rw [hd, ho]; exact h.drawn

theorem LedsKept.congr (h : LedsKept P w) (hl : w'.ctl.leds = w.ctl.leds)
    (hw : ledWrites w'.trace = ledWrites w.trace) : LedsKept P w' where
  cached := by rw [hl, hw]; exact h.cached
  forgotten := by rw [hl, hw]; exact h.forgotten
  honest := by rw [hw]; exact h.honest

/-- What the controller shows is read off its face, the count of draws and the LED writes. -/
theorem Displays.congr (h : Displays P w) (hf : w'.ctl.face = w.ctl.face)
    (ho : w'.trace.countP Effect.opensSession = w.trace.countP Effect.opensSession)
    (hw : ledWrites w'.trace = ledWrites w.trace) : Displays P w' := by
  simp only [Controller.face, Face.mk.injEq] at hf
  obtain ⟨hm, he, hs, hd, hl, hown⟩ := hf
  refine ⟨⟨?_, h.session.congr (by rw [hm]) hs hd ho, h.leds.congr hl hw⟩, ?_⟩
  · rw [hm, hown]
    exact h.own
  · rw [hl, hm, he]
    exact h.current

theorem Displays.unseen (h : Displays P w) (hu : Unseen w w') : Displays P w' := by
  obtain ⟨hf, seg, ht, hseg⟩ := hu
  obtain ⟨ho, hw⟩ := plain_segment hseg
  exact h.congr hf (by simp [ht, ho]) (by simp [ht, hw])

end Congr

/-! ## Moving the session id -/

/-- The log line of a step that moves the session id: into idle or off, or from idle to
connected. -/
def MovesSession (e : Effect) : Prop :=
  ∃ a b reason, e = stepNote a b reason ∧ (b = idle ∨ b = off ∨ a = idle ∧ b = connected)

/-- The world `w'` follows `w` with its trace grown, its session id changed only by a segment
that logs a step moving it. -/
def SessionTrail (w w' : World) : Prop :=
  ∃ seg, w'.trace = w.trace ++ seg ∧
    (w'.ctl.sessionId ≠ w.ctl.sessionId → ∃ e ∈ seg, MovesSession e)

namespace SessionTrail

theorem refl (w : World) : SessionTrail w w := ⟨[], by simp, fun h => absurd rfl h⟩

theorem of_same {w w' : World} {seg : List Effect} (ht : w'.trace = w.trace ++ seg)
    (hs : w'.ctl.sessionId = w.ctl.sessionId) : SessionTrail w w' :=
  ⟨seg, ht, fun h => absurd hs h⟩

theorem trans {w₁ w₂ w₃ : World} (h₁ : SessionTrail w₁ w₂) (h₂ : SessionTrail w₂ w₃) :
    SessionTrail w₁ w₃ := by
  obtain ⟨s₁, ht₁, hm₁⟩ := h₁
  obtain ⟨s₂, ht₂, hm₂⟩ := h₂
  refine ⟨s₁ ++ s₂, by rw [ht₂, ht₁, List.append_assoc], fun hne => ?_⟩
  by_cases h : w₂.ctl.sessionId = w₁.ctl.sessionId
  · obtain ⟨e, he, hmv⟩ := hm₂ (by rwa [h])
    exact ⟨e, List.mem_append_right _ he, hmv⟩
  · obtain ⟨e, he, hmv⟩ := hm₁ h
    exact ⟨e, List.mem_append_left _ he, hmv⟩

theorem of_unseen {w w' : World} (h : Unseen w w') : SessionTrail w w' := by
  obtain ⟨hf, seg, ht, -⟩ := h
  exact of_same ht (congrArg Face.sessionId hf)

end SessionTrail

/-- An action that, on every plant of `P`, keeps what the controller shows and moves its session
id only by logging a step that moves it. -/
abbrev Shows (P : Plant → Prop) {α : Type} (x : Act α) : Prop :=
  Along P (fun _ w₀ w => Displays P w ∧ SessionTrail w₀ w) x

namespace Shows

variable {P : Plant → Prop} {α : Type} {x : Act α}

theorem run (h : Shows P x) {p : Plant} (hp : P p) {w : World} (hw : Displays P w) :
    Displays P (exec x p w).2 ∧ SessionTrail w (exec x p w).2 :=
  h p hp w w ⟨hw, SessionTrail.refl w⟩

theorem of (h : ∀ p, P p → ∀ w, Displays P w →
    Displays P (exec x p w).2 ∧ SessionTrail w (exec x p w).2) : Shows P x :=
  fun p hp _ w hw => ⟨(h p hp w hw.1).1, hw.2.trans (h p hp w hw.1).2⟩

theorem of_plain (h : Plain x) : Shows P x :=
  of fun p _ w hw => ⟨hw.unseen (h.unseen p w), SessionTrail.of_unseen (h.unseen p w)⟩

theorem note {severity : Log.Severity} {text : String}
    (h : (Effect.note severity "Controller" text).opensSession = false) :
    Shows P (Control.note severity text) :=
  of_plain (Plain.note h)

theorem note_of_ne_info {severity : Log.Severity} {text : String} (h : severity ≠ .info) :
    Shows P (Control.note severity text) :=
  of_plain (Plain.note_of_ne_info h)

end Shows

/-! ## The refresh, the reaction to a step and a walk -/

theorem Controller.reacted_sessionId (c : Controller) (p : Plant) (a b : ChargingState) :
    (c.reacted p a b).sessionId =
      if a = idle ∧ b = connected then sessionIdAt p.entropy c.sessionsDrawn
      else if b = idle ∨ b = off then "" else c.sessionId := by
  unfold Controller.reacted
  split_ifs <;> rfl

theorem Controller.reacted_sessionsDrawn (c : Controller) (p : Plant) (a b : ChargingState) :
    (c.reacted p a b).sessionsDrawn =
      if a = idle ∧ b = connected then c.sessionsDrawn + 1 else c.sessionsDrawn := by
  unfold Controller.reacted
  split_ifs <;> rfl

/-- The world a listener hears a step in: the machine already in the step's target. -/
def World.withState (w : World) (s : ChargingState) : World :=
  { w with ctl := { w.ctl with machine := { w.ctl.machine with state := s } } }

theorem OwnFirst.withState {own : Nat} {m : Machine} (h : OwnFirst own m) (s : ChargingState) :
    OwnFirst own { m with state := s } :=
  ⟨h.first, h.head, h.sorted, h.bound⟩

theorem hear_own (n : Notice) (p : Plant) (w : World) (h : n.listener = w.ctl.ownListener) :
    exec (hear n) p w =
      (none, (exec (onTransition n.source n.target n.reason) p (w.withState n.target)).2) := by
  unfold hear
  simp only [exec_bind, exec_modifyCtl, exec_ctl]
  simp only [h, beq_self_eq_true, if_true, exec_bind, exec_pure]
  rfl

theorem hear_other (n : Notice) (p : Plant) (w : World) (h : n.listener ≠ w.ctl.ownListener)
    (hs : w.ctl.machine.state = n.target) :
    exec (hear n) p w = (p.verdict n, { w with trace := w.trace ++ [.notify n] }) := by
  unfold hear
  simp only [exec_bind, exec_modifyCtl, exec_ctl]
  simp only [beq_iff_eq, h, if_false, exec_bind, exec_emit, exec_read, exec_pure]
  rw [← hs]

section Steps

variable {P : Plant → Prop} {p : Plant}

/-- A refresh brings the LED cache up to date with the state and the session switch and keeps
the rest of what the controller shows. -/
theorem refreshLeds_displays (hp : P p) {w : World} (h : Pending P w) :
    Displays P (exec refreshLeds p w).2 ∧ (exec refreshLeds p w).2.ctl.machine = w.ctl.machine ∧
      SessionTrail w (exec refreshLeds p w).2 := by
  rw [refreshLeds_spec]
  dsimp only
  generalize hwant : LedPattern.forState w.ctl.machine.state w.ctl.sessionEnabled = want
  by_cases hit : w.ctl.leds = some want
  · rw [if_pos hit]
    refine ⟨⟨h, fun q hq => ?_⟩, rfl, SessionTrail.refl w⟩
    rw [hit] at hq
    cases hq
    exact hwant.symm
  rw [if_neg hit]
  have honest := h.leds.honest.append_ledEffects hp want.writes
  -- the writes all succeed and the pattern is cached, or one fails and the cache is dropped
  cases htake : ledsTake p want.writes
  · obtain ⟨x, hx, hf⟩ := ledWrites_ledEffects_fail p want.writes_lines htake
    refine ⟨⟨⟨h.own, h.session.congr rfl rfl rfl (by simp [ledEffects_opens]), ?_⟩,
      fun q hq => by simp at hq⟩, rfl, SessionTrail.of_same rfl rfl⟩
    refine ⟨fun q hq => by simp at hq, fun _ y hy => ?_, by simpa using honest⟩
    simp only [ledWrites_append, List.getLast?_append, hx, Option.some_or] at hy
    cases hy
    exact hf
  · refine ⟨⟨⟨h.own, h.session.congr rfl rfl rfl (by simp [ledEffects_opens]), ?_⟩,
      fun q hq => ?_⟩, rfl, SessionTrail.of_same rfl rfl⟩
    · refine ⟨fun q hq => ?_, fun hn => by simp at hn, by simpa using honest⟩
      simp only [if_true, Option.some.injEq] at hq
      subst hq
      simp only [ledWrites_append, ledWrites_ledEffects_take p want.writes_lines htake]
      exact want.shown_append _
    · simp only [if_true, Option.some.injEq] at hq
      exact hq ▸ hwant.symm

/-- On a plant whose LED writes never fail, a refresh caches the pattern of the state and the
session switch, which it leaves alone. -/
theorem refreshLeds_caches {p : Plant} (hleds : p.LedsWork) (w : World) :
    (exec refreshLeds p w).2.ctl.leds =
        some (LedPattern.forState w.ctl.machine.state w.ctl.sessionEnabled) ∧
      (exec refreshLeds p w).2.ctl.machine = w.ctl.machine ∧
      (exec refreshLeds p w).2.ctl.sessionEnabled = w.ctl.sessionEnabled := by
  have htake : ledsTake p (LedPattern.forState w.ctl.machine.state w.ctl.sessionEnabled).writes :=
    List.all_eq_true.mpr fun x hx => by simp [hleds x.1 (LedPattern.writes_lines _ x hx)]
  rw [refreshLeds_spec]
  dsimp only
  by_cases hit : w.ctl.leds = some (LedPattern.forState w.ctl.machine.state w.ctl.sessionEnabled)
  · rw [if_pos hit]
    exact ⟨hit, rfl, rfl⟩
  · rw [if_neg hit]
    exact ⟨if_pos htake, rfl, rfl⟩

/-- The session id after the controller's reaction to a step from the state of `w`. -/
theorem SessionTied.react (h : SessionTied P w) (hp : P p) {b : ChargingState}
    (hab : w.ctl.machine.state.canStep b = true) (reason : String) :
    SessionTied P ⟨(w.withState b).ctl.reacted p w.ctl.machine.state b,
      w.trace ++ [stepNote w.ctl.machine.state b reason]⟩ := by
  have hstate : ((w.withState b).ctl.reacted p w.ctl.machine.state b).machine.state = b := by
    simp [World.withState]
  have hid : ((w.withState b).ctl.reacted p w.ctl.machine.state b).sessionId =
      if w.ctl.machine.state = idle ∧ b = connected then sessionIdAt p.entropy w.ctl.sessionsDrawn
      else if b = idle ∨ b = off then "" else w.ctl.sessionId :=
    Controller.reacted_sessionId _ _ _ _
  have hdr : ((w.withState b).ctl.reacted p w.ctl.machine.state b).sessionsDrawn =
      if w.ctl.machine.state = idle ∧ b = connected then w.ctl.sessionsDrawn + 1
      else w.ctl.sessionsDrawn :=
    Controller.reacted_sessionsDrawn _ _ _ _
  have hcount : (w.trace ++ [stepNote w.ctl.machine.state b reason]).countP Effect.opensSession =
      w.trace.countP Effect.opensSession +
        if w.ctl.machine.state = idle ∧ b = connected then 1 else 0 := by
    rw [List.countP_append, List.countP_singleton]
    simp only [stepNote_opensSession_iff]
  have hinto := ChargingState.canStep_into hab
  by_cases hopen : w.ctl.machine.state = idle ∧ b = connected
  · rw [if_pos hopen] at hid hdr hcount
    refine ⟨fun hr => ?_, fun _ => ?_, Or.inr ⟨?_, p, hp, ?_⟩, ?_⟩
    · rw [hstate, hopen.2] at hr
      simp at hr
    · rw [hid]
      intro he
      have hl := (sessionIdAt_lower p.entropy w.ctl.sessionsDrawn).1
      rw [he] at hl
      simp at hl
    · rw [hdr]
      omega
    · rw [hid, hdr, Nat.add_sub_cancel]
    · rw [hdr, hcount, h.drawn]
  rw [if_neg hopen] at hid hdr hcount
  refine ⟨fun hr => ?_, fun hs => ?_, ?_, by rw [hdr, hcount, h.drawn]; rfl⟩
  · rw [hstate] at hr
    rw [hid, if_pos hr]
  · rw [hstate] at hs
    have hb : b ≠ connected := fun hb => hopen ⟨hinto.1 hb, hb⟩
    have hr : ¬(b = idle ∨ b = off) := by
      rintro (rfl | rfl) <;> simp [ChargingState.inSession] at hs
    rw [hid, if_neg hr]
    exact h.session (hinto.2 hs hb)
  · by_cases hr : b = idle ∨ b = off
    · rw [hid, if_pos hr]
      exact Or.inl rfl
    · rw [hid, if_neg hr, hdr]
      exact h.latest

/-- The controller's reaction to a step from the state of a world that shows it: the world after
shows the step's target, and the session id moved only if the step moves it. -/
theorem onTransition_displays (hp : P p) {w : World} (hw : Displays P w) {b : ChargingState}
    (hab : w.ctl.machine.state.canStep b = true) (reason : String) :
    let w' := (exec (onTransition w.ctl.machine.state b reason) p (w.withState b)).2
    Displays P w' ∧ SessionTrail w w' ∧ w'.ctl.machine = { w.ctl.machine with state := b } ∧
      w'.ctl.ownListener = w.ctl.ownListener := by
  intro w'
  have hown : w'.ctl.ownListener = w.ctl.ownListener :=
    congrArg Core.ownListener ((onTransition_calm _ b reason).settled p (w.withState b)).1
  refine ⟨?_, ?_, ?_, hown⟩ <;> simp only [w', onTransition_eq]
  all_goals
    have hpend : Pending P ⟨(w.withState b).ctl.reacted p w.ctl.machine.state b,
        (w.withState b).trace ++ [stepNote w.ctl.machine.state b reason]⟩ := by
      refine ⟨?_, hw.session.react hp hab reason, hw.leds.congr ?_ ?_⟩
      · simpa [World.withState] using hw.own.withState b
      · simp [World.withState]
      · simp [World.withState, stepNote]
  · exact (refreshLeds_displays hp hpend).1
  · refine SessionTrail.trans ⟨[stepNote w.ctl.machine.state b reason], rfl, fun hne => ?_⟩
      (refreshLeds_displays hp hpend).2.2
    refine ⟨_, List.mem_singleton_self _, _, b, reason, rfl, ?_⟩
    rw [Controller.reacted_sessionId] at hne
    split_ifs at hne with hopen hrest
    · exact Or.inr (Or.inr hopen)
    · exact hrest.imp_right Or.inl
    · exact absurd rfl hne
  · rw [(refreshLeds_displays hp hpend).2.1]
    simp [World.withState]

/-- The listeners other than the controller's own hear a step by one notice each, in order, until
one refuses: the world grows by those notices and nothing else. -/
theorem tell_others_notices (p : Plant) (a b : ChargingState) (reason : String) :
    ∀ (ids : List Nat) (w : World), (∀ id ∈ ids, id ≠ w.ctl.ownListener) →
      w.ctl.machine.state = b → ∃ ns : List Notice,
        (Machine.tell (hearIn p) a b reason ids w).1 =
          { w with trace := w.trace ++ ns.map Effect.notify }
  | [], w, _, _ => ⟨[], by simp [Machine.tell]⟩
  | id :: ids, w, hids, hb => by
    have hh := hear_other ⟨id, a, b, reason⟩ p w (hids id List.mem_cons_self) hb
    rcases hv : p.verdict ⟨id, a, b, reason⟩ with _ | cause
    · obtain ⟨ns, hns⟩ := tell_others_notices p a b reason ids
        { w with trace := w.trace ++ [.notify ⟨id, a, b, reason⟩] }
        (fun i hi => hids i (List.mem_cons_of_mem _ hi)) hb
      refine ⟨⟨id, a, b, reason⟩ :: ns, ?_⟩
      simp only [Machine.tell, hearIn_eq, hh, hv]
      rw [hns]
      simp
    · refine ⟨[⟨id, a, b, reason⟩], ?_⟩
      simp only [Machine.tell, hearIn_eq, hh, hv]
      simp

theorem tell_others (p : Plant) (a b : ChargingState) (reason : String) :
    ∀ (ids : List Nat) (w : World), (∀ id ∈ ids, id ≠ w.ctl.ownListener) →
      w.ctl.machine.state = b → Unseen w (Machine.tell (hearIn p) a b reason ids w).1 := by
  intro ids w hids hb
  obtain ⟨ns, hns⟩ := tell_others_notices p a b reason ids w hids hb
  rw [hns]
  refine ⟨rfl, _, rfl, fun e he => ?_⟩
  obtain ⟨n, -, rfl⟩ := List.mem_map.mp he
  exact ⟨rfl, rfl⟩

/-- Telling the listeners of a step from the state of a world that shows it: the controller's
own listener hears it first and shows the target, and the others change nothing it shows. -/
theorem tell_displays (hp : P p) {w : World} (hw : Displays P w) {b : ChargingState}
    (hab : w.ctl.machine.state.canStep b = true) (reason : String) :
    let w' := (Machine.tell (hearIn p) w.ctl.machine.state b reason w.ctl.machine.listeners w).1
    Displays P w' ∧ SessionTrail w w' ∧ w'.ctl.machine = { w.ctl.machine with state := b } := by
  obtain ⟨rest, hl, hgt⟩ := hw.own.eq_cons
  obtain ⟨hd₁, ht₁, hm₁, ho₁⟩ := onTransition_displays hp hw hab reason
  have hh := hear_own ⟨w.ctl.ownListener, w.ctl.machine.state, b, reason⟩ p w rfl
  intro w'
  have hw' : w' = (Machine.tell (hearIn p) w.ctl.machine.state b reason rest
      (exec (onTransition w.ctl.machine.state b reason) p (w.withState b)).2).1 := by
    simp only [w', hl, Machine.tell, hearIn_eq, hh]
  have hu := tell_others p w.ctl.machine.state b reason rest _
    (fun id hid => ho₁ ▸ (Nat.ne_of_lt (hgt id hid)).symm) (by rw [hm₁])
  rw [← hw'] at hu
  exact ⟨hd₁.unseen hu, ht₁.trans (SessionTrail.of_unseen hu),
    (congrArg Face.machine hu.1).trans hm₁⟩

/-- A walk along a chain of steps from the state of a world that shows it keeps what the
controller shows, and ends with the world's machine the walk's machine. -/
theorem walk_displays (hp : P p) (reason : String) :
    ∀ (path : List ChargingState) (w : World), Displays P w →
      (w.ctl.machine.state :: path).IsChain (fun a b => a.canStep b = true) →
      (Machine.walk (hearIn p) reason w.ctl.machine path w).2.1.ctl.machine =
          (Machine.walk (hearIn p) reason w.ctl.machine path w).1 ∧
        Displays P (Machine.walk (hearIn p) reason w.ctl.machine path w).2.1 ∧
        SessionTrail w (Machine.walk (hearIn p) reason w.ctl.machine path w).2.1
  | [], w, hw, _ => ⟨rfl, hw, SessionTrail.refl w⟩
  | t :: rest, w, hw, hc => by
    obtain ⟨hab, hc'⟩ := List.isChain_cons_cons.mp hc
    obtain ⟨hd, ht, hm⟩ := tell_displays hp hw hab reason
    rcases hx : Machine.tell (hearIn p) w.ctl.machine.state t reason w.ctl.machine.listeners w with
      ⟨w₂, _ | cause⟩
    · rw [hx] at hd ht hm
      dsimp only at hd ht hm
      have ih := walk_displays hp reason rest w₂ hd (by rw [hm]; exact hc')
      rw [hm] at ih
      simp only [Machine.walk, hx]
      exact ⟨ih.1, ih.2.1, ht.trans ih.2.2⟩
    · rw [hx] at hd ht hm
      simp only [Machine.walk, hx]
      exact ⟨hm, hd, ht⟩

theorem request_shows (req : Request) (reason : String) : Shows P (request req reason) := by
  refine Shows.of fun p hp w hw => ?_
  rw [request_eq]
  unfold Machine.perform
  split
  · exact ⟨hw, SessionTrail.refl w⟩
  · next path hpath =>
    obtain ⟨hm, hd, ht⟩ := walk_displays hp reason path w hw (Machine.route_chain hpath)
    dsimp only
    rw [← hm]
    exact ⟨hd, ht⟩

/-- Turning the session switch ends in a refresh, which shows the new switch. -/
theorem turnSwitch_shows (v : Bool) {text : String}
    (h : (Effect.note .info "Controller" text).opensSession = false) :
    Shows P (turnSwitch v text) := by
  refine Shows.of fun p hp w hw => ?_
  unfold turnSwitch
  simp only [exec_bind, exec_modifyCtl, exec_observe, exec_note]
  have hpend : Pending P
      ⟨{ w.ctl with sessionEnabled := v, metrics := w.ctl.metrics.map (·.sessionSwitch v) },
        w.trace ++ [.note .info "Controller" text]⟩ :=
    ⟨hw.own, hw.session.congr rfl rfl rfl (by simp [h]),
      hw.leds.congr rfl (by simp)⟩
  obtain ⟨hd, -, ht⟩ := refreshLeds_displays hp hpend
  refine ⟨hd, SessionTrail.trans ?_ ht⟩
  exact SessionTrail.of_same rfl rfl

end Steps

end Evse.Control
