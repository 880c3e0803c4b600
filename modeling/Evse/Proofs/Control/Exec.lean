import Mathlib.Tactic.Simps.Basic
import Evse.Control.Input
/-!
Running the controller's actions one bind at a time, the controller's `Core`, and calm actions.
-/
namespace Evse

theorem toString_string (s : String) : toString s = s := rfl

namespace Control

/-- Runs an action on a plant from a world: its answer and the world after. -/
def exec {α : Type} (x : Act α) (p : Plant) (w : World) : α × World := (x.run p).run w

section Laws

variable {α β : Type} {p : Plant} (w : World)

@[simp] theorem exec_pure (a : α) : exec (pure a) p w = (a, w) := rfl

@[simp] theorem exec_bind (x : Act α) (f : α → Act β) :
    exec (x >>= f) p w = exec (f (exec x p w).1) p (exec x p w).2 := rfl

@[simp] theorem exec_map (f : α → β) (x : Act α) :
    exec (f <$> x) p w = (f (exec x p w).1, (exec x p w).2) := rfl

@[simp] theorem exec_ctl : exec ctl p w = (w.ctl, w) := rfl

/-- Reading the controller and going on with what was read; the value read replaces the read
everywhere, decision procedures of conditions included. -/
theorem exec_ctl_bind (f : Controller → Act α) : exec (ctl >>= f) p w = exec (f w.ctl) p w := rfl

@[simp] theorem exec_read : exec read p w = (p, w) := rfl

@[simp] theorem exec_get : exec get p w = (w, w) := rfl

@[simp] theorem exec_set (w' : World) : exec (set w') p w = ((), w') := rfl

@[simp] theorem exec_modifyCtl (f : Controller → Controller) :
    exec (modifyCtl f) p w = ((), { w with ctl := f w.ctl }) := rfl

@[simp] theorem exec_emit (e : Effect) :
    exec (emit e) p w = ((), { w with trace := w.trace ++ [e] }) := rfl

@[simp] theorem exec_note (severity : Log.Severity) (text : String) :
    exec (note severity text) p w =
      ((), { w with trace := w.trace ++ [.note severity "Controller" text] }) := rfl

@[simp] theorem exec_observe (f : Metrics.Book → Metrics.Book) :
    exec (observe f) p w = ((), { w with ctl := { w.ctl with metrics := w.ctl.metrics.map f } }) :=
  rfl

theorem step_eq (i : Input) : step p w i = ((exec i.act p w).2, (exec i.act p w).1) := rfl

end Laws

/-- Run on `p` from a world where `I` holds, the action ends in one where `I` holds. -/
def Keeps {α : Type} (p : Plant) (I : World → Prop) (x : Act α) : Prop :=
  ∀ w, I w → I (exec x p w).2

namespace Keeps

variable {α β γ : Type} {p : Plant} {I : World → Prop}

theorem pure (a : α) : Keeps p I (pure a) := fun _ h => h

theorem bind {x : Act α} {f : α → Act β} (hx : Keeps p I x) (hf : ∀ a, Keeps p I (f a)) :
    Keeps p I (x >>= f) :=
  fun w h => hf _ _ (hx w h)

theorem map (f : α → β) {x : Act α} (hx : Keeps p I x) : Keeps p I (f <$> x) := hx

theorem ite {c : Prop} [Decidable c] {x y : Act α} (hx : c → Keeps p I x)
    (hy : ¬c → Keeps p I y) : Keeps p I (if c then x else y) := by
  by_cases h : c
  · simpa [h] using hx h
  · simpa [h] using hy h

theorem ctl : Keeps p I Control.ctl := fun _ h => h

/-- Reading the controller, an action may rely on what it read. -/
theorem ctl_bind {f : Controller → Act β} (h : ∀ w, I w → I (exec (f w.ctl) p w).2) :
    Keeps p I (Control.ctl >>= f) := h

theorem read : Keeps p I (MonadReader.read : Act Plant) := fun _ h => h

theorem forIn (l : List β) (b : γ) {f : β → γ → Act (ForInStep γ)}
    (hf : ∀ a ∈ l, ∀ c, Keeps p I (f a c)) : Keeps p I (forIn l b f) := by
  induction l generalizing b with
  | nil => exact fun w h => h
  | cons a l ih =>
    intro w h
    simp only [List.forIn_cons, exec_bind]
    have ha := hf a (List.mem_cons_self ..) b w h
    split
    · exact ha
    · exact ih _ (fun a' ha' => hf a' (List.mem_cons_of_mem a ha')) _ ha

end Keeps

/-- Run on `p` from a world where `P` holds, `x` ends in one where `Q` holds. -/
def Triple {α : Type} (p : Plant) (P : World → Prop) (x : Act α) (Q : World → Prop) : Prop :=
  ∀ w, P w → Q (exec x p w).2

theorem Triple.bind {α β : Type} {p : Plant} {P Q R : World → Prop} {x : Act α}
    {f : α → Act β} (hx : Triple p P x Q) (hf : ∀ a, Triple p Q (f a) R) :
    Triple p P (x >>= f) R :=
  fun w h => hf _ _ (hx w h)

theorem Triple.run {α : Type} {p : Plant} {P Q R : World → Prop} {x : Act α} (h : Triple p P x Q)
    {w : World} (hw : P w) (hQ : ∀ w', Q w' → R w') : R (exec x p w).2 :=
  hQ _ (h w hw)

theorem Triple.read_bind {β : Type} {p : Plant} {P Q : World → Prop} {f : Plant → Act β}
    (h : Triple p P (f p) Q) : Triple p P (read >>= f) Q := h

theorem Triple.ctl_bind {β : Type} {p : Plant} {P Q : World → Prop} {f : Controller → Act β}
    (h : ∀ c, Triple p P (f c) Q) : Triple p P (ctl >>= f) Q :=
  fun w hw => by
    rw [exec_ctl_bind]
    exact h w.ctl w hw

/-- A loop whose every round goes on, with an invariant on the elements it has taken. -/
theorem Triple.forIn {β γ : Type} {p : Plant} {I : List β → World → Prop} (l : List β) (b : γ)
    {f : β → γ → Act (ForInStep γ)}
    (hf : ∀ pre a post, l = pre ++ a :: post → ∀ c w, I pre w →
      ∃ c', (exec (f a c) p w).1 = .yield c' ∧ I (pre ++ [a]) (exec (f a c) p w).2) :
    Triple p (I []) (forIn l b f) (I l) := by
  induction l generalizing b I with
  | nil => exact fun _ h => h
  | cons a l ih =>
    intro w h
    simp only [List.forIn_cons, exec_bind]
    obtain ⟨c', hc, hi⟩ := hf [] a l rfl b w h
    rw [hc]
    -- the rest of the loop carries the invariant shifted past `a`
    have hrest : ∀ pre x post, l = pre ++ x :: post → ∀ c w', I (a :: pre) w' →
        ∃ c'', (exec (f x c) p w').1 = .yield c'' ∧ I (a :: (pre ++ [x])) (exec (f x c) p w').2 :=
      fun pre x post hl => hf (a :: pre) x post (by rw [hl]; rfl)
    exact ih (I := fun pre => I (a :: pre)) c' hrest _ hi

theorem Triple.of_keeps {α : Type} {p : Plant} {I : World → Prop} {x : Act α} (h : Keeps p I x) :
    Triple p I x I := h

/-- The fields of a controller its decisions rest on, the machine apart. The others (session
ids, LEDs, what was last sent and published, metrics and log counters) only report. -/
@[ext] structure Core where
  settings : Settings
  ownListener : Nat
  relayEnabled : Bool
  sessionEnabled : Bool
  pilotState : PilotState
  peer : PeerView
  peerReady : Bool
  lastRx : Option Time.Instant
  faults : List (Fault × Bool)
  shutDown : Bool
  pilot : Option Pilot.Monitor
  publishing : Bool

@[simps] def Controller.core (c : Controller) : Core :=
  ⟨c.settings, c.ownListener, c.relayEnabled, c.sessionEnabled, c.pilotState, c.peer, c.peerReady,
    c.lastRx, c.faults, c.shutDown, c.pilot, c.publishing⟩

/-- The session switch a controller note records: an info note that begins
`Session enabled by` records it turned on, one that begins `Session disabled by` turned off. -/
def Effect.switch? : Effect → Option Bool
  | .note .info "Controller" text =>
    if "Session enabled by ".toList <+: text.toList then some true
    else if "Session disabled by ".toList <+: text.toList then some false
    else none
  | _ => none

/-- Whether an effect is an attempt to close the relay. -/
def Effect.closesRelay : Effect → Bool
  | .write channel value _ => channel == Hardware.relay && value
  | _ => false

/-- The step an effect tells a listener of, if it tells one. -/
def Effect.notice? : Effect → Option Notice
  | .notify n => some n
  | _ => none

/-- An effect that records no session switch and does not close the relay. -/
structure Effect.Quiet (e : Effect) : Prop where
  switch : e.switch? = none
  closes : e.closesRelay = false

theorem Effect.quiet_of_ne_info {severity : Log.Severity} {tag text : String}
    (h : severity ≠ .info) : (Effect.note severity tag text).Quiet := by
  refine ⟨?_, rfl⟩
  cases severity <;> simp_all [Effect.switch?]

theorem Effect.quiet_notify (n : Notice) : (Effect.notify n).Quiet := ⟨rfl, rfl⟩

/-- The trace of `w'` is that of `w` grown by quiet effects, which tell listeners of exactly the
steps `ns`, in order. -/
def Grows (ns : List Notice) (w w' : World) : Prop :=
  ∃ seg, w'.trace = w.trace ++ seg ∧ (∀ e ∈ seg, e.Quiet) ∧ seg.filterMap Effect.notice? = ns

namespace Grows

theorem refl (w : World) : Grows [] w w := ⟨[], by simp, by simp, rfl⟩

theorem trans {ns₁ ns₂ : List Notice} {w₁ w₂ w₃ : World} (h₁ : Grows ns₁ w₁ w₂)
    (h₂ : Grows ns₂ w₂ w₃) : Grows (ns₁ ++ ns₂) w₁ w₃ := by
  obtain ⟨s₁, ht₁, hq₁, hn₁⟩ := h₁
  obtain ⟨s₂, ht₂, hq₂, hn₂⟩ := h₂
  refine ⟨s₁ ++ s₂, by simp [ht₂, ht₁], ?_, by simp [hn₁, hn₂]⟩
  intro e he
  rcases List.mem_append.mp he with he | he
  · exact hq₁ e he
  · exact hq₂ e he

theorem emit {w : World} {e : Effect} (h : e.Quiet) :
    Grows e.notice?.toList w { w with trace := w.trace ++ [e] } :=
  ⟨[e], rfl, by simpa using h, by cases e <;> rfl⟩

end Grows

/-- `w'` follows `w` with the same core and machine, its trace grown by quiet effects that tell
no listener of a step. -/
def Settled (w w' : World) : Prop :=
  w'.ctl.core = w.ctl.core ∧ w'.ctl.machine = w.ctl.machine ∧ Grows [] w w'

namespace Settled

theorem refl (w : World) : Settled w w := ⟨rfl, rfl, Grows.refl w⟩

theorem trans {w₁ w₂ w₃ : World} (h₁ : Settled w₁ w₂) (h₂ : Settled w₂ w₃) : Settled w₁ w₃ :=
  ⟨h₂.1.trans h₁.1, h₂.2.1.trans h₁.2.1, by simpa using h₁.2.2.trans h₂.2.2⟩

theorem emit {w : World} {e : Effect} (h : e.Quiet) (hn : e.notice? = none) :
    Settled w { w with trace := w.trace ++ [e] } :=
  ⟨rfl, rfl, by simpa [hn] using Grows.emit (w := w) h⟩

end Settled

/-- On every plant `p` of `P`, a run of `x` from a world `R p`-related to `w₀` ends in one that
is too: `x` moves worlds only along `R p`. -/
def Along {α : Type} (P : Plant → Prop) (R : Plant → World → World → Prop) (x : Act α) : Prop :=
  ∀ p, P p → ∀ w₀, Keeps p (R p w₀) x

namespace Along

variable {α β γ : Type} {P : Plant → Prop} {R : Plant → World → World → Prop}

theorem pure (a : α) : Along P R (pure a : Act α) := fun _ _ _ => Keeps.pure a

theorem bind {x : Act α} {f : α → Act β} (hx : Along P R x) (hf : ∀ a, Along P R (f a)) :
    Along P R (x >>= f) :=
  fun p hp w₀ => (hx p hp w₀).bind fun a => hf a p hp w₀

theorem map (f : α → β) {x : Act α} (hx : Along P R x) : Along P R (f <$> x) :=
  fun p hp w₀ => (hx p hp w₀).map f

theorem forIn (l : List β) (b : γ) {f : β → γ → Act (ForInStep γ)}
    (hf : ∀ a ∈ l, ∀ c, Along P R (f a c)) : Along P R (forIn l b f) :=
  fun p hp w₀ => Keeps.forIn l b fun a ha c => hf a ha c p hp w₀

theorem ite {c : Prop} [Decidable c] {x y : Act α} (hx : c → Along P R x)
    (hy : ¬c → Along P R y) : Along P R (if c then x else y) := by
  by_cases h : c
  · simpa [h] using hx h
  · simpa [h] using hy h

theorem ctl : Along P R Control.ctl := fun _ _ _ _ h => h

/-- Reading the controller, an action may rely on what it read. -/
theorem ctl_bind {f : Controller → Act β}
    (h : ∀ p, P p → ∀ w₀ w, R p w₀ w → R p w₀ (exec (f w.ctl) p w).2) :
    Along P R (Control.ctl >>= f) :=
  fun p hp w₀ => Keeps.ctl_bind (h p hp w₀)

theorem read : Along P R (MonadReader.read : Act Plant) := fun _ _ _ _ h => h

end Along

/-- An action that keeps the core and the machine and writes only quiet effects that tell no
listener of a step, on every plant and from every world. -/
abbrev Calm {α : Type} (x : Act α) : Prop := Along (fun _ => True) (fun _ => Settled) x

namespace Calm

variable {α : Type}

theorem settled {x : Act α} (h : Calm x) (p : Plant) (w : World) : Settled w (exec x p w).2 :=
  h p trivial w w (Settled.refl w)

theorem of_settled {x : Act α} (h : ∀ p w, Settled w (exec x p w).2) : Calm x :=
  fun p _ _ w hw => hw.trans (h p w)

theorem emit {e : Effect} (h : e.Quiet) (hn : e.notice? = none) : Calm (Control.emit e) :=
  of_settled fun _ _ => Settled.emit h hn

theorem note {severity : Log.Severity} {text : String}
    (h : (Effect.note severity "Controller" text).switch? = none) :
    Calm (Control.note severity text) :=
  emit ⟨h, rfl⟩ rfl

theorem note_of_ne_info {severity : Log.Severity} {text : String} (h : severity ≠ .info) :
    Calm (Control.note severity text) :=
  emit (Effect.quiet_of_ne_info h) rfl

theorem modifyCtl {f : Controller → Controller} (hc : ∀ c, (f c).core = c.core)
    (hm : ∀ c, (f c).machine = c.machine) : Calm (Control.modifyCtl f) :=
  of_settled fun _ w => ⟨hc w.ctl, hm w.ctl, [], by simp, by simp⟩

theorem observe (f : Metrics.Book → Metrics.Book) : Calm (Control.observe f) :=
  modifyCtl (fun _ => rfl) fun _ => rfl

end Calm

/-- The worlds a controller reaches from its construction on plants of `P`: a step on any
input, and listeners subscribed and unsubscribed between steps. -/
inductive Reachable (P : Plant → Prop) : World → Prop
  | new (settings : Settings) (pilot : Option Pilot.Monitor) (publishing : Bool)
      (metrics : Option Metrics.Book) :
      Reachable P ⟨Controller.new settings pilot publishing metrics, []⟩
  | step {w : World} (p : Plant) (i : Input) : P p → Reachable P w → Reachable P (step p w i).1
  | subscribe {w : World} : Reachable P w → Reachable P { w with ctl := w.ctl.subscribe.1 }
  | unsubscribe {w : World} (id : Nat) :
      Reachable P w → Reachable P { w with ctl := w.ctl.unsubscribe id }

/-- What holds of new controllers, is kept by every input on plants of `P` and by subscribing
and unsubscribing holds of every reachable world. -/
theorem Reachable.invariant {P : Plant → Prop} {I : World → Prop}
    (hnew : ∀ settings pilot publishing metrics,
      I ⟨Controller.new settings pilot publishing metrics, []⟩)
    (hstep : ∀ p, P p → ∀ i : Input, Keeps p I i.act)
    (hsub : ∀ w, I w → I { w with ctl := w.ctl.subscribe.1 })
    (hunsub : ∀ w id, I w → I { w with ctl := w.ctl.unsubscribe id })
    {w : World} (h : Reachable P w) : I w := by
  induction h with
  | new settings pilot publishing metrics => exact hnew settings pilot publishing metrics
  | step p i hp _ ih => exact hstep p hp i _ ih
  | subscribe _ ih => exact hsub _ ih
  | unsubscribe id _ ih => exact hunsub _ id ih

@[simp] theorem Controller.subscribe_core (c : Controller) : c.subscribe.1.core = c.core := rfl

@[simp] theorem Controller.unsubscribe_core (c : Controller) (id : Nat) :
    (c.unsubscribe id).core = c.core := rfl

@[simp] theorem Controller.subscribe_state (c : Controller) :
    c.subscribe.1.machine.state = c.machine.state := rfl

@[simp] theorem Controller.unsubscribe_state (c : Controller) (id : Nat) :
    (c.unsubscribe id).machine.state = c.machine.state := rfl

end Control

end Evse
