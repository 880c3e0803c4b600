import Evse.Proofs.Control.DisplayRuns
import Evse.Proofs.Charging.Composite
/-!
The controller's books: the statuses it published and the faults it reported, against the
trace.
-/
namespace Evse.Control

open ChargingState

/-! ## What the trace records -/

/-- The status of a publication the publisher accepted. -/
def Effect.accepted? : Effect → Option Status
  | .publish s true => some s
  | _ => none

/-- The presence a report of fault code `code` gives. -/
def Effect.report? (code : Nat) : Effect → Option Bool
  | .fault c _ present => if c = code then some present else none
  | _ => none

/-- Whether an effect is a write of the relay line, to either level. -/
def Effect.writesRelay : Effect → Bool
  | .write channel _ _ => channel == Hardware.relay
  | _ => false

/-- The statuses the publisher accepted along a trace, in order. -/
def accepted (trace : List Effect) : List Status := trace.filterMap Effect.accepted?

/-- The presences reported for a fault along a trace, in order. -/
def reports (f : Fault) (trace : List Effect) : List Bool :=
  trace.filterMap (Effect.report? f.code)

/-- A segment of effects holds a failed write of the relay, to either level. -/
def FailedWrite (seg : List Effect) : Prop := ∃ v, Effect.write Hardware.relay v false ∈ seg

@[simp] theorem accepted_append (t u : List Effect) :
    accepted (t ++ u) = accepted t ++ accepted u :=
  List.filterMap_append

@[simp] theorem reports_append (f : Fault) (t u : List Effect) :
    reports f (t ++ u) = reports f t ++ reports f u :=
  List.filterMap_append

theorem failedWrite_append {t u : List Effect} : FailedWrite (t ++ u) ↔ FailedWrite t ∨ FailedWrite u := by
  simp only [FailedWrite, List.mem_append]
  exact ⟨fun ⟨v, hv⟩ => hv.imp (⟨v, ·⟩) (⟨v, ·⟩),
    fun h => h.elim (fun ⟨v, hv⟩ => ⟨v, .inl hv⟩) fun ⟨v, hv⟩ => ⟨v, .inr hv⟩⟩

/-- A segment of effects holds a failed write of the relay that no later successful opening of the
relay in the segment makes good. -/
def UnmendedFailure (seg : List Effect) : Prop :=
  ∃ pre v post, seg = pre ++ Effect.write Hardware.relay v false :: post ∧
    Effect.write Hardware.relay false true ∉ post

theorem UnmendedFailure.failedWrite {seg : List Effect} (h : UnmendedFailure seg) :
    FailedWrite seg := by
  obtain ⟨pre, v, post, rfl, -⟩ := h
  exact ⟨v, by simp⟩

/-- A failure left unmended in two segments one after the other is left unmended in one of them:
in the first, nothing after it in the first makes it good either. -/
theorem unmendedFailure_append {t u : List Effect} (h : UnmendedFailure (t ++ u)) :
    UnmendedFailure t ∨ UnmendedFailure u := by
  obtain ⟨pre, v, post, hs, hm⟩ := h
  rcases List.append_eq_append_iff.mp hs with ⟨a, rfl, hu⟩ | ⟨c, ht, hc⟩
  · exact .inr ⟨a, v, post, hu, hm⟩
  · cases c with
    | nil => exact .inr ⟨[], v, post, by simpa using hc.symm, hm⟩
    | cons x rest =>
      obtain ⟨rfl, rfl⟩ := List.cons_eq_cons.mp hc
      exact .inl ⟨pre, v, rest, ht, fun hr => hm (List.mem_append_left _ hr)⟩

/-- A segment that ends by opening the relay leaves no failure unmended. -/
theorem not_unmendedFailure_opened (seg : List Effect) :
    ¬UnmendedFailure (seg ++ [.write Hardware.relay false true]) := by
  rintro ⟨pre, v, post, hs, hm⟩
  rcases List.append_eq_append_iff.mp hs with ⟨a, -, ha⟩ | ⟨c, -, hc⟩
  · cases a with
    | nil => simp at ha
    | cons x rest => simp at ha
  · cases c with
    | nil => simp at hc
    | cons x rest =>
      obtain ⟨-, rfl⟩ := List.cons_eq_cons.mp hc
      exact hm (by simp)

/-- An effect that leaves the books alone: no accepted publication, no fault report and no write
of the relay. -/
structure Effect.Unbooked (e : Effect) : Prop where
  accepted : e.accepted? = none
  report : ∀ code, e.report? code = none
  relay : e.writesRelay = false

theorem Effect.unbooked_note (severity : Log.Severity) (tag text : String) :
    (Effect.note severity tag text).Unbooked :=
  ⟨rfl, fun _ => rfl, rfl⟩

theorem Effect.unbooked_write {channel : String} (h : channel ≠ Hardware.relay) (value ok : Bool) :
    (Effect.write channel value ok).Unbooked :=
  ⟨rfl, fun _ => rfl, by simpa [Effect.writesRelay] using h⟩

/-- A segment of effects that leave the books alone records nothing of them. -/
theorem unbooked_segment {seg : List Effect} (h : ∀ e ∈ seg, e.Unbooked) :
    accepted seg = [] ∧ (∀ f, reports f seg = []) ∧ ¬FailedWrite seg := by
  refine ⟨List.filterMap_eq_nil_iff.mpr fun e he => (h e he).accepted,
    fun f => List.filterMap_eq_nil_iff.mpr fun e he => (h e he).report _, ?_⟩
  rintro ⟨v, hv⟩
  simpa [Effect.writesRelay] using (h _ hv).relay

/-! ## Actions that leave the books alone -/

/-- `w'` follows `w` with the books kept: the status last published, the faults, the stamp of the
last reception and the publisher are those of `w`, and the trace grew by effects that leave the
books alone. -/
def BooksKept (w w' : World) : Prop :=
  w'.ctl.published = w.ctl.published ∧ w'.ctl.faults = w.ctl.faults ∧
    w'.ctl.lastRx = w.ctl.lastRx ∧ w'.ctl.publishing = w.ctl.publishing ∧
    ∃ seg, w'.trace = w.trace ++ seg ∧ ∀ e ∈ seg, e.Unbooked

namespace BooksKept

theorem refl (w : World) : BooksKept w w := ⟨rfl, rfl, rfl, rfl, [], by simp, by simp⟩

theorem trans {w₁ w₂ w₃ : World} (h₁ : BooksKept w₁ w₂) (h₂ : BooksKept w₂ w₃) :
    BooksKept w₁ w₃ := by
  obtain ⟨hp₁, hf₁, hr₁, hu₁, s₁, ht₁, hs₁⟩ := h₁
  obtain ⟨hp₂, hf₂, hr₂, hu₂, s₂, ht₂, hs₂⟩ := h₂
  refine ⟨hp₂.trans hp₁, hf₂.trans hf₁, hr₂.trans hr₁, hu₂.trans hu₁, s₁ ++ s₂,
    by rw [ht₂, ht₁, List.append_assoc], fun e he => ?_⟩
  rcases List.mem_append.mp he with he | he
  · exact hs₁ e he
  · exact hs₂ e he

theorem emit {w : World} {e : Effect} (h : e.Unbooked) :
    BooksKept w { w with trace := w.trace ++ [e] } :=
  ⟨rfl, rfl, rfl, rfl, [e], rfl, by simpa using h⟩

/-- The machine plays no part in the books. -/
theorem machine {w w' : World} (h : BooksKept w w') (m : Machine) :
    BooksKept w { w' with ctl := { w'.ctl with machine := m } } := h

end BooksKept

/-- An action that keeps the books, on every plant. -/
abbrev KeepsBooks {α : Type} (x : Act α) : Prop := Along (fun _ => True) (fun _ => BooksKept) x

namespace KeepsBooks

variable {α : Type} {x : Act α}

theorem kept (h : KeepsBooks x) (p : Plant) (w : World) : BooksKept w (exec x p w).2 :=
  h p trivial w w (BooksKept.refl w)

theorem of_kept (h : ∀ p w, BooksKept w (exec x p w).2) : KeepsBooks x :=
  fun p _ _ w hw => hw.trans (h p w)

theorem emit {e : Effect} (h : e.Unbooked) : KeepsBooks (Control.emit e) :=
  of_kept fun _ _ => BooksKept.emit h

theorem note (severity : Log.Severity) (text : String) : KeepsBooks (Control.note severity text) :=
  emit (Effect.unbooked_note _ _ _)

theorem modifyCtl {f : Controller → Controller}
    (h : ∀ c, (f c).published = c.published ∧ (f c).faults = c.faults ∧ (f c).lastRx = c.lastRx ∧
      (f c).publishing = c.publishing) : KeepsBooks (Control.modifyCtl f) :=
  of_kept fun _ w =>
    let ⟨hp, hf, hr, hu⟩ := h w.ctl
    ⟨hp, hf, hr, hu, [], by simp, by simp⟩

theorem observe (f : Metrics.Book → Metrics.Book) : KeepsBooks (Control.observe f) :=
  modifyCtl fun _ => ⟨rfl, rfl, rfl, rfl⟩

end KeepsBooks

theorem writeLine_keepsBooks {channel : String} {attempt : Nat} (h : channel ≠ Hardware.relay)
    (value : Bool) : KeepsBooks (writeLine channel value attempt) :=
  Along.read.bind fun p =>
    (KeepsBooks.emit (Effect.unbooked_write h value (p.writeFault channel value attempt).isNone)).bind
      fun _ => Along.pure _

theorem LedPattern.writes_ne_relay (q : LedPattern) : ∀ a ∈ q.writes, a.1 ≠ Hardware.relay := by
  intro a ha
  simp only [LedPattern.writes, List.mem_cons, List.not_mem_nil, or_false] at ha
  rcases ha with rfl | rfl | rfl <;>
    simp [Hardware.relay, Hardware.ledGreen, Hardware.ledYellow, Hardware.ledRed]

theorem refreshLeds_keepsBooks : KeepsBooks refreshLeds := by
  unfold refreshLeds
  refine Along.ctl.bind fun c => ?_
  dsimp only
  have forget : KeepsBooks (modifyCtl fun c => { c with leds := none }) :=
    KeepsBooks.modifyCtl fun _ => ⟨rfl, rfl, rfl, rfl⟩
  split
  · exact Along.pure _
  · refine Along.bind (Along.forIn _ _ fun a ha s => ?_) fun r => ?_
    · obtain ⟨line, on⟩ := a
      refine Along.bind (writeLine_keepsBooks (LedPattern.writes_ne_relay _ _ ha) on) fun e => ?_
      split
      · refine Along.bind (KeepsBooks.note _ _) fun _ => ?_
        exact Along.bind forget fun _ => Along.pure _
      · exact Along.pure _
    · split
      · exact Along.pure _
      · exact KeepsBooks.modifyCtl fun _ => ⟨rfl, rfl, rfl, rfl⟩

theorem sendStatus_keepsBooks : KeepsBooks sendStatus := by
  unfold sendStatus
  refine Along.ctl.bind fun c => ?_
  dsimp only
  refine Along.ite (fun _ => Along.bind (KeepsBooks.note _ _) fun _ =>
    Along.bind (KeepsBooks.modifyCtl fun _ => ⟨rfl, rfl, rfl, rfl⟩) fun _ => ?_) fun _ => ?_
  all_goals
    refine Along.read.bind fun p => ?_
    refine Along.bind (KeepsBooks.emit ⟨rfl, fun _ => rfl, rfl⟩) fun _ => ?_
    refine Along.bind (KeepsBooks.observe _) fun _ => ?_
    split <;> exact Along.pure _

theorem onTransition_keepsBooks (source target : ChargingState) (reason : String) :
    KeepsBooks (onTransition source target reason) := by
  unfold onTransition
  refine Along.bind (KeepsBooks.note _ _) fun _ => ?_
  refine Along.bind (KeepsBooks.observe _) fun _ => ?_
  have forget : KeepsBooks ((modifyCtl fun c => { c with sessionId := "" }) >>= fun _ =>
      refreshLeds) :=
    Along.bind (KeepsBooks.modifyCtl fun _ => ⟨rfl, rfl, rfl, rfl⟩) fun _ => refreshLeds_keepsBooks
  dsimp only
  split
  · split
    · refine Along.read.bind fun _ => ?_
      exact Along.bind (KeepsBooks.modifyCtl fun _ => ⟨rfl, rfl, rfl, rfl⟩) fun _ =>
        refreshLeds_keepsBooks
    · exact refreshLeds_keepsBooks
  · exact forget
  · exact forget
  · exact refreshLeds_keepsBooks

theorem hear_booksKept (n : Notice) (p : Plant) (w : World) :
    BooksKept w (exec (hear n) p w).2 := by
  unfold hear
  simp only [exec_bind, exec_modifyCtl, exec_ctl]
  by_cases h : n.listener = w.ctl.ownListener
  · simp only [h, beq_self_eq_true, if_true, exec_bind, exec_pure]
    exact (BooksKept.refl w).machine _ |>.trans
      ((onTransition_keepsBooks n.source n.target n.reason).kept p _)
  · simp only [beq_iff_eq, h, if_false, exec_bind, exec_emit, exec_read, exec_pure]
    exact ((BooksKept.refl w).machine _).trans (BooksKept.emit ⟨rfl, fun _ => rfl, rfl⟩)

theorem tell_booksKept (p : Plant) (source target : ChargingState) (reason : String) :
    ∀ (ids : List Nat) (w : World),
      BooksKept w (Machine.tell (hearIn p) source target reason ids w).1
  | [], w => BooksKept.refl w
  | id :: ids, w => by
    have hh := hear_booksKept ⟨id, source, target, reason⟩ p w
    rcases hx : exec (hear ⟨id, source, target, reason⟩) p w with ⟨v, w₁⟩
    rw [hx] at hh
    cases v with
    | some cause =>
      simp only [Machine.tell, hearIn_eq, hx]
      exact hh
    | none =>
      simp only [Machine.tell, hearIn_eq, hx]
      exact hh.trans (tell_booksKept p source target reason ids w₁)

theorem walk_booksKept (p : Plant) (reason : String) :
    ∀ (path : List ChargingState) (m : Machine) (w : World),
      BooksKept w (Machine.walk (hearIn p) reason m path w).2.1
  | [], _, w => BooksKept.refl w
  | t :: rest, m, w => by
    have ht := tell_booksKept p m.state t reason m.listeners w
    rcases hx : Machine.tell (hearIn p) m.state t reason m.listeners w with ⟨w₁, v⟩
    rw [hx] at ht
    cases v with
    | some cause =>
      simp only [Machine.walk, hx]
      exact ht
    | none =>
      simp only [Machine.walk, hx]
      exact ht.trans (walk_booksKept p reason rest _ w₁)

theorem request_keepsBooks (req : Request) (reason : String) : KeepsBooks (request req reason) :=
  KeepsBooks.of_kept fun p w => by
    rw [request_eq]
    refine BooksKept.machine ?_ _
    unfold Machine.perform
    split
    · exact BooksKept.refl w
    · exact walk_booksKept p reason _ _ w

theorem noteFailure_keepsBooks (severity : Log.Severity) (context : String) (r : Outcome) :
    KeepsBooks (noteFailure severity context r) := by
  unfold noteFailure
  split
  · exact KeepsBooks.note _ _
  · exact Along.pure _

theorem opFailure_keepsBooks (op : String) (requested : ChargingState) (e : Failure) :
    KeepsBooks (opFailure op requested e) :=
  Along.ctl.bind fun _ => Along.pure _

theorem turnSwitch_keepsBooks (v : Bool) (text : String) : KeepsBooks (turnSwitch v text) := by
  unfold turnSwitch
  refine Along.bind (KeepsBooks.modifyCtl fun _ => ⟨rfl, rfl, rfl, rfl⟩) fun _ => ?_
  refine Along.bind (KeepsBooks.observe _) fun _ => ?_
  exact Along.bind (KeepsBooks.note _ _) fun _ => refreshLeds_keepsBooks

/-! ## The books and the trace -/

/-- The books agree with the trace: what was published and accepted, and each fault as its
alternating reports say. -/
structure Ledger (w : World) : Prop where
  published : w.ctl.published = (accepted w.trace).getLast?
  fresh : (accepted w.trace).IsChain fun a b => a.same b = false
  latch : w.ctl.publishing = true → ∀ f, w.ctl.hasFault f = (reports f w.trace).getLast?.getD false
  silent : w.ctl.publishing = false → ∀ f, reports f w.trace = []
  alternate : ∀ f, (false :: reports f w.trace).IsChain (· ≠ ·)

theorem Controller.hasFault_of_faults {c d : Controller} (h : d.faults = c.faults) (f : Fault) :
    d.hasFault f = c.hasFault f := by
  simp [Controller.hasFault, h]

/-- Effects that record no accepted publication and no fault report keep the books in agreement
with the trace, when what was published, the faults and the publisher stay. -/
theorem Ledger.grow {w w' : World} (h : Ledger w) (hp : w'.ctl.published = w.ctl.published)
    (hf : w'.ctl.faults = w.ctl.faults) (hu : w'.ctl.publishing = w.ctl.publishing)
    (seg : List Effect) (ht : w'.trace = w.trace ++ seg) (ha : accepted seg = [])
    (hr : ∀ f, reports f seg = []) : Ledger w' := by
  refine ⟨?_, ?_, fun hpub f => ?_, fun hpub f => ?_, fun f => ?_⟩
  · rw [hp, ht, accepted_append, ha, List.append_nil]
    exact h.published
  · rw [ht, accepted_append, ha, List.append_nil]
    exact h.fresh
  · rw [Controller.hasFault_of_faults hf, ht, reports_append, hr, List.append_nil]
    exact h.latch (hu ▸ hpub) f
  · rw [ht, reports_append, hr, List.append_nil]
    exact h.silent (hu ▸ hpub) f
  · rw [ht, reports_append, hr, List.append_nil]
    exact h.alternate f

theorem Ledger.kept {w w' : World} (h : Ledger w) (hk : BooksKept w w') : Ledger w' := by
  obtain ⟨hp, hf, -, hu, seg, ht, hs⟩ := hk
  obtain ⟨ha, hr, -⟩ := unbooked_segment hs
  exact h.grow hp hf hu seg ht ha hr

/-! ## How the faults move -/

/-- From controller `c` to `c'`, with the effects `seg` between them: no fault was cleared, every
fault raised but fault 3 is one of `up`, fault 3 was raised only by a failed write of the relay,
and every such write that no later opening of the relay made good left fault 3 present. -/
structure LatchMoves (up : List Fault) (c c' : Controller) (seg : List Effect) : Prop where
  kept : ∀ f, c.hasFault f = true → c'.hasFault f = true
  raised : ∀ f, f ≠ .relayWrite → c.hasFault f = false → c'.hasFault f = true → f ∈ up
  failed : c.hasFault .relayWrite = false → c'.hasFault .relayWrite = true → FailedWrite seg
  marked : UnmendedFailure seg → c'.hasFault .relayWrite = true

namespace LatchMoves

variable {up : List Fault} {c₁ c₂ c₃ : Controller} {s₁ s₂ : List Effect}

theorem trans (h₁ : LatchMoves up c₁ c₂ s₁) (h₂ : LatchMoves up c₂ c₃ s₂) :
    LatchMoves up c₁ c₃ (s₁ ++ s₂) := by
  refine ⟨fun f hf => h₂.kept f (h₁.kept f hf), fun f hne hf hf' => ?_, fun hf hf' => ?_,
    fun hw => ?_⟩
  · cases h : c₂.hasFault f
    · exact h₂.raised f hne h hf'
    · exact h₁.raised f hne hf h
  · cases h : c₂.hasFault .relayWrite
    · exact failedWrite_append.mpr (.inr (h₂.failed h hf'))
    · exact failedWrite_append.mpr (.inl (h₁.failed hf h))
  · rcases unmendedFailure_append hw with hw | hw
    · exact h₂.kept _ (h₁.marked hw)
    · exact h₂.marked hw

/-- Kept faults and no failed write of the relay left unmended move no fault. -/
theorem of_mended (hf : c₂.faults = c₁.faults) (hs : ¬UnmendedFailure s₁) :
    LatchMoves up c₁ c₂ s₁ := by
  have hfault := Controller.hasFault_of_faults hf
  refine ⟨fun f h => (hfault f).trans h, fun f _ h h' => ?_, fun h h' => ?_,
    fun hw => absurd hw hs⟩
  · rw [hfault, h] at h'
    cases h'
  · rw [hfault, h] at h'
    cases h'

/-- Kept faults and no failed write of the relay move no fault. -/
theorem of_kept (hf : c₂.faults = c₁.faults) (hs : ¬FailedWrite s₁) : LatchMoves up c₁ c₂ s₁ :=
  of_mended hf fun hw => hs hw.failedWrite

/-- Faults and effects that leave the books alone move no fault. -/
theorem of_unbooked (hf : c₂.faults = c₁.faults) (hs : ∀ e ∈ s₁, e.Unbooked) :
    LatchMoves up c₁ c₂ s₁ :=
  of_kept hf (unbooked_segment hs).2.2

/-- Faults that stay as they were move under every `up`, as long as every failed write of the
relay left fault 3 present. -/
theorem of_faults {up' : List Fault} (hm : LatchMoves up c₁ c₂ s₁) (hf : c₂.faults = c₁.faults) :
    LatchMoves up' c₁ c₂ s₁ := by
  have hfault := Controller.hasFault_of_faults hf
  refine ⟨fun f h => (hfault f).trans h, fun f _ h h' => ?_, fun h h' => ?_, hm.marked⟩
  · rw [hfault, h] at h'
    cases h'
  · rw [hfault, h] at h'
    cases h'

/-- Only the faults of the two controllers matter. -/
theorem congr {d₁ d₂ : Controller} (h : LatchMoves up c₁ c₂ s₁) (h₁ : d₁.faults = c₁.faults)
    (h₂ : d₂.faults = c₂.faults) : LatchMoves up d₁ d₂ s₁ := by
  have e₁ := Controller.hasFault_of_faults h₁
  have e₂ := Controller.hasFault_of_faults h₂
  exact ⟨fun f hf => (e₂ f).trans (h.kept f ((e₁ f).symm.trans hf)),
    fun f hne hf hf' => h.raised f hne ((e₁ f).symm.trans hf) ((e₂ f).symm.trans hf'),
    fun hf hf' => h.failed ((e₁ _).symm.trans hf) ((e₂ _).symm.trans hf'),
    fun hw => (e₂ _).trans (h.marked hw)⟩

theorem mono {up' : List Fault} (h : up ⊆ up') (hm : LatchMoves up c₁ c₂ s₁) :
    LatchMoves up' c₁ c₂ s₁ :=
  ⟨hm.kept, fun f hne hf hf' => h (hm.raised f hne hf hf'), hm.failed, hm.marked⟩

end LatchMoves

/-- `w'` follows `w` keeping the books in agreement with the trace, its faults moved by
`LatchMoves up` along the effects it added, and the stamp of the last reception kept. -/
def Booked (up : List Fault) (w w' : World) : Prop :=
  (Ledger w → Ledger w') ∧ w'.ctl.lastRx = w.ctl.lastRx ∧
    ∃ seg, w'.trace = w.trace ++ seg ∧ LatchMoves up w.ctl w'.ctl seg

namespace Booked

variable {up : List Fault} {w₁ w₂ w₃ : World}

theorem refl (w : World) : Booked up w w :=
  ⟨id, rfl, [], by simp, LatchMoves.of_unbooked rfl (by simp)⟩

theorem trans (h₁ : Booked up w₁ w₂) (h₂ : Booked up w₂ w₃) : Booked up w₁ w₃ := by
  obtain ⟨hl₁, hr₁, s₁, ht₁, hm₁⟩ := h₁
  obtain ⟨hl₂, hr₂, s₂, ht₂, hm₂⟩ := h₂
  exact ⟨hl₂ ∘ hl₁, hr₂.trans hr₁, s₁ ++ s₂, by rw [ht₂, ht₁, List.append_assoc],
    hm₁.trans hm₂⟩

theorem of_kept (h : BooksKept w₁ w₂) : Booked up w₁ w₂ := by
  obtain ⟨-, hf, hr, -, seg, ht, hs⟩ := id h
  exact ⟨fun hl => hl.kept h, hr, seg, ht, LatchMoves.of_unbooked hf hs⟩

theorem mono {up' : List Fault} (h : up ⊆ up') (hb : Booked up w₁ w₂) : Booked up' w₁ w₂ :=
  ⟨hb.1, hb.2.1, hb.2.2.imp fun _ ⟨ht, hm⟩ => ⟨ht, hm.mono h⟩⟩

theorem of_faults {up' : List Fault} (hb : Booked up w₁ w₂)
    (hf : w₂.ctl.faults = w₁.ctl.faults) : Booked up' w₁ w₂ :=
  ⟨hb.1, hb.2.1, hb.2.2.imp fun _ ⟨ht, hm⟩ => ⟨ht, hm.of_faults hf⟩⟩

end Booked

/-- `w'` follows `w` as `Booked` says, the stamp of the last reception left free. -/
def Moved (up : List Fault) (w w' : World) : Prop :=
  (Ledger w → Ledger w') ∧ ∃ seg, w'.trace = w.trace ++ seg ∧ LatchMoves up w.ctl w'.ctl seg

namespace Moved

variable {up : List Fault} {w₁ w₂ w₃ : World}

theorem trans (h₁ : Moved up w₁ w₂) (h₂ : Moved up w₂ w₃) : Moved up w₁ w₃ := by
  obtain ⟨hl₁, s₁, ht₁, hm₁⟩ := h₁
  obtain ⟨hl₂, s₂, ht₂, hm₂⟩ := h₂
  exact ⟨hl₂ ∘ hl₁, s₁ ++ s₂, by rw [ht₂, ht₁, List.append_assoc], hm₁.trans hm₂⟩

theorem mono {up' : List Fault} (h : up ⊆ up') (hm : Moved up w₁ w₂) : Moved up' w₁ w₂ :=
  ⟨hm.1, hm.2.imp fun _ ⟨ht, hl⟩ => ⟨ht, hl.mono h⟩⟩

/-- A new stamp of the last reception moves nothing. -/
theorem stamp (h : Moved up w₁ w₂) (t : Option Time.Instant) :
    Moved up w₁ ⟨{ w₂.ctl with lastRx := t }, w₂.trace⟩ :=
  ⟨fun hl => (h.1 hl).grow rfl rfl rfl [] (by simp) rfl fun _ => rfl,
    h.2.imp fun _ ⟨ht, hm⟩ => ⟨ht, hm.congr rfl rfl⟩⟩

end Moved

theorem Booked.moved {up : List Fault} {w w' : World} (h : Booked up w w') : Moved up w w' :=
  ⟨h.1, h.2.2⟩

/-- An action that, on every plant, keeps the books in agreement with the trace and moves the
faults by `LatchMoves up`, keeping the stamp of the last reception. -/
abbrev Books {α : Type} (up : List Fault) (x : Act α) : Prop :=
  Along (fun _ => True) (fun _ => Booked up) x

namespace Books

variable {α : Type} {up : List Fault} {x : Act α}

theorem booked (h : Books up x) (p : Plant) (w : World) : Booked up w (exec x p w).2 :=
  h p trivial w w (Booked.refl w)

theorem of_booked (h : ∀ p w, Booked up w (exec x p w).2) : Books up x :=
  fun p _ _ w hw => hw.trans (h p w)

theorem of_keepsBooks (h : KeepsBooks x) : Books up x :=
  of_booked fun p w => .of_kept (h.kept p w)

theorem mono {up' : List Fault} (h : up ⊆ up') (hx : Books up x) : Books up' x :=
  of_booked fun p w => (hx.booked p w).mono h

end Books

/-! ## Reporting, publishing and writing the relay -/

/-- What reporting `f` as `present` writes: nothing when the fault already is so or there is no
publisher, else the report, followed by a warning when the publisher refuses it. -/
def reportEffects (p : Plant) (c : Controller) (f : Fault) (present : Bool) : List Effect :=
  if c.hasFault f = present ∨ c.publishing = false then []
  else .fault f.code f.description present ::
    match p.reportFault f.code present with
    | some e => [.note .warn "Controller" s!"Failed to report fault {f.code}: {e}"]
    | none => []

theorem exec_reportFault (f : Fault) (present : Bool) (p : Plant) (w : World) :
    (exec (reportFault f present) p w).2 =
      ⟨w.ctl.report f present, w.trace ++ reportEffects p w.ctl f present⟩ := by
  unfold reportFault
  simp only [exec_bind, exec_ctl]
  by_cases h : (w.ctl.hasFault f == present) = true
  · simp only [h, if_true, exec_pure]
    have hp : w.ctl.hasFault f = present := by simpa using h
    simp [Controller.report, Controller.reported, reportEffects, hp]
  · have hp : w.ctl.hasFault f ≠ present := by simpa using h
    simp only [h, Bool.false_eq_true, if_false, exec_bind, exec_modifyCtl]
    by_cases hu : w.ctl.publishing = true
    · cases hr : p.reportFault f.code present <;>
        simp [Controller.report, Controller.reported, reportEffects, hp, hu, hr]
    · simp [Controller.report, Controller.reported, reportEffects, hp, hu]

theorem Fault.code_inj {f g : Fault} : f.code = g.code ↔ f = g := by
  cases f <;> cases g <;> decide

theorem reportEffects_accepted (p : Plant) (c : Controller) (f : Fault) (present : Bool) :
    accepted (reportEffects p c f present) = [] := by
  unfold reportEffects
  split
  · rfl
  · split <;> rfl

/-- Reporting `f` reports `f` alone, and only when its presence changes and there is a
publisher. -/
theorem reports_reportEffects (p : Plant) (c : Controller) (f g : Fault) (present : Bool) :
    reports g (reportEffects p c f present) =
      if g = f ∧ c.hasFault f ≠ present ∧ c.publishing = true then [present] else [] := by
  unfold reportEffects
  by_cases hc : c.hasFault f = present ∨ c.publishing = false
  · rw [if_pos hc, if_neg (by grind)]
    rfl
  · rw [if_neg hc]
    by_cases hg : g = f
    · subst hg
      rw [if_pos (by grind)]
      split <;> simp [reports, Effect.report?]
    · have hcode : f.code ≠ g.code := fun h => hg (Fault.code_inj.mp h).symm
      rw [if_neg fun h => hg h.1]
      split <;> simp [reports, Effect.report?, hcode]

theorem reportEffects_failedWrite (p : Plant) (c : Controller) (f : Fault) (present : Bool) :
    ¬FailedWrite (reportEffects p c f present) := by
  rintro ⟨v, hv⟩
  unfold reportEffects at hv
  split at hv
  · simp at hv
  · split at hv <;> simp at hv

/-- A report keeps the books in agreement with the trace: the fault's last report is its new
presence, which differs from the one before. -/
theorem Ledger.report {w : World} (h : Ledger w) (p : Plant) (f : Fault) (present : Bool)
    {w' : World} (hc : w'.ctl = w.ctl.report f present)
    (ht : w'.trace = w.trace ++ reportEffects p w.ctl f present) : Ledger w' := by
  obtain ⟨c', t'⟩ := w'
  dsimp only at hc ht
  subst hc ht
  have hr := reports_reportEffects p w.ctl f
  refine ⟨?_, ?_, fun hpub g => ?_, fun hpub g => ?_, fun g => ?_⟩
  · simp only [accepted_append, reportEffects_accepted, List.append_nil]
    exact h.published
  · simp only [accepted_append, reportEffects_accepted, List.append_nil]
    exact h.fresh
  · replace hpub : w.ctl.publishing = true := hpub
    have hl := h.latch hpub
    rw [Controller.hasFault_report, reports_append, hr]
    by_cases hg : g = f
    · subst hg
      by_cases hc : w.ctl.hasFault g = present
      · simp [hc, ← hl g]
      · simp [hc, hpub]
    · simp [hg, hl g]
  · replace hpub : w.ctl.publishing = false := hpub
    rw [reports_append, hr, h.silent hpub g]
    simp [hpub]
  · rw [reports_append, hr]
    split
    · next hc =>
      obtain ⟨rfl, hne, hpub⟩ := hc
      rw [← List.cons_append]
      refine (h.alternate g).append (List.isChain_singleton _) fun x hx y hy => ?_
      rw [List.getLast?_cons, Option.mem_some_iff, ← h.latch hpub] at hx
      rw [List.head?_singleton, Option.mem_some_iff] at hy
      rw [← hx, ← hy]
      exact hne
    · rw [List.append_nil]
      exact h.alternate g

/-- Raising a fault other than fault 3 moves that fault alone. -/
theorem LatchMoves.report {f : Fault} (hf : f ≠ .relayWrite) (p : Plant) (c : Controller) :
    LatchMoves [f] c (c.report f true) (reportEffects p c f true) := by
  refine ⟨fun g hg => ?_, fun g _ hg hg' => ?_, fun h h' => ?_,
    fun hw => absurd hw.failedWrite (reportEffects_failedWrite p c f true)⟩
  · rw [Controller.hasFault_report]
    split <;> simp_all
  · rw [Controller.hasFault_report] at hg'
    split at hg'
    · next h => exact List.mem_singleton.mpr h
    · rw [hg] at hg'
      cases hg'
  · rw [Controller.hasFault_report, if_neg (Ne.symm hf), h] at h'
    cases h'

/-- Raising fault 3 after a failed write of the relay. -/
theorem LatchMoves.report_failed {up : List Fault} {c : Controller} {seg : List Effect}
    (hw : FailedWrite seg) : LatchMoves up c (c.report .relayWrite true) seg := by
  refine ⟨fun g hg => ?_, fun g hg h h' => ?_, fun _ _ => hw, fun _ => ?_⟩
  · rw [Controller.hasFault_report]
    split <;> simp_all
  · rw [Controller.hasFault_report, if_neg hg, h] at h'
    cases h'
  · simp [Controller.hasFault_report]

theorem reportFault_books {f : Fault} (hf : f ≠ .relayWrite) : Books [f] (reportFault f true) :=
  Books.of_booked fun p w => by
    rw [exec_reportFault]
    exact ⟨fun hl => hl.report p f true rfl rfl, rfl, _, rfl, LatchMoves.report hf p w.ctl⟩

/-- Whether a controller publishes at `now`: it has a publisher, and the status it last published,
if any, is not the same as its status now. -/
def Controller.publishes (c : Controller) (now : Time.Instant) : Bool :=
  c.publishing && !(c.published.any (·.same (c.status now)))

/-- Publishing does nothing unless the controller publishes; else it offers its status now, which
becomes the status last published when accepted and is followed by a warning when refused. -/
theorem exec_publish (p : Plant) (w : World) :
    (exec publish p w).2 =
      if w.ctl.publishes p.now then
        match p.publishFault (w.ctl.status p.now) with
        | some e => ⟨w.ctl, w.trace ++ [.publish (w.ctl.status p.now) false,
            .note .warn "Controller" s!"Failed to publish status: {e}"]⟩
        | none => ⟨{ w.ctl with published := some (w.ctl.status p.now) },
            w.trace ++ [.publish (w.ctl.status p.now) true]⟩
      else w := by
  unfold publish
  rw [exec_ctl_bind]
  by_cases hu : w.ctl.publishing = true
  · have hfresh : ∀ last, w.ctl.published = some last →
        (last.same (w.ctl.status p.now) = true ↔ ¬w.ctl.publishes p.now = true) := by
      intro last hl
      simp [Controller.publishes, hu, hl]
    simp only [hu, Bool.not_true, Bool.false_eq_true, if_false, exec_bind, exec_read]
    cases hl : w.ctl.published with
    | none =>
      have hp : w.ctl.publishes p.now = true := by simp [Controller.publishes, hu, hl]
      rw [if_pos hp]
      cases hf : p.publishFault (w.ctl.status p.now) <;> simp [hu]
    | some last =>
      by_cases hs : last.same (w.ctl.status p.now) = true
      · rw [if_neg ((hfresh last hl).mp hs)]
        simp [hs]
      · rw [if_pos (not_not.mp (mt (hfresh last hl).mpr hs))]
        cases hf : p.publishFault (w.ctl.status p.now) <;> simp [hs, hu]
  · have hp : w.ctl.publishes p.now = false := by simp [Controller.publishes, hu]
    simp [hu, hp]

/-- An accepted publication of a status not the same as the last published one keeps the books in
agreement with the trace. -/
theorem Ledger.accept {w : World} (h : Ledger w) {s : Status}
    (hs : w.ctl.published.any (·.same s) = false) :
    Ledger ⟨{ w.ctl with published := some s }, w.trace ++ [.publish s true]⟩ := by
  have ha : accepted [.publish s true] = [s] := rfl
  have hr : ∀ f, reports f [.publish s true] = [] := fun _ => rfl
  refine ⟨?_, ?_, fun hpub f => ?_, fun hpub f => ?_, fun f => ?_⟩
  · simp [ha]
  · rw [accepted_append, ha]
    refine h.fresh.append (List.isChain_singleton s) fun x hx y hy => ?_
    rw [← h.published] at hx
    rw [List.head?_singleton, Option.mem_some_iff] at hy
    subst hy
    simpa [Option.mem_def.mp hx] using hs
  · rw [reports_append, hr, List.append_nil]
    exact h.latch hpub f
  · rw [reports_append, hr, List.append_nil]
    exact h.silent hpub f
  · rw [reports_append, hr, List.append_nil]
    exact h.alternate f

theorem publish_books {up : List Fault} : Books up publish :=
  Books.of_booked fun p w => by
    rw [exec_publish]
    split
    · next hp =>
      split
      · refine .of_kept ⟨rfl, rfl, rfl, rfl, _, rfl, fun e he => ?_⟩
        simp only [List.mem_cons, List.not_mem_nil, or_false] at he
        rcases he with rfl | rfl
        exacts [⟨rfl, fun _ => rfl, rfl⟩, Effect.unbooked_note _ _ _]
      · have hs : w.ctl.publishing = true ∧
            w.ctl.published.any (·.same (w.ctl.status p.now)) = false := by
          simpa [Controller.publishes] using hp
        exact ⟨fun hl => hl.accept hs.2, rfl, _, rfl,
          LatchMoves.of_kept rfl fun ⟨v, hv⟩ => by simp at hv⟩
    · exact Booked.refl w

/-- A failed write of the relay followed by the report of fault 3: `seg` holds the failed write
and effects that record nothing, and the controller ends with fault 3 raised and its other books
as before. -/
theorem Booked.of_failedRelay {up : List Fault} {w w' : World} (p : Plant) (seg : List Effect)
    (ha : accepted seg = []) (hr : ∀ f, reports f seg = []) (hw : FailedWrite seg)
    (hp : w'.ctl.published = w.ctl.published)
    (hf : w'.ctl.faults = (w.ctl.report .relayWrite true).faults)
    (hx : w'.ctl.lastRx = w.ctl.lastRx) (hu : w'.ctl.publishing = w.ctl.publishing)
    (ht : w'.trace = w.trace ++ seg ++ reportEffects p w.ctl .relayWrite true) :
    Booked up w w' := by
  have h₀ : Ledger w → Ledger ⟨w.ctl, w.trace ++ seg⟩ := fun hl =>
    hl.grow rfl rfl rfl seg rfl ha hr
  have h₁ : Ledger w → Ledger ⟨w.ctl.report .relayWrite true,
      w.trace ++ seg ++ reportEffects p w.ctl .relayWrite true⟩ := fun hl =>
    (h₀ hl).report p .relayWrite true rfl rfl
  refine ⟨fun hl => (h₁ hl).grow hp hf hu [] (by simp [ht]) rfl fun _ => rfl, hx,
    seg ++ reportEffects p w.ctl .relayWrite true, by simp [ht],
    (LatchMoves.report_failed (failedWrite_append.mpr (.inl hw))).congr rfl hf⟩

/-- A write of the relay: one that succeeds keeps every fault, one that fails is noted and raises
fault 3. -/
theorem setRelay_books {up : List Fault} (on : Bool) : Books up (setRelay on) :=
  Books.of_booked fun p w => by
    unfold setRelay
    simp only [exec_bind, writeLine, exec_read, exec_emit, exec_pure, exec_observe]
    cases hf : p.writeFault Hardware.relay on 0 with
    | some e =>
      simp only [exec_bind, exec_note, exec_pure, exec_reportFault]
      exact Booked.of_failedRelay p [.write Hardware.relay on false,
          .note .error "Controller" s!"Failed to set relay {on}: {e}"] rfl (fun _ => rfl)
        ⟨on, by simp⟩ rfl rfl rfl rfl (by simp; rfl)
    | none =>
      simp only [exec_bind, exec_ctl]
      have hw : ∀ seg : List Effect, seg ⊆ [.write Hardware.relay on true,
          .note .info "Controller" s!"Relay {onOff on}"] → ¬FailedWrite seg :=
        fun seg hs h => by
          obtain ⟨v, hv⟩ := h
          simpa using hs hv
      by_cases hr : (w.ctl.relayEnabled != on) = true
      · simp only [hr, if_true, exec_bind, exec_note, exec_modifyCtl, exec_pure]
        exact ⟨fun hl => hl.grow rfl rfl rfl [.write Hardware.relay on true,
            .note .info "Controller" s!"Relay {onOff on}"] (by simp) rfl fun _ => rfl, rfl, _,
          by simp, LatchMoves.of_kept rfl (hw _ (List.Subset.refl _))⟩
      · simp only [hr, Bool.false_eq_true, if_false, exec_bind, exec_modifyCtl, exec_pure]
        exact ⟨fun hl => hl.grow rfl rfl rfl [.write Hardware.relay on true] (by simp) rfl
            fun _ => rfl, rfl, _, rfl, LatchMoves.of_kept rfl (hw _ (by simp))⟩

end Evse.Control
