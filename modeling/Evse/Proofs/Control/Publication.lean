import Evse.Proofs.Control.Watchdog
/-!
What the publisher was last given against the status now.
-/
namespace Evse.Control

/-- The status `c` last published is its status at `now`, its time apart. -/
def Controller.InSync (c : Controller) (now : Time.Instant) : Prop :=
  ∃ s, c.published = some s ∧ s.same (c.status now) = true

/-- What a publication at `now` leaves of a step from `w` to `w'`: with a publisher, the status
last published is the status now, or the step offered the status now and was refused. -/
def Synced (now : Time.Instant) (w w' : World) : Prop :=
  w'.ctl.publishing = true → w'.ctl.InSync now ∨
    ∃ seg, w'.trace = w.trace ++ seg ∧ Effect.publish (w'.ctl.status now) false ∈ seg

namespace Synced

variable {now : Time.Instant} {w v w' : World}

/-- Effects before the publication leave it as it is. -/
theorem of_booked {up : List Fault} (hb : Booked up w v) (h : Synced now v w') :
    Synced now w w' := by
  obtain ⟨-, -, seg₀, ht₀, -⟩ := hb
  intro hu
  refine (h hu).imp id fun ⟨seg, ht, hr⟩ => ⟨seg₀ ++ seg, ?_, List.mem_append_right _ hr⟩
  rw [ht, ht₀, List.append_assoc]

/-- So do effects after it that leave the controller alone. -/
theorem grow (h : Synced now w v) (hc : w'.ctl = v.ctl) (seg : List Effect)
    (ht : w'.trace = v.trace ++ seg) : Synced now w w' := by
  intro hu
  rw [hc] at hu ⊢
  refine (h hu).imp id fun ⟨s, hs, hr⟩ => ⟨s ++ seg, ?_, List.mem_append_left _ hr⟩
  rw [ht, hs, List.append_assoc]

end Synced

/-- A publication offers the status now unless the publisher already has it; accepted, it is the
status last published; refused, it stays offered in the trace. -/
theorem publish_synced (p : Plant) (w : World) : Synced p.now w (exec publish p w).2 := by
  rw [exec_publish]
  split
  · split
    · exact fun _ => .inr ⟨_, rfl, List.mem_cons_self ..⟩
    · exact fun _ => .inl ⟨_, rfl, Status.same_refl _⟩
  · next hp =>
    intro hu
    simp only [Controller.publishes, hu, Bool.true_and, Bool.not_eq_true',
      Bool.not_eq_false] at hp
    obtain ⟨s, hs, hsame⟩ := (Option.any_eq_true _ _).mp hp
    exact .inl ⟨s, hs, hsame⟩

section Triples

variable {up : List Fault} (p : Plant) (w : World)

theorem Books.triple {α : Type} {x : Act α} (h : Books up x) :
    Triple p (Booked up w) x (Booked up w) :=
  fun v hv => hv.trans (h.booked p v)

theorem publish_syncs : Triple p (Booked up w) publish (Synced p.now w) :=
  fun v hv => (publish_synced p v).of_booked hv

theorem note_synced (severity : Log.Severity) (text : String) :
    Triple p (Synced p.now w) (note severity text) (Synced p.now w) :=
  fun v hv => by
    rw [exec_note]
    exact hv.grow rfl _ rfl

end Triples

/-! ## The actions that end by publishing -/

theorem tick_synced {w : World} (hs : w.ctl.shutDown = false) (p : Plant) :
    Synced p.now w (exec tick p w).2 := by
  unfold tick
  rw [exec_ctl_bind, if_neg (by simp [hs])]
  simp only [exec_bind, exec_pure]
  have hb : Booked (watchdogFaults w.ctl p.now) w _ :=
    ((watchdog_booked p w).trans (refreshLeds_keepsBooks.books.booked p _)).trans
      (sendStatus_keepsBooks.books.booked p _)
  exact (publish_synced p _).of_booked hb

theorem button_synced {w : World} (hs : w.ctl.shutDown = false) (channel : String) (p : Plant) :
    Synced p.now w (exec (button channel true) p w).2 := by
  unfold button
  rw [if_neg (by decide), exec_ctl_bind, if_neg (by simp [hs])]
  refine (?_ : Triple p (Booked ([] : List Fault) w) _ (Synced p.now w)) w (Booked.refl w)
  refine Triple.bind (Books.triple p w (KeepsBooks.note _ _).books) fun _ => ?_
  have last : Triple p (Booked [] w) (do publish; pure (.ok ()) : Act Outcome) (Synced p.now w) :=
    Triple.bind (publish_syncs p w) fun _ _ h => h
  refine Triple.ctl_bind fun c => ?_
  dsimp only
  split
  · exact Triple.bind (Books.triple p w (disableSessions_books _)) fun _ => last
  · exact Triple.bind (Books.triple p w (turnSwitch_keepsBooks _ _).books) fun _ => last

theorem pilotChanged_synced {w : World} (hs : w.ctl.shutDown = false) (old next : PilotState)
    (p : Plant) : Synced p.now w (exec (pilotChanged old next) p w).2 := by
  unfold pilotChanged
  rw [exec_ctl_bind]
  dsimp only
  rw [if_neg (by simp [hs])]
  refine (?_ : Triple p (Booked (bandFaults next) w) _ (Synced p.now w)) w (Booked.refl w)
  have books {α : Type} {x : Act α} (h : Books (bandFaults next) x) := Books.triple p w h
  refine Triple.bind (books (Books.modifyCtl fun _ => ⟨rfl, rfl, rfl, rfl⟩)) fun _ => ?_
  refine Triple.bind (books (KeepsBooks.observe _).books) fun _ => ?_
  refine Triple.bind (books (KeepsBooks.note _ _).books) fun _ => ?_
  split
  · refine Triple.ctl_bind fun c => ?_
    split
    · refine Triple.bind (books (KeepsBooks.note _ _).books) fun _ => ?_
      refine Triple.bind (books (stopSession_books _)) fun r => ?_
      exact Triple.bind (books (noteFailure_keepsBooks _ _ r).books) fun _ => publish_syncs p w
    · exact publish_syncs p w
  · refine Triple.bind (books (KeepsBooks.note _ _).books) fun _ => ?_
    refine Triple.bind (books ((reportFault_books (by decide)).mono (by simp [bandFaults])))
      fun _ => ?_
    refine Triple.bind (books (setRelay_books false)) fun r => ?_
    refine Triple.bind (books (noteFailure_keepsBooks _ _ r).books) fun _ => ?_
    refine Triple.bind (books (request_keepsBooks _ _).books) fun r => ?_
    exact Triple.bind (books (noteFailure_keepsBooks _ _ r).books) fun _ => publish_syncs p w
  · exact publish_syncs p w

theorem shutdown_synced {w : World} (hs : w.ctl.shutDown = false) (p : Plant) :
    Synced p.now w (exec shutdown p w).2 := by
  unfold shutdown
  rw [exec_ctl_bind, if_neg (by simp [hs])]
  refine (?_ : Triple p (Booked ([] : List Fault) w) _ (Synced p.now w)) w (Booked.refl w)
  have books {α : Type} {x : Act α} (h : Books [] x) := Books.triple p w h
  refine Triple.bind (books (Books.modifyCtl fun _ => ⟨rfl, rfl, rfl, rfl⟩)) fun _ => ?_
  refine Triple.bind (books (KeepsBooks.note _ _).books) fun _ => ?_
  refine Triple.bind (books pilotStop_books) fun _ => ?_
  refine Triple.bind (books (KeepsBooks.emit ⟨rfl, fun _ => rfl, rfl⟩).books) fun _ => ?_
  have final : Triple p (Booked [] w) (do
      forceRelayOff
      publish
      note .info "Session controller shut down, relay off") (Synced p.now w) :=
    Triple.bind (books forceRelayOff_books) fun _ =>
      Triple.bind (publish_syncs p w) fun _ => note_synced p w _ _
  have stopping : Triple p (Booked [] w) (do
      if (← ctl).machine.state.isActive then
        noteFailure .warn "Failed to stop charging on shutdown" (← request .stopCharging "shutdown")
      forceRelayOff
      publish
      note .info "Session controller shut down, relay off") (Synced p.now w) := by
    refine Triple.ctl_bind fun c => ?_
    dsimp only
    split
    · refine Triple.bind (books (request_keepsBooks _ _).books) fun r => ?_
      exact Triple.bind (books (noteFailure_keepsBooks _ _ r).books) fun _ => final
    · exact final
  refine Triple.read_bind ?_
  dsimp only
  split
  · exact Triple.bind (books (KeepsBooks.note _ _).books) fun _ => stopping
  · exact stopping

/-! ## Every run -/

/-- Over every run the accepted statuses never repeat back to back and the last of them is the one
published; the publishing steps leave it current unless refused. -/
theorem accepted_statuses_fresh_and_current {P : Plant → Prop} {w : World} (h : Reachable P w) :
    (accepted w.trace).IsChain (fun a b => a.same b = false) ∧
    w.ctl.published = (accepted w.trace).getLast? ∧
    ∀ p, w.ctl.shutDown = false →
      Synced p.now w (step p w .tick).1 ∧
      (∀ channel, Synced p.now w (step p w (.button channel true)).1) ∧
      (∀ old next, Synced p.now w (exec (pilotChanged old next) p w).2) ∧
      Synced p.now w (step p w .shutdown).1 := by
  have hl := h.ledger
  refine ⟨hl.fresh, hl.published, fun p hs => ?_⟩
  exact ⟨tick_synced hs p, fun channel => button_synced hs channel p,
    fun old next => pilotChanged_synced hs old next p, shutdown_synced hs p⟩

/-- A controller with a publisher, as constructed. -/
theorem accepted_statuses_fresh_and_current_new :
    let w : World := ⟨Controller.new ⟨2000000000, 16, true⟩ none true none, []⟩
    Reachable (fun _ => True) w ∧ w.ctl.shutDown = false ∧
      ((accepted w.trace).IsChain (fun a b => a.same b = false) ∧
      w.ctl.published = (accepted w.trace).getLast? ∧
      ∀ p, w.ctl.shutDown = false →
        Synced p.now w (step p w .tick).1 ∧
        (∀ channel, Synced p.now w (step p w (.button channel true)).1) ∧
        (∀ old next, Synced p.now w (exec (pilotChanged old next) p w).2) ∧
        Synced p.now w (step p w .shutdown).1) :=
  have h := Reachable.new _ _ _ _
  ⟨h, rfl, accepted_statuses_fresh_and_current h⟩

end Evse.Control
