import Evse.Pilot.Monitor
/-!
What a pilot monitor reports: real band changes, from the band it had to the band it has.
-/
namespace Evse.Pilot

namespace Monitor

/-- Every band change among `evs` leads from the band of `m` to the band of `m'`, and changes
it. -/
def Faithful (m m' : Monitor) (evs : List Event) : Prop :=
  ∀ old new, Event.change old new ∈ evs → old = m.state ∧ new = m'.state ∧ old ≠ new

namespace Faithful

theorem nil (m m' : Monitor) : Faithful m m' [] := fun _ _ h => by simp at h

/-- Notes around the events of a faithful report keep it faithful. -/
theorem around {m m' : Monitor} {evs : List Event} (h : Faithful m m' evs) {pre post : List Event}
    (hpre : ∀ o n, Event.change o n ∉ pre) (hpost : ∀ o n, Event.change o n ∉ post) :
    Faithful m m' (pre ++ evs ++ post) := by
  intro old new hc
  rcases List.mem_append.mp hc with hc | hc
  · rcases List.mem_append.mp hc with hc | hc
    · exact absurd hc (hpre old new)
    · exact h old new hc
  · exact absurd hc (hpost old new)

theorem append_note {m m' : Monitor} {evs : List Event} (h : Faithful m m' evs)
    (severity : Log.Severity) (text : String) : Faithful m m' (evs ++ [.note severity text]) := by
  intro old new hc
  rcases List.mem_append.mp hc with hc | hc
  · exact h old new hc
  · simp at hc

end Faithful

theorem update_faithful (m : Monitor) (s : PilotState) :
    Faithful m (m.update s).1 (m.update s).2 := by
  intro old new hc
  by_cases h : m.state = s
  · simp [update, h] at hc
  · simp only [update, h, if_false, List.mem_singleton, Event.change.injEq] at hc ⊢
    obtain ⟨rfl, rfl⟩ := hc
    exact ⟨rfl, rfl, h⟩

theorem sample_faithful (m : Monitor) : Faithful m m.sample.1 m.sample.2 := by
  unfold sample
  split
  · dsimp only
    split
    · exact Faithful.nil _ _
    · exact (update_faithful m _).append_note _ _
  · split
    · exact Faithful.nil _ _
    · intro old new hc
      simp at hc
  · exact Faithful.nil _ _

/-- A monitor that starts reports at most one band change, from its band before to its band
after. -/
theorem start_faithful (m : Monitor) : Faithful m m.start.1 m.start.2.1 := by
  unfold start
  split
  · exact Faithful.nil _ _
  · split
    · exact Faithful.nil _ _
    · exact (update_faithful { m with running := true } .a).append_note _ _
  · split
    · exact Faithful.nil _ _
    · exact (sample_faithful m).append_note _ _

/-- A monitor taking a message reports at most one band change, from its band before to its
band after. -/
theorem handle_faithful (m : Monitor) (bytes : List UInt8) :
    Faithful m (m.handle bytes).1 (m.handle bytes).2.1 := by
  unfold handle
  split
  · exact Faithful.nil _ _
  split
  · exact Faithful.nil _ _
  dsimp only
  refine (update_faithful m _).around (fun o n h => ?_) (fun o n h => ?_)
  · split at h <;> simp at h
  · split at h <;> simp at h

/-- A monitor offered a reading reports at most one band change, from its band before to its
band after: a polling monitor of that probe that runs samples the reading at once. -/
theorem offer_faithful (m : Monitor) (probe : Probe) (reading : Except String Int) :
    Faithful m (m.offer probe reading).1 (m.offer probe reading).2 := by
  unfold offer
  split
  · split
    · dsimp only
      split
      · exact sample_faithful _
      · exact Faithful.nil _ _
    · exact Faithful.nil _ _
  · exact Faithful.nil _ _

end Monitor

end Evse.Pilot
