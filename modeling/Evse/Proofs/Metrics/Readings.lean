import Evse.Proofs.Control.Routing
/-!
What a metrics book reads of a controller.
-/
namespace Evse

namespace Metrics

/-- What a book shows of a controller: the session-switch gauge, the transitions summed over
their labels, the charging-state gauge, the relay writes summed over their labels and the relay
gauge. -/
structure Reading where
  switch : Nat
  steps : Nat
  state : Nat
  writes : Nat
  level : Nat
deriving DecidableEq, Repr

/-- A sample with its value set to `v` when it is the series `(f, vs)`, as `Book.put` sets a
series the book holds. -/
def Sample.set (f : Family) (vs : List String) (v : Nat) (s : Sample) : Sample :=
  if s.family == f && s.values == vs then { s with value := v } else s

namespace Book

/-- Each series of the book is held once. -/
def Keyed (b : Book) : Prop := (b.samples.map fun s => (s.family, s.values)).Nodup

/-- The sum of the values of the samples of a family. -/
def tally (f : Family) : List Sample → Nat
  | [] => 0
  | s :: rest => (if s.family = f then s.value else 0) + tally f rest

/-- The sum of the series of a family over all its label values. -/
def total (b : Book) (f : Family) : Nat := tally f b.samples

def reading (b : Book) : Reading :=
  ⟨b.get .sessionEnabled [], b.total .transitions, b.get .chargingState [],
    b.total .relayWrites, b.get .relayEnabled []⟩

theorem keyed_empty : empty.Keyed := List.nodup_nil

variable {b : Book} {f : Family} {vs : List String}

theorem put_of_held (h : b.samples.any (fun s => s.family == f && s.values == vs) = true)
    (v : Nat) : b.put f vs v = ⟨b.samples.map (Sample.set f vs v)⟩ := by
  rw [put, if_pos h]
  rfl

theorem put_of_unheld (h : ¬b.samples.any (fun s => s.family == f && s.values == vs) = true)
    (v : Nat) : b.put f vs v = ⟨b.samples ++ [⟨f, vs, v⟩]⟩ := by
  rw [put, if_neg h]

theorem Sample.set_key (f : Family) (vs : List String) (v : Nat) (s : Sample) :
    (s.set f vs v).family = s.family ∧ (s.set f vs v).values = s.values := by
  unfold Sample.set
  split <;> exact ⟨rfl, rfl⟩

/-- Setting a series that a list of samples does not hold changes none of them. -/
theorem map_set_of_unheld {l : List Sample} (h : (f, vs) ∉ l.map fun s => (s.family, s.values))
    (v : Nat) : l.map (Sample.set f vs v) = l := by
  have hs : ∀ s ∈ l, s.set f vs v = s := by
    intro s hs
    have hk : ¬(s.family = f ∧ s.values = vs) := fun hk =>
      h (List.mem_map.mpr ⟨s, hs, by rw [hk.1, hk.2]⟩)
    simp [Sample.set, hk]
  exact (List.map_congr_left hs).trans (List.map_id' l)

theorem Keyed.put (h : b.Keyed) (f : Family) (vs : List String) (v : Nat) :
    (b.put f vs v).Keyed := by
  by_cases hh : b.samples.any (fun s => s.family == f && s.values == vs) = true
  · rw [put_of_held hh, Keyed, List.map_map]
    have hk : ((fun s => (s.family, s.values)) ∘ Sample.set f vs v) =
        fun s => (s.family, s.values) := by
      funext s
      simp [Sample.set_key]
    rw [hk]
    exact h
  · have hn : (f, vs) ∉ b.samples.map fun s => (s.family, s.values) := by
      intro hm
      obtain ⟨s, hs, hk⟩ := List.mem_map.mp hm
      have hk := Prod.mk.inj hk
      exact hh (List.any_eq_true.mpr ⟨s, hs, by simp [hk.1, hk.2]⟩)
    rw [put_of_unheld hh, Keyed, List.map_append]
    exact h.append (List.nodup_singleton _) (List.disjoint_singleton.mpr hn)

@[simp] theorem tally_append (f : Family) (l l' : List Sample) :
    tally f (l ++ l') = tally f l + tally f l' := by
  induction l with
  | nil => simp [tally]
  | cons s rest ih =>
    simp only [List.cons_append, tally, ih]
    omega

/-- Setting a series of one family leaves the sum of another. -/
theorem tally_set_other {g : Family} (hg : g ≠ f) (vs : List String) (v : Nat) :
    ∀ l : List Sample, tally g (l.map (Sample.set f vs v)) = tally g l
  | [] => rfl
  | s :: rest => by
    simp only [List.map_cons, tally, tally_set_other hg vs v rest]
    by_cases hs : s.family = g
    · have hf : (s.family == f && s.values == vs) = false := by simp [hs, hg]
      simp [Sample.set, hf]
    · simp [Sample.set_key, hs]

/-- Setting a series moves the total of its family by the new value less the old. -/
theorem total_put (h : b.Keyed) (f : Family) (vs : List String) (v : Nat) :
    (b.put f vs v).total f + b.get f vs = b.total f + v := by
  by_cases hh : b.samples.any (fun s => s.family == f && s.values == vs) = true
  · -- the held series sits between samples of other keys
    obtain ⟨s₀, hs₀, hm⟩ := List.any_eq_true.mp hh
    have hk : s₀.family = f ∧ s₀.values = vs := by simpa using hm
    obtain ⟨pre, post, hl⟩ := List.append_of_mem hs₀
    have hn := h
    rw [Keyed, hl, List.map_append, List.map_cons, List.nodup_middle, List.nodup_cons,
      ← List.map_append, hk.1, hk.2] at hn
    have hpre : (f, vs) ∉ pre.map fun s => (s.family, s.values) :=
      fun hm => hn.1 (by rw [List.map_append]; exact List.mem_append_left _ hm)
    have hpost : (f, vs) ∉ post.map fun s => (s.family, s.values) :=
      fun hm => hn.1 (by rw [List.map_append]; exact List.mem_append_right _ hm)
    have hfind : pre.find? (fun s => s.family == f && s.values == vs) = none := by
      rw [List.find?_eq_none]
      intro s hs hm
      exact hpre (List.mem_map.mpr ⟨s, hs, by simpa using hm⟩)
    rw [put_of_held hh]
    simp only [total, get, hl, List.map_append, List.map_cons, map_set_of_unheld hpre,
      map_set_of_unheld hpost, List.find?_append, hfind, List.find?_cons, Option.none_or,
      tally_append, tally, Sample.set, hk.1, hk.2, beq_self_eq_true, Bool.and_self, if_true]
    omega
  · have hfind : b.samples.find? (fun s => s.family == f && s.values == vs) = none := by
      rw [List.find?_eq_none]
      intro s hs hm
      exact hh (List.any_eq_true.mpr ⟨s, hs, hm⟩)
    rw [put_of_unheld hh]
    simp [total, get, hfind, tally]

/-- Setting a series leaves the totals of the other families. -/
theorem total_put_other {g : Family} (hg : g ≠ f) (vs : List String) (v : Nat) :
    (b.put f vs v).total g = b.total g := by
  by_cases hh : b.samples.any (fun s => s.family == f && s.values == vs) = true
  · rw [put_of_held hh]
    exact tally_set_other hg vs v b.samples
  · rw [put_of_unheld hh]
    simp [total, tally, Ne.symm hg]

theorem Keyed.bump (h : b.Keyed) (f : Family) (vs : List String) : (b.bump f vs).Keyed :=
  h.put _ _ _

/-- One more count on a series is one more on the total of its family. -/
theorem total_bump (h : b.Keyed) (f : Family) (vs : List String) :
    (b.bump f vs).total f = b.total f + 1 := by
  have hp := total_put h f vs (b.get f vs + 1)
  rw [bump]
  omega

theorem total_bump_other {g : Family} (hg : g ≠ f) (vs : List String) :
    (b.bump f vs).total g = b.total g :=
  total_put_other hg vs _

/-- The families a reading shows. -/
def readFamilies : List Family :=
  [.sessionEnabled, .transitions, .chargingState, .relayWrites, .relayEnabled]

/-- A count on a family the reading does not show leaves the reading. -/
theorem reading_bump_unread (hf : f ∉ readFamilies) (vs : List String) :
    (b.bump f vs).reading = b.reading := by
  simp only [readFamilies, List.mem_cons, List.not_mem_nil, or_false, not_or] at hf
  obtain ⟨h₁, h₂, h₃, h₄, h₅⟩ := hf
  simp only [reading, get_bump, total_bump_other (Ne.symm h₂), total_bump_other (Ne.symm h₄),
    Ne.symm h₁, Ne.symm h₃, Ne.symm h₅, false_and, if_false, Nat.add_zero]

theorem reading_sessionSwitch (b : Book) (on : Bool) :
    (b.sessionSwitch on).reading = { b.reading with switch := on.toNat } := by
  cases on <;> simp [reading, sessionSwitch, get_put, total_put_other] <;> rfl

theorem reading_transition (h : b.Keyed) (source target : String) (ordinal : Nat) :
    (b.transition source target ordinal).reading =
      { b.reading with steps := b.reading.steps + 1, state := ordinal } := by
  simp [reading, transition, get_put, get_bump, total_put_other, total_bump_other, total_bump h]

theorem reading_relayWrite (h : b.Keyed) (on ok : Bool) :
    (b.relayWrite on ok).reading = { b.reading with
      writes := b.reading.writes + 1, level := if ok then on.toNat else b.reading.level } := by
  cases ok <;> cases on <;>
    simp [reading, relayWrite, get_put, get_bump, total_put_other, total_bump_other,
      total_bump h] <;> rfl

theorem Keyed.sessionSwitch (h : b.Keyed) (on : Bool) : (b.sessionSwitch on).Keyed :=
  h.put _ _ _

theorem Keyed.transition (h : b.Keyed) (source target : String) (ordinal : Nat) :
    (b.transition source target ordinal).Keyed :=
  (h.bump _ _).put _ _ _

theorem Keyed.relayWrite (h : b.Keyed) (on ok : Bool) : (b.relayWrite on ok).Keyed := by
  cases ok
  · exact h.bump _ _
  · exact (h.bump _ _).put _ _ _

/-- A change of a book that keeps it keyed and keeps what it reads. -/
def Aside (g : Book → Book) : Prop := ∀ b, b.Keyed → (g b).Keyed ∧ (g b).reading = b.reading

theorem aside_id : Aside id := fun _ hb => ⟨hb, rfl⟩

theorem Aside.then {g₁ g₂ : Book → Book} (h₁ : Aside g₁) (h₂ : Aside g₂) : Aside (g₂ ∘ g₁) := by
  intro b hb
  obtain ⟨hk₁, hr₁⟩ := h₁ b hb
  obtain ⟨hk₂, hr₂⟩ := h₂ _ hk₁
  exact ⟨hk₂, hr₂.trans hr₁⟩

/-- A count on a family the reading does not show is aside. -/
theorem aside_bump (hf : f ∉ readFamilies) (vs : List String) : Aside fun b => b.bump f vs :=
  fun _ hb => ⟨hb.bump _ _, reading_bump_unread hf vs⟩

end Book

end Metrics

end Evse
