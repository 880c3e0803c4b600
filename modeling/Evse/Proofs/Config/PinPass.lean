import Mathlib.Data.List.FinRange
import Evse.Config.Validation
/-!
The pass over the pins, in every order it can visit them.
-/
namespace Evse.Configuration

namespace PinReport

/-- The line a report finds negative. -/
def negative? : PinReport → Option String
  | .negative l => some l
  | .both .. => none

/-- The pin a report finds taken twice. -/
def pin? : PinReport → Option Int
  | .negative _ => none
  | .both p _ _ => some p

/-- The lines a report names. -/
def lines : PinReport → List String
  | .negative l => [l]
  | .both _ a b => [a, b]

@[simp] theorem negative?_negative (l : String) : (negative l).negative? = some l := rfl
@[simp] theorem negative?_both (p : Int) (a b : String) : (both p a b).negative? = none := rfl
@[simp] theorem pin?_negative (l : String) : (negative l).pin? = none := rfl
@[simp] theorem pin?_both (p : Int) (a b : String) : (both p a b).pin? = some p := rfl
@[simp] theorem lines_negative (l : String) : (negative l).lines = [l] := rfl
@[simp] theorem lines_both (p : Int) (a b : String) : (both p a b).lines = [a, b] := rfl

/-- Reports are none exactly when none finds a pin negative and none a pin taken twice. -/
theorem eq_nil_iff (rs : List PinReport) :
    rs = [] ↔ rs.filterMap negative? = [] ∧ rs.filterMap pin? = [] := by
  constructor
  · rintro rfl
    simp
  · rintro ⟨hneg, hshared⟩
    cases rs with
    | nil => rfl
    | cons r rest => cases r <;> simp at hneg hshared

end PinReport

/-! ### One pass -/

section Pass

variable (seen : List (Int × String))

/-- One step of the pass: a negative pin is reported and passed over; any other is reported with
the line that took it last, if one did, and then taken. -/
theorem pinPass_cons (line : String) (pin : Int) (rest : List (String × Int)) :
    pinPass seen ((line, pin) :: rest) =
      if pin < 0 then .negative line :: pinPass seen rest
      else ((seen.lookup pin).map (.both pin · line)).toList ++ pinPass ((pin, line) :: seen) rest := by
  rw [pinPass]
  split_ifs
  · rfl
  · cases seen.lookup pin <;> rfl

variable (xs : List (String × Int))

/-- The negative reports name the lines of the negative pins, in the order visited. -/
theorem pinPass_negatives :
    (pinPass seen xs).filterMap PinReport.negative? = (xs.filter (·.2 < 0)).map (·.1) := by
  induction xs generalizing seen with
  | nil => rfl
  | cons x rest ih =>
    obtain ⟨line, pin⟩ := x
    rw [pinPass_cons]
    by_cases hneg : pin < 0
    · simp [hneg, ih]
    · cases seen.lookup pin <;> simp [hneg, ih, List.filterMap_cons]

/-- Every shared report is about a non-negative pin. -/
theorem pinPass_shared_nonneg :
    ∀ r ∈ pinPass seen xs, ∀ p, r.pin? = some p → 0 ≤ p := by
  induction xs generalizing seen with
  | nil => simp [pinPass]
  | cons x rest ih =>
    obtain ⟨line, pin⟩ := x
    rw [pinPass_cons]
    by_cases hneg : pin < 0
    · simpa [hneg] using ih seen
    · have hnext := ih ((pin, line) :: seen)
      cases seen.lookup pin with
      | none => simpa [hneg] using hnext
      | some earlier =>
        simp only [hneg, if_false, Option.map_some, Option.toList_some, List.singleton_append,
          List.mem_cons]
        rintro r (rfl | hr) p hp
        · simp only [PinReport.pin?_both, Option.some.injEq] at hp
          omega
        · exact hnext r hr p hp

/-- A pin visited `m` more times is reported taken twice `m` times when some line took it before
the pass, and `m - 1` times otherwise. -/
theorem pinPass_shared_count {p : Int} (hp : 0 ≤ p) :
    (pinPass seen xs).countP (·.pin? = some p) =
      if (seen.lookup p).isSome then xs.countP (·.2 = p) else xs.countP (·.2 = p) - 1 := by
  induction xs generalizing seen with
  | nil => simp [pinPass]
  | cons x rest ih =>
    obtain ⟨line, pin⟩ := x
    rw [pinPass_cons]
    by_cases hneg : pin < 0
    · have hne : pin ≠ p := by omega
      simp [hneg, ih, hne]
    · rw [if_neg hneg, List.countP_append, ih ((pin, line) :: seen)]
      by_cases hpin : pin = p
      · -- the pin is taken now, so the rest of the pass finds it taken
        subst hpin
        cases seen.lookup pin <;> simp [Nat.add_comm]
      · have hlook : ((pin, line) :: seen).lookup p = seen.lookup p := by
          rw [List.lookup_cons, beq_false_of_ne (Ne.symm hpin)]
        rw [hlook]
        cases seen.lookup pin <;> simp [hpin]

/-- The lines the reports on pin `p` name: the line that took it before the pass, once the pass
visits it, and every line of the pass on it, once the pin is shared at all. -/
theorem mem_shared_lines_iff {p : Int} (hp : 0 ≤ p) (l : String) :
    l ∈ ((pinPass seen xs).filter (·.pin? = some p)).flatMap PinReport.lines ↔
      (seen.lookup p = some l ∧ ∃ x ∈ xs, x.2 = p) ∨
        ((l, p) ∈ xs ∧ ((seen.lookup p).isSome ∨ 2 ≤ xs.countP (·.2 = p))) := by
  induction xs generalizing seen with
  | nil => simp [pinPass]
  | cons x rest ih =>
    obtain ⟨line, pin⟩ := x
    rw [pinPass_cons]
    by_cases hneg : pin < 0
    · have hne : pin ≠ p := by omega
      simp [hneg, ih, hne, Ne.symm hne]
    · rw [if_neg hneg, List.filter_append, List.flatMap_append, List.mem_append, ih]
      by_cases hpin : pin = p
      · -- the line taking the pin now is the one the rest of the pass finds
        subst hpin
        cases seen.lookup pin <;> simp <;> grind
      · have hlook : ((pin, line) :: seen).lookup p = seen.lookup p := by
          rw [List.lookup_cons, beq_false_of_ne (Ne.symm hpin)]
        rw [hlook]
        cases seen.lookup pin <;> simp [hpin, Ne.symm hpin]

/-- The lines a report names are lines of the pass or lines that took a pin before it. -/
theorem pinPass_lines (P : String → Prop) (hseen : ∀ e ∈ seen, P e.2) (hxs : ∀ x ∈ xs, P x.1) :
    ∀ r ∈ pinPass seen xs, ∀ l ∈ r.lines, P l := by
  induction xs generalizing seen with
  | nil => simp [pinPass]
  | cons x rest ih =>
    obtain ⟨line, pin⟩ := x
    have hline : P line := hxs _ List.mem_cons_self
    have hrest : ∀ x ∈ rest, P x.1 := fun x hx => hxs x (List.mem_cons_of_mem _ hx)
    have hnext : ∀ r ∈ pinPass ((pin, line) :: seen) rest, ∀ l ∈ r.lines, P l := by
      apply ih _ _ hrest
      simpa [hline] using hseen
    rw [pinPass_cons]
    by_cases hneg : pin < 0
    · simp only [hneg, if_true, List.mem_cons]
      rintro r (rfl | hr)
      · simpa using hline
      · exact ih seen hseen hrest r hr
    · cases h : seen.lookup pin with
      | none => simpa [hneg] using hnext
      | some earlier =>
        -- the line that took the pin last is one `seen` holds
        obtain ⟨l₁, l₂, hsplit, -⟩ := List.lookup_eq_some_iff.mp h
        have hearlier : P earlier := hseen (pin, earlier) (by simp [hsplit])
        simp only [hneg, if_false, Option.map_some, Option.toList_some, List.singleton_append,
          List.mem_cons]
        rintro r (rfl | hr)
        · simp [hearlier, hline]
        · exact hnext r hr

/-- A pin is reported taken twice exactly when it is non-negative and two lines of the pass use
it. -/
theorem mem_shared_pins_iff (p : Int) :
    p ∈ (pinPass [] xs).filterMap PinReport.pin? ↔ 0 ≤ p ∧ 2 ≤ xs.countP (·.2 = p) := by
  have hpos : p ∈ (pinPass [] xs).filterMap PinReport.pin? ↔
      0 < (pinPass [] xs).countP (·.pin? = some p) := by
    simp [List.countP_pos_iff]
  rw [hpos]
  by_cases hp : 0 ≤ p
  · rw [pinPass_shared_count [] xs hp]
    simp only [List.lookup_nil, Option.isSome_none, Bool.false_eq_true, if_false]
    omega
  · have hnone : (pinPass [] xs).countP (·.pin? = some p) = 0 := by
      rw [List.countP_eq_zero]
      intro r hr hrp
      exact hp (pinPass_shared_nonneg [] xs r hr p (by simpa using hrp))
    simp [hnone, hp]

/-- How often a value occurs among the pins is how many lines use it. -/
theorem count_values (ps : List (String × Int)) (p : Int) :
    (ps.map (·.2)).count p = ps.countP (·.2 = p) := by
  simp [List.count, List.countP_map, Function.comp_def]
  rfl

/-- The pins are pairwise distinct exactly when no value is used by two lines. -/
theorem nodup_values_iff (ps : List (String × Int)) :
    (ps.map (·.2)).Nodup ↔ ∀ p, ps.countP (·.2 = p) ≤ 1 := by
  simp only [List.nodup_iff_count_le_one, count_values]

/-- The pass reports nothing exactly when every pin it visits is non-negative and no two are
equal. -/
theorem pinPass_eq_nil_iff : pinPass [] xs = [] ↔ (∀ x ∈ xs, 0 ≤ x.2) ∧ (xs.map (·.2)).Nodup := by
  have hneg : (xs.filter (·.2 < 0)).map (·.1) = [] ↔ ∀ x ∈ xs, 0 ≤ x.2 := by
    simp [List.filter_eq_nil_iff]
  rw [PinReport.eq_nil_iff, pinPass_negatives, hneg, nodup_values_iff,
    List.eq_nil_iff_forall_not_mem]
  simp only [mem_shared_pins_iff, not_and, not_le]
  apply and_congr_right
  intro hnn
  apply forall_congr'
  intro p
  by_cases hp : 0 ≤ p
  · simp only [hp, forall_const]
    omega
  · -- no pin is negative, so none is `p`
    have hnone : xs.countP (·.2 = p) = 0 := by
      rw [List.countP_eq_zero]
      intro x hx
      have := hnn x hx
      simp only [decide_eq_true_eq]
      omega
    simp [hp, hnone]

end Pass

/-! ### Every order -/

/-- The pins as one pass hands them out: the `i`-th pin visited is the `σ i`-th of `pins`. -/
def Config.pinsIn (c : Config) (σ : Equiv.Perm (Fin 6)) : List (String × Int) :=
  List.ofFn fun i => c.pins.get ⟨σ i, (σ i).isLt⟩

theorem pinsIn_perm (c : Config) (σ : Equiv.Perm (Fin 6)) : (c.pinsIn σ).Perm c.pins := by
  have hpins : List.ofFn (fun i : Fin 6 => c.pins.get ⟨i, i.isLt⟩) = c.pins := List.ofFn_get c.pins
  have h := Equiv.Perm.ofFn_comp_perm σ fun i : Fin 6 => c.pins.get ⟨i, i.isLt⟩
  rw [hpins] at h
  exact h

/-- In every order, the pass reports nothing exactly when the six pins are non-negative and
pairwise distinct. -/
theorem pinPass_pinsIn_eq_nil_iff (c : Config) (σ : Equiv.Perm (Fin 6)) :
    pinPass [] (c.pinsIn σ) = [] ↔ (∀ q ∈ c.pins, 0 ≤ q.2) ∧ (c.pins.map (·.2)).Nodup := by
  have hperm := pinsIn_perm c σ
  rw [pinPass_eq_nil_iff, (hperm.map _).nodup_iff]
  exact and_congr_left fun _ => forall_congr' fun q => imp_congr_left hperm.mem_iff

/-- The six pins are named by six different lines. -/
theorem pin_names_nodup (c : Config) : (c.pins.map (·.1)).Nodup := by
  simp [Config.pins]

/-- Among the non-negative pins, a non-negative value is used as often as among all pins. -/
theorem countP_nonneg_pins (ps : List (String × Int)) {p : Int} (hp : 0 ≤ p) :
    (ps.filter (·.2 ≥ 0)).countP (·.2 == p) = ps.countP (·.2 = p) := by
  rw [List.countP_filter]
  apply List.countP_congr
  intro x _
  simp only [beq_iff_eq, Bool.and_eq_true, decide_eq_true_eq]
  constructor
  · exact fun h => h.1
  · intro h
    exact ⟨h, by omega⟩

/-- The lines listed for a non-negative pin are the lines that use it. -/
theorem mem_lines_using_iff (ps : List (String × Int)) {p : Int} (hp : 0 ≤ p) (l : String) :
    l ∈ ((ps.filter (·.2 ≥ 0)).filter (·.2 == p)).map (·.1) ↔ (l, p) ∈ ps := by
  simp only [List.mem_map, List.mem_filter, beq_iff_eq, decide_eq_true_eq]
  constructor
  · rintro ⟨x, ⟨⟨hx, -⟩, rfl⟩, rfl⟩
    exact hx
  · intro hx
    exact ⟨(l, p), ⟨⟨hx, hp⟩, rfl⟩, rfl⟩

theorem length_lines_using (ps : List (String × Int)) {p : Int} (hp : 0 ≤ p) :
    (((ps.filter (·.2 ≥ 0)).filter (·.2 == p)).map (·.1)).length = ps.countP (·.2 = p) := by
  rw [List.length_map, ← List.countP_eq_length_filter, countP_nonneg_pins ps hp]

/-- The pins listed as shared: the non-negative values that two lines use. -/
theorem mem_pins_used_twice_iff (ps : List (String × Int)) (p : Int) :
    p ∈ ((ps.filter (·.2 ≥ 0)).map (·.2)).eraseDups.mergeSort (· ≤ ·) ∧
        ((((ps.filter (·.2 ≥ 0)).filter (·.2 == p)).map (·.1)).mergeSort (· ≤ ·)).length ≥ 2 ↔
      0 ≤ p ∧ 2 ≤ ps.countP (·.2 = p) := by
  rw [List.mem_mergeSort, List.mem_eraseDups, List.length_mergeSort]
  constructor
  · rintro ⟨hmem, hcount⟩
    obtain ⟨x, hx, rfl⟩ := List.mem_map.mp hmem
    have hx0 : 0 ≤ x.2 := by simpa using (List.mem_filter.mp hx).2
    exact ⟨hx0, by rwa [length_lines_using ps hx0] at hcount⟩
  · rintro ⟨hp, hcount⟩
    rw [length_lines_using ps hp]
    obtain ⟨x, hx, hxp⟩ := List.countP_pos_iff.mp (by omega : 0 < ps.countP (·.2 = p))
    have hxp : x.2 = p := by simpa using hxp
    refine ⟨List.mem_map.mpr ⟨x, List.mem_filter.mpr ⟨hx, ?_⟩, hxp⟩, hcount⟩
    simpa [hxp] using hp

/-! ### Sorting forgets the order -/

/-- Sorting with a transitive, total and antisymmetric comparison forgets the order of the list:
two reorderings of a list sort to one list. -/
theorem mergeSort_eq_of_perm {α : Type} {le : α → α → Bool}
    (trans : ∀ a b c, le a b → le b c → le a c) (total : ∀ a b, le a b || le b a)
    (antisymm : ∀ a b, le a b → le b a → a = b) {l₁ l₂ : List α} (h : l₁.Perm l₂) :
    l₁.mergeSort le = l₂.mergeSort le :=
  List.Perm.eq_of_pairwise (fun a b _ _ => antisymm a b) (List.pairwise_mergeSort trans total _)
    (List.pairwise_mergeSort trans total _)
    ((List.mergeSort_perm _ _).trans (h.trans (List.mergeSort_perm _ _).symm))

/-- Texts sort to one list whatever order they come in. -/
theorem sort_texts_eq_of_perm {l₁ l₂ : List String} (h : l₁.Perm l₂) :
    l₁.mergeSort (· ≤ ·) = l₂.mergeSort (· ≤ ·) :=
  mergeSort_eq_of_perm
    (fun a b c hab hbc => by simp only [decide_eq_true_eq] at *; exact String.le_trans hab hbc)
    (fun a b => by simpa using String.le_total a b)
    (fun a b hab hba => String.le_antisymm (by simpa using hab) (by simpa using hba)) h

theorem pairwise_sort_ints (l : List Int) :
    (l.mergeSort (· ≤ ·)).Pairwise fun a b => decide (a ≤ b) :=
  List.pairwise_mergeSort (fun a b c hab hbc => by simp only [decide_eq_true_eq] at *; omega)
    (fun a b => by simp only [Bool.or_eq_true, decide_eq_true_eq]; omega) l

/-- Two sorted lists of distinct integers with the same members are one list. -/
theorem ints_eq_of_sorted {l₁ l₂ : List Int} (h₁ : l₁.Pairwise fun a b => decide (a ≤ b))
    (h₂ : l₂.Pairwise fun a b => decide (a ≤ b)) (hn₁ : l₁.Nodup) (hn₂ : l₂.Nodup)
    (h : ∀ p, p ∈ l₁ ↔ p ∈ l₂) : l₁ = l₂ := by
  refine List.Perm.eq_of_pairwise ?_ h₁ h₂ ((List.perm_ext_iff_of_nodup hn₁ hn₂).mpr h)
  intro a b _ _ hab hba
  simp only [decide_eq_true_eq] at hab hba
  omega

theorem sorted_eq_nil_iff {α : Type} (l : List α) (le : α → α → Bool) :
    l.mergeSort le = [] ↔ l = [] := by
  rw [← List.length_eq_zero_iff, List.length_mergeSort, List.length_eq_zero_iff]

theorem nodup_eraseDups {α : Type} [BEq α] [LawfulBEq α] : (l : List α) → l.eraseDups.Nodup
  | [] => by simp
  | a :: rest => by
    rw [List.eraseDups_cons, List.nodup_cons]
    exact ⟨by simp [List.mem_eraseDups], nodup_eraseDups (rest.filter fun b => !b == a)⟩
termination_by l => l.length
decreasing_by exact Nat.lt_succ_of_le (List.length_filter_le _ _)

theorem nodup_sort_eraseDups {α : Type} [BEq α] [LawfulBEq α] (l : List α) (le : α → α → Bool) :
    (l.eraseDups.mergeSort le).Nodup :=
  (List.mergeSort_perm _ _).nodup_iff.mpr (nodup_eraseDups l)

theorem filterMap_when {α β : Type} (P : α → Prop) [DecidablePred P] (f : α → β) (l : List α) :
    l.filterMap (fun a => if P a then some (f a) else none) = (l.filter (P ·)).map f := by
  induction l with
  | nil => rfl
  | cons a rest ih => by_cases h : P a <;> simp [h, ih]

theorem map_eq_map_of {α β : Type} {f g : α → β} {l₁ l₂ : List α} (h : l₁ = l₂)
    (hfg : ∀ x ∈ l₂, f x = g x) : l₁.map f = l₂.map g := by
  subst h
  exact List.map_congr_left hfg

/-! ### Gathering the reports -/

/-- The reports of a pass gathered so that no order shows: the negative lines sorted, then each
pin reported taken twice, in increasing order, with every line its reports name, sorted. -/
def gather (rs : List PinReport) : List Problem :=
  ((rs.filterMap PinReport.negative?).mergeSort (· ≤ ·)).map .negativePin ++
    ((rs.filterMap PinReport.pin?).eraseDups.mergeSort (· ≤ ·)).map fun p =>
      .sharedPin p (((rs.filter (·.pin? = some p)).flatMap PinReport.lines).eraseDups.mergeSort (· ≤ ·))

theorem gather_eq_nil_iff (rs : List PinReport) : gather rs = [] ↔ rs = [] := by
  rw [PinReport.eq_nil_iff, gather, List.append_eq_nil_iff, List.map_eq_nil_iff,
    List.map_eq_nil_iff, sorted_eq_nil_iff, sorted_eq_nil_iff]
  apply and_congr_right
  intro _
  simp only [List.eq_nil_iff_forall_not_mem, List.mem_eraseDups]

/-- The problems listed for a configuration are its single checks and then the reports of a pass
over its pins gathered, whatever order the pass visits them in. -/
theorem problems_eq_gather (c : Config) (σ : Equiv.Perm (Fin 6)) :
    c.problems = c.checks ++ gather (pinPass [] (c.pinsIn σ)) := by
  have hperm := pinsIn_perm c σ
  change c.checks ++ _ ++ _ = _
  rw [List.append_assoc]
  congr 1
  unfold gather
  congr 1
  · rw [pinPass_negatives]
    exact congrArg _ (sort_texts_eq_of_perm ((hperm.filter _).map _).symm)
  · rw [filterMap_when]
    apply map_eq_map_of
    · apply ints_eq_of_sorted ((pairwise_sort_ints _).filter _) (pairwise_sort_ints _)
        ((nodup_sort_eraseDups _ _).filter _) (nodup_sort_eraseDups _ _)
      intro p
      rw [List.mem_filter, decide_eq_true_eq, mem_pins_used_twice_iff, List.mem_mergeSort,
        List.mem_eraseDups, mem_shared_pins_iff, hperm.countP_eq]
    · intro p hp
      rw [List.mem_mergeSort, List.mem_eraseDups, mem_shared_pins_iff, hperm.countP_eq] at hp
      obtain ⟨hp0, hcount⟩ := hp
      congr 1
      apply sort_texts_eq_of_perm
      have hnames : (((c.pins.filter (·.2 ≥ 0)).filter (·.2 == p)).map (·.1)).Nodup :=
        (pin_names_nodup c).sublist (((List.filter_sublist).trans List.filter_sublist).map _)
      rw [List.perm_ext_iff_of_nodup hnames (nodup_eraseDups _)]
      intro l
      rw [mem_lines_using_iff _ hp0, List.mem_eraseDups, mem_shared_lines_iff [] _ hp0,
        hperm.countP_eq]
      simp [hperm.mem_iff, hcount]

end Evse.Configuration
