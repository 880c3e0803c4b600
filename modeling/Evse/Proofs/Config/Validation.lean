import Mathlib.Tactic.IntervalCases
import Evse.Proofs.Config.PinPass
import Evse.Config.Env
/-!
What validation accepts and what it says, whatever order the pass visits the pins in.
-/

namespace Evse.Text

theorem newline_ne_digitChar (d : Nat) : '\n' ≠ d.digitChar := by
  by_cases hd : 16 ≤ d
  · rw [Nat.digitChar_eq_star.mpr hd]
    decide
  · interval_cases d <;> decide

/-- No digit of a number, in a base from two up, is a newline. -/
theorem newline_not_mem_toDigits {b : Nat} (hb : 1 < b) (n : Nat) : '\n' ∉ Nat.toDigits b n := by
  induction n using Nat.strong_induction_on with
  | _ n ih =>
    rw [Nat.toDigits_eq_if hb]
    split
    · simp [newline_ne_digitChar]
    · have hlt : n / b < n := Nat.div_lt_self (by omega) hb
      simp [ih (n / b) hlt, newline_ne_digitChar]

theorem newline_not_mem_intRepr (a : Int) : '\n' ∉ a.repr.toList := by
  cases a <;> simp [Int.repr, newline_not_mem_toDigits]

/-- A text written into a message is written as it is. -/
theorem toString_text (s : String) : toString s = s := rfl

theorem newline_not_mem_escapeCode (c : Char) : '\n' ∉ (escapeCode c).toList := by
  unfold escapeCode hexDigits
  split
  all_goals try split_ifs
  all_goals simp [newline_not_mem_toDigits]

theorem newline_not_mem_escapeChar (c : Char) : '\n' ∉ (escapeChar false c).toList := by
  unfold escapeChar
  split_ifs with hq hb hp
  · simp
  · simp
  · -- a printable character stands for itself, and a newline is not printable
    have hc : c ≠ '\n' := by
      rintro rfl
      exact absurd hp (by decide)
    simpa using hc.symm
  · exact newline_not_mem_escapeCode c

/-- A quoted text stays on one line: a newline in it is written as an escape. -/
theorem newline_not_mem_quote (s : String) : '\n' ∉ (quote s).toList := by
  simp [quote, newline_not_mem_escapeChar]

end Evse.Text

namespace Evse.Configuration

/-! ### The requirements -/

/-- The single requirements on a configuration, in the order validation checks them. -/
inductive Requirement where
  | mode | driver | source | pilotInterval | tickInterval | peerTimeout | maxCurrent | addresses
deriving DecidableEq, Repr

namespace Requirement

def all : List Requirement :=
  [mode, driver, source, pilotInterval, tickInterval, peerTimeout, maxCurrent, addresses]

/-- What a requirement asks of a configuration. -/
def Holds (c : Config) : Requirement → Prop
  | mode => c.mode = "development" ∨ c.mode = "production"
  | driver => c.driver = "stub" ∨ c.driver = "gpiocdev"
  | source => c.pilotSource = "polling" ∨ c.pilotSource = "adc" ∨ c.pilotSource = "remote"
  | pilotInterval => 0 < c.pilotInterval
  | tickInterval => 0 < c.tickInterval
  | peerTimeout => 0 ≤ c.peerTimeout
  | maxCurrent => 6 ≤ c.maxCurrent ∧ c.maxCurrent ≤ 80
  | addresses => c.listenAddr ≠ "" ∧ c.peerAddr ≠ ""

instance decHolds (c : Config) : (r : Requirement) → Decidable (r.Holds c)
  | mode => inferInstanceAs (Decidable (c.mode = _ ∨ c.mode = _))
  | driver => inferInstanceAs (Decidable (c.driver = _ ∨ c.driver = _))
  | source => inferInstanceAs (Decidable (c.pilotSource = _ ∨ c.pilotSource = _ ∨ c.pilotSource = _))
  | pilotInterval => inferInstanceAs (Decidable (0 < c.pilotInterval))
  | tickInterval => inferInstanceAs (Decidable (0 < c.tickInterval))
  | peerTimeout => inferInstanceAs (Decidable (0 ≤ c.peerTimeout))
  | maxCurrent => inferInstanceAs (Decidable (6 ≤ c.maxCurrent ∧ c.maxCurrent ≤ 80))
  | addresses => inferInstanceAs (Decidable (c.listenAddr ≠ "" ∧ c.peerAddr ≠ ""))

/-- The problem that reports a failed requirement, with the value it refuses. -/
def problem (c : Config) : Requirement → Problem
  | mode => .mode c.mode
  | driver => .driver c.driver
  | source => .source c.pilotSource
  | pilotInterval => .pilotInterval
  | tickInterval => .tickInterval
  | peerTimeout => .peerTimeout
  | maxCurrent => .maxCurrent c.maxCurrent
  | addresses => .addresses

/-- The line reporting a failed requirement stays one line, whatever the value it quotes. -/
theorem newline_not_mem_message (c : Config) (r : Requirement) :
    '\n' ∉ (r.problem c).message.toList := by
  cases r <;> unfold problem Problem.message <;>
    simp [Text.toString_text, Text.newline_not_mem_quote, Text.newline_not_mem_intRepr]

end Requirement

/-- A configuration that validates: every requirement holds, and the six pins are non-negative
and pairwise distinct. -/
structure Config.Valid (c : Config) : Prop where
  holds : ∀ r ∈ Requirement.all, r.Holds c
  nonneg : ∀ q ∈ c.pins, 0 ≤ q.2
  distinct : (c.pins.map (·.2)).Nodup

theorem Config.valid_iff (c : Config) :
    c.Valid ↔
      (∀ r ∈ Requirement.all, r.Holds c) ∧ (∀ q ∈ c.pins, 0 ≤ q.2) ∧ (c.pins.map (·.2)).Nodup :=
  ⟨fun h => ⟨h.holds, h.nonneg, h.distinct⟩, fun h => ⟨h.1, h.2.1, h.2.2⟩⟩

instance (c : Config) : Decidable c.Valid :=
  decidable_of_iff _ c.valid_iff.symm

/-- A check that reports when its condition holds is a requirement that reports unless its own
condition holds, when the two conditions are opposite. -/
theorem report_unless {P Q : Prop} [Decidable P] [Decidable Q] (h : P ↔ ¬Q) (x : List Problem) :
    (if P then x else []) = if Q then [] else x := by
  by_cases hq : Q <;> simp [h, hq]

/-- The single checks report one problem for each failed requirement, in the requirements'
order. -/
theorem checks_eq_failed (c : Config) :
    c.checks = Requirement.all.flatMap fun r => if r.Holds c then [] else [r.problem c] := by
  simp only [Config.checks, Requirement.all, List.flatMap_cons, List.flatMap_nil, List.append_nil,
    List.append_assoc, Bool.or_eq_true, beq_iff_eq, decide_eq_true_eq, String.isEmpty_iff,
    List.contains_cons, List.contains_nil, Bool.or_false]
  rw [report_unless (Q := 0 < c.pilotInterval) Int.not_lt.symm,
    report_unless (Q := 0 < c.tickInterval) Int.not_lt.symm,
    report_unless (Q := 0 ≤ c.peerTimeout) Int.not_le.symm,
    report_unless (P := c.maxCurrent < 6 ∨ c.maxCurrent > 80)
      (Q := 6 ≤ c.maxCurrent ∧ c.maxCurrent ≤ 80) (by omega),
    report_unless (P := c.listenAddr = "" ∨ c.peerAddr = "")
      (Q := c.listenAddr ≠ "" ∧ c.peerAddr ≠ "") (by tauto)]
  rfl

theorem checks_eq_nil_iff (c : Config) : c.checks = [] ↔ ∀ r ∈ Requirement.all, r.Holds c := by
  rw [checks_eq_failed, List.flatMap_eq_nil_iff]
  apply forall₂_congr
  intro r _
  by_cases h : r.Holds c <;> simp [h]

/-! ### The lines of the error -/

/-- A report stays one line when the lines it names do. -/
theorem PinReport.newline_not_mem_message (r : PinReport) (h : ∀ l ∈ r.lines, '\n' ∉ l.toList) :
    '\n' ∉ r.message.toList := by
  cases r <;> unfold PinReport.message <;> try unfold Problem.message
  all_goals simp_all [Text.toString_text, Text.newline_not_mem_intRepr]

/-! ### Validation as it runs -/

/-- The pins of a configuration are named on one line each. -/
theorem newline_not_mem_pin_names (c : Config) : ∀ x ∈ c.pins, '\n' ∉ x.1.toList := by
  simp [Config.pins]

/-- Every line of the validation error is one line, when the pins visited are named on one line
each. -/
theorem newline_not_mem_violations (c : Config) (order : List (String × Int))
    (hnames : ∀ x ∈ order, '\n' ∉ x.1.toList) : ∀ l ∈ c.violations order, '\n' ∉ l.toList := by
  intro l hl
  rcases List.mem_append.mp hl with hcheck | hreport
  · obtain ⟨p, hp, rfl⟩ := List.mem_map.mp hcheck
    rw [checks_eq_failed, List.mem_flatMap] at hp
    obtain ⟨r, -, hr⟩ := hp
    by_cases h : r.Holds c
    · simp [h] at hr
    · simp only [h, if_false, List.mem_singleton] at hr
      rw [hr]
      exact Requirement.newline_not_mem_message c r
  · obtain ⟨r, hr, rfl⟩ := List.mem_map.mp hreport
    exact PinReport.newline_not_mem_message r
      (pinPass_lines [] order (fun l => '\n' ∉ l.toList) (by simp) hnames r hr)

theorem validate_eq_none_iff (c : Config) (order : List (String × Int)) :
    c.validate order = none ↔ c.checks = [] ∧ pinPass [] order = [] := by
  unfold Config.validate
  split
  · next hv => simpa [Config.violations] using hv
  · next lines hv => simpa [Config.violations] using hv

/-- An error from validation is the prefix and then its lines, one for each violation. -/
theorem validate_eq_some (c : Config) (order : List (String × Int)) (text : String)
    (hnames : ∀ x ∈ order, '\n' ∉ x.1.toList) (h : c.validate order = some text) :
    ∃ body, text = "invalid configuration: " ++ body ∧
      (body.split '\n').toList.map (·.copy) = c.violations order := by
  unfold Config.validate at h
  split at h
  · simp at h
  · next _ hne =>
    refine ⟨"\n".intercalate (c.violations order), (Option.some.inj h).symm, ?_⟩
    have hsplit := String.toList_split_intercalate (c := '\n')
      (newline_not_mem_violations c order hnames)
    rw [if_neg hne] at hsplit
    exact hsplit

/-- Validation, in whatever order it visits the pins, accepts exactly the valid
configurations. -/
theorem validate_pinsIn_eq_none_iff (c : Config) (σ : Equiv.Perm (Fin 6)) :
    c.validate (c.pinsIn σ) = none ↔ c.Valid := by
  rw [validate_eq_none_iff, checks_eq_nil_iff, pinPass_pinsIn_eq_nil_iff, c.valid_iff]

/-! ### The problems listed -/

/-- A configuration has no problem listed exactly when it is valid. -/
theorem problems_eq_nil_iff (c : Config) : c.problems = [] ↔ c.Valid := by
  rw [problems_eq_gather c (Equiv.refl _), List.append_eq_nil_iff, gather_eq_nil_iff,
    ← validate_eq_none_iff, validate_pinsIn_eq_none_iff]

/-! ### Loading -/

/-- An empty driver is filled from the mode: the GPIO chip in production, the simulated board
otherwise; a driver given stays. -/
theorem withModeDefaults_eq (c : Config) :
    c.withModeDefaults = { c with driver :=
      if c.driver = "" then (if c.mode = "production" then "gpiocdev" else "stub") else c.driver } := by
  unfold Config.withModeDefaults Config.isProduction
  by_cases h : c.driver = "" <;> simp [h]

/-- A configuration as read loads when, its driver filled from the mode, it is valid; otherwise
loading reports the problems of the filled configuration. -/
theorem finish_ok (c : Config) :
    finish (.ok c) = if c.withModeDefaults.Valid then .ok c.withModeDefaults
      else .error (.invalid c.withModeDefaults.problems) := by
  simp only [finish]
  split
  · next h => rw [if_pos ((problems_eq_nil_iff _).mp h)]
  · next hne => rw [if_neg (fun hv => hne ((problems_eq_nil_iff _).mpr hv))]

/-! ### Every order of the pass -/

/-- Validation accepts exactly the valid configurations, in every visiting order of the pins, and
otherwise reports each violation on a line of its own. -/
theorem validate_reports_each_violation (c : Config) (σ : Equiv.Perm (Fin 6)) :
    (c.validate (c.pinsIn σ) = none ↔ c.Valid) ∧
    (∀ text, c.validate (c.pinsIn σ) = some text → ∃ body, text = "invalid configuration: " ++ body ∧
      (body.split '\n').toList.map (·.copy) =
        (Requirement.all.flatMap fun r => if r.Holds c then [] else [(r.problem c).message]) ++
          (pinPass [] (c.pinsIn σ)).map PinReport.message) ∧
    ((pinPass [] (c.pinsIn σ)).filterMap PinReport.negative?).Perm
      ((c.pins.filter (·.2 < 0)).map (·.1)) ∧
    (∀ p, 0 ≤ p →
      (pinPass [] (c.pinsIn σ)).countP (·.pin? = some p) = c.pins.countP (·.2 = p) - 1) ∧
    (∀ r ∈ pinPass [] (c.pinsIn σ), r.negative?.isSome ∨ ∃ p, 0 ≤ p ∧ r.pin? = some p) ∧
    (c.problems = [] ↔ c.Valid) ∧
    c.withModeDefaults = { c with driver :=
      if c.driver = "" then (if c.mode = "production" then "gpiocdev" else "stub") else c.driver } ∧
    finish (.ok c) = if c.withModeDefaults.Valid then .ok c.withModeDefaults
      else .error (.invalid c.withModeDefaults.problems) := by
  have hperm := pinsIn_perm c σ
  have hnames (x) (hx : x ∈ c.pinsIn σ) : '\n' ∉ x.1.toList :=
    newline_not_mem_pin_names c x (hperm.mem_iff.mp hx)
  refine ⟨validate_pinsIn_eq_none_iff c σ, ?_, ?_, ?_, ?_, problems_eq_nil_iff c,
    withModeDefaults_eq c, finish_ok c⟩
  · intro text h
    obtain ⟨body, rfl, hlines⟩ := validate_eq_some c _ text hnames h
    refine ⟨body, rfl, ?_⟩
    rw [hlines, Config.violations, checks_eq_failed, List.map_flatMap]
    simp [apply_ite]
  · rw [pinPass_negatives]
    exact (hperm.filter _).map _
  · intro p hp
    rw [pinPass_shared_count [] _ hp, hperm.countP_eq]
    simp
  · intro r hr
    cases r with
    | negative l => exact .inl rfl
    | both p a b => exact .inr ⟨p, pinPass_shared_nonneg [] _ _ hr p rfl, rfl⟩

/-- Three lines on pin 21: visited in the order of `pins` and with the relay and the red LED
swapped, the pass pairs different lines, but reports the pin twice both times. -/
example :
    let c : Config :=
      { mode := "development", driver := "stub", relayPin := 21, greenPin := 17, yellowPin := 21,
        redPin := 21, buttonPin := 23, pilotPin := 24, pilotSource := "polling",
        pilotInterval := 100000000, tickInterval := 100000000, peerTimeout := 2000000000,
        maxCurrent := 16, listenAddr := "0.0.0.0:50010", peerAddr := "127.0.0.1:50011" }
    c.validate (c.pinsIn (Equiv.refl _)) = some ("invalid configuration: " ++
      "pin 21 assigned to both relay and led_yellow\npin 21 assigned to both led_yellow and led_red") ∧
    c.validate (c.pinsIn (Equiv.swap 0 3)) = some ("invalid configuration: " ++
      "pin 21 assigned to both led_red and led_yellow\npin 21 assigned to both led_yellow and relay") := by
  decide

end Evse.Configuration
