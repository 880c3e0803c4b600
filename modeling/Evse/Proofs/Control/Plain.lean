import Evse.Proofs.Control.ShutdownLatch
import Evse.Proofs.Charging.Runs
/-!
What the controller shows of its state, and the actions that leave it alone (`Plain`).
-/
namespace Evse

/-- The states of a session, from connected to finished. -/
def ChargingState.inSession : ChargingState → Bool
  | .connected | .identification | .ready | .charging | .stop | .finished => true
  | _ => false

/-- Connected is entered from idle only, and the other states of a session from states of a
session. -/
theorem ChargingState.canStep_into {a b : ChargingState} (h : a.canStep b = true) :
    (b = .connected → a = .idle) ∧ (b.inSession = true → b ≠ .connected → a.inSession = true) := by
  revert h
  cases a <;> cases b <;> decide

/-- A lowercase hexadecimal digit. -/
def Hex.IsDigit (c : Char) : Prop := ('0' ≤ c ∧ c ≤ '9') ∨ ('a' ≤ c ∧ c ≤ 'f')

instance : DecidablePred Hex.IsDigit := fun c =>
  inferInstanceAs (Decidable ((('0' ≤ c ∧ c ≤ '9') ∨ ('a' ≤ c ∧ c ≤ 'f'))))

theorem Hex.digit_isDigit : ∀ n < 16, IsDigit (digit n) := by decide

theorem Hex.ofByte_isDigit (b : UInt8) : ∀ c ∈ ofByte b, IsDigit c := by
  have hb := b.toNat_lt
  simp only [ofByte, List.mem_cons, List.not_mem_nil, or_false]
  rintro c (rfl | rfl)
  · exact digit_isDigit _ (by omega)
  · exact digit_isDigit _ (by omega)

/-- The text of bytes has two lowercase digits a byte. -/
theorem Hex.encode_lower (bytes : List UInt8) :
    (encode bytes).length = 2 * bytes.length ∧ ∀ c ∈ (encode bytes).toList, IsDigit c := by
  refine ⟨?_, fun c hc => ?_⟩
  · simp only [encode, String.length_ofList, List.length_flatMap]
    simp [ofByte, Nat.mul_comm]
  · simp only [encode, String.toList_ofList, List.mem_flatMap] at hc
    obtain ⟨b, -, hc⟩ := hc
    exact ofByte_isDigit b c hc

namespace Control

open ChargingState

/-- A session id is sixteen lowercase hexadecimal digits. -/
theorem sessionIdAt_lower (entropy : Nat → UInt8) (k : Nat) :
    (sessionIdAt entropy k).length = 16 ∧ ∀ c ∈ (sessionIdAt entropy k).toList, Hex.IsDigit c := by
  unfold sessionIdAt
  obtain ⟨hl, hd⟩ := Hex.encode_lower _
  exact ⟨by simpa using hl, hd⟩

/-! ## What the trace records -/

/-- The controller's log line of a step of its machine. -/
def stepNote (a b : ChargingState) (reason : String) : Effect :=
  .note .info "Controller" s!"State {a.name} -> {b.name} ({reason})"

/-- Whether an effect is the controller's log line of a step from idle to connected, where it
draws a session id. -/
def Effect.opensSession : Effect → Bool
  | .note .info "Controller" text => decide ("State idle -> connected (".toList <+: text.toList)
  | _ => false

/-- Only the log line of a step from idle to connected opens a session. -/
theorem stepNote_opensSession {a b : ChargingState} {reason : String}
    (h : (stepNote a b reason).opensSession = true) : a = idle ∧ b = connected := by
  cases a <;> simp [stepNote, Effect.opensSession, ChargingState.name, toString_string] at h ⊢
  cases b <;> simp at h ⊢

theorem stepNote_opensSession_iff (a b : ChargingState) (reason : String) :
    (stepNote a b reason).opensSession = true ↔ a = idle ∧ b = connected := by
  refine ⟨stepNote_opensSession, ?_⟩
  rintro ⟨rfl, rfl⟩
  simp [stepNote, Effect.opensSession, ChargingState.name, toString_string]

/-- The LED lines. -/
def ledLines : List String := [Hardware.ledGreen, Hardware.ledYellow, Hardware.ledRed]

/-- A write to an LED line: the line, the level and whether the write succeeded. -/
def Effect.ledWrite? : Effect → Option (String × Bool × Bool)
  | .write channel value ok => if channel ∈ ledLines then some (channel, value, ok) else none
  | _ => none

/-- The LED writes of a trace, in order. -/
def ledWrites (trace : List Effect) : List (String × Bool × Bool) :=
  trace.filterMap Effect.ledWrite?

@[simp] theorem ledWrites_append (t u : List Effect) :
    ledWrites (t ++ u) = ledWrites t ++ ledWrites u :=
  List.filterMap_append

theorem ledWrites_lines {t : List Effect} {x : String × Bool × Bool} (hx : x ∈ ledWrites t) :
    x.1 ∈ ledLines := by
  obtain ⟨e, -, he⟩ := List.mem_filterMap.mp hx
  cases e <;> simp only [Effect.ledWrite?, reduceCtorEq] at he
  split at he
  · cases he
    assumption
  · cases he

/-- The level last written to a line among LED writes, and whether that write succeeded. -/
def lastLevel (line : String) (writes : List (String × Bool × Bool)) : Option (Bool × Bool) :=
  ((writes.filter (·.1 == line)).getLast?).map (·.2)

/-- LED writes show a pattern when each line was last written its level, successfully. -/
def LedPattern.Shown (q : LedPattern) (writes : List (String × Bool × Bool)) : Prop :=
  ∀ x ∈ q.writes, lastLevel x.1 writes = some (x.2, true)

/-- An effect that logs no step from idle to connected and writes no LED. -/
structure Effect.Plain (e : Effect) : Prop where
  opens : e.opensSession = false
  leds : e.ledWrite? = none

theorem Effect.plain_of_ne_info {severity : Log.Severity} {tag text : String}
    (h : severity ≠ .info) : (Effect.note severity tag text).Plain := by
  refine ⟨?_, rfl⟩
  cases severity <;> simp_all [Effect.opensSession]

theorem Effect.plain_write {channel : String} (h : channel ∉ ledLines) (value ok : Bool) :
    (Effect.write channel value ok).Plain :=
  ⟨rfl, by simp [Effect.ledWrite?, h]⟩

/-- A plain segment neither opens a session nor writes an LED. -/
theorem plain_segment {seg : List Effect} (h : ∀ e ∈ seg, e.Plain) :
    seg.countP Effect.opensSession = 0 ∧ ledWrites seg = [] := by
  refine ⟨List.countP_eq_zero.mpr fun e he => by simp [(h e he).opens], ?_⟩
  exact List.filterMap_eq_nil_iff.mpr fun e he => (h e he).leds

/-! ## Plain actions -/

/-- What a controller shows and what that rests on: its machine, its session switch, its
session id and draw count, its LED cache and its own listener. -/
structure Face where
  machine : Machine
  sessionEnabled : Bool
  sessionId : String
  sessionsDrawn : Nat
  leds : Option LedPattern
  ownListener : Nat

def Controller.face (c : Controller) : Face :=
  ⟨c.machine, c.sessionEnabled, c.sessionId, c.sessionsDrawn, c.leds, c.ownListener⟩

/-- The world `w'` follows `w` with the same face, its trace grown by plain effects. -/
def Unseen (w w' : World) : Prop :=
  w'.ctl.face = w.ctl.face ∧ ∃ seg, w'.trace = w.trace ++ seg ∧ ∀ e ∈ seg, e.Plain

namespace Unseen

theorem refl (w : World) : Unseen w w := ⟨rfl, [], by simp, by simp⟩

theorem trans {w₁ w₂ w₃ : World} (h₁ : Unseen w₁ w₂) (h₂ : Unseen w₂ w₃) : Unseen w₁ w₃ := by
  obtain ⟨hf₁, s₁, ht₁, hp₁⟩ := h₁
  obtain ⟨hf₂, s₂, ht₂, hp₂⟩ := h₂
  refine ⟨hf₂.trans hf₁, s₁ ++ s₂, by rw [ht₂, ht₁, List.append_assoc], fun e he => ?_⟩
  rcases List.mem_append.mp he with he | he
  · exact hp₁ e he
  · exact hp₂ e he

/-- What the LEDs follow stays as it was. -/
theorem leds {w w' : World} (h : Unseen w w') :
    w'.ctl.leds = w.ctl.leds ∧ w'.ctl.machine = w.ctl.machine ∧
      w'.ctl.sessionEnabled = w.ctl.sessionEnabled :=
  ⟨congrArg Face.leds h.1, congrArg Face.machine h.1, congrArg Face.sessionEnabled h.1⟩

end Unseen

/-- An action that, on every plant, keeps the face and writes only plain effects. -/
abbrev Plain {α : Type} (x : Act α) : Prop := Along (fun _ => True) (fun _ => Unseen) x

namespace Plain

variable {α : Type} {x : Act α}

theorem unseen (h : Plain x) (p : Plant) (w : World) : Unseen w (exec x p w).2 :=
  h p trivial w w (Unseen.refl w)

theorem of_unseen (h : ∀ p w, Unseen w (exec x p w).2) : Plain x :=
  fun p _ _ w hw => hw.trans (h p w)

theorem emit {e : Effect} (h : e.Plain) : Plain (Control.emit e) :=
  of_unseen fun _ w => ⟨rfl, [e], rfl, by simpa using h⟩

theorem note {severity : Log.Severity} {text : String}
    (h : (Effect.note severity "Controller" text).opensSession = false) :
    Plain (Control.note severity text) :=
  emit ⟨h, rfl⟩

theorem note_of_ne_info {severity : Log.Severity} {text : String} (h : severity ≠ .info) :
    Plain (Control.note severity text) :=
  emit (Effect.plain_of_ne_info h)

theorem modifyCtl {f : Controller → Controller} (h : ∀ c, (f c).face = c.face) :
    Plain (Control.modifyCtl f) :=
  of_unseen fun _ w => ⟨h w.ctl, [], by simp, by simp⟩

theorem observe (f : Metrics.Book → Metrics.Book) : Plain (Control.observe f) :=
  modifyCtl fun _ => rfl

end Plain

theorem writeLine_plain {channel : String} {attempt : Nat} (h : channel ∉ ledLines) (value : Bool) :
    Plain (writeLine channel value attempt) :=
  Along.read.bind fun _ => (Plain.emit (Effect.plain_write h _ _)).bind fun _ => Along.pure _

theorem relay_not_led : Hardware.relay ∉ ledLines := by
  simp [ledLines, Hardware.relay, Hardware.ledGreen, Hardware.ledYellow, Hardware.ledRed]

theorem reportFault_plain (f : Fault) (present : Bool) : Plain (reportFault f present) := by
  unfold reportFault
  refine Along.ctl.bind fun c => ?_
  refine Along.ite (fun _ => Along.pure _) fun _ => ?_
  refine Along.bind (Plain.modifyCtl fun _ => rfl) fun _ => ?_
  refine Along.ite (fun _ => Along.pure _) fun _ => ?_
  refine Along.bind (Plain.emit ⟨rfl, rfl⟩) fun _ => ?_
  refine Along.read.bind fun q => ?_
  split
  · exact Plain.note_of_ne_info (by decide)
  · exact Along.pure _

theorem setRelay_plain (on : Bool) : Plain (setRelay on) := by
  unfold setRelay
  refine Along.bind (writeLine_plain relay_not_led _) fun r => ?_
  refine Along.bind (Plain.observe _) fun _ => ?_
  split
  · refine Along.bind (Plain.note_of_ne_info (by decide)) fun _ => ?_
    exact Along.bind (reportFault_plain _ _) fun _ => Along.pure _
  · refine Along.ctl.bind fun c => ?_
    have last : Plain (do
        modifyCtl fun c => { c with relayEnabled := on }
        pure (Except.ok ()) : Act Outcome) :=
      Along.bind (Plain.modifyCtl fun _ => rfl) fun _ => Along.pure _
    dsimp only
    split
    · refine Along.bind (Plain.note ?_) fun _ => last
      cases on <;> simp [Effect.opensSession, onOff, toString_string]
    · exact last

theorem publish_plain : Plain publish := by
  unfold publish
  refine Along.ctl.bind fun c => ?_
  split
  · exact Along.pure _
  · refine Along.read.bind fun p => ?_
    dsimp only
    have failed (s : Status) (e : String) : Plain (do
        emit (.publish s false)
        note .warn s!"Failed to publish status: {e}") :=
      Along.bind (Plain.emit ⟨rfl, rfl⟩) fun _ => Plain.note_of_ne_info (by decide)
    have done (s : Status) : Plain (do
        emit (.publish s true)
        modifyCtl fun c => { c with published := some s }) :=
      Along.bind (Plain.emit ⟨rfl, rfl⟩) fun _ => Plain.modifyCtl fun _ => rfl
    repeat' split
    · exact Along.pure _
    · exact failed _ _
    · exact done _
    · exact failed _ _
    · exact done _

theorem sendStatus_plain : Plain sendStatus := by
  unfold sendStatus
  refine Along.ctl.bind fun c => ?_
  dsimp only
  refine Along.ite (fun _ => Along.bind (Plain.note_of_ne_info (by decide)) fun _ =>
    Along.bind (Plain.modifyCtl fun _ => rfl) fun _ => ?_) fun _ => ?_
  all_goals
    refine Along.read.bind fun p => ?_
    refine Along.bind (Plain.emit ⟨rfl, rfl⟩) fun _ => ?_
    refine Along.bind (Plain.observe _) fun _ => ?_
    split <;> exact Along.pure _

theorem noteFailure_plain {severity : Log.Severity} (h : severity ≠ .info) (context : String)
    (r : Outcome) : Plain (noteFailure severity context r) := by
  unfold noteFailure
  split
  · exact Plain.note_of_ne_info h
  · exact Along.pure _

theorem noteMalformed_plain (text : String) : Plain (noteMalformed text) := by
  unfold noteMalformed
  refine Along.ctl.bind fun c => ?_
  split
  · exact Along.bind (Plain.modifyCtl fun _ => rfl) fun _ => Plain.note_of_ne_info (by decide)
  · exact Along.pure _

theorem rejectPeer_plain (intent : ChargingState) (why : String) : Plain (rejectPeer intent why) :=
  Along.bind (Plain.observe _) fun _ => Plain.note_of_ne_info (by decide)

theorem opFailure_plain (op : String) (requested : ChargingState) (e : Failure) :
    Plain (opFailure op requested e) :=
  Along.ctl.bind fun _ => Along.pure _

theorem peerHeard_plain : Plain peerHeard := by
  unfold peerHeard
  refine Along.read.bind fun q => ?_
  refine Along.bind (Plain.modifyCtl fun _ => rfl) fun _ => ?_
  exact Along.bind (Plain.observe _) fun _ => reportFault_plain _ _

theorem peerState_plain (code : UInt8) (last : ChargingState) : Plain (peerState code last) := by
  unfold peerState
  split
  · exact Along.pure _
  · refine Along.bind (Plain.observe _) fun _ => ?_
    exact Along.bind (noteMalformed_plain _) fun _ => Along.pure _

theorem forceRelayOff_plain : Plain forceRelayOff := by
  unfold forceRelayOff
  dsimp only
  have last : Plain (modifyCtl fun c => { c with relayEnabled := false }) :=
    Plain.modifyCtl fun _ => rfl
  refine Along.bind (Along.forIn _ _ fun i _ s => ?_) fun s => ?_
  · refine Along.bind (writeLine_plain relay_not_led _) fun r => ?_
    refine Along.bind (Plain.observe _) fun _ => ?_
    split
    · exact Along.pure _
    · exact Along.bind (Plain.note_of_ne_info (by decide)) fun _ => Along.pure _
  · exact Along.ite (fun _ => Along.bind (reportFault_plain _ _) fun _ => last) fun _ => last

/-! ## The refresh and the controller's reaction to a step -/

/-- The effects of writing LED lines in order until one fails: each write, and a warning after
the one that fails. -/
def ledEffects (p : Plant) : List (String × Bool) → List Effect
  | [] => []
  | (line, v) :: rest =>
    match p.writeFault line v 0 with
    | none => .write line v true :: ledEffects p rest
    | some e => [.write line v false, .note .warn "Controller" s!"Failed to set {line}: {e}"]

/-- A plant on which every write of an LED line succeeds. -/
def Plant.LedsWork (p : Plant) : Prop := ∀ line ∈ ledLines, ∀ v, p.writeFault line v 0 = none

/-- Whether every write of LED lines succeeds on a plant. -/
def ledsTake (p : Plant) (l : List (String × Bool)) : Bool :=
  l.all fun x => (p.writeFault x.1 x.2 0).isNone

/-- A refresh does nothing when the LEDs cache the wanted pattern. Otherwise it writes the lines
of the pattern in order until one fails, warning of the failure, and caches the pattern when
every write succeeded and nothing when one failed. -/
theorem refreshLeds_spec (p : Plant) (w : World) :
    exec refreshLeds p w =
      let want := LedPattern.forState w.ctl.machine.state w.ctl.sessionEnabled
      if w.ctl.leds = some want then ((), w)
      else ((), ⟨{ w.ctl with leds := if ledsTake p want.writes then some want else none },
        w.trace ++ ledEffects p want.writes⟩) := by
  unfold refreshLeds
  rw [exec_ctl_bind]
  dsimp only
  generalize LedPattern.forState w.ctl.machine.state w.ctl.sessionEnabled = want
  by_cases hit : w.ctl.leds = some want
  · simp [hit]
  · rw [if_neg hit]
    simp only [hit, beq_iff_eq, if_false]
    rcases hg : p.writeFault Hardware.ledGreen want.green 0 with _ | eg <;>
    rcases hy : p.writeFault Hardware.ledYellow want.yellow 0 with _ | ey <;>
    rcases hr : p.writeFault Hardware.ledRed want.red 0 with _ | er <;>
    simp [LedPattern.writes, writeLine, ledEffects, ledsTake, hg, hy, hr]

theorem ledEffects_opens (p : Plant) (l : List (String × Bool)) :
    (ledEffects p l).countP Effect.opensSession = 0 := by
  induction l with
  | nil => rfl
  | cons x rest ih =>
    obtain ⟨line, v⟩ := x
    simp only [ledEffects]
    split
    · simp [ih, Effect.opensSession]
    · simp [Effect.opensSession]

@[simp] theorem Effect.ledWrite?_note (severity : Log.Severity) (tag text : String) :
    (Effect.note severity tag text).ledWrite? = none := rfl

@[simp] theorem ledWrites_nil : ledWrites [] = [] := rfl

@[simp] theorem ledWrites_cons (e : Effect) (t : List Effect) :
    ledWrites (e :: t) = e.ledWrite?.toList ++ ledWrites t := by
  cases h : e.ledWrite? <;> simp [ledWrites, h]

section LedWrites

variable (p : Plant) {l : List (String × Bool)} (hl : ∀ x ∈ l, x.1 ∈ ledLines)
include hl

/-- Writes that all succeed are recorded in order, each as succeeded. -/
theorem ledWrites_ledEffects_take (h : ledsTake p l = true) :
    ledWrites (ledEffects p l) = l.map fun x => (x.1, x.2, true) := by
  induction l with
  | nil => rfl
  | cons x rest ih =>
    obtain ⟨line, v⟩ := x
    simp only [ledsTake, List.all_cons, Bool.and_eq_true, Option.isNone_iff_eq_none] at h
    have hline : line ∈ ledLines := hl _ List.mem_cons_self
    have hrest := ih (fun y hy => hl y (List.mem_cons_of_mem _ hy)) h.2
    simp only [ledEffects, h.1, List.map_cons, ledWrites_cons, hrest]
    simp [Effect.ledWrite?, hline]

/-- Writes of which one fails end on that failure. -/
theorem ledWrites_ledEffects_fail (h : ledsTake p l = false) :
    ∃ x, (ledWrites (ledEffects p l)).getLast? = some x ∧ x.2.2 = false := by
  induction l with
  | nil => simp [ledsTake] at h
  | cons x rest ih =>
    obtain ⟨line, v⟩ := x
    have hline : line ∈ ledLines := hl _ List.mem_cons_self
    rcases hw : p.writeFault line v 0 with _ | e
    · have hrest : ledsTake p rest = false := by simpa [ledsTake, hw] using h
      obtain ⟨y, hy, hf⟩ := ih (fun y hy => hl y (List.mem_cons_of_mem _ hy)) hrest
      refine ⟨y, ?_, hf⟩
      simp only [ledEffects, hw, ledWrites_cons, List.getLast?_append, hy]
      rfl
    · exact ⟨(line, v, false), by simp [ledEffects, hw, Effect.ledWrite?, hline], rfl⟩

end LedWrites

/-- A write recorded as failed failed on the plant. -/
theorem ledWrites_ledEffects_failed (p : Plant) (l : List (String × Bool)) :
    ∀ x ∈ ledWrites (ledEffects p l), x.2.2 = false → p.writeFault x.1 x.2.1 0 ≠ none := by
  induction l with
  | nil => simp [ledEffects]
  | cons y rest ih =>
    obtain ⟨line, v⟩ := y
    intro x hx hf
    rcases hw : p.writeFault line v 0 with _ | e
    · simp only [ledEffects, hw, ledWrites_cons, List.mem_append] at hx
      rcases hx with hx | hx
      · simp only [Effect.ledWrite?] at hx
        split at hx <;> simp_all
      · exact ih x hx hf
    · simp only [ledEffects, hw, ledWrites_cons, ledWrites_nil, Option.toList_none,
        List.append_nil, Effect.ledWrite?] at hx
      split at hx <;> simp_all

theorem LedPattern.writes_lines (q : LedPattern) : ∀ x ∈ q.writes, x.1 ∈ ledLines := by
  simp [LedPattern.writes, ledLines]

/-- After the three lines are written successfully, they show the pattern, whatever was written
before. -/
theorem LedPattern.shown_append (q : LedPattern) (before : List (String × Bool × Bool)) :
    q.Shown (before ++ q.writes.map fun x => (x.1, x.2, true)) := by
  intro x hx
  simp only [LedPattern.writes, List.mem_cons, List.not_mem_nil, or_false] at hx
  rcases hx with rfl | rfl | rfl <;>
  simp [lastLevel, LedPattern.writes, List.filter_append, Hardware.ledGreen, Hardware.ledYellow,
    Hardware.ledRed]

/-- The controller after its own reaction to a step `a -> b`, before it refreshes the LEDs:
the step counted, a session id drawn from idle to connected, the id dropped into idle or off. -/
def Controller.reacted (c : Controller) (p : Plant) (a b : ChargingState) : Controller :=
  let c := { c with metrics := c.metrics.map (·.transition a.name b.name b.code.toNat) }
  if a = idle ∧ b = connected then
    { c with sessionId := sessionIdAt p.entropy c.sessionsDrawn,
             sessionsDrawn := c.sessionsDrawn + 1 }
  else if b = idle ∨ b = off then { c with sessionId := "" }
  else c

/-- The controller's own reaction to a step: the reacted controller and the step's log line,
then a refresh. -/
theorem onTransition_eq (a b : ChargingState) (reason : String) (p : Plant) (w : World) :
    exec (onTransition a b reason) p w =
      exec refreshLeds p ⟨w.ctl.reacted p a b, w.trace ++ [stepNote a b reason]⟩ := by
  unfold onTransition
  simp only [exec_bind, exec_note, exec_observe]
  cases b <;> cases a <;> simp [Controller.reacted, stepNote]

@[simp] theorem Controller.reacted_machine (c : Controller) (p : Plant) (a b : ChargingState) :
    (c.reacted p a b).machine = c.machine := by
  unfold Controller.reacted
  split_ifs <;> rfl

@[simp] theorem Controller.reacted_leds (c : Controller) (p : Plant) (a b : ChargingState) :
    (c.reacted p a b).leds = c.leds := by
  unfold Controller.reacted
  split_ifs <;> rfl

@[simp] theorem Controller.reacted_ownListener (c : Controller) (p : Plant) (a b : ChargingState) :
    (c.reacted p a b).ownListener = c.ownListener := by
  unfold Controller.reacted
  split_ifs <;> rfl

end Control

end Evse
