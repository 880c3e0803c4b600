import Evse.Simulator.Peer
import Evse.Proofs.Wire.RoundTrip
/-!
What the bench peer reports along any sequence of typed lines and datagrams.
-/
namespace Evse

/-- A state envelope reads back as the records it was written from. -/
theorem Wire.decodeStateEnvelope_encode {s : Wire.StateReport} (h : Wire.Hardware)
    (hs : s.msgType = Wire.seCtrlState) :
    Wire.decodeStateEnvelope (Wire.Message.stateEnvelope s h).encode = .ok (s, h) := by
  simp [Wire.decodeStateEnvelope, Wire.Message.decode_encode (m := .stateEnvelope s h) hs]

namespace Simulator

/-- A call on the peer: a typed line or a datagram from the service. -/
inductive Call where
  | line (text : String)
  | datagram (bytes : Wire.Bytes)

/-- The records of the command envelope a call brings, if it brings one. -/
def Call.accepted? : Call → Option (Wire.Command × Wire.Hardware)
  | .line _ => none
  | .datagram b => (Wire.decodeCommandEnvelope b).toOption

/-- The command envelopes among calls, in order. -/
def accepted (cs : List Call) : List (Wire.Command × Wire.Hardware) := cs.filterMap Call.accepted?

/-- The last command envelope among calls enables the session and energizes the main contactor. -/
def Gated (cs : List Call) : Prop :=
  ∃ c h, (accepted cs).getLast? = some (c, h) ∧ c.enable = true ∧ h.mainContactor = true

/-- What a typed line asks of the reported state and contactor, by its first word in any case. -/
inductive Directive where
  /-- `on` or `off`. -/
  | contactor (on : Bool)
  /-- `idle`, `ready`, `charge` or `stop`. -/
  | state (s : ChargingState)
  | other
deriving DecidableEq

def directive (line : String) : Directive :=
  match Peer.words line with
  | "on" :: _ => .contactor true
  | "off" :: _ => .contactor false
  | "idle" :: _ => .state .idle
  | "ready" :: _ => .state .ready
  | "charge" :: _ => .state .charging
  | "stop" :: _ => .state .stop
  | _ => .other

/-- The contactor a call switches, if it switches one. -/
def Call.switch? : Call → Option Bool
  | .line text => match directive text with
    | .contactor on => some on
    | _ => none
  | .datagram _ => none

/-- The [RX] line for an enable flag and a demand. -/
def rxLine (enable : Bool) (demand : UInt16) : String :=
  s!"[RX] enable={enable} currentDemand={demand.toNat} A/10\n"

/-- What the datagrams of calls print, one text per datagram, by the rule: an [RX] line for a
command envelope whose enable flag and demand differ from `last`, those of the [RX] line printed
last, and nothing otherwise. -/
def rxTexts (last : Bool × UInt16) : List Call → List String
  | [] => []
  | .line _ :: cs => rxTexts last cs
  | .datagram b :: cs =>
    match Wire.decodeCommandEnvelope b with
    | .ok (c, _) =>
      if (c.enable, c.currentDemand) ≠ last then
        rxLine c.enable c.currentDemand :: rxTexts (c.enable, c.currentDemand) cs
      else "" :: rxTexts last cs
    | .error _ => "" :: rxTexts last cs

namespace Peer

/-- One call: the peer after it and what it prints. -/
def call (p : Peer) : Call → Peer × String
  | .line text => ((p.execute text).1, (p.execute text).2.1)
  | .datagram b => ((p.handle b).1, (p.handle b).2.1)

/-- The peer after calls in order. -/
def calls (p : Peer) (cs : List Call) : Peer := cs.foldl (fun p c => (p.call c).1) p

/-- What the datagrams of calls print, one text per datagram, in order. -/
def receipts : Peer → List Call → List String
  | _, [] => []
  | p, .line text :: cs => (p.call (.line text)).1.receipts cs
  | p, .datagram b :: cs => (p.call (.datagram b)).2 :: (p.call (.datagram b)).1.receipts cs

/-- The peer once it took a command envelope. -/
def hear (p : Peer) (c : Wire.Command) (h : Wire.Hardware) : Peer :=
  { p with lastEnable := c.enable, lastDemand := c.currentDemand, lastRelay := h.mainContactor }

theorem setState_fst (p : Peer) (cmd : String) (s : ChargingState) :
    (p.setState cmd s).1 = if p.lastEnable && p.lastRelay then { p with state := s } else p := by
  unfold setState
  cases p.lastEnable <;> cases p.lastRelay <;> rfl

/-- A typed line switches the contactor, moves the state if the service allows it, or changes
nothing. -/
theorem call_line (p : Peer) (text : String) :
    (p.call (.line text)).1 = match directive text with
      | .contactor on => { p with contactor := on }
      | .state s => if p.lastEnable && p.lastRelay then { p with state := s } else p
      | .other => p := by
  simp only [call, execute, directive]
  generalize words text = ws
  rcases ws with _ | ⟨cmd, args⟩
  · rfl
  · dsimp only
    split <;> simp_all [setState_fst]
    split
    · split
      · split <;> rfl
      · rfl
    · rfl

/-- A datagram that is not a command envelope changes nothing and prints nothing. -/
theorem call_rejected (p : Peer) {b : Wire.Bytes} {e : Wire.EnvelopeError}
    (h : Wire.decodeCommandEnvelope b = .error e) : p.call (.datagram b) = (p, "") := by
  simp [call, handle, h]

/-- A command envelope is remembered, and prints an [RX] line when its enable flag and demand
differ from those remembered. -/
theorem call_accepted (p : Peer) {b : Wire.Bytes} {c : Wire.Command} {hw : Wire.Hardware}
    (h : Wire.decodeCommandEnvelope b = .ok (c, hw)) :
    p.call (.datagram b) = (p.hear c hw,
      if (c.enable, c.currentDemand) ≠ (p.lastEnable, p.lastDemand) then rxLine c.enable c.currentDemand
      else "") := by
  simp only [call, handle, h]
  by_cases hq : (c.enable, c.currentDemand) = (p.lastEnable, p.lastDemand)
  · obtain ⟨he, hd⟩ := Prod.mk.inj hq
    simp [hear, he, hd]
  · have hne : (c.enable != p.lastEnable || c.currentDemand != p.lastDemand) = true := by
      rw [Bool.or_eq_true, bne_iff_ne, bne_iff_ne]
      by_cases he : c.enable = p.lastEnable
      · exact .inr fun hd => hq (by rw [he, hd])
      · exact .inl he
    simp only [hne, if_true, hq, ne_eq, not_false_eq_true]
    rfl

/-- A field that each call sets to a value the call alone decides, or keeps, holds after calls the
value the last deciding call set, or its value before them. -/
theorem calls_field {β : Type} (f : Peer → β) (g : Call → Option β)
    (hstep : ∀ p c, f (p.call c).1 = (g c).getD (f p)) (p : Peer) (cs : List Call) :
    f (p.calls cs) = ((cs.filterMap g).getLast?).getD (f p) := by
  induction cs generalizing p with
  | nil => rfl
  | cons c cs ih =>
    show f ((p.call c).1.calls cs) = _
    rw [ih, hstep]
    cases hg : g c with
    | none => simp [hg]
    | some v => simp [hg, List.getLast?_cons]

/-- A typed line keeps what the peer remembers of the service. -/
theorem call_line_remembers (p : Peer) (text : String) :
    (p.call (.line text)).1.lastEnable = p.lastEnable ∧
    (p.call (.line text)).1.lastDemand = p.lastDemand ∧
    (p.call (.line text)).1.lastRelay = p.lastRelay := by
  rw [call_line]
  cases directive text with
  | contactor on => exact ⟨rfl, rfl, rfl⟩
  | state s => by_cases hg : (p.lastEnable && p.lastRelay) = true <;> simp [hg]
  | other => exact ⟨rfl, rfl, rfl⟩

/-- The fields a call decides: what the last command envelope said, and the contactor switched. -/
theorem call_decides (p : Peer) (c : Call) :
    (p.call c).1.lastEnable = (c.accepted?.map (·.1.enable)).getD p.lastEnable ∧
    (p.call c).1.lastRelay = (c.accepted?.map (·.2.mainContactor)).getD p.lastRelay ∧
    (p.call c).1.contactor = c.switch?.getD p.contactor := by
  cases c with
  | line text =>
    obtain ⟨he, -, hr⟩ := call_line_remembers p text
    refine ⟨he, hr, ?_⟩
    rw [call_line]
    cases hd : directive text with
    | contactor on => simp [Call.switch?, hd]
    | state s =>
      simp only [Call.switch?, hd, Option.getD_none]
      split <;> rfl
    | other => simp [Call.switch?, hd]
  | datagram b =>
    cases h : Wire.decodeCommandEnvelope b with
    | error e => simp [call_rejected p h, Call.accepted?, Call.switch?, h, Except.toOption]
    | ok r =>
      obtain ⟨c, hw⟩ := r
      simp [call_accepted p h, Call.accepted?, Call.switch?, h, hear, Except.toOption]

/-- A call moves the reported state only by a state line while the peer remembers the session
enabled and the main contactor energized, and such a line always sets the state it names. -/
theorem call_state (p : Peer) (c : Call) :
    ((p.call c).1.state ≠ p.state →
      ∃ text s, c = .line text ∧ directive text = .state s ∧ p.lastEnable = true ∧
        p.lastRelay = true) ∧
    ∀ text s, directive text = .state s → p.lastEnable = true → p.lastRelay = true →
      (p.call (.line text)).1.state = s := by
  refine ⟨fun hne => ?_, fun text s hd he hr => by simp [call_line, hd, he, hr]⟩
  cases c with
  | line text =>
    rw [call_line] at hne
    split at hne
    · exact absurd rfl hne
    · next s hd =>
      by_cases hg : (p.lastEnable && p.lastRelay) = true
      · simp only [Bool.and_eq_true] at hg
        exact ⟨text, s, rfl, hd, hg⟩
      · simp [hg] at hne
    · exact absurd rfl hne
  | datagram b =>
    exfalso
    cases h : Wire.decodeCommandEnvelope b with
    | error e => simp [call_rejected p h] at hne
    | ok r => simp [call_accepted p h, hear] at hne

/-- The datagrams of calls print as the rule says, from the flag and demand the peer remembers. -/
theorem receipts_eq (p : Peer) (cs : List Call) :
    p.receipts cs = rxTexts (p.lastEnable, p.lastDemand) cs := by
  induction cs generalizing p with
  | nil => rfl
  | cons c cs ih =>
    cases c with
    | line text =>
      obtain ⟨he, hd, -⟩ := call_line_remembers p text
      simp only [receipts, rxTexts, ih, he, hd]
    | datagram b =>
      cases h : Wire.decodeCommandEnvelope b with
      | error e => simp [receipts, rxTexts, h, call_rejected p h, ih]
      | ok r =>
        obtain ⟨c, hw⟩ := r
        simp only [receipts, rxTexts, h, call_accepted p h, ih]
        by_cases hq : (c.enable, c.currentDemand) = (p.lastEnable, p.lastDemand)
        · simp only [hq, ne_eq, not_true_eq_false, if_false]
          obtain ⟨he, hd⟩ := Prod.mk.inj hq
          simp [hear, he, hd]
        · simp [hq, hear]

/-- What the peer remembers of the service after calls: the enable flag and main contactor of the
last command envelope among them, or what it remembered before any. -/
theorem calls_remembers (p : Peer) (cs : List Call) :
    (p.calls cs).lastEnable = ((accepted cs).getLast?.map (·.1.enable)).getD p.lastEnable ∧
    (p.calls cs).lastRelay = ((accepted cs).getLast?.map (·.2.mainContactor)).getD p.lastRelay := by
  simp only [accepted, ← List.getLast?_map, List.map_filterMap]
  exact ⟨calls_field _ _ (fun p c => (call_decides p c).1) p cs,
    calls_field _ _ (fun p c => (call_decides p c).2.1) p cs⟩

/-- After calls from a new peer, the last command envelope enabled the session and energized the
main contactor exactly when the peer remembers both. -/
theorem gated_iff (cs : List Call) :
    Gated cs ↔ (({} : Peer).calls cs).lastEnable = true ∧ (({} : Peer).calls cs).lastRelay = true := by
  obtain ⟨he, hr⟩ := calls_remembers {} cs
  rw [he, hr]
  unfold Gated
  cases hl : (accepted cs).getLast? with
  | none => simp
  | some r =>
    obtain ⟨c, h⟩ := r
    simp only [Option.some.injEq, Option.map_some, Option.getD_some]
    constructor
    · rintro ⟨c', h', hr', hc, hm⟩
      cases hr'
      exact ⟨hc, hm⟩
    · intro hb
      exact ⟨c, h, rfl, hb⟩

/-- A peer that reports idle and does not remember both the session enabled and the main
contactor energized keeps reporting idle until a command envelope says both. -/
theorem calls_idle {p : Peer} (hp : p.state = .idle)
    (hg : ¬(p.lastEnable = true ∧ p.lastRelay = true)) (cs : List Call)
    (h : ∀ c hw, (c, hw) ∈ accepted cs → ¬(c.enable = true ∧ hw.mainContactor = true)) :
    (p.calls cs).state = .idle := by
  induction cs generalizing p with
  | nil => exact hp
  | cons x cs ih =>
    have hx : ∀ c hw, x.accepted? = some (c, hw) → ¬(c.enable = true ∧ hw.mainContactor = true) :=
      fun c hw ha => h c hw (by simp [accepted, ha])
    refine ih ?_ ?_ fun c hw hm => h c hw ?_
    · -- the gate was shut, so the call kept the state
      by_cases hmv : (p.call x).1.state = p.state
      · rw [hmv, hp]
      · obtain ⟨-, -, -, -, he, hr⟩ := (call_state p x).1 hmv
        exact absurd ⟨he, hr⟩ hg
    · obtain ⟨he, hr, -⟩ := call_decides p x
      rw [he, hr]
      cases ha : x.accepted? with
      | none => simpa using hg
      | some r =>
        obtain ⟨c, hw⟩ := r
        simpa using hx c hw ha
    · simp only [accepted, List.filterMap_cons] at hm ⊢
      split
      · exact hm
      · exact List.mem_cons_of_mem _ hm

/-- The state envelope the peer sends reads back with its state and, as both main contactor and
source enable, its contactor. -/
theorem stateMessage_reads (p : Peer) :
    ∃ s h, Wire.decodeStateEnvelope p.stateMessage = .ok (s, h) ∧ s.state = p.state.code ∧
      h.mainContactor = p.contactor ∧ h.sourceEnable = p.contactor := by
  obtain ⟨s₀, h₀, hnew, htype⟩ : ∃ s₀ h₀, Wire.Message.newStateEnvelope = .stateEnvelope s₀ h₀ ∧
      s₀.msgType = Wire.seCtrlState := ⟨_, _, rfl, rfl⟩
  refine ⟨{ s₀ with state := p.state.code, phases := 3, current := current, voltage := voltage },
    { h₀ with mainContactor := p.contactor, sourceEnable := p.contactor,
              sourceVoltage := voltage, sourceCurrent := current }, ?_, rfl, rfl, rfl⟩
  simp only [stateMessage, hnew]
  exact Wire.decodeStateEnvelope_encode _ htype

end Peer

/-- For every sequence of calls, the bench peer moves its reported state only while the last command
envelope enabled the session and energized the contactor. -/
theorem peer_state_gated_by_last_command (cs : List Call) :
    let p := ({} : Peer).calls cs
    (∃ s h, Wire.decodeStateEnvelope p.stateMessage = .ok (s, h) ∧ s.state = p.state.code ∧
      h.mainContactor = ((cs.filterMap Call.switch?).getLast?).getD false ∧
      h.sourceEnable = ((cs.filterMap Call.switch?).getLast?).getD false) ∧
    ((∀ c h, (c, h) ∈ accepted cs → ¬(c.enable = true ∧ h.mainContactor = true)) →
      p.state = .idle) ∧
    (∀ next, (p.call next).1.state ≠ p.state →
      ∃ text s, next = .line text ∧ directive text = .state s ∧ Gated cs) ∧
    (∀ text s, directive text = .state s → Gated cs → (p.call (.line text)).1.state = s) ∧
    (∀ b e, Wire.decodeCommandEnvelope b = .error e → p.call (.datagram b) = (p, "")) ∧
    ({} : Peer).receipts cs = rxTexts (false, 0) cs := by
  intro p
  have hcont : p.contactor = ((cs.filterMap Call.switch?).getLast?).getD false :=
    Peer.calls_field _ _ (fun q c => (Peer.call_decides q c).2.2) {} cs
  obtain ⟨s, h, hread, hs, hm, he⟩ := p.stateMessage_reads
  refine ⟨⟨s, h, hread, hs, hm.trans hcont, he.trans hcont⟩, Peer.calls_idle rfl (by simp) cs,
    fun next hmv => ?_, fun text st hd hg => ?_, fun b e hb => Peer.call_rejected p hb,
    Peer.receipts_eq {} cs⟩
  · obtain ⟨text, st, rfl, hd, hen, hr⟩ := (Peer.call_state p next).1 hmv
    exact ⟨text, st, rfl, hd, (Peer.gated_iff cs).mpr ⟨hen, hr⟩⟩
  · obtain ⟨hen, hr⟩ := (Peer.gated_iff cs).mp hg
    exact (Peer.call_state p (.line text)).2 text st hd hen hr

end Simulator

end Evse
