import Mathlib.Logic.Relation
import Swbt.Runtime.Run
/-!
# The wire

What a run looks like from the interrupt channel: payloads are offered and
accepted, sessions begin, and everything else leaves the sender's commitment
alone. Every trace is a sequence of such wire steps, so a fact about timers or
the protocol session is proved for wire steps only.
-/

set_option autoImplicit false

open Effects

namespace Swbt

variable {m : ControllerKind} {r : ReportingKind}

/-! ## Reading a log -/

/-- The payload of a send, accepted or not. -/
def offeredPayload : LogEvent m r → Option (List UInt8)
  | .call _ (.sendInterrupt payload) _ => some payload
  | _ => none

def acceptedPayload : LogEvent m r → Option (List UInt8)
  | .call _ (.sendInterrupt payload) (.ok ()) => some payload
  | _ => none

def statusOf : LogEvent m r → Option (StatusCall m)
  | .emit _ (.status call) => some call
  | _ => none

/-- The command an event takes from the queue. -/
def takenCommand : LogEvent m r → Option (RuntimeCommand m r)
  | .call _ .nextCommand command => command
  | _ => none

/-- The session a `begin_session` status call announces. -/
def begunSession : LogEvent m r → Option ConnectionSessionId
  | .emit _ (.status (.beginSession sessionId _ _)) => some sessionId
  | _ => none

/-- Asking for send capacity is the first half of an automatic attempt. -/
def asksEvent : LogEvent m r → Bool
  | .call _ .interruptSendCapacityAvailable _ => true
  | _ => false

/-- The subcommand in an event that the worker comes to, `none` inside if there is none in it. -/
def arrivedRequest : LogEvent m r → Option (Option SubcommandRequest)
  | .emit _ (.processed (some ⟨_, .hidOutput _ raw⟩)) =>
    match parseOutputReport raw with
    | .ok (.subcommand _ _ request) => some (some request)
    | _ => some none
  | .emit _ (.processed _) => some none
  | _ => none

theorem acceptedPayload_of_offered {e : LogEvent m r} (hoffered : offeredPayload e = none) :
    acceptedPayload e = none := by
  unfold acceptedPayload
  split
  · cases hoffered
  · rfl

theorem begunSession_of_status {e : LogEvent m r} (hstatus : statusOf e = none) : begunSession e = none := by
  unfold begunSession
  split
  · cases hstatus
  · rfl

/-- An event that offers no payload, publishes nothing and takes no command. -/
structure Silent (e : LogEvent m r) : Prop where
  offered : offeredPayload e = none
  status : statusOf e = none
  taken : takenCommand e = none

theorem Silent.accepted {e : LogEvent m r} (hsilent : Silent e) : acceptedPayload e = none :=
  acceptedPayload_of_offered hsilent.offered

theorem Silent.begun {e : LogEvent m r} (hsilent : Silent e) : begunSession e = none :=
  begunSession_of_status hsilent.status

namespace Log

/-- The session that began last. -/
def session : Log m r → Option ConnectionSessionId
  | [] => none
  | e :: h => match begunSession e with
    | some sessionId => some sessionId
    | none => session h

/-- The payloads accepted since a session began, the latest first. -/
def accepted : Log m r → List (List UInt8)
  | [] => []
  | e :: h => match begunSession e with
    | some _ => []
    | none => (acceptedPayload e).toList ++ accepted h

/-- The subcommand the worker came to last. -/
def request : Log m r → Option SubcommandRequest
  | [] => none
  | e :: h => (arrivedRequest e).getD (request h)

/-- The requests whose 0x21 replies were accepted since a session began, in that order. -/
def replied : Log m r → List SubcommandRequest
  | [] => []
  | e :: h => match begunSession e with
    | some _ => []
    | none =>
      if (acceptedPayload e).bind List.head? = some 0x21 then replied h ++ (request h).toList else replied h

theorem session_cons {e : LogEvent m r} (hbegun : begunSession e = none) (h : Log m r) :
    session (e :: h) = h.session := by
  rw [Log.session, hbegun]

theorem accepted_cons {e : LogEvent m r} (hbegun : begunSession e = none) (h : Log m r) :
    accepted (e :: h) = (acceptedPayload e).toList ++ h.accepted := by
  rw [Log.accepted, hbegun]

end Log

/-! ## Wire steps -/

/-- What a send may offer: an input report or the reply to the request at hand. -/
inductive Candidate (h : Log m r) (s : Frame m r) : List UInt8 → SenderCommit → Prop
  | input (state : InputState m) (nowNs : UInt64) :
      Candidate h s (s.sender.inputCandidate state nowNs).1 (s.sender.inputCandidate state nowNs).2
  | reply {request : SubcommandRequest} {current : InputState m} {action : PreparedOutputAction}
      (hrequest : h.request = some request)
      (hprepare : s.sender.prepareReply s.protocol request current = .ok action) :
      Candidate h s action.bytes (s.sender.replyCandidate action)

inductive Wire (h : Log m r) (s : Frame m r) : Log m r → Frame m r → Prop
  | update {s' : Frame m r} (hkeep : s'.sessions.current ≠ none →
      s'.sender.committed = s.sender.committed ∧ s'.sessions.current = s.sessions.current) : Wire h s h s'
  | event {e : LogEvent m r} (hstate : e.state = s) (hoffered : offeredPayload e = none)
      (hbegun : begunSession e = none) : Wire h s (e :: h) s
  | refused {bytes : List UInt8} {candidate : SenderCommit} {error : TransportError}
      (hlive : s.sessions.current ≠ none) (hcandidate : Candidate h s bytes candidate) :
      Wire h s (.call s (Op.sendInterrupt bytes) (.error error) :: h) s
  | accepted {bytes : List UInt8} {candidate : SenderCommit} (hlive : s.sessions.current ≠ none)
      (hcandidate : Candidate h s bytes candidate) :
      Wire h s (.call s (Op.sendInterrupt bytes) (.ok ()) :: h) (s.accept bytes candidate)
  | begun {s' : Frame m r} {sessionId : ConnectionSessionId} {lifecycle : LifecycleState} {snapshot : InputState m}
      (hcurrent : s'.sessions.current = some sessionId) (hsender : s'.sender.committed = .default) :
      Wire h s (.emit s' (.status (.beginSession sessionId lifecycle snapshot)) :: h) s'

/-- Wire steps, one after the other. -/
def Wires (h : Log m r) (s : Frame m r) (h' : Log m r) (s' : Frame m r) : Prop :=
  Relation.ReflTransGen (fun a b : Log m r × Frame m r => Wire a.1 a.2 b.1 b.2) (h, s) (h', s')

namespace Wires

variable {h h₁ h' : Log m r} {s s₁ s' : Frame m r}

theorem refl : Wires h s h s := Relation.ReflTransGen.refl

theorem trans (hleft : Wires h s h₁ s₁) (hright : Wires h₁ s₁ h' s') : Wires h s h' s' :=
  Relation.ReflTransGen.trans hleft hright

theorem wire (hleft : Wires h s h₁ s₁) (hwire : Wire h₁ s₁ h' s') : Wires h s h' s' :=
  Relation.ReflTransGen.tail hleft hwire

/-- A change that leaves the sender and the session alone. -/
theorem update (hwires : Wires h s h' s₁) (hsender : s'.sender.committed = s₁.sender.committed)
    (hcurrent : s'.sessions.current = s₁.sessions.current) : Wires h s h' s' :=
  hwires.wire (.update fun _ => ⟨hsender, hcurrent⟩)

/-- A change that leaves no session. -/
theorem leave (hwires : Wires h s h' s₁) (hcurrent : s'.sessions.current = none) : Wires h s h' s' :=
  hwires.wire (.update fun hlive => absurd hcurrent hlive)

theorem event (hwires : Wires h s h' s') (e : LogEvent m r) (hstate : e.state = s')
    (hoffered : offeredPayload e = none) (hbegun : begunSession e = none) : Wires h s (e :: h') s' :=
  hwires.wire (.event hstate hoffered hbegun)

/-- The log only grows. -/
theorem suffix (hwires : Wires h s h' s') : h <:+ h' := by
  suffices hall : ∀ point : Log m r × Frame m r,
      Relation.ReflTransGen (fun a b : Log m r × Frame m r => Wire a.1 a.2 b.1 b.2) (h, s) point → h <:+ point.1 from
    hall _ hwires
  intro point hpath
  induction hpath with
  | refl => exact List.suffix_refl _
  | tail hpath hwire ih =>
    rename_i a b
    obtain ⟨h₁, s₁⟩ := a
    obtain ⟨h₂, s₂⟩ := b
    dsimp only at hwire ih ⊢
    refine ih.trans ?_
    cases hwire with
    | update hkeep => exact List.suffix_refl _
    | event hstate hoffered hbegun => exact List.suffix_cons _ _
    | refused hlive hcandidate => exact List.suffix_cons _ _
    | accepted hlive hcandidate => exact List.suffix_cons _ _
    | begun hcurrent hsender => exact List.suffix_cons _ _

/-- A property of every wire step holds along them, and what each one logs is good. -/
theorem inv {P : Log m r → Frame m r → Prop} {G : LogEvent m r → Log m r → Prop}
    (hkeep : ∀ {h s h' s'}, Wire h s h' s' → P h s → P h' s')
    (hgood : ∀ {h s e s'}, Wire h s (e :: h) s' → P h s → G e h) (hwires : Wires h s h' s') (hstart : P h s)
    (halways : Always G h) : P h' s' ∧ Always G h' := by
  suffices hall : ∀ point : Log m r × Frame m r,
      Relation.ReflTransGen (fun a b : Log m r × Frame m r => Wire a.1 a.2 b.1 b.2) (h, s) point →
        P point.1 point.2 ∧ Always G point.1 from hall _ hwires
  intro point hpath
  induction hpath with
  | refl => exact ⟨hstart, halways⟩
  | tail hpath hwire ih =>
    obtain ⟨hP, hG⟩ := ih
    refine ⟨hkeep hwire hP, ?_⟩
    rename_i a b
    obtain ⟨ha, sa⟩ := a
    obtain ⟨hb, sb⟩ := b
    dsimp only at hwire hP hG ⊢
    have hnew := fun e s' (hwire : Wire ha sa (e :: ha) s') => hgood hwire hP
    cases hwire with
    | update hkeep => exact hG
    | event hstate hoffered hbegun => exact ⟨hnew _ _ (.event hstate hoffered hbegun), hG⟩
    | refused hlive hcandidate => exact ⟨hnew _ _ (.refused hlive hcandidate), hG⟩
    | accepted hlive hcandidate => exact ⟨hnew _ _ (.accepted hlive hcandidate), hG⟩
    | begun hcurrent hsender => exact ⟨hnew _ _ (.begun hcurrent hsender), hG⟩

end Wires

end Swbt
