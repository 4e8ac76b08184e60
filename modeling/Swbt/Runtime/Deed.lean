import Swbt.Effects.Chain
import Swbt.Runtime.Wire
/-!
# Deeds

What a worker does between two points at which its fields agree: one call, one
output with the change it publishes, or a change that nobody sees. Every move
is a chain of deeds, so a property of the log, of what is published or of what
the wire carries is proved for one deed at a time.
-/

set_option autoImplicit false

open Effects

namespace Swbt

variable {m : ControllerKind} {r : ReportingKind}

/-- What the clock read last. -/
def Log.clock : Log m r → Option Duration
  | [] => none
  | .call _ .now t :: _ => some t
  | _ :: h => clock h

/-- Calls and outputs that change nothing and publish nothing. -/
def quietEvent : LogEvent m r → Bool
  | .call _ .now _ | .call _ .takeShutdown none | .call _ .nextCommand none | .call _ .startPairing _
  | .call _ .startReconnect _ | .call _ (.poll _) _ => true
  | .emit _ (.processed _) | .emit _ (.observeOutput _) => true
  | _ => false

theorem quietEvent_silent {e : LogEvent m r} (hquiet : quietEvent e = true) : Silent e := by
  cases e with
  | emit s out => cases out <;> first | exact ⟨rfl, rfl, rfl⟩ | cases hquiet
  | call s op ans =>
    cases op with
    | nextCommand =>
      cases ans with
      | none => exact ⟨rfl, rfl, rfl⟩
      | some command => cases hquiet
    | _ => first | exact ⟨rfl, rfl, rfl⟩ | cases hquiet

/-- A change of the bookkeeping alone: progress, pending commands, a tap held or the connection work. -/
structure Steady (s s' : Frame m r) : Prop where
  lifecycle : s'.lifecycle = s.lifecycle
  sessions : s'.sessions = s.sessions
  connected : s'.connected = s.connected
  input : s'.input = s.input
  sender : s'.sender = s.sender
  policy : s'.reporting.policy = s.reporting.policy

namespace Steady

variable {s s₁ s' : Frame m r}

theorem refl (s : Frame m r) : Steady s s := ⟨rfl, rfl, rfl, rfl, rfl, rfl⟩

theorem trans (hleft : Steady s s₁) (hright : Steady s₁ s') : Steady s s' where
  lifecycle := hright.lifecycle.trans hleft.lifecycle
  sessions := hright.sessions.trans hleft.sessions
  connected := hright.connected.trans hleft.connected
  input := hright.input.trans hleft.input
  sender := hright.sender.trans hleft.sender
  policy := hright.policy.trans hleft.policy

theorem core (hcore : s'.toWorkerCore = s.toWorkerCore) : Steady s s' := by
  refine ⟨?_, ?_, ?_, ?_, ?_, ?_⟩
  all_goals rw [hcore]

end Steady

/-- One thing a worker does, from the log `h` and the frame `s`. -/
inductive Deed (h : Log m r) (s : Frame m r) : Log m r → Frame m r → Prop
  | internal {s' : Frame m r} (hsteady : Steady s s') : Deed h s h s'
  | quiet {e : LogEvent m r} (hstate : e.state = s) (hquiet : quietEvent e = true) : Deed h s (e :: h) s
  | taken {command : RuntimeCommand m r} (hcommand : s.connectionCommandPending = none)
      (htap : s.reporting.hasPending = false) (hidle : s.lifecycle.state ≠ .connecting) :
      Deed h s (.call s Op.nextCommand (some command) :: h) s
  | begun {kind : ConnectionCommandKind} {deadline : Duration} (hopen : s.lifecycle.current = .open)
      (hclosed : s.sessions.current = none) : Deed h s (s.beginLog deadline h) (s.begin kind deadline)
  | linked (hlive : s.sessions.current ≠ none) : Deed h s (.emit s.connect (.status (.setConnected true)) :: h) s.connect
  | noticed {id : UInt8} (hlive : s.sessions.current ≠ none) :
      Deed h s (.emit (s.observe id) (.status (.recordSubcommand id)) :: h) (s.observe id)
  | replied {request : SubcommandRequest} {action : PreparedOutputAction} {result : TransportResult Unit}
      {h₁ : Log m r} {s₁ s₂ : Frame m r} {t : Duration} {errors : List WorkerOperationError}
      (hlive : s.sessions.current ≠ none) (hneutral : s.lifecycle.state ≠ .ready → s.input = .neutral)
      (hrequest : h.request = some request)
      (hprepare : s.sender.prepareReply s.protocol request s.input = .ok action)
      (hsent : Sent action.bytes (s.sender.replyCandidate action) h s h₁ s₁ result) (hsteady : Steady s₁ s₂) :
      Deed h s (.call s₂ Op.now t :: h₁) (s₂.record t (replyOutcome result) errors)
  | reported {nowNs : UInt64} {result : TransportResult Unit} {h' : Log m r} {s' : Frame m r}
      (hlive : s.sessions.current ≠ none) (hneutral : s.lifecycle.state ≠ .ready → s.input = .neutral)
      (hsent : InputSent s.input nowNs h s h' s' result) : Deed h s h' s'
  | delivered {candidate : InputState m} {nowNs : UInt64} {result : TransportResult Unit} {h' : Log m r}
      {s' : Frame m r} (hr : r = .direct) (hlive : s.sessions.current ≠ none) (hready : s.lifecycle.state = .ready)
      (hsent : DirectSent candidate nowNs h s h' s' result) : Deed h s h' s'
  | committed {candidate : InputState m} (hr : r = .periodic) (hidle : s.lifecycle.state ≠ .connecting) :
      Deed h s (.emit (s.commit candidate) (.status (.setSnapshot candidate)) :: h) (s.commit candidate)
  | scheduled {reporting : Reporting m r} {t : Duration} (hlive : s.sessions.current ≠ none)
      (hclock : h.clock = some t) (hstart : s.reporting.started s.sender.committed.session t = .ok reporting) :
      Deed h s h { s with reporting }
  | skipped {policy : PeriodicPolicy} {skipped : UInt64} {scheduler : ReportScheduler} {t : Duration}
      (hlive : s.sessions.current ≠ none) (hclock : h.clock = some t) (hpolicy : s.reporting.policy = some policy)
      (hticks : Ticks policy t skipped scheduler) :
      Deed h s
        (.call (s.setPolicy { policy with scheduler := some scheduler }) Op.interruptSendCapacityAvailable false :: h)
        (s.setPolicy { policy with scheduler := some scheduler })
  | automatic {policy : PeriodicPolicy} {skipped : UInt64} {scheduler : ReportScheduler} {t : Duration}
      {result : TransportResult Unit} {h' : Log m r} {s' : Frame m r} (hlive : s.sessions.current ≠ none)
      (hneutral : s.lifecycle.state ≠ .ready → s.input = .neutral) (hclock : h.clock = some t)
      (hpolicy : s.reporting.policy = some policy) (hticks : Ticks policy t skipped scheduler)
      (hsent : InputSent s.input (protocolTimestamp t)
        (.call (s.setPolicy { policy with scheduler := some scheduler }) Op.interruptSendCapacityAvailable true :: h)
        (s.setPolicy { policy with scheduler := some scheduler }) h' s' result) : Deed h s h' s'
  | readied (hlive : s.sessions.current ≠ none) (hconnecting : s.lifecycle = ⟨.connecting⟩)
      (hneutral : s.input = .neutral) : Deed h s (.emit s.markReady (.status (.setLifecycle .ready)) :: h) s.markReady
  | ended {reason : Option UInt8} (hlive : s.sessions.current ≠ none)
      (hlifecycle : s.lifecycle = ⟨.connecting⟩ ∨ s.lifecycle = ⟨.ready⟩) :
      Deed h s (.emit s.endSession (.status (.endSession .open reason)) :: h) s.endSession

/-- Deeds, one after the other. -/
abbrev Deeds : Log m r → Frame m r → Log m r → Frame m r → Prop := Chain Deed

/-! ## Chains of deeds -/

namespace Deeds

variable {h h₁ h' : Log m r} {s s₁ s' : Frame m r}

theorem steady (hdeeds : Deeds h s h' s₁) (hsteady : Steady s₁ s') : Deeds h s h' s' := hdeeds.tail (.internal hsteady)

theorem core (hdeeds : Deeds h s h' s₁) (hcore : s'.toWorkerCore = s₁.toWorkerCore) : Deeds h s h' s' :=
  hdeeds.steady (.core hcore)

theorem quiet (hdeeds : Deeds h s h' s') (e : LogEvent m r) (hstate : e.state = s') (hquiet : quietEvent e = true) :
    Deeds h s (e :: h') s' := hdeeds.tail (.quiet hstate hquiet)

end Deeds

end Swbt
