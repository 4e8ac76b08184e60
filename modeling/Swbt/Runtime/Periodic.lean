import Swbt.Runtime.Sender
/-!
# Periodic reporting

The automatic schedule with its reply holdoff, and taps that commit the input
before they send it.
-/

set_option autoImplicit false

open Effects

namespace Swbt

variable {m : ControllerKind}

/-- 300 milliseconds. -/
def replyHoldoff : Duration := ⟨300 * 1000000, by decide⟩

/-! ## Taps -/

namespace Periodic

def commitAndSendCandidate (candidate : InputState m) (nowNs : UInt64) :
    Worker m .periodic (TransportResult Unit) := do
  InputStateStore.commit candidate
  ReportSender.sendInput (← InputStateStore.snapshot) nowNs

/-- `PendingPeriodicTap::finish`. -/
def finish (tap : PendingPeriodicTap m) (nowNs : UInt64) : Worker m .periodic (Except PeriodicError Unit) := do
  let release ← commitAndSendCandidate tap.released nowNs
  match tap.firstError, release with
  | none, .ok () => return .ok ()
  | some error, .ok () | none, .error error => return .error (.transport error none)
  | some error, .error releaseError =>
    -- The press was rejected: its error is the result, and a fatal one of the release ends the worker.
    let laterTerminal := if releaseError.kind ≠ .sendRejected then some releaseError else none
    return .error (.transport error laterTerminal)

def beginTap (ready : Bool) (plan : TapPlan m) (nowNs : UInt64) :
    Worker m .periodic (Except PeriodicError (PendingPeriodicTap m)) := do
  if !ready then return .error .notReady
  match ← commitAndSendCandidate plan.pressed nowNs with
  | .ok () => return .ok ⟨plan.released, none⟩
  | .error error =>
    if error.kind ≠ .sendRejected then return .error (.transport error none)
    -- A rejected press is committed all the same, and so there is a release.
    return .ok ⟨plan.released, some error⟩

end Periodic

/-! ## The policy -/

inductive AutomaticInput
  | notDue
  | heldOff (until_ : Duration)
  | backpressured (skipped : UInt64)
  | sent (skipped : UInt64)

inductive PeriodicStart
  | heldOff (until_ : Duration)
  | started (firstDeadline : Duration)

def Frame.periodic (s : Frame m .periodic) : PeriodicRuntime m :=
  match s.reporting with
  | .periodic runtime => runtime

def Frame.withPeriodic (s : Frame m .periodic) (runtime : PeriodicRuntime m) : Frame m .periodic :=
  { s with reporting := .periodic runtime }

def Frame.withPolicy (s : Frame m .periodic) (policy : PeriodicPolicy) : Frame m .periodic :=
  s.withPeriodic { s.periodic with policy }

@[simp] theorem Frame.periodic_withPeriodic (s : Frame m .periodic) (runtime : PeriodicRuntime m) :
    (s.withPeriodic runtime).periodic = runtime := rfl

namespace PeriodicPolicy

def new (period : Duration) : Except SchedulerError PeriodicPolicy :=
  if period.isZero then .error .zeroPeriod else .ok ⟨period, none, none⟩

/-- Whether a reply accepted lately still holds automatic reports off. -/
def heldOff (policy : PeriodicPolicy) (now : Duration) : Option Duration :=
  policy.replyHoldoffUntil.filter fun until_ => now < until_

def startWhenUnheld (policy : PeriodicPolicy) (now : Duration) :
    Except SchedulerError (PeriodicStart × PeriodicPolicy) :=
  match policy.heldOff now with
  | some until_ => .ok (.heldOff until_, policy)
  | none =>
    match policy.scheduler with
    | some scheduler => .ok (.started scheduler.nextDeadline, policy)
    | none =>
      match ReportScheduler.start now policy.period with
      | .error error => .error error
      | .ok scheduler => .ok (.started scheduler.nextDeadline, { policy with scheduler := some scheduler })

def recordOutputCompletion (policy : PeriodicPolicy) (completedAt : Duration)
    (completion : Except OutputHandlingError OutputHandling) : Except PeriodicError PeriodicPolicy :=
  match completion with
  | .ok .replyAccepted =>
    match completedAt.checkedAdd replyHoldoff with
    | none => .error (.scheduler .deadlineOverflow)
    | some candidate =>
      -- A holdoff never gets shorter.
      let until_ := match policy.replyHoldoffUntil with
        | none => candidate
        | some current => max current candidate
      .ok { policy with replyHoldoffUntil := some until_ }
  | _ => .ok policy

def stopSession (policy : PeriodicPolicy) : PeriodicPolicy :=
  { policy with scheduler := none, replyHoldoffUntil := none }

def resetForNewSession (policy : PeriodicPolicy) : PeriodicPolicy := policy.stopSession

def nextDeadline (policy : PeriodicPolicy) : Option Duration :=
  policy.scheduler.map fun scheduler =>
    match policy.replyHoldoffUntil with
    | none => scheduler.nextDeadline
    | some holdoff => max holdoff scheduler.nextDeadline

def sendDue (now : Duration) : Worker m .periodic (Except PeriodicError AutomaticInput) := do
  let policy := (← frame).periodic.policy
  match policy.scheduler with
  | none => return .error .notReady
  | some scheduler =>
    if let some until_ := policy.heldOff now then return .ok (.heldOff until_)
    match scheduler.step now with
    | .error error => return .error (.scheduler error)
    | .ok (.notDue, _) => return .ok .notDue
    | .ok (.due skipped, scheduler) =>
      -- The slot is used up before it is known whether anything can be sent.
      update fun s => s.withPolicy { s.periodic.policy with scheduler := some scheduler }
      if !(← interruptSendCapacityAvailable) then return .ok (.backpressured skipped)
      let snapshot ← InputStateStore.snapshot
      match ← ReportSender.sendInput snapshot (protocolTimestamp now) with
      | .error error => return .error (.transport error none)
      | .ok () => return .ok (.sent skipped)

end PeriodicPolicy

end Swbt
