import Swbt.Runtime.Sender
/-!
# Direct reporting

Direct input is committed only once the transport has accepted its report.
-/

set_option autoImplicit false

open Effects

namespace Swbt

variable {m : ControllerKind}

def Frame.direct (s : Frame m .direct) : DirectRuntime m :=
  match s.reporting with
  | .direct runtime => runtime

def Frame.withDirect (s : Frame m .direct) (runtime : DirectRuntime m) : Frame m .direct :=
  { s with reporting := .direct runtime }

@[simp] theorem Frame.direct_withDirect (s : Frame m .direct) (runtime : DirectRuntime m) :
    (s.withDirect runtime).direct = runtime := rfl

namespace Direct

def sendCandidate (candidate : InputState m) (nowNs : UInt64) : Worker m .direct (TransportResult Unit) := do
  -- A report that is not accepted commits nothing.
  match ← ReportSender.sendInput candidate nowNs with
  | .error error => return .error error
  | .ok () =>
    InputStateStore.commit candidate
    return .ok ()

inductive TapStimulus
  | transport (event : TransportEvent)
  | shutdown

inductive TapStep (m : ControllerKind)
  | pending (tap : PendingDirectTap m) (output : Option (Except OutputHandlingError OutputHandling))
  | complete (result : Except DirectTapError Unit)

/-- `PendingDirectTap::finish`. -/
def finish (tap : PendingDirectTap m) (now : Duration) : Worker m .direct (Except DirectTapError Unit) := do
  match ← sendCandidate tap.released (protocolTimestamp now) with
  | .error error => return .error (.transport error)
  | .ok () => return .ok ()

/-- `PendingDirectTap::step`. -/
def stepTap (tap : PendingDirectTap m) (stimulus : TapStimulus) : Worker m .direct (TapStep m) := do
  match stimulus with
  | .transport (.hidOutput channel payload) =>
    -- The reply is made of the pressed input, which is the committed one.
    let current ← InputStateStore.snapshot
    let output ← handleOutput channel payload current
    return .pending tap (some output)
  | .transport (.disconnected reason) => return .complete (.error (.interrupted (.disconnected reason)))
  | .shutdown => return .complete (.error (.interrupted .shutdown))
  | .transport .connected => return .pending tap none
  | .transport (.hidChannelOpened _) => return .pending tap none

def beginTap (ready : Bool) (plan : TapPlan m) (startedAt : Duration) :
    Worker m .direct (Except DirectTapError (PendingDirectTap m)) := do
  if !ready then return .error .notReady
  let releaseAt := deadlineAfter startedAt plan.duration
  -- A press that is not accepted leaves no tap to release.
  match ← sendCandidate plan.pressed (protocolTimestamp startedAt) with
  | .error error => return .error (.transport error)
  | .ok () => return .ok ⟨plan.released, releaseAt⟩

end Direct

end Swbt
