import Swbt.Runtime.Sender
/-!
# Cleanup

Neutral report, drain, disconnect and close, in this order, keeping the first
failure.
-/

set_option autoImplicit false

open Effects

namespace Swbt

variable {m : ControllerKind} {r : ReportingKind}

structure CleanupSequence where
  mode : CloseMode
  drainTimeout : Duration
  drainInterrupt : Bool

namespace CleanupSequence

def new (mode : CloseMode) (drainTimeout : Duration) : CleanupSequence := ⟨mode, drainTimeout, true⟩

def forDrop : CleanupSequence := ⟨.withoutNeutral, .ZERO, false⟩

def recordFirstFailure (firstFailure : Option CleanupFailure) (phase : CleanupPhase) (result : TransportResult Unit) :
    Option CleanupFailure :=
  match firstFailure, result with
  | some failure, _ => some failure
  | none, .error error => some ⟨phase, error⟩
  | none, .ok () => none

/-- The neutral phase, only with the mode that asks for it and a connected host. -/
def sendNeutral (sequence : CleanupSequence) (connected : Bool) (nowNs : UInt64) : Worker m r (Option CleanupFailure) :=
  if sequence.mode = .withNeutral ∧ connected then
    recordFirstFailure none .neutral <$> ReportSender.sendInput .neutral nowNs
  else pure none

/-- The drain phase, which a dropped worker leaves out. -/
def drain (sequence : CleanupSequence) (failure : Option CleanupFailure) : Worker m r (Option CleanupFailure) :=
  if sequence.drainInterrupt then
    recordFirstFailure failure .drainInterrupt <$> Swbt.drainInterrupt sequence.drainTimeout
  else pure failure

/-- `CleanupSequence::run`, publishing the lifecycle if `publish`. -/
def run (sequence : CleanupSequence) (connected : Bool) (nowNs : UInt64) (publish : Bool) :
    Worker m r CloseCompletion := do
  let (action, lifecycle) := (← frame).lifecycle.requestClose
  update fun s => { s with lifecycle }
  if action ≠ .beginCleanup then return ⟨false, none⟩
  if publish then status (.setLifecycle lifecycle.state)
  let failure ← sequence.sendNeutral connected nowNs
  let failure ← sequence.drain failure
  let failure := recordFirstFailure failure .disconnect (← disconnect)
  let failure := recordFirstFailure failure .transportClose (← closeTransport)
  if publish then status (.close .closed)
  return ⟨true, failure⟩

end CleanupSequence

end Swbt
