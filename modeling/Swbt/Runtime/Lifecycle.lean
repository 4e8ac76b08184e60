import Swbt.Runtime.Transport
/-!
# The lifecycle state machine

A worker is open, connecting or ready until it closes or fails.
-/

set_option autoImplicit false

namespace Swbt

/-- The lifecycle a controller publishes. -/
inductive LifecycleState
  | configured | «open» | connecting | ready | closing | closed | failed
deriving DecidableEq

inductive RuntimeState
  | «open» | connecting | ready | closing | failed
deriving DecidableEq

inductive LifecycleAction
  | beginCleanup | closed | none
deriving DecidableEq

inductive LifecycleCommandError
  | shutdown | failed
deriving DecidableEq

/-- `LifecycleStateMachine`. A transition the code refuses answers `none`. -/
structure LifecycleStateMachine where
  current : RuntimeState
deriving DecidableEq

namespace LifecycleStateMachine

def new : LifecycleStateMachine := ⟨.open⟩

def state (machine : LifecycleStateMachine) : LifecycleState :=
  match machine.current with
  | .open => .open
  | .connecting => .connecting
  | .ready => .ready
  | .closing => .closing
  | .failed => .failed

def markFailed (_ : LifecycleStateMachine) : LifecycleStateMachine := ⟨.failed⟩

def beginConnection (machine : LifecycleStateMachine) : Option LifecycleStateMachine :=
  if machine.current ≠ .open then none else some ⟨.connecting⟩

def markReady (machine : LifecycleStateMachine) : Option LifecycleStateMachine :=
  if machine.current ≠ .connecting then none else some ⟨.ready⟩

/-- No caller reads the flag of `mark_connection_ended`, so a refusal is the
machine unchanged. -/
def markConnectionEnded (machine : LifecycleStateMachine) : LifecycleStateMachine :=
  if machine.current = .connecting ∨ machine.current = .ready then ⟨.open⟩ else machine

def requestClose (machine : LifecycleStateMachine) : LifecycleAction × LifecycleStateMachine :=
  match machine.current with
  | .open | .connecting | .ready | .failed => (.beginCleanup, ⟨.closing⟩)
  | .closing => (.none, machine)

def ensureInputCommand (machine : LifecycleStateMachine) : Except LifecycleCommandError Unit :=
  match machine.current with
  | .closing => .error .shutdown
  | .failed => .error .failed
  | .open | .connecting | .ready => .ok ()

theorem current_of_state_open {machine : LifecycleStateMachine} (h : machine.state = .open) :
    machine.current = .open := by
  unfold state at h
  split at h
  · assumption
  · cases h
  · cases h
  · cases h
  · cases h

end LifecycleStateMachine

end Swbt
