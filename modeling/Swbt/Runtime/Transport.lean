import Swbt.Protocol.Subcommand
/-!
# The transport as the worker sees it

Events, errors and channels of a `TransportPort`, and the shutdown requests
that end a worker. The operations themselves are in the worker's interface:
what a transport answers is the environment's choice.
-/

set_option autoImplicit false

namespace Swbt

inductive HidChannel
  | control | interrupt
deriving DecidableEq

inductive TransportEvent
  | connected
  | hidChannelOpened (channel : HidChannel)
  | hidOutput (channel : HidChannel) (payload : List UInt8)
  | disconnected (reason : Option UInt8)
deriving DecidableEq

/-! ## Errors -/

/-- A `dyn std::error::Error`: its text and its source. -/
inductive StdError
  | new (message : String) (source : Option StdError)

inductive TransportErrorKind
  | openFailed | invalidControllerIdentity | identityMismatch | adapterIdentityRecoveryRequired
  | unsupportedController | invalidKeyStore | noBond | closed | sendRejected | drainTimedOut | eventQueueOverflow
  | sourceTerminated | closeFailed
deriving DecidableEq

structure TransportError where
  kind : TransportErrorKind
  source : Option StdError

abbrev TransportResult (α : Type) := Except TransportError α

/-! ## Shutdown -/

inductive CloseMode
  | withNeutral | withoutNeutral
deriving DecidableEq

inductive ShutdownRequest
  | explicit (mode : CloseMode)
  | dropped
deriving DecidableEq

end Swbt
