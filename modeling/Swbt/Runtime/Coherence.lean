import Swbt.Runtime.ReadinessEffect
import Swbt.Runtime.Worker
/-!
# Coherence of the worker's fields

Between any two parts of a step a worker is open, connecting or ready, and its
other fields agree with that. A frame is sound when its core is coherent and
no command that is still pending has a result.
-/

set_option autoImplicit false

open Effects

namespace Swbt

variable {m : ControllerKind} {r : ReportingKind}

/-- Nothing of a session is left. -/
structure IsOpen (core : WorkerCore m r) : Prop where
  lifecycle : core.lifecycle = ⟨.open⟩
  current : core.sessions.current = none
  connection : core.connection = none
  command : core.connectionCommandPending = none
  idle : core.reporting.stopSession = core.reporting
  disconnected : core.connected = false

/-- All parts of the connection work belong to the current session. -/
structure ConnectionWork.OfSession (work : ConnectionWork) (id : ConnectionSessionId) : Prop where
  session : work.sessionId = id
  gate : work.readiness.sessionId = id
  handshake : ∀ handshake, work.handshake = some handshake → handshake.sessionId = id
  collected : ∀ completion, work.readiness.handshake = some completion → completion.sessionId = id

/-- A command waits for `work`, wherever `work` is kept. -/
structure IsConnecting (work : ConnectionWork) (core : WorkerCore m r) : Prop where
  lifecycle : core.lifecycle = ⟨.connecting⟩
  current : core.sessions.current = some work.sessionId
  work : work.OfSession work.sessionId
  command : core.connectionCommandPending.isSome = true
  noTap : core.reporting.hasPending = false
  neutral : core.input = .neutral

structure IsReady (core : WorkerCore m r) : Prop where
  lifecycle : core.lifecycle = ⟨.ready⟩
  current : core.sessions.current.isSome = true
  connection : core.connection = none
  command : core.connectionCommandPending = none
  scheduler : ∀ policy, core.reporting.policy = some policy → policy.scheduler.isSome = true

inductive Coherent (core : WorkerCore m r) : Prop
  | open (hopen : IsOpen core)
  | connecting {work : ConnectionWork} (hwork : core.connection = some work) (hconnecting : IsConnecting work core)
  | ready (hready : IsReady core)

structure Frame.Sound (s : Frame m r) : Prop where
  coherent : Coherent s.toWorkerCore
  unanswered : s.connectionCommandPending.isSome = true ∨ s.reporting.hasPending = true →
    s.progress.commandResult = none

namespace Reporting

theorem hasPending_of_idle {reporting : Reporting m r} (h : reporting.stopSession = reporting) :
    reporting.hasPending = false := by
  rw [← h]
  exact hasPending_stopSession reporting

/-- An idle policy has neither a schedule nor a holdoff. -/
theorem policy_of_idle {reporting : Reporting m r} (h : reporting.stopSession = reporting) (policy : PeriodicPolicy)
    (hpolicy : reporting.policy = some policy) : policy.scheduler = none ∧ policy.replyHoldoffUntil = none := by
  rw [← h] at hpolicy
  cases reporting with
  | periodic runtime =>
    cases hpolicy
    exact ⟨rfl, rfl⟩
  | direct runtime => cases hpolicy

theorem hasPending_iff_tap (reporting : Reporting m r) : reporting.hasPending = true ↔ reporting.tap ≠ none := by
  rw [hasPending_eq, Option.isSome_iff_ne_none]

end Reporting

namespace Coherent

variable {core : WorkerCore m r}

theorem of_tap (h : Coherent core) (htap : core.reporting.hasPending = true) : IsReady core := by
  cases h with
  | «open» hopen => rw [Reporting.hasPending_of_idle hopen.idle] at htap; cases htap
  | connecting hwork hconnecting => rw [hconnecting.noTap] at htap; cases htap
  | ready hready => exact hready

theorem of_command (h : Coherent core) (hcommand : core.connectionCommandPending.isSome = true) :
    ∃ work, core.connection = some work ∧ IsConnecting work core := by
  cases h with
  | «open» hopen => rw [hopen.command] at hcommand; cases hcommand
  | connecting hwork hconnecting => exact ⟨_, hwork, hconnecting⟩
  | ready hready => rw [hready.command] at hcommand; cases hcommand

theorem of_connection (h : Coherent core) {work : ConnectionWork} (hwork : core.connection = some work) :
    IsConnecting work core := by
  cases h with
  | «open» hopen => rw [hopen.connection] at hwork; cases hwork
  | connecting hsome hconnecting => rw [hsome] at hwork; cases hwork; exact hconnecting
  | ready hready => rw [hready.connection] at hwork; cases hwork

theorem of_current (h : Coherent core) {id : ConnectionSessionId} (hid : core.sessions.current = some id) :
    core.lifecycle = ⟨.connecting⟩ ∨ core.lifecycle = ⟨.ready⟩ := by
  cases h with
  | «open» hopen => rw [hopen.current] at hid; cases hid
  | connecting hwork hconnecting => exact .inl hconnecting.lifecycle
  | ready hready => exact .inr hready.lifecycle

theorem of_open (h : Coherent core) (hopen : core.lifecycle.current = .open) : IsOpen core := by
  cases h with
  | «open» hopen => exact hopen
  | connecting hwork hconnecting => rw [hconnecting.lifecycle] at hopen; cases hopen
  | ready hready => rw [hready.lifecycle] at hopen; cases hopen

theorem of_ready (h : Coherent core) (hready : core.lifecycle.state = .ready) : IsReady core := by
  cases h with
  | «open» hopen => rw [hopen.lifecycle] at hready; cases hready
  | connecting hwork hconnecting => rw [hconnecting.lifecycle] at hready; cases hready
  | ready hready => exact hready

theorem of_connecting (h : Coherent core) (hstate : core.lifecycle.state = .connecting) :
    ∃ work, core.connection = some work ∧ IsConnecting work core := by
  cases h with
  | «open» hopen => rw [hopen.lifecycle] at hstate; cases hstate
  | connecting hwork hconnecting => exact ⟨_, hwork, hconnecting⟩
  | ready hready => rw [hready.lifecycle] at hstate; cases hstate

theorem current_of_connected (h : Coherent core) (hconnected : core.connected = true) :
    core.sessions.current.isSome = true := by
  cases h with
  | «open» hopen => rw [hopen.disconnected] at hconnected; cases hconnected
  | connecting hwork hconnecting => rw [hconnecting.current]; rfl
  | ready hready => exact hready.current

theorem lifecycle_live (h : Coherent core) :
    core.lifecycle = ⟨.open⟩ ∨ core.lifecycle = ⟨.connecting⟩ ∨ core.lifecycle = ⟨.ready⟩ := by
  cases h with
  | «open» hopen => exact .inl hopen.lifecycle
  | connecting hwork hconnecting => exact .inr (.inl hconnecting.lifecycle)
  | ready hready => exact .inr (.inr hready.lifecycle)

theorem not_closing (h : Coherent core) : core.lifecycle.state ≠ .closing := by
  rcases h.lifecycle_live with hlive | hlive | hlive
  all_goals simp [hlive, LifecycleStateMachine.state]

end Coherent

/-! ## Frames after the ends of things -/

namespace Frame

def answer (s : Frame m r) (result : CommandResult) : Frame m r :=
  { s with progress := { s.progress with commandResult := some result } }

def setImmediate (s : Frame m r) : Frame m r := { s with progress := { s.progress with immediate := true } }

def note (s : Frame m r) (error : WorkerOperationError) : Frame m r :=
  { s with progress := { s.progress with operationErrors := s.progress.operationErrors ++ [error] } }

/-- The pending connection command gets its result. -/
def complete (s : Frame m r) (result : CommandResult) : Frame m r :=
  match s.connectionCommandPending with
  | none => s
  | some _ => ({ s with connectionCommandPending := none }.answer result).setImmediate

def completeFailure (s : Frame m r) (failure : ConnectionCommandFailure) : Frame m r :=
  match s.connectionCommandPending with
  | none => s
  | some command => s.complete (.error (.connection ⟨command, failure⟩))

def endSession (s : Frame m r) : Frame m r :=
  { s with
    sessions := { s.sessions with current := none }
    connected := false
    reporting := s.reporting.stopSession
    lifecycle := s.lifecycle.markConnectionEnded }

/-- The connection work, already out of the frame, fails. -/
def failConnection (s : Frame m r) (error : ReadinessError) : Frame m r :=
  (s.completeFailure (.readiness error)).note .readiness

def abort (s : Frame m r) (error : ReadinessError) : Frame m r := (s.failConnection error).endSession

def dropConnection (s : Frame m r) : Frame m r :=
  { s with connected := false, connection := none, sessions := { s.sessions with current := none } }

def fail (s : Frame m r) (error : WorkerCoreError) : Frame m r :=
  { s.completeFailure (failureOf error) with lifecycle := ⟨.failed⟩, connected := false }

end Frame

section Wp

variable {h : Log m r} {s : Frame m r}

theorem wp_endCurrentSession (Q : Log m r → Frame m r → Unit → Prop)
    (hQ : Q h { s with sessions := { s.sessions with current := none } } ()) : Act.wp endCurrentSession h s Q := by
  unfold endCurrentSession
  rw [wp_update]
  cases hcurrent : s.sessions.current with
  | none =>
    have hsame : { s.sessions with current := none } = s.sessions := by
      rw [← hcurrent]
    rw [hsame] at hQ
    exact hQ
  | some id =>
    simp only [ConnectionSessions.endCurrent, hcurrent, ne_eq, not_true_eq_false, if_false]
    exact hQ

theorem wp_answer (result : CommandResult) (Q : Log m r → Frame m r → Unit → Prop)
    (hnone : s.progress.commandResult = none) (hQ : Q h (s.answer result) ()) :
    Act.wp (recordCommandProgress (.complete result)) h s Q := by
  unfold recordCommandProgress
  simp only [Act.wp_bind, wp_frame, modifyProgress, wp_update, hnone, Option.isSome_none, Bool.false_eq_true, if_false]
  exact hQ

theorem wp_complete (result : CommandResult) (Q : Log m r → Frame m r → Unit → Prop)
    (hnone : s.connectionCommandPending.isSome = true → s.progress.commandResult = none)
    (hQ : Q h (s.complete result) ()) : Act.wp (completeConnectionCommand result) h s Q := by
  unfold completeConnectionCommand
  unfold Frame.complete at hQ
  rw [Act.wp_bind, wp_frame]
  cases hcommand : s.connectionCommandPending with
  | none =>
    rw [hcommand] at hQ
    exact hQ
  | some command =>
    rw [hcommand] at hQ hnone
    simp only [Act.wp_bind, wp_update]
    exact wp_answer result _ (hnone rfl) hQ

theorem wp_completeFailure (failure : ConnectionCommandFailure) (Q : Log m r → Frame m r → Unit → Prop)
    (hnone : s.connectionCommandPending.isSome = true → s.progress.commandResult = none)
    (hQ : Q h (s.completeFailure failure) ()) : Act.wp (completeConnectionFailure failure) h s Q := by
  unfold completeConnectionFailure
  unfold Frame.completeFailure at hQ
  rw [Act.wp_bind, wp_frame]
  cases hcommand : s.connectionCommandPending with
  | none =>
    rw [hcommand] at hQ
    exact hQ
  | some command =>
    rw [hcommand] at hQ
    exact wp_complete _ Q hnone hQ

theorem wp_endSession (reason : Option UInt8) (Q : Log m r → Frame m r → Unit → Prop)
    (hQ : Q (.emit s.endSession (.status (.endSession s.endSession.lifecycle.state reason)) :: h) s.endSession ()) :
    Act.wp (endSession reason) h s Q := by
  unfold endSession
  rw [Act.wp_bind]
  refine wp_endCurrentSession _ ?_
  simp only [Act.wp_bind, wp_update, wp_frame, wp_status]
  exact hQ

theorem wp_failConnection (error : ReadinessError) (Q : Log m r → Frame m r → Unit → Prop)
    (hnone : s.connectionCommandPending.isSome = true → s.progress.commandResult = none)
    (hQ : Q h (s.failConnection error) ()) : Act.wp (failConnection error) h s Q := by
  unfold failConnection
  rw [Act.wp_bind]
  exact wp_completeFailure _ _ hnone hQ

theorem wp_abort (error : ReadinessError) (Q : Log m r → Frame m r → Unit → Prop)
    (hnone : s.connectionCommandPending.isSome = true → s.progress.commandResult = none)
    (hQ : Q (.emit (s.abort error) (.status (.endSession (s.abort error).lifecycle.state none)) :: h) (s.abort error)
      ()) : Act.wp (abortConnection error) h s Q := by
  unfold abortConnection
  rw [Act.wp_bind]
  exact wp_failConnection error _ hnone (wp_endSession none _ hQ)

theorem wp_dropConnection (Q : Log m r → Frame m r → Unit → Prop) (hQ : Q h s.dropConnection ()) :
    Act.wp dropConnection h s Q := by
  unfold dropConnection
  simp only [Act.wp_bind, wp_update]
  exact wp_endCurrentSession _ hQ

end Wp

end Swbt
