import Swbt.Runtime.DriveEffect
/-!
# What a transport event can do

`EventEffect` sums up `handle_event`: an event of another session is dropped,
a link or a channel is observed, an output report is answered and its outcome
recorded, a disconnect ends the session.
-/

set_option autoImplicit false

open Effects

namespace Swbt

variable {m : ControllerKind} {r : ReportingKind}

/-! ## Recording an output report -/

namespace Reporting

/-- The reporting state after an output report completed at `t`. -/
def recorded (reporting : Reporting m r) (t : Duration) (completion : Except OutputHandlingError OutputHandling) :
    Reporting m r :=
  match reporting with
  | .periodic runtime =>
    match runtime.policy.recordOutputCompletion t completion with
    | .ok policy => .periodic { runtime with policy }
    | .error _ => .periodic runtime
  | .direct runtime => .direct runtime

@[simp] theorem tap_recorded (reporting : Reporting m r) (t : Duration)
    (completion : Except OutputHandlingError OutputHandling) : (reporting.recorded t completion).tap = reporting.tap := by
  cases reporting with
  | periodic runtime =>
    unfold recorded
    dsimp only
    split
    · rfl
    · rfl
  | direct runtime => rfl

/-- Recording an output keeps the schedule. -/
theorem scheduler_recorded (reporting : Reporting m r) (t : Duration)
    (completion : Except OutputHandlingError OutputHandling) :
    (reporting.recorded t completion).policy.map PeriodicPolicy.scheduler =
      reporting.policy.map PeriodicPolicy.scheduler := by
  cases reporting with
  | periodic runtime =>
    unfold recorded
    dsimp only
    split
    · rename_i policy hrecord
      unfold PeriodicPolicy.recordOutputCompletion at hrecord
      split at hrecord
      · split at hrecord
        · cases hrecord
        · cases hrecord
          rfl
      · cases hrecord
        rfl
    · rfl
  | direct runtime => rfl

end Reporting

/-- Whether the topology changed, which an output report never does, or the
terminal error of its reply. -/
def completionResult : Except OutputHandlingError OutputHandling → Except WorkerCoreError Bool
  | .error (.transport error) => if error.kind ≠ .sendRejected then .error (.transport error) else .ok false
  | _ => .ok false

/-- The frame after an output report completed at `t`, with the operation errors so far. -/
def Frame.record (s : Frame m r) (t : Duration) (completion : Except OutputHandlingError OutputHandling)
    (errors : List WorkerOperationError) : Frame m r :=
  { s with
    reporting := s.reporting.recorded t completion
    progress := { s.progress with operationErrors := errors } }

theorem recordOperationError_spec (error : WorkerOperationError) (h : Log m r) (s : Frame m r)
    (Q : Log m r → Frame m r → Except WorkerCoreError Unit → Prop)
    (hQ : Q h (s.note (nonterminalOperationError error).1)
      (match (nonterminalOperationError error).2 with
        | none => .ok ()
        | some error => .error error)) : Act.wp (recordOperationError error) h s Q := by
  unfold recordOperationError
  simp only [Act.wp_bind, pushOperationError, modifyProgress, wp_update]
  cases hterminal : (nonterminalOperationError error).2 with
  | none =>
    rw [hterminal] at hQ
    exact hQ
  | some terminal =>
    rw [hterminal] at hQ
    exact hQ

theorem recordOutputCompletion_error {policy : PeriodicPolicy} {t : Duration}
    {completion : Except OutputHandlingError OutputHandling} {error : PeriodicError}
    (h : policy.recordOutputCompletion t completion = .error error) :
    error = .scheduler .deadlineOverflow ∧ completion = .ok .replyAccepted := by
  unfold PeriodicPolicy.recordOutputCompletion at h
  split at h
  · split at h
    · cases h
      exact ⟨rfl, rfl⟩
    · cases h
  · cases h

theorem reportingRecord_spec (t : Duration) (completion : Except OutputHandlingError OutputHandling) (h : Log m r)
    (s : Frame m r) (Q : Log m r → Frame m r → Except WorkerOperationError Unit → Prop)
    (hQ : Q h { s with reporting := s.reporting.recorded t completion } (.ok ()))
    (herror : completion = .ok .replyAccepted → Q h { s with reporting := s.reporting.recorded t completion }
      (.error (.periodic (.scheduler .deadlineOverflow)))) :
    Act.wp (Reporting.recordOutput t completion) h s Q := by
  cases r with
  | direct =>
    obtain ⟨⟨lifecycle, input, reporting, sender, protocol, observed, sessions, connection, pending, connected,
      budget⟩, progress⟩ := s
    cases reporting
    exact hQ
  | periodic =>
    obtain ⟨⟨lifecycle, input, reporting, sender, protocol, observed, sessions, connection, pending, connected,
      budget⟩, progress⟩ := s
    cases reporting with
    | periodic runtime =>
      change Act.wp (Periodic.recordOutput t completion) h _ Q
      unfold Periodic.recordOutput
      simp only [Act.wp_bind, wp_frame, Frame.periodic]
      unfold Reporting.recorded at hQ herror
      dsimp only at hQ herror
      cases hrecord : runtime.policy.recordOutputCompletion t completion with
      | error error =>
        obtain ⟨rfl, hcompletion⟩ := recordOutputCompletion_error hrecord
        rw [hrecord] at herror
        exact herror hcompletion
      | ok policy =>
        rw [hrecord] at hQ
        exact hQ

theorem completeOutput_spec (completion : Except OutputHandlingError OutputHandling) (h : Log m r) (s : Frame m r)
    (Q : Log m r → Frame m r → Except WorkerCoreError Bool → Prop)
    (hQ : ∀ t errors, Q (.call s Op.now t :: h) (s.record t completion errors) (completionResult completion)) :
    Act.wp (completeOutput completion) h s Q := by
  unfold completeOutput recordOutput
  simp only [Act.wp_bind, wp_now]
  intro t
  have hQ := hQ t
  refine reportingRecord_spec t completion _ s _ ?_ ?_
  · simp only [Act.wp_bind, Act.wp_pure]
    rcases completion with error | handling
    · refine recordOperationError_spec _ _ _ _ ?_
      cases error with
      | protocol error => exact hQ _
      | transport error =>
        by_cases hkind : error.kind = .sendRejected
        · simp only [completionResult, hkind, ne_eq, not_true_eq_false, if_false] at hQ
          simp only [nonterminalOperationError, hkind, ne_eq, not_true_eq_false, if_false]
          exact hQ _
        · simp only [completionResult, hkind, ne_eq, not_false_eq_true, if_true] at hQ
          simp only [nonterminalOperationError, hkind, ne_eq, not_false_eq_true, if_true]
          exact hQ _
    · exact hQ s.progress.operationErrors
  · rintro rfl
    simp only [Act.wp_bind]
    exact recordOperationError_spec _ _ _ _ (hQ _)

/-! ## Links, channels and disconnects -/

namespace Frame

def mapHandshake (s : Frame m r) (f : ConnectionSessionId → Handshake → Handshake) : Frame m r :=
  { s with connection := s.connection.map fun work =>
    { work with handshake := work.handshake.map (f work.sessionId) } }

def observeLink (s : Frame m r) : Frame m r := s.mapHandshake fun id handshake => handshake.observeLink id

def observeChannel (s : Frame m r) (channel : HidChannel) : Frame m r :=
  s.mapHandshake fun id handshake => handshake.observeChannel id channel

def connect (s : Frame m r) : Frame m r := { s with connected := true }

end Frame

/-- The error of a tap cut short by a disconnect. -/
def disconnectError : ReportingKind → Option UInt8 → WorkerCommandError
  | .periodic, _ => .disconnected
  | .direct, reason => .direct (.interrupted (.disconnected reason))

namespace Frame

/-- The pending tap gets the error of a disconnect. -/
def cutTap (s : Frame m r) (reason : Option UInt8) : Frame m r :=
  match s.reporting.tap with
  | none => s
  | some _ => ((s.setTap none).answer (.error (disconnectError r reason))).setImmediate

/-- The connection work gets the error of a disconnect. -/
def cutConnection (s : Frame m r) (reason : Option UInt8) : Frame m r :=
  match s.connection with
  | none => s
  | some _ => s.takeConnection.failConnection (.disconnected reason)

def disconnect (s : Frame m r) (reason : Option UInt8) : Frame m r :=
  ((s.cutTap reason).cutConnection reason).endSession

end Frame

theorem endConnection_spec (reason : Option UInt8) (h : Log m r) (s : Frame m r) (hs : s.Sound)
    (Q : Log m r → Frame m r → Unit → Prop)
    (hQ : Q (.emit (s.disconnect reason) (.status (.endSession (s.disconnect reason).lifecycle.state reason)) :: h)
      (s.disconnect reason) ()) :
    Act.wp (endConnection reason (s.reporting.tap.map fun _ => disconnectError r reason)) h
      (s.setTap none) Q := by
  unfold Frame.disconnect at hQ
  unfold endConnection
  cases htap : s.reporting.tap with
  | none =>
    have hcut : s.cutTap reason = s := by
      unfold Frame.cutTap
      rw [htap]
    rw [hcut] at hQ
    rw [Frame.setTap_none s htap]
    simp only [Option.map_none, Act.wp_bind, wp_frame]
    unfold Frame.cutConnection at hQ
    cases hwork : s.connection with
    | none =>
      rw [hwork] at hQ
      exact wp_endSession reason Q hQ
    | some work =>
      rw [hwork] at hQ
      simp only [Act.wp_bind, wp_update]
      exact wp_failConnection _ _ hs.unanswered_of_take (wp_endSession reason Q hQ)
  | some tap =>
    have hpending : s.reporting.hasPending = true := by
      rw [Reporting.hasPending_eq, htap]
      rfl
    have hready := hs.coherent.of_tap hpending
    have hcut : s.cutTap reason = ((s.setTap none).answer (.error (disconnectError r reason))).setImmediate := by
      unfold Frame.cutTap
      rw [htap]
    have hwork : (s.cutTap reason).connection = none := by
      rw [hcut]
      exact hready.connection
    have hnone : (s.setTap none).progress.commandResult = none := hs.unanswered (.inr hpending)
    rw [Frame.cutConnection, hwork, hcut] at hQ
    simp only [Option.map_some, Act.wp_bind]
    refine wp_answer _ _ hnone ?_
    simp only [modifyProgress, wp_update, wp_frame]
    change Act.wp (match s.connection with | none => _ | some _ => _) _ _ _
    rw [hready.connection]
    exact wp_endSession reason Q hQ

/-! ## Events -/

/-- The fields an output report leaves alone. -/
theorem Answered.keeps {channel : HidChannel} {raw : List UInt8} {current : InputState m} {h h' : Log m r}
    {s s' : Frame m r} {completion : Except OutputHandlingError OutputHandling}
    (ha : Answered channel raw current h s h' s' completion) :
    s'.lifecycle = s.lifecycle ∧ s'.sessions = s.sessions ∧ s'.connection = s.connection ∧
      s'.connectionCommandPending = s.connectionCommandPending ∧ s'.connected = s.connected ∧ s'.input = s.input ∧
      s'.reporting = s.reporting ∧ s'.progress = s.progress := by
  cases ha with
  | malformed hparse => exact ⟨rfl, rfl, rfl, rfl, rfl, rfl, rfl, rfl⟩
  | rumble hparse => exact ⟨rfl, rfl, rfl, rfl, rfl, rfl, rfl, rfl⟩
  | unprepared hparse hprepare => exact ⟨rfl, rfl, rfl, rfl, rfl, rfl, rfl, rfl⟩
  | replied hparse hprepare hsent =>
    have hsame := hsent.sameControl
    exact ⟨hsame.lifecycle, hsame.sessions, hsame.connection, hsame.command, hsame.connected, hsame.input,
      hsent.reporting, hsent.progress⟩

inductive EventEffect (event : SessionEvent) (h : Log m r) (s : Frame m r) :
    Log m r → Frame m r → Except WorkerCoreError Bool → Prop
  | dropped (hstale : s.sessions.current ≠ some event.sessionId) :
      EventEffect event h s (.emit s (.processed none) :: h) s (.ok false)
  | connected (hcurrent : s.sessions.current = some event.sessionId) (hevent : event.event = .connected) :
      EventEffect event h s
        (.emit s.connect (.status (.setConnected true)) :: .emit s (.processed (some event)) :: h)
        s.connect.observeLink (.ok true)
  | opened {channel : HidChannel} (hcurrent : s.sessions.current = some event.sessionId)
      (hevent : event.event = .hidChannelOpened channel) :
      EventEffect event h s (.emit s (.processed (some event)) :: h) (s.observeChannel channel) (.ok true)
  | answered {channel : HidChannel} {raw : List UInt8} {held : Option (Tap m)} {h' : Log m r} {s' : Frame m r}
      {completion : Except OutputHandlingError OutputHandling} {t : Duration} {errors : List WorkerOperationError}
      (hcurrent : s.sessions.current = some event.sessionId) (hevent : event.event = .hidOutput channel raw)
      (hheld : held = s.reporting.tap ∨ held = none)
      (hanswered : Answered channel raw s.input (.emit s (.processed (some event)) :: h) (s.setTap held) h' s'
        completion) :
      EventEffect event h s (.call (s'.setTap s.reporting.tap) Op.now t :: h')
        ((s'.setTap s.reporting.tap).record t completion errors) (completionResult completion)
  | disconnected {reason : Option UInt8} (hcurrent : s.sessions.current = some event.sessionId)
      (hevent : event.event = .disconnected reason) :
      EventEffect event h s
        (.emit (s.disconnect reason) (.status (.endSession .open reason)) :: .emit s (.processed (some event)) :: h)
        (s.disconnect reason) (.ok false)

theorem Frame.setTap_tap (s : Frame m r) : s.setTap s.reporting.tap = s := by
  obtain ⟨core, progress⟩ := s
  obtain ⟨lifecycle, input, reporting, rest⟩ := core
  cases reporting with
  | periodic runtime =>
    obtain ⟨policy, _ | ⟨⟨released, firstError⟩, releaseAt⟩⟩ := runtime
    · rfl
    · rfl
  | direct runtime =>
    obtain ⟨_ | ⟨released, releaseAt⟩⟩ := runtime
    · rfl
    · rfl

@[simp] theorem Frame.setTap_setTap (s : Frame m r) (tap tap' : Option (Tap m)) :
    (s.setTap tap).setTap tap' = s.setTap tap' := by
  obtain ⟨core, progress⟩ := s
  obtain ⟨lifecycle, input, reporting, rest⟩ := core
  cases reporting
  · rfl
  · rfl

/-- Disconnecting a live worker leaves it open. -/
theorem disconnect_state {s : Frame m r} (hs : s.lifecycle = ⟨.connecting⟩ ∨ s.lifecycle = ⟨.ready⟩)
    (reason : Option UInt8) : (s.disconnect reason).lifecycle = ⟨.open⟩ := by
  have hkeep : ((s.cutTap reason).cutConnection reason).lifecycle = s.lifecycle := by
    have hcut : (s.cutTap reason).lifecycle = s.lifecycle := by
      unfold Frame.cutTap
      split
      · rfl
      · rfl
    unfold Frame.cutConnection
    split
    · exact hcut
    · simp only [Frame.failConnection, Frame.note, Frame.lifecycle_completeFailure]
      exact hcut
  change LifecycleStateMachine.markConnectionEnded _ = _
  rw [hkeep]
  rcases hs with hs | hs
  · rw [hs]
    rfl
  · rw [hs]
    rfl

/-- An event of the current session that no tap keeps from the worker. -/
theorem passthrough_spec {event : SessionEvent} {h : Log m r} {s : Frame m r} (hs : s.Sound)
    (hcurrent : s.sessions.current = some event.sessionId)
    (htap : ∀ reason, event.event = .disconnected reason → s.reporting.tap = none) :
    Act.wp (applyReported (.passthrough event.event)) (.emit s (.processed (some event)) :: h) s
      (EventEffect event h s) := by
  cases hevent : event.event with
  | connected => exact .connected hcurrent hevent
  | hidChannelOpened channel => exact .opened hcurrent hevent
  | hidOutput channel raw =>
    unfold applyReported
    simp only [Act.wp_bind, wp_snapshot]
    refine Act.wp_mono (handleOutput_spec channel raw s.input _ s) ?_
    intro h' s' completion hanswered
    refine completeOutput_spec completion h' s' _ ?_
    intro t errors
    have hsame : s'.setTap s.reporting.tap = s' := by
      rw [← hanswered.keeps.2.2.2.2.2.2.1]
      exact s'.setTap_tap
    have hheld : Answered channel raw s.input (.emit s (.processed (some event)) :: h) (s.setTap s.reporting.tap) h' s'
        completion := by
      rw [Frame.setTap_tap]
      exact hanswered
    have heffect : EventEffect event h s (.call (s'.setTap s.reporting.tap) Op.now t :: h')
        ((s'.setTap s.reporting.tap).record t completion errors) (completionResult completion) :=
      .answered hcurrent hevent (.inl rfl) hheld
    rw [hsame] at heffect
    exact heffect
  | disconnected reason =>
    have hnone := htap reason hevent
    have hspec := endConnection_spec reason (.emit s (.processed (some event)) :: h) s hs
      (fun h' s' _ => EventEffect event h s h' s' (.ok false)) (by
        rw [disconnect_state (hs.coherent.of_current hcurrent)]
        exact .disconnected hcurrent hevent)
    rw [hnone, Frame.setTap_none s hnone] at hspec
    unfold applyReported
    rw [Act.wp_bind]
    exact hspec

/-- A disconnect that cuts the pending tap, if any. -/
theorem cut_spec {event : SessionEvent} {h : Log m r} {s : Frame m r} (hs : s.Sound) {reason : Option UInt8}
    (hcurrent : s.sessions.current = some event.sessionId) (hevent : event.event = .disconnected reason) :
    Act.wp (applyReported (.disconnected reason (s.reporting.tap.map fun _ => disconnectError r reason)))
      (.emit s (.processed (some event)) :: h) (s.setTap none) (EventEffect event h s) := by
  unfold applyReported
  rw [Act.wp_bind]
  refine endConnection_spec reason _ s hs _ ?_
  rw [disconnect_state (hs.coherent.of_current hcurrent)]
  exact .disconnected hcurrent hevent

theorem applyPeriodic_spec {event : SessionEvent} {h : Log m .periodic} {s : Frame m .periodic} (hs : s.Sound)
    (hcurrent : s.sessions.current = some event.sessionId) :
    Act.wp (applyEvent event.event) (.emit s (.processed (some event)) :: h) s (EventEffect event h s) := by
  unfold applyEvent
  rw [Act.wp_bind]
  change Act.wp (Periodic.handleEvent event.event) _ _ _
  have hpass := passthrough_spec (h := h) hs hcurrent
  unfold Periodic.handleEvent
  cases hevent : event.event with
  | disconnected reason =>
    simp only [Act.wp_bind, wp_frame, wp_update, Frame.withPeriodic_noTap]
    have hcut := cut_spec (h := h) hs hcurrent hevent
    rw [Frame.periodicTap_eq, Option.map_map] at hcut
    exact hcut
  | connected =>
    rw [hevent] at hpass
    exact hpass (by simp)
  | hidChannelOpened channel =>
    rw [hevent] at hpass
    exact hpass (by simp)
  | hidOutput channel raw =>
    rw [hevent] at hpass
    exact hpass (by simp)

theorem applyDirect_spec {event : SessionEvent} {h : Log m .direct} {s : Frame m .direct} (hs : s.Sound)
    (hcurrent : s.sessions.current = some event.sessionId) :
    Act.wp (applyEvent event.event) (.emit s (.processed (some event)) :: h) s (EventEffect event h s) := by
  unfold applyEvent
  rw [Act.wp_bind]
  change Act.wp (Direct.handleEvent event.event) _ _ _
  have hpass := passthrough_spec (h := h) hs hcurrent
  unfold Direct.handleEvent
  rw [Act.wp_bind, wp_frame]
  cases hpending : s.direct.pendingTap with
  | none => exact hpass fun _ _ => by rw [Frame.directTap_eq, hpending]; rfl
  | some tap =>
    have htap : s.reporting.tap = some ⟨tap.released, tap.releaseAt, none⟩ := by
      rw [Frame.directTap_eq, hpending]
      rfl
    have hback : (s.setTap none).withDirect { (s.setTap none).direct with pendingTap := some tap } = s := by
      rw [Frame.withDirect_pendingTap, Frame.setTap_setTap, ← htap, Frame.setTap_tap]
    simp only [Act.wp_bind, wp_update, Frame.withDirect_noTap]
    unfold Direct.handleTapEvent
    cases hevent : event.event with
    | connected =>
      rw [hevent] at hpass
      simp only [Act.wp_bind, wp_update, hback]
      exact hpass (by simp)
    | hidChannelOpened channel =>
      rw [hevent] at hpass
      simp only [Act.wp_bind, wp_update, hback]
      exact hpass (by simp)
    | disconnected reason =>
      have hcut := cut_spec (h := h) hs hcurrent hevent
      rw [htap] at hcut
      exact hcut
    | hidOutput channel raw =>
      simp only [Act.wp_bind, Direct.stepTap, wp_snapshot]
      refine Act.wp_mono (handleOutput_spec channel raw s.input _ (s.setTap none)) ?_
      intro h' s' completion hanswered
      simp only [Act.wp_pure, Act.wp_bind, wp_update]
      change Act.wp (completeOutput completion) h' (s'.withDirect { s'.direct with pendingTap := some tap }) _
      rw [Frame.withDirect_pendingTap, ← htap]
      refine completeOutput_spec completion h' _ _ ?_
      intro t errors
      exact .answered hcurrent hevent (.inr rfl) hanswered

theorem handleEvent_spec (event : SessionEvent) (h : Log m r) (s : Frame m r) (hs : s.Sound) :
    Act.wp (handleEvent event) h s (EventEffect event h s) := by
  unfold handleEvent
  rw [Act.wp_bind, wp_frame]
  by_cases hcurrent : s.sessions.current = some event.sessionId
  · have htake : s.sessions.takeCurrent event = some event.event := by
      unfold ConnectionSessions.takeCurrent
      rw [if_pos hcurrent.symm]
    rw [htake]
    simp only [Act.wp_bind, wp_processed]
    cases r with
    | periodic => exact applyPeriodic_spec hs hcurrent
    | direct => exact applyDirect_spec hs hcurrent
  · have htake : s.sessions.takeCurrent event = none := by
      unfold ConnectionSessions.takeCurrent
      rw [if_neg (Ne.symm hcurrent)]
    rw [htake]
    exact .dropped hcurrent

end Swbt
