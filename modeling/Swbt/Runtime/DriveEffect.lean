import Swbt.Runtime.Coherence
/-!
# What driving a connection can do

`DriveEffect` sums up `drive_connection`: nothing to drive, an aborted
connection, a terminal error, a connection that stays pending, or Ready.
-/

set_option autoImplicit false

open Effects

namespace Swbt

variable {m : ControllerKind} {r : ReportingKind}

/-! ## The handshake's part -/

/-- `u64::saturating_add`. -/
def saturatingAdd (a b : UInt64) : UInt64 := if a + b < a then UInt64.ofNat (2 ^ 64 - 1) else a + b

/-- The frame after a handshake step is noted in the progress. -/
def Frame.noteHandshake (s : Frame m r) : HandshakeProgress → Frame m r
  | .waitingUntil deadline =>
    { s with progress := { s.progress with nextDeadline := minimumDeadline s.progress.nextDeadline (some deadline) } }
  | .bootstrapAttempted result skipped =>
    let s := { s with progress :=
      { s.progress with skippedDeadlines := saturatingAdd s.progress.skippedDeadlines skipped } }
    match result with
    | .ok () => s
    | .error error => if error.kind = .sendRejected then s.note (.output (.transport error)) else s
  | .staleSession | .waitingForTopology | .subcommandObserved => s

/-- The actions counted for a handshake step, or the terminal error in it. -/
def HandshakeProgress.outcome : HandshakeProgress → Except WorkerCoreError Nat
  | .bootstrapAttempted result _ =>
    match result with
    | .ok () => .ok 1
    | .error error => if error.kind = .sendRejected then .ok 1 else .error (.transport error)
  | .waitingUntil _ | .staleSession | .waitingForTopology | .subcommandObserved => .ok 0

theorem noteHandshakeProgress_spec (progress : HandshakeProgress) (h : Log m r) (s : Frame m r)
    (Q : Log m r → Frame m r → Except WorkerCoreError Nat → Prop) (hQ : Q h (s.noteHandshake progress) progress.outcome) :
    Act.wp (noteHandshakeProgress progress) h s Q := by
  unfold noteHandshakeProgress
  cases progress with
  | waitingUntil deadline => exact hQ
  | staleSession => exact hQ
  | waitingForTopology => exact hQ
  | subcommandObserved => exact hQ
  | bootstrapAttempted result skipped =>
    cases result with
    | ok accepted => exact hQ
    | error error =>
      unfold HandshakeProgress.outcome Frame.noteHandshake at hQ
      dsimp only at hQ ⊢
      rw [Act.wp_bind]
      split
      · rename_i hkind
        rw [if_pos hkind, if_pos hkind] at hQ
        exact hQ
      · rename_i hkind
        rw [if_neg hkind, if_neg hkind] at hQ
        exact hQ

/-- The handshake's part of a drive, in a frame that no longer holds the work. -/
inductive HandshakeDriven (work : ConnectionWork) (t : Duration) (h : Log m r) (s : Frame m r) :
    Log m r → Frame m r → Except WorkerCoreError Nat × ConnectionWork → Prop
  | collected (hnone : work.handshake = none) : HandshakeDriven work t h s h s (.ok 0, work)
  | stepped {handshake handshake' : Handshake} {progress : HandshakeProgress} {h' : Log m r} {s' : Frame m r}
      (hsome : work.handshake = some handshake)
      (heffect : HandshakeEffect handshake t h s h' s' (.ok progress, handshake')) :
      HandshakeDriven work t h s h' (s'.noteHandshake progress)
        (progress.outcome, { work with handshake := some handshake' })
  | overflow {handshake handshake' : Handshake} {error : HandshakeError} {h' : Log m r} {s' : Frame m r}
      (hsome : work.handshake = some handshake)
      (heffect : HandshakeEffect handshake t h s h' s' (.error error, handshake')) :
      HandshakeDriven work t h s h' s' (.error (.handshake error), { work with handshake := some handshake' })

/-- The handshake sends at most one neutral report. -/
theorem HandshakeDriven.sends {work : ConnectionWork} {t : Duration} {a : Except WorkerCoreError Nat × ConnectionWork}
    {h h' : Log m r} {s s' : Frame m r} (hd : HandshakeDriven work t h s h' s' a) :
    h' = h ∨ ∃ s₁ result, InputSent .neutral (protocolTimestamp t) h s h' s₁ result := by
  cases hd with
  | collected hnone => exact .inl rfl
  | overflow hsome heffect =>
    cases heffect
    exact .inl rfl
  | stepped hsome heffect =>
    cases heffect with
    | attempted hattempting hscheduled hsent => exact .inr ⟨_, _, hsent⟩
    | stopped hstopped => exact .inl rfl
    | waitingForTopology hrunning htopology => exact .inl rfl
    | observed hrunning htopology haccepted hsatisfied => exact .inl rfl
    | waiting hattempting hretry hlt => exact .inl rfl

theorem driveHandshake_spec {work : ConnectionWork} {id : ConnectionSessionId} (hwork : work.OfSession id)
    (t : Duration) (h : Log m r) (s : Frame m r) :
    Act.wp (driveHandshake work t) h s (HandshakeDriven work t h s) := by
  unfold driveHandshake
  split
  · rename_i hnone
    exact .collected hnone
  · rename_i handshake hsome
    rw [Act.wp_bind]
    refine Act.wp_mono (handshakeStep_spec handshake work.sessionId t h s ?_) ?_
    · rw [hwork.session, hwork.handshake handshake hsome]
    · rintro h' s' ⟨error | progress, handshake'⟩ heffect
      · exact .overflow hsome heffect
      · dsimp only
        rw [Act.wp_bind]
        exact noteHandshakeProgress_spec progress h' s' _ (.stepped hsome heffect)

/-! ## The whole drive -/

def ConnectionWork.evaluated (work : ConnectionWork) (evaluation : Evaluation) : ConnectionWork :=
  { work with readiness := evaluation.readiness, handshake := evaluation.handshake }

namespace Frame

def takeConnection (s : Frame m r) : Frame m r := { s with connection := none }

def putConnection (s : Frame m r) (work : ConnectionWork) : Frame m r := { s with connection := some work }

def markReady (s : Frame m r) : Frame m r := { s with lifecycle := ⟨.ready⟩ }

end Frame

inductive DriveEffect (t : Duration) (h : Log m r) (s : Frame m r) :
    Log m r → Frame m r → Except WorkerCoreError Nat → Prop
  | idle (hnone : s.connection = none) : DriveEffect t h s h s (.ok 0)
  | aborted {work : ConnectionWork} {error : ReadinessError} (hwork : s.connection = some work)
      (hinactive : work.readiness.ensureActive t s.sessions = .error error) :
      DriveEffect t h s
        (.emit (s.takeConnection.abort error) (.status (.endSession .open none)) :: h)
        (s.takeConnection.abort error) (.ok 0)
  | failed {work work' : ConnectionWork} {error : WorkerCoreError} {h' : Log m r} {s' : Frame m r}
      (hwork : s.connection = some work) (hactive : work.readiness.ensureActive t s.sessions = .ok ())
      (hhandshake : HandshakeDriven work t h s.takeConnection h' s' (.error error, work')) :
      DriveEffect t h s h' (s'.putConnection work') (.error error)
  | pending {work work' : ConnectionWork} {actions : Nat} {wait : ReadinessWait} {evaluation : Evaluation}
      {h₁ h₂ : Log m r} {s₁ s₂ : Frame m r}
      (hwork : s.connection = some work) (hactive : work.readiness.ensureActive t s.sessions = .ok ())
      (hhandshake : HandshakeDriven work t h s.takeConnection h₁ s₁ (.ok actions, work'))
      (hevaluated : Evaluated work'.readiness t work'.handshake h₁ s₁ h₂ s₂ evaluation)
      (hresult : evaluation.result = .ok (.pending wait)) :
      DriveEffect t h s h₂ (s₂.putConnection (work'.evaluated evaluation)) (.ok actions)
  | ready {work work' : ConnectionWork} {actions : Nat} {id : ConnectionSessionId} {evaluation : Evaluation}
      {h₁ h₂ : Log m r} {s₁ s₂ : Frame m r}
      (hwork : s.connection = some work) (hactive : work.readiness.ensureActive t s.sessions = .ok ())
      (hhandshake : HandshakeDriven work t h s.takeConnection h₁ s₁ (.ok actions, work'))
      (hevaluated : Evaluated work'.readiness t work'.handshake h₁ s₁ h₂ s₂ evaluation)
      (hresult : evaluation.result = .ok (.ready id)) :
      DriveEffect t h s (.emit s₂.markReady (.status (.setLifecycle .ready)) :: h₂)
        (s₂.markReady.complete (.ok ())) (.ok (actions + 1))
  | evaluationFailed {work work' : ConnectionWork} {actions : Nat} {error : ReadinessError} {evaluation : Evaluation}
      {h₁ h₂ : Log m r} {s₁ s₂ : Frame m r}
      (hwork : s.connection = some work) (hactive : work.readiness.ensureActive t s.sessions = .ok ())
      (hhandshake : HandshakeDriven work t h s.takeConnection h₁ s₁ (.ok actions, work'))
      (hevaluated : Evaluated work'.readiness t work'.handshake h₁ s₁ h₂ s₂ evaluation)
      (hresult : evaluation.result = .error error) :
      DriveEffect t h s (.emit (s₂.abort error) (.status (.endSession .open none)) :: h₂) (s₂.abort error)
        (.ok actions)

/-- While there is work the session is not Ready, also with the work taken out. -/
theorem IsConnecting.notReady {work : ConnectionWork} {s : Frame m r} (hconnecting : IsConnecting work s.toWorkerCore) :
    s.takeConnection.lifecycle.state ≠ .ready := by
  rw [show s.takeConnection.lifecycle = _ from hconnecting.lifecycle]
  exact nofun

/-! ## What a drive keeps -/

/-- The fields that neither the handshake nor the evaluation touches. -/
structure SameControl (s s' : Frame m r) : Prop where
  lifecycle : s'.lifecycle = s.lifecycle
  sessions : s'.sessions = s.sessions
  connection : s'.connection = s.connection
  command : s'.connectionCommandPending = s.connectionCommandPending
  connected : s'.connected = s.connected
  input : s'.input = s.input
  observed : s'.observed = s.observed
  protocol : s'.protocol = s.protocol
  budget : s'.budget = s.budget
  tap : s'.reporting.tap = s.reporting.tap
  result : s'.progress.commandResult = s.progress.commandResult

namespace SameControl

theorem refl (s : Frame m r) : SameControl s s := ⟨rfl, rfl, rfl, rfl, rfl, rfl, rfl, rfl, rfl, rfl, rfl⟩

theorem trans {s₁ s₂ s₃ : Frame m r} (h₁ : SameControl s₁ s₂) (h₂ : SameControl s₂ s₃) : SameControl s₁ s₃ where
  lifecycle := h₂.lifecycle.trans h₁.lifecycle
  sessions := h₂.sessions.trans h₁.sessions
  connection := h₂.connection.trans h₁.connection
  command := h₂.command.trans h₁.command
  connected := h₂.connected.trans h₁.connected
  input := h₂.input.trans h₁.input
  observed := h₂.observed.trans h₁.observed
  protocol := h₂.protocol.trans h₁.protocol
  budget := h₂.budget.trans h₁.budget
  tap := h₂.tap.trans h₁.tap
  result := h₂.result.trans h₁.result

end SameControl

theorem Sent.sameControl {bytes : List UInt8} {candidate : SenderCommit} {h h' : Log m r} {s s' : Frame m r}
    {result : TransportResult Unit} (hsent : Sent bytes candidate h s h' s' result) : SameControl s s' := by
  cases hsent with
  | accepted => exact ⟨rfl, rfl, rfl, rfl, rfl, rfl, rfl, rfl, rfl, rfl, rfl⟩
  | refused error => exact .refl s

theorem Sent.reporting {bytes : List UInt8} {candidate : SenderCommit} {h h' : Log m r} {s s' : Frame m r}
    {result : TransportResult Unit} (hsent : Sent bytes candidate h s h' s' result) : s'.reporting = s.reporting := by
  cases hsent with
  | accepted => rfl
  | refused error => rfl

theorem Sent.progress {bytes : List UInt8} {candidate : SenderCommit} {h h' : Log m r} {s s' : Frame m r}
    {result : TransportResult Unit} (hsent : Sent bytes candidate h s h' s' result) : s'.progress = s.progress := by
  cases hsent with
  | accepted => rfl
  | refused error => rfl

theorem Frame.noteHandshake_sameControl (s : Frame m r) (progress : HandshakeProgress) :
    SameControl s (s.noteHandshake progress) := by
  unfold Frame.noteHandshake
  cases progress with
  | bootstrapAttempted result skipped =>
    cases result with
    | ok accepted => exact ⟨rfl, rfl, rfl, rfl, rfl, rfl, rfl, rfl, rfl, rfl, rfl⟩
    | error error =>
      dsimp only
      split
      · exact ⟨rfl, rfl, rfl, rfl, rfl, rfl, rfl, rfl, rfl, rfl, rfl⟩
      · exact ⟨rfl, rfl, rfl, rfl, rfl, rfl, rfl, rfl, rfl, rfl, rfl⟩
  | _ => exact ⟨rfl, rfl, rfl, rfl, rfl, rfl, rfl, rfl, rfl, rfl, rfl⟩

@[simp] theorem Frame.reporting_noteHandshake (s : Frame m r) (progress : HandshakeProgress) :
    (s.noteHandshake progress).reporting = s.reporting := by
  unfold Frame.noteHandshake
  cases progress with
  | bootstrapAttempted result skipped =>
    cases result with
    | ok accepted => rfl
    | error error =>
      dsimp only
      split
      · rfl
      · rfl
  | _ => rfl

@[simp] theorem Frame.sender_noteHandshake (s : Frame m r) (progress : HandshakeProgress) :
    (s.noteHandshake progress).sender = s.sender := by
  unfold Frame.noteHandshake
  cases progress with
  | bootstrapAttempted result skipped =>
    cases result with
    | ok accepted => rfl
    | error error =>
      dsimp only
      split
      · rfl
      · rfl
  | _ => rfl

theorem HandshakeEffect.sameControl {handshake : Handshake} {t : Duration} {h h' : Log m r} {s s' : Frame m r}
    {a : Except HandshakeError HandshakeProgress × Handshake} (he : HandshakeEffect handshake t h s h' s' a) :
    SameControl s s' ∧ s'.reporting = s.reporting ∧ a.2.sessionId = handshake.sessionId := by
  cases he with
  | attempted hattempting hscheduled hsent =>
    rename_i skipped scheduler result
    refine ⟨hsent.sameControl, hsent.reporting, ?_⟩
    unfold Handshake.recordBootstrapAttempt
    cases result with
    | error error => rfl
    | ok accepted =>
      dsimp only
      split
      · rfl
      · rfl
  | _ => exact ⟨.refl s, rfl, rfl⟩

theorem HandshakeDriven.sameControl {work : ConnectionWork} {t : Duration} {h h' : Log m r} {s s' : Frame m r}
    {a : Except WorkerCoreError Nat × ConnectionWork} {id : ConnectionSessionId}
    (hd : HandshakeDriven work t h s h' s' a) (hwork : work.OfSession id) :
    SameControl s s' ∧ s'.reporting = s.reporting ∧ a.2.OfSession id ∧ a.2.sessionId = work.sessionId := by
  cases hd with
  | collected hnone => exact ⟨.refl s, rfl, hwork, rfl⟩
  | stepped hsome heffect =>
    obtain ⟨hsame, hreporting, hid⟩ := heffect.sameControl
    refine ⟨hsame.trans (Frame.noteHandshake_sameControl _ _), by simp [hreporting], ⟨hwork.session, hwork.gate, ?_,
      hwork.collected⟩, rfl⟩
    rintro handshake' h
    cases h
    rw [hid, hwork.handshake _ hsome]
  | overflow hsome heffect =>
    obtain ⟨hsame, hreporting, hid⟩ := heffect.sameControl
    refine ⟨hsame, hreporting, ⟨hwork.session, hwork.gate, ?_, hwork.collected⟩, rfl⟩
    rintro handshake' h
    cases h
    rw [hid, hwork.handshake _ hsome]

theorem HandshakeDriven.readiness {work : ConnectionWork} {t : Duration} {h h' : Log m r} {s s' : Frame m r}
    {a : Except WorkerCoreError Nat × ConnectionWork} (hd : HandshakeDriven work t h s h' s' a) :
    a.2.readiness = work.readiness := by
  cases hd with
  | collected hnone => rfl
  | stepped hsome heffect => rfl
  | overflow hsome heffect => rfl

theorem Reporting.tap_started {reporting reporting' : Reporting m r} {session : ProtocolSession} {t : Duration}
    (h : reporting.started session t = .ok reporting') : reporting'.tap = reporting.tap := by
  unfold started at h
  cases reporting with
  | direct runtime =>
    cases h
    rfl
  | periodic runtime =>
    dsimp only at h
    split at h
    · split at h
      · cases h
      · cases h
        rfl
    · cases h
      rfl

/-- A collected handshake is of the gate's session. -/
theorem collectHandshake_ofSession {work : ConnectionWork} {id : ConnectionSessionId} (hwork : work.OfSession id)
    {gate : ReadinessGate} {handshake : Option Handshake}
    (hcollect : work.readiness.collectHandshake work.handshake = .ok (true, gate, handshake)) :
    gate.sessionId = id ∧ gate.operationDeadline = work.readiness.operationDeadline ∧
      (∀ hs, handshake = some hs → hs.sessionId = id) ∧
      ∀ completion, gate.handshake = some completion → completion.sessionId = id := by
  unfold ReadinessGate.collectHandshake at hcollect
  split at hcollect
  · cases hcollect
    exact ⟨hwork.gate, rfl, hwork.handshake, hwork.collected⟩
  · split at hcollect
    · cases hcollect
    · rename_i completion hcompletion
      split at hcollect
      · cases hcollect
      · rename_i hid
        cases hcollect
        refine ⟨hwork.gate, rfl, by simp, ?_⟩
        rintro c hc
        cases hc
        rw [not_not.1 hid, hwork.gate]

theorem Evaluated.sameControl {work : ConnectionWork} {id : ConnectionSessionId} (hwork : work.OfSession id)
    {t : Duration} {h h' : Log m r} {s s' : Frame m r} {evaluation : Evaluation}
    (he : Evaluated work.readiness t work.handshake h s h' s' evaluation) :
    SameControl s s' ∧ s'.sender = s.sender ∧ h' = h ∧ (work.evaluated evaluation).OfSession id := by
  have hstarted : ∀ {reporting : Reporting m r},
      s.reporting.started s.sender.committed.session t = .ok reporting → SameControl s { s with reporting } :=
    fun hstart => ⟨rfl, rfl, rfl, rfl, rfl, rfl, rfl, rfl, rfl, Reporting.tap_started hstart, rfl⟩
  cases he with
  | uncollected hgate hcompletion => exact ⟨.refl s, rfl, rfl, hwork⟩
  | mismatched hgate hcompletion hne => exact ⟨.refl s, rfl, rfl, hwork⟩
  | overflow hcollect hstart =>
    obtain ⟨hg, -, hh, hc⟩ := collectHandshake_ofSession hwork hcollect
    exact ⟨.refl s, rfl, rfl, ⟨hwork.session, hg, hh, hc⟩⟩
  | unready hcollect hstart hready =>
    obtain ⟨hg, -, hh, hc⟩ := collectHandshake_ofSession hwork hcollect
    exact ⟨hstarted hstart, rfl, rfl, ⟨hwork.session, hg, hh, hc⟩⟩
  | heldOff hcollect hstart hready hheld =>
    obtain ⟨hg, -, hh, hc⟩ := collectHandshake_ofSession hwork hcollect
    exact ⟨hstarted hstart, rfl, rfl, ⟨hwork.session, hg, hh, hc⟩⟩
  | ready hcollect hgate hstart hready hheld =>
    obtain ⟨hg, -, hh, hc⟩ := collectHandshake_ofSession hwork hcollect
    refine ⟨hstarted hstart, rfl, rfl, ⟨hwork.session, hg, hh, ?_⟩⟩
    intro completion hnone
    cases hnone

/-! ## The spec -/

/-- A ready evaluation is for the session of the work. -/
theorem Evaluated.ready_id {work : ConnectionWork} {id ready : ConnectionSessionId} (hwork : work.OfSession id)
    {t : Duration} {h h' : Log m r} {s s' : Frame m r} {evaluation : Evaluation}
    (he : Evaluated work.readiness t work.handshake h s h' s' evaluation)
    (hresult : evaluation.result = .ok (.ready ready)) : ready = id := by
  cases he with
  | ready hcollect hgate hstart hready hheld =>
    cases hresult
    exact (collectHandshake_ofSession hwork hcollect).2.2.2 _ hgate
  | _ => cases hresult

theorem Frame.Sound.unanswered_of_take {s : Frame m r} (hs : s.Sound) :
    s.takeConnection.connectionCommandPending.isSome = true → s.takeConnection.progress.commandResult = none :=
  fun hcommand => hs.unanswered (.inl hcommand)

@[simp] theorem Frame.lifecycle_completeFailure (s : Frame m r) (failure : ConnectionCommandFailure) :
    (s.completeFailure failure).lifecycle = s.lifecycle := by
  unfold Frame.completeFailure Frame.complete
  cases s.connectionCommandPending <;> rfl

/-- Ending the session of a connecting worker leaves it open. -/
theorem abort_state {s : Frame m r} (hlifecycle : s.lifecycle = ⟨.connecting⟩) (error : ReadinessError) :
    (s.abort error).lifecycle = ⟨.open⟩ := by
  unfold Frame.abort Frame.failConnection Frame.endSession Frame.note
  simp [LifecycleStateMachine.markConnectionEnded, hlifecycle]

theorem driveConnection_spec (t : Duration) (h : Log m r) (s : Frame m r) (hs : s.Sound) :
    Act.wp (driveConnection t) h s (DriveEffect t h s) := by
  unfold driveConnection
  rw [Act.wp_bind, wp_frame]
  split
  · rename_i hnone
    exact .idle hnone
  · rename_i work hwork
    have hconnecting := hs.coherent.of_connection hwork
    simp only [Act.wp_bind, wp_update, wp_frame]
    split
    · rename_i error hinactive
      rw [Act.wp_bind]
      refine wp_abort error _ hs.unanswered_of_take ?_
      have hstate := abort_state (s := s.takeConnection) hconnecting.lifecycle error
      change DriveEffect t h s (.emit (s.takeConnection.abort error) (.status (.endSession
        (s.takeConnection.abort error).lifecycle.state none)) :: h) (s.takeConnection.abort error) (.ok 0)
      rw [hstate]
      exact .aborted hwork hinactive
    · rename_i hactive
      rw [Act.wp_bind]
      refine Act.wp_mono (driveHandshake_spec hconnecting.work t h s.takeConnection) ?_
      rintro h₁ s₁ ⟨error | actions, work'⟩ hhandshake
      · exact .failed hwork hactive hhandshake
      · obtain ⟨hsame, -, hwork', hid⟩ := hhandshake.sameControl hconnecting.work
        dsimp only
        unfold driveReadiness
        rw [Act.wp_bind]
        refine Act.wp_mono (evaluateReadiness_spec work'.readiness t work'.handshake h₁ s₁ ?_) ?_
        · -- The handshake's part leaves the gate and the sessions alone, so the gate is still active.
          rw [show work'.readiness = work.readiness from hhandshake.readiness, hsame.sessions]
          exact hactive
        · intro h₂ s₂ evaluation hevaluated
          obtain ⟨hsame₂, -, -, hwork₂⟩ := hevaluated.sameControl hwork'
          have hlifecycle : s₂.lifecycle = ⟨.connecting⟩ :=
            (hsame₂.lifecycle.trans hsame.lifecycle).trans hconnecting.lifecycle
          have hunanswered : s₂.connectionCommandPending.isSome = true → s₂.progress.commandResult = none := by
            rw [hsame₂.command, hsame.command, hsame₂.result, hsame.result]
            exact hs.unanswered_of_take
          dsimp only
          split
          · rename_i wait hresult
            exact .pending hwork hactive hhandshake hevaluated hresult
          · rename_i ready hresult
            have hready := hevaluated.ready_id hwork' hresult
            have hmark : (⟨.connecting⟩ : LifecycleStateMachine).markReady = some ⟨.ready⟩ := rfl
            simp only [Act.wp_bind, wp_frame, hlifecycle, hmark]
            -- The gate answers for the session of its own work, so the guard on the id never fails.
            rw [if_neg (not_not.2 (hready.trans hwork'.session.symm))]
            simp only [Act.wp_bind, wp_update, wp_status]
            exact wp_complete _ _ hunanswered (.ready hwork hactive hhandshake hevaluated hresult)
          · rename_i error hresult
            rw [Act.wp_bind]
            refine wp_abort error _ hunanswered ?_
            rw [abort_state hlifecycle error]
            exact .evaluationFailed hwork hactive hhandshake hevaluated hresult

end Swbt
