import Swbt.Runtime.Waiting
/-!
# A worker asleep

A worker that waits for its deadline misses nothing if no step before the
deadline would have done anything. `Rests` says what the last drive of a step
leaves of a connection, and `Rests.drive` what a later drive makes of it.
-/

set_option autoImplicit false

open Effects

namespace Swbt

variable {m : ControllerKind} {r : ReportingKind} {h h₀ h₁ h' : Log m r} {s s₁ s' : Frame m r} {t t₀ : Duration}

/-! ## What a drive leaves -/

/-- The handshake is complete, or waits for its topology or for its next attempt. -/
def Handshake.Rests (handshake : Handshake) (s : Frame m r) : Prop :=
  handshake.bootstrapStopped = false → handshake.topologyReady = true →
    handshake.retry.isSome = true ∧ (handshake.bootstrapAccepted && handshake.satisfied s) = false

/-- What a drive at `t₀` leaves of a connection: its handshake rests, and a gate past its handshake waits for the
protocol or for the end of a holdoff. -/
structure Rests (t₀ : Duration) (s : Frame m r) (work : ConnectionWork) : Prop where
  handshake : ∀ handshake, work.handshake = some handshake → handshake.Rests s
  uncompleted : work.readiness.handshake = none → work.handshake.bind Handshake.completion = none
  heldBack : work.readiness.handshake.isSome = true → s.sender.committed.session.reportMode = some 0x30 →
    ∀ policy, s.reporting.policy = some policy → policy.scheduler = none → (policy.heldOff t₀).isSome = true
  unready : work.readiness.handshake.isSome = true → s.sender.committed.session.protocolReady = true →
    (s.reporting.heldOff t₀).isSome = true

theorem Handshake.Rests.congr {handshake : Handshake} (hrests : handshake.Rests s) (hobserved : s'.observed = s.observed)
    (hready : s'.sender.committed.session.protocolReady = s.sender.committed.session.protocolReady) :
    handshake.Rests s' := by
  intro hrunning htopology
  unfold satisfied
  rw [hobserved, hready]
  exact hrests hrunning htopology

theorem Handshake.rests_stopped {handshake : Handshake} (hstopped : handshake.bootstrapStopped = true) :
    handshake.Rests s := by
  intro hrunning
  exact absurd (hstopped.symm.trans hrunning) (by decide)

/-- A handshake step leaves the handshake at rest. -/
theorem HandshakeEffect.rests {handshake handshake' : Handshake} {progress : HandshakeProgress}
    (he : HandshakeEffect handshake t h s h' s' (.ok progress, handshake')) : handshake'.Rests s' := by
  cases he with
  | stopped hstopped => exact Handshake.rests_stopped hstopped
  | waitingForTopology hrunning htopology =>
    intro _ hup
    exact absurd (htopology.symm.trans hup) (by decide)
  | observed hrunning htopology haccepted hsatisfied => exact Handshake.rests_stopped rfl
  | waiting hattempting hretry hlt =>
    intro _ _
    exact ⟨by rw [hretry]; rfl, hattempting.unsatisfied⟩
  | attempted hattempting hscheduled hsent =>
    rename_i skipped scheduler sent
    rcases sent with error | ⟨⟩
    · obtain rfl : s' = s := by
        cases hsent
        rfl
      intro _ _
      exact ⟨rfl, hattempting.unsatisfied⟩
    · unfold Handshake.recordBootstrapAttempt
      dsimp only
      split
      · exact Handshake.rests_stopped rfl
      · rename_i hunsatisfied
        intro _ _
        exact ⟨rfl, Bool.eq_false_iff.2 hunsatisfied⟩

/-- A holdoff is ahead where the end that is noted is. -/
theorem Reporting.heldOff_eq (reporting : Reporting m r) (t : Duration) :
    reporting.heldOff t = (reporting.policy.map PeriodicPolicy.replyHoldoffUntil).bind (·.filter (t < ·)) := by
  unfold heldOff PeriodicPolicy.heldOff
  rw [Option.bind_map]
  rfl

/-- A collected handshake is in the gate, and gone or left where it was. -/
theorem collectHandshake_gate {gate gate' : ReadinessGate} {handshake handshake' : Option Handshake}
    (hcollect : gate.collectHandshake handshake = .ok (true, gate', handshake')) : gate'.handshake.isSome = true := by
  rcases collectHandshake_cases gate handshake with ⟨-, -, hnot⟩ | ⟨completion, -, -, -, hnot⟩ |
    ⟨other, left, completion, hother, -, hsame⟩
  · rw [hcollect] at hnot
    cases hnot
  · rw [hcollect] at hnot
    cases hnot
  · rw [hcollect] at hsame
    cases hsame
    rw [hother]
    rfl

/-- An evaluation that stays pending leaves the connection at rest. -/
theorem Evaluated.rests {work : ConnectionWork} {evaluation : Evaluation} {wait : ReadinessWait}
    (he : Evaluated work.readiness t work.handshake h s h' s' evaluation)
    (hresult : evaluation.result = .ok (.pending wait))
    (hrests : ∀ handshake, work.handshake = some handshake → handshake.Rests s) :
    Rests t s' (work.evaluated evaluation) := by
  have hleft : ∀ handshake, evaluation.handshake = some handshake → handshake.Rests s := by
    intro handshake hsome
    rcases he.handshake with hsame | hnone
    · exact hrests handshake (hsame.symm.trans hsome)
    · rw [hnone] at hsome
      cases hsome
  have hheld {reporting : Reporting m r} (hstart : s.reporting.started s.sender.committed.session t = .ok reporting)
      (hmode : s.sender.committed.session.reportMode = some 0x30) (policy : PeriodicPolicy)
      (hpolicy : reporting.policy = some policy) (hstopped : policy.scheduler = none) :
      (policy.heldOff t).isSome = true := by
    obtain ⟨until_, hholdoff, hlt⟩ := Reporting.started_asked hstart hmode hpolicy hstopped
    rw [(policy.heldOff_iff t until_).2 ⟨hholdoff, hlt⟩]
    rfl
  cases he with
  | uncollected hgate hcompletion =>
    have hnot : work.readiness.handshake.isSome = true → False := by simp [hgate]
    exact ⟨hleft, fun _ => hcompletion, fun hsome => (hnot hsome).elim, fun hsome => (hnot hsome).elim⟩
  | unready hcollect hstart hready =>
    have hgate := collectHandshake_gate hcollect
    refine ⟨hleft, fun hnone => ?_, fun _ => hheld hstart, fun _ hyes => absurd (hready.symm.trans hyes) (by decide)⟩
    exact absurd (hgate.symm.trans (congrArg Option.isSome hnone)) (by decide)
  | heldOff hcollect hstart hready hholds =>
    have hgate := collectHandshake_gate hcollect
    refine ⟨hleft, fun hnone => ?_, fun _ => hheld hstart, fun _ _ => ?_⟩
    · exact absurd (hgate.symm.trans (congrArg Option.isSome hnone)) (by decide)
    · rw [Reporting.heldOff_eq, Reporting.holdoff_started hstart, ← Reporting.heldOff_eq, hholds]
      rfl
  | _ => cases hresult

theorem HandshakeDriven.rests {work work' : ConnectionWork} {actions : Nat}
    (hd : HandshakeDriven work t h s h' s' (.ok actions, work')) :
    ∀ handshake, work'.handshake = some handshake → handshake.Rests s' := by
  generalize hresult : (Except.ok actions, work') = result at hd
  cases hd with
  | collected hnone =>
    cases hresult
    intro handshake hsome
    rw [hnone] at hsome
    cases hsome
  | overflow hsome heffect => cases hresult
  | stepped hsome heffect =>
    obtain ⟨-, rfl⟩ := Prod.mk.inj hresult
    rintro _ ⟨⟩
    refine heffect.rests.congr (Frame.noteHandshake_sameControl _ _).observed ?_
    rw [Frame.sender_noteHandshake]

/-- The connection of the frame, if it has one, is at rest. -/
def Frame.Rests (t₀ : Duration) (s : Frame m r) : Prop := ∀ work, s.connection = some work → Swbt.Rests t₀ s work

theorem Frame.rests_none (hnone : s.connection = none) : s.Rests t₀ := by
  intro work hwork
  rw [hnone] at hwork
  cases hwork

theorem DriveEffect.rests {actions : Nat} (he : DriveEffect t h s h' s' (.ok actions)) (hs : s.Sound) : s'.Rests t := by
  generalize hresult : (Except.ok actions : Except WorkerCoreError Nat) = result at he
  cases he with
  | idle hnone => exact Frame.rests_none hnone
  | aborted hwork hinactive =>
    have hconnecting := hs.coherent.of_connection hwork
    exact Frame.rests_none (abort_open (s := s.takeConnection) hconnecting.lifecycle rfl _).connection
  | failed hwork hactive hhandshake => cases hresult
  | pending hwork hactive hhandshake hevaluated hpending =>
    cases hresult
    have hrests := hevaluated.rests hpending hhandshake.rests
    rintro work ⟨⟩
    exact ⟨hrests.handshake, hrests.uncompleted, hrests.heldBack, hrests.unready⟩
  | ready hwork hactive hhandshake hevaluated hready =>
    obtain ⟨hsame₁, -, hwork₁, -⟩ := hhandshake.sameControl (hs.coherent.of_connection hwork).work
    obtain ⟨hsame₂, -, -, -⟩ := hevaluated.sameControl hwork₁
    rename_i s₂
    exact Frame.rests_none ((s₂.markReady.complete_keeps _).2.2.2.2.2.2.2.trans (hsame₁.trans hsame₂).connection)
  | evaluationFailed hwork hactive hhandshake hevaluated herror =>
    have hconnecting := hs.coherent.of_connection hwork
    obtain ⟨hsame₁, -, hwork₁, -⟩ := hhandshake.sameControl hconnecting.work
    obtain ⟨hsame₂, -, -, -⟩ := hevaluated.sameControl hwork₁
    have hsame := hsame₁.trans hsame₂
    exact Frame.rests_none (abort_open (hsame.lifecycle.trans hconnecting.lifecycle) hsame.connection _).connection

/-! ## What a due phase leaves -/

/-- Nothing that a gate waits for has changed, except that the schedule may have been started. -/
theorem Rests.congr {work : ConnectionWork} (hrests : Rests t₀ s work) (hobserved : s'.observed = s.observed)
    (hmode : s'.sender.committed.session.reportMode = s.sender.committed.session.reportMode)
    (hready : s'.sender.committed.session.protocolReady = s.sender.committed.session.protocolReady)
    (hholdoff : s'.reporting.policy.map PeriodicPolicy.replyHoldoffUntil =
      s.reporting.policy.map PeriodicPolicy.replyHoldoffUntil)
    (hscheduler : ∀ policy', s'.reporting.policy = some policy' → policy'.scheduler = none →
      ∃ policy, s.reporting.policy = some policy ∧ policy.scheduler = none) : Rests t₀ s' work where
  handshake handshake hsome := (hrests.handshake handshake hsome).congr hobserved hready
  uncompleted := hrests.uncompleted
  heldBack hgate hreport policy' hpolicy' hstopped' := by
    obtain ⟨policy, hpolicy, hstopped⟩ := hscheduler policy' hpolicy' hstopped'
    have hheld := hrests.heldBack hgate (hmode.symm.trans hreport) policy hpolicy hstopped
    rw [hpolicy', hpolicy] at hholdoff
    have hsame : policy'.replyHoldoffUntil = policy.replyHoldoffUntil := Option.some.inj hholdoff
    unfold PeriodicPolicy.heldOff at hheld ⊢
    rw [hsame]
    exact hheld
  unready hgate hprotocol := by
    rw [Reporting.heldOff_eq, hholdoff, ← Reporting.heldOff_eq]
    exact hrests.unready hgate (hready.symm.trans hprotocol)

theorem Rests.of_fields {work : ConnectionWork} (hrests : Rests t₀ s work) (hobserved : s'.observed = s.observed)
    (hsender : s'.sender = s.sender) (hreporting : s'.reporting = s.reporting) : Rests t₀ s' work := by
  refine hrests.congr hobserved ?_ ?_ ?_ ?_
  · rw [hsender]
  · rw [hsender]
  · rw [hreporting]
  · rw [hreporting]
    exact fun policy hpolicy hstopped => ⟨policy, hpolicy, hstopped⟩

theorem Frame.Rests.of_core (hrests : s.Rests t₀) (hcore : s'.toWorkerCore = s.toWorkerCore) : s'.Rests t₀ := by
  intro work hwork
  exact (hrests work ((congrArg WorkerCore.connection hcore).symm.trans hwork)).of_fields
    (congrArg WorkerCore.observed hcore) (congrArg WorkerCore.sender hcore) (congrArg WorkerCore.reporting hcore)

/-- Setting another schedule leaves the connection at rest. -/
theorem Rests.setPolicy {work : ConnectionWork} {policy : PeriodicPolicy} (hrests : Rests t₀ s work)
    (hpolicy : s.reporting.policy = some policy) (scheduler : ReportScheduler) :
    Rests t₀ (s.setPolicy { policy with scheduler := some scheduler }) work := by
  have hset := Reporting.policy_withPolicy hpolicy { policy with scheduler := some scheduler }
  refine hrests.congr rfl rfl rfl ?_ ?_
  · rw [Frame.setPolicy, hset, hpolicy]
    rfl
  · intro policy' hpolicy' hstopped
    rw [Frame.setPolicy, hset] at hpolicy'
    cases hpolicy'
    cases hstopped

/-- A report that is sent leaves the connection at rest. -/
theorem Rests.sent {work : ConnectionWork} {state : InputState m} {nowNs : UInt64} {result : TransportResult Unit}
    (hrests : Rests t₀ s work) (hsent : InputSent state nowNs h s h' s' result) : Rests t₀ s' work := by
  unfold InputSent at hsent
  cases hsent with
  | refused error => exact hrests
  | accepted => exact hrests.congr rfl rfl rfl rfl fun policy hpolicy hstopped => ⟨policy, hpolicy, hstopped⟩

theorem DueEffect.rests {due : ReportingDue} (he : DueEffect t h s h' s' due) (hs : s.Sound) (hrests : s.Rests t₀) :
    (s'.recordDue due).Rests t₀ := by
  refine Frame.Rests.of_core (s := s') ?_ (s'.recordDue_keeps due)
  have hconnection : s'.connection = s.connection := by
    rw [← he.connection]
    exact (congrArg WorkerCore.connection (s'.recordDue_keeps due)).symm
  intro work hwork
  have hbefore : s.connection = some work := hconnection.symm.trans hwork
  have hrests := hrests work hbefore
  cases he with
  | quiet htap hpolicy => exact hrests
  | failed hpolicy herror => exact hrests
  | backpressured htap hpolicy hticks => exact hrests.setPolicy hpolicy _
  | automatic hpolicy hticks hsent herrors => exact (hrests.setPolicy hpolicy _).sent hsent
  | released htap hdue hreleased =>
    have hpending := (hs.coherent.of_connection hbefore).noTap
    rw [Reporting.hasPending_eq, htap] at hpending
    cases hpending

/-- A step that goes on leaves the connection at rest. -/
theorem Tail.rests {R : LogEvent m r → Prop} {step : WorkerStep} (htail : Tail R t h s h' s' step) (hs : s.Sound)
    (hgoes : step.goesOn = true) : s'.Rests t := by
  cases htail with
  | closed hrequest hends => exact absurd (hends.symm.trans hgoes) (by decide)
  | driveFailed hdrive hfail => exact absurd (hfail.halts.symm.trans hgoes) (by decide)
  | driven hdrive hskip => exact (hdrive.rests hs).of_core rfl
  | dueFailed hdrive hallowed hdue hterminal hfail => exact absurd (hfail.halts.symm.trans hgoes) (by decide)
  | due hdrive hallowed hdue =>
    rename_i h₁ h₂ s₁ s₂ actions due
    have hsound : (s₁.countActions actions).Sound := ((Move.drive hdrive).sound hs).congr rfl rfl
    have hrests : (s₁.countActions actions).Rests t := (hdrive.rests hs).of_core rfl
    exact (hdue.1.rests hsound hrests).of_core rfl

/-! ## How every step ends -/

/-- A phase within a step that may have an end of its own. -/
theorem given_phase {R : LogEvent m r → Prop} {x : Worker m r (Option WorkerStep)}
    {f : Option WorkerStep → Worker m r WorkerStep} {Q : Log m r → Frame m r → WorkerStep → Prop}
    (hx : Act.wp x h s (PhaseEffect h s)) (hexit : ∀ step, f (some step) = pure step)
    (hhalts : ∀ h' s' step, step.goesOn = false → Q h' s' step)
    (hgo : ∀ h' s', s'.Sound → Act.given R (f none) h' s' Q) : Act.given R (x >>= f) h s Q := by
  rw [Act.given_bind]
  refine Act.given_mono (Act.given_of_wp hx) ?_
  intro h' s' a hphase
  cases hphase with
  | running hpath hsound => exact hgo h' s' hsound
  | closed hpath hsound₁ hlast hsound hclose =>
    rw [hexit]
    exact hhalts _ _ _ hclose.halts
  | failed hpath hsound₁ hmove hsound hfail =>
    rw [hexit]
    exact hhalts _ _ _ hfail.halts

/-- A step at `t` halts the worker, or comes to its last drive and what is due after it. -/
theorem last_spec (hs : Coherent s.toWorkerCore) : Act.given (AtTime t) stepRuntime h s fun h' s' step =>
    step.goesOn = false ∨ ∃ h₁ s₁, s₁.Sound ∧ Tail (AtTime t) t h₁ s₁ h' s' step := by
  have hfresh : s.fresh.Sound := ⟨hs, fun _ => rfl⟩
  unfold stepRuntime modifyProgress
  rw [Act.given_bind, given_update, Act.given_bind]
  refine given_closeIfRequested (fun _ => id) hfresh _ ?_ (fun _ _ _ _ _ hends => .inl hends)
  refine given_phase (commandPhase_spec _ s.fresh hfresh rfl) (fun _ => rfl) (fun _ _ _ => .inl) ?_
  intro h₂ s₂ hs₂
  unfold stepAfterCommand
  rw [Act.given_bind]
  refine Act.given_mono (Act.given_of_wp (markImmediate_spec h₂ s₂ hs₂)) ?_
  rintro h₃ s₃ - ⟨-, hs₃⟩
  rw [Act.given_bind, given_frame]
  refine given_phase (pollBatches_spec _ h₃ s₃ hs₃) (fun _ => rfl) (fun _ _ _ => .inl) ?_
  intro h₄ s₄ hs₄
  refine Act.given_mono (stepTail_spec (fun _ => id) hs₄) ?_
  intro h' s' step htail
  exact .inr ⟨h₄, s₄, hs₄, htail⟩

/-! ## A later drive -/

/-- A schedule that has its attempt ahead makes none. -/
theorem Handshake.Rests.early {handshake : Handshake} (hrests : handshake.Rests s)
    (hattempting : handshake.Attempting s) (hlater : Later t handshake.nextDeadline) :
    ∃ before, handshake.retry = some before ∧ before.step t = .ok (.notDue, before) := by
  obtain ⟨before, hretry⟩ := Option.isSome_iff_exists.1 (hrests hattempting.running hattempting.topology).1
  unfold nextDeadline at hlater
  rw [if_neg (by simp [hattempting.running]), hretry] at hlater
  exact ⟨before, hretry, if_pos ((later_some t _).1 hlater)⟩

theorem HandshakeEffect.idle {handshake : Handshake} {a : Except HandshakeError HandshakeProgress × Handshake}
    (he : HandshakeEffect handshake t h s h' s' a) (hrests : handshake.Rests s) (hlater : Later t handshake.nextDeadline) :
    h' = h ∧ s' = s ∧ ∃ progress, a = (.ok progress, handshake) ∧ progress.outcome = .ok 0 := by
  cases he with
  | stopped hstopped => exact ⟨rfl, rfl, _, rfl, rfl⟩
  | waitingForTopology hrunning htopology => exact ⟨rfl, rfl, _, rfl, rfl⟩
  | waiting hattempting hretry hlt => exact ⟨rfl, rfl, _, rfl, rfl⟩
  | observed hrunning htopology haccepted hsatisfied =>
    have hnot := (hrests hrunning htopology).2
    rw [haccepted, hsatisfied] at hnot
    cases hnot
  | overflow hattempting herror =>
    obtain ⟨before, hretry, hearly⟩ := hrests.early hattempting hlater
    rcases herror with ⟨hnone, -⟩ | ⟨other, hother, hstep⟩
    · rw [hretry] at hnone
      cases hnone
    · rw [hretry] at hother
      cases hother
      rw [hearly] at hstep
      cases hstep
  | attempted hattempting hscheduled hsent =>
    obtain ⟨before, hretry, hearly⟩ := hrests.early hattempting hlater
    rcases hscheduled with ⟨hnone, -⟩ | ⟨other, hother, hstep⟩
    · rw [hretry] at hnone
      cases hnone
    · rw [hretry] at hother
      cases hother
      rw [hearly] at hstep
      cases hstep

theorem HandshakeDriven.idle {work : ConnectionWork} {a : Except WorkerCoreError Nat × ConnectionWork}
    (hd : HandshakeDriven work t h s h' s' a) (hrests : ∀ handshake, work.handshake = some handshake → handshake.Rests s)
    (hlater : Later t (work.handshake.bind Handshake.nextDeadline)) :
    h' = h ∧ s'.toWorkerCore = s.toWorkerCore ∧ s'.progress.commandResult = s.progress.commandResult ∧
      a = (.ok 0, work) := by
  cases hd with
  | collected hnone => exact ⟨rfl, rfl, rfl, rfl⟩
  | stepped hsome heffect =>
    rw [hsome] at hlater
    obtain ⟨rfl, rfl, progress, hprogress, hactions⟩ := heffect.idle (hrests _ hsome) hlater
    cases hprogress
    refine ⟨rfl, (Frame.noteHandshake_waits (t := t) _ hactions).1, (Frame.noteHandshake_sameControl _ _).result, ?_⟩
    rw [hactions, ← hsome]
  | overflow hsome heffect =>
    rw [hsome] at hlater
    obtain ⟨-, -, progress, hprogress, -⟩ := heffect.idle (hrests _ hsome) hlater
    cases hprogress

/-- The schedule is left alone where it runs, or where it is not to be started. -/
theorem Reporting.started_idle {reporting : Reporting m r} {session : ProtocolSession}
    (hidle : session.reportMode = some 0x30 → ∀ policy, reporting.policy = some policy → policy.scheduler = none →
      (policy.heldOff t).isSome = true) : reporting.started session t = .ok reporting := by
  unfold started
  cases reporting with
  | direct runtime => rfl
  | periodic runtime =>
    dsimp only
    by_cases hmode : session.reportMode = some 0x30
    · rw [if_pos hmode]
      unfold PeriodicPolicy.startWhenUnheld
      cases hheld : runtime.policy.heldOff t with
      | some until_ => rfl
      | none =>
        cases hscheduler : runtime.policy.scheduler with
        | some scheduler => rfl
        | none =>
          have hsome := hidle hmode runtime.policy rfl hscheduler
          rw [hheld] at hsome
          cases hsome
    · rw [if_neg hmode]

/-- Everything for Ready is there at `t`. -/
def ReadyBy (t : Duration) (s : Frame m r) (work : ConnectionWork) : Prop :=
  work.readiness.handshake.isSome = true ∧ s.sender.committed.session.protocolReady = true ∧ s.reporting.heldOff t = none

theorem Frame.putConnection_core {work : ConnectionWork} (hcore : s'.toWorkerCore = s.takeConnection.toWorkerCore)
    (hwork : s.connection = some work) : (s'.putConnection work).toWorkerCore = s.toWorkerCore := by
  change { s'.toWorkerCore with connection := some work } = _
  rw [hcore, ← hwork]
  rfl

theorem IsConnecting.active {work : ConnectionWork} {core : WorkerCore m r} (hconnecting : IsConnecting work core)
    (hlt : t < work.readiness.operationDeadline) : work.readiness.ensureActive t core.sessions = .ok () := by
  have hcurrent : core.sessions.current = some work.readiness.sessionId := by
    rw [hconnecting.current, hconnecting.work.gate]
  unfold ReadinessGate.ensureActive ReadinessGate.ensureCurrent ReadinessGate.ensureBeforeTimeout
  rw [if_pos hcurrent, if_pos hlt]
  rfl

/-- What a gate at rest holds, it holds before and after it collects. -/
theorem collectHandshake_rests {work : ConnectionWork} {gate : ReadinessGate} {handshake : Option Handshake}
    (hrests : work.readiness.handshake = none → work.handshake.bind Handshake.completion = none)
    (hcollect : work.readiness.collectHandshake work.handshake = .ok (true, gate, handshake)) :
    work.readiness.handshake.isSome = true ∧ gate = work.readiness ∧ handshake = work.handshake := by
  unfold ReadinessGate.collectHandshake at hcollect
  split at hcollect
  · rename_i hgate
    cases hcollect
    exact ⟨hgate, rfl, rfl⟩
  · rename_i hgate
    rw [hrests (by simpa using hgate)] at hcollect
    cases hcollect

/-- An evaluation of a connection at rest changes nothing, or finds the worker ready. -/
theorem Evaluated.idle {work : ConnectionWork} {evaluation : Evaluation}
    (he : Evaluated work.readiness t work.handshake h s h' s' evaluation) (hrests : Rests t₀ s work)
    (hstarted : work.readiness.handshake.isSome = true →
      s.reporting.started s.sender.committed.session t = .ok s.reporting) :
    (ReadyBy t s work ∧ ∃ id, evaluation.result = .ok (.ready id)) ∨
      (¬ ReadyBy t s work ∧ s' = s ∧ work.evaluated evaluation = work ∧ ∃ wait, evaluation.result = .ok (.pending wait)) := by
  cases he with
  | uncollected hgate hcompletion =>
    refine .inr ⟨?_, rfl, rfl, _, rfl⟩
    rintro ⟨hsome, -⟩
    rw [hgate] at hsome
    cases hsome
  | mismatched hgate hcompletion hne =>
    rw [hrests.uncompleted hgate] at hcompletion
    cases hcompletion
  | overflow hcollect hstart =>
    obtain ⟨hgate, -⟩ := collectHandshake_rests hrests.uncompleted hcollect
    rw [hstarted hgate] at hstart
    cases hstart
  | unready hcollect hstart hready =>
    obtain ⟨hgate, rfl, rfl⟩ := collectHandshake_rests hrests.uncompleted hcollect
    rw [hstarted hgate] at hstart
    cases hstart
    refine .inr ⟨?_, rfl, rfl, _, rfl⟩
    rintro ⟨-, hyes, -⟩
    rw [hready] at hyes
    cases hyes
  | heldOff hcollect hstart hready hheld =>
    obtain ⟨hgate, rfl, rfl⟩ := collectHandshake_rests hrests.uncompleted hcollect
    rw [hstarted hgate] at hstart
    cases hstart
    refine .inr ⟨?_, rfl, rfl, _, rfl⟩
    rintro ⟨-, -, hnone⟩
    rw [hheld] at hnone
    cases hnone
  | ready hcollect hgate hstart hready hheld =>
    obtain ⟨hcollected, -⟩ := collectHandshake_rests hrests.uncompleted hcollect
    exact .inl ⟨⟨hcollected, hready, hheld⟩, _, rfl⟩

/-- Before its deadline, a worker starts no schedule that its last step has not. -/
theorem Rests.started {work : ConnectionWork} (hrests : Rests t₀ s work) (hlater : Later t s.reporting.nextDeadline)
    (hgate : work.readiness.handshake.isSome = true) :
    s.reporting.started s.sender.committed.session t = .ok s.reporting := by
  refine Reporting.started_idle ?_
  intro hmode policy hpolicy hstopped
  obtain ⟨until_, hheld⟩ := Option.isSome_iff_exists.1 (hrests.heldBack hgate hmode policy hpolicy hstopped)
  have hholdoff := ((policy.heldOff_iff t₀ until_).1 hheld).1
  have hahead := ((later_reporting _).1 hlater).2 policy hpolicy
  rw [PeriodicPolicy.reported_stopped hstopped] at hahead
  rw [(policy.heldOff_iff t until_).2 ⟨hholdoff, hahead until_ hholdoff⟩]
  rfl

/-- What a drive at `t` makes of a connection at rest: nothing before the reported deadline, unless the worker is ready. -/
theorem Rests.drive {work : ConnectionWork} {result : Except WorkerCoreError Nat} (hrests : Rests t₀ s work)
    (he : DriveEffect t h s h' s' result) (hs : s.Sound) (hwork : s.connection = some work)
    (hlater : Later t s.nextDeadline) :
    (ReadyBy t s work ∧ s'.connection = none ∧ ∃ actions, result = .ok actions) ∨
      (¬ ReadyBy t s work ∧ h' = h ∧ s'.toWorkerCore = s.toWorkerCore ∧
        s'.progress.commandResult = s.progress.commandResult ∧ result = .ok 0) := by
  have hconnecting := hs.coherent.of_connection hwork
  obtain ⟨hreporting, hwaits⟩ := (later_nextDeadline _).1 hlater
  obtain ⟨hbefore, hnext⟩ := hwaits work hwork
  have hactive := hconnecting.active hbefore
  -- The handshake leaves a frame that only differs in its progress.
  have hevaluation {h₁ h₂ : Log m r} {s₁ s₂ : Frame m r} {a : Except WorkerCoreError Nat × ConnectionWork}
      {evaluation : Evaluation} (hhandshake : HandshakeDriven work t h s.takeConnection h₁ s₁ a)
      (hevaluated : Evaluated a.2.readiness t a.2.handshake h₁ s₁ h₂ s₂ evaluation) :
      a = (.ok 0, work) ∧ h₂ = h ∧ ((ReadyBy t s work ∧ ∃ id, evaluation.result = .ok (.ready id)) ∨
        (¬ ReadyBy t s work ∧ s₂.toWorkerCore = s.takeConnection.toWorkerCore ∧
          s₂.progress.commandResult = s.progress.commandResult ∧ work.evaluated evaluation = work ∧
          ∃ wait, evaluation.result = .ok (.pending wait))) := by
    obtain ⟨rfl, hcore, hresult, rfl⟩ := hhandshake.idle hrests.handshake hnext
    have hsame : s₁.reporting = s.reporting := (congrArg WorkerCore.reporting hcore).trans rfl
    have hsender : s₁.sender = s.sender := (congrArg WorkerCore.sender hcore).trans rfl
    have hrests₁ : Rests t₀ s₁ work := hrests.of_fields ((congrArg WorkerCore.observed hcore).trans rfl) hsender hsame
    have hready : ReadyBy t s₁ work ↔ ReadyBy t s work := by
      unfold ReadyBy
      rw [hsame, hsender]
    obtain ⟨-, -, hlog, -⟩ := hevaluated.sameControl hconnecting.work
    refine ⟨rfl, hlog, ?_⟩
    rcases hevaluated.idle hrests₁ (hrests₁.started (by rw [hsame]; exact hreporting)) with
      ⟨hnow, hid⟩ | ⟨hnot, rfl, hleft, hwait⟩
    · exact .inl ⟨hready.1 hnow, hid⟩
    · exact .inr ⟨fun hnow => hnot (hready.2 hnow), hcore, hresult, hleft, hwait⟩
  cases he with
  | idle hnone =>
    rw [hwork] at hnone
    cases hnone
  | aborted hsome hinactive =>
    rw [hwork] at hsome
    cases hsome
    rw [hactive] at hinactive
    cases hinactive
  | failed hsome hactive hhandshake =>
    rw [hwork] at hsome
    cases hsome
    obtain ⟨-, -, -, hresult⟩ := hhandshake.idle hrests.handshake hnext
    cases hresult
  | pending hsome hactive hhandshake hevaluated hresult =>
    rw [hwork] at hsome
    cases hsome
    obtain ⟨hpair, rfl, ⟨-, id, hready⟩ | ⟨hnot, hcore, hanswer, hleft, -⟩⟩ := hevaluation hhandshake hevaluated
    · rw [hresult] at hready
      cases hready
    · cases hpair
      refine .inr ⟨hnot, rfl, ?_, hanswer, rfl⟩
      rw [hleft]
      exact Frame.putConnection_core hcore hwork
  | ready hsome hactive hhandshake hevaluated hresult =>
    rw [hwork] at hsome
    cases hsome
    obtain ⟨hsame₁, -, hwork₁, -⟩ := hhandshake.sameControl hconnecting.work
    obtain ⟨hsame₂, -, -, -⟩ := hevaluated.sameControl hwork₁
    obtain ⟨-, -, ⟨hnow, -⟩ | ⟨-, -, -, -, wait, hwait⟩⟩ := hevaluation hhandshake hevaluated
    · rename_i s₂
      exact .inl ⟨hnow, (s₂.markReady.complete_keeps _).2.2.2.2.2.2.2.trans (hsame₁.trans hsame₂).connection, _, rfl⟩
    · rw [hresult] at hwait
      cases hwait
  | evaluationFailed hsome hactive hhandshake hevaluated hresult =>
    rw [hwork] at hsome
    cases hsome
    obtain ⟨-, -, ⟨-, id, hready⟩ | ⟨-, -, -, -, wait, hwait⟩⟩ := hevaluation hhandshake hevaluated
    · rw [hresult] at hready
      cases hready
    · rw [hresult] at hwait
      cases hwait

/-! ## Steps before the deadline -/

/-- The worker connects and everything for Ready is there at `t`. -/
def Frame.ReadyBy (t : Duration) (s : Frame m r) : Prop := ∃ work, s.connection = some work ∧ Swbt.ReadyBy t s work

theorem Frame.Rests.drive {result : Except WorkerCoreError Nat} (hrests : s.Rests t₀) (he : DriveEffect t h s h' s' result)
    (hs : s.Sound) (hlater : Later t s.nextDeadline) :
    (s.ReadyBy t ∧ s.connection ≠ none ∧ s'.connection = none ∧ ∃ actions, result = .ok actions) ∨
      (¬ s.ReadyBy t ∧ h' = h ∧ s'.toWorkerCore = s.toWorkerCore ∧
        s'.progress.commandResult = s.progress.commandResult ∧ result = .ok 0) := by
  cases hconnection : s.connection with
  | none =>
    refine .inr ⟨?_, ?_⟩
    · rintro ⟨work, hwork, -⟩
      rw [hconnection] at hwork
      cases hwork
    · cases he with
      | idle hnone => exact ⟨rfl, rfl, rfl, rfl⟩
      | aborted hwork => exact absurd (hwork.symm.trans hconnection) nofun
      | failed hwork => exact absurd (hwork.symm.trans hconnection) nofun
      | pending hwork => exact absurd (hwork.symm.trans hconnection) nofun
      | ready hwork => exact absurd (hwork.symm.trans hconnection) nofun
      | evaluationFailed hwork => exact absurd (hwork.symm.trans hconnection) nofun
  | some work =>
    rcases (hrests work hconnection).drive he hs hconnection hlater with ⟨hready, hnone, hactions⟩ | ⟨hnot, hsame⟩
    · exact .inl ⟨⟨work, hconnection, hready⟩, nofun, hnone, hactions⟩
    · refine .inr ⟨?_, hsame⟩
      rintro ⟨other, hother, hready⟩
      rw [hconnection] at hother
      cases hother
      exact hnot hready

/-- With its deadline ahead, nothing is due in a worker. -/
theorem Frame.still_of_later (hs : Coherent s.toWorkerCore) (hallowed : s.DueAllowed)
    (hlater : Later t s.reporting.nextDeadline) : s.Still t := by
  obtain ⟨htap, hpolicies⟩ := (later_reporting _).1 hlater
  refine ⟨htap, ?_⟩
  intro policy hpolicy
  have hrunning : ∃ scheduler, policy.scheduler = some scheduler := by
    rcases hallowed with hstate | ⟨-, hautomatic⟩
    · cases hs with
      | «open» hopen =>
        rw [hopen.lifecycle] at hstate
        cases hstate
      | connecting hwork hconnecting =>
        rw [hconnecting.lifecycle] at hstate
        cases hstate
      | ready hready => exact Option.isSome_iff_exists.1 (hready.scheduler policy hpolicy)
    · obtain ⟨other, scheduler, hother, hscheduler⟩ := automaticDue_iff.1 hautomatic
      rw [hpolicy] at hother
      cases hother
      exact ⟨scheduler, hscheduler⟩
  obtain ⟨scheduler, hscheduler⟩ := hrunning
  exact (PeriodicPolicy.later_running hscheduler).1 (hpolicies policy hpolicy)

/-- A step at `t` has only looked around: it has sent, published and answered nothing, and the worker is as it was. -/
structure Unmoved (t : Duration) (h : Log m r) (s : Frame m r) (h' : Log m r) (s' : Frame m r) (step : WorkerStep) :
    Prop where
  looks : Adds (Looks t) h h'
  core : s'.toWorkerCore = s.toWorkerCore
  goesOn : ∃ progress, step = .continue progress ∧ progress.commandResult = none

/-- The end of a step before the deadline. -/
theorem Tail.unmoved_iff {step : WorkerStep} (htail : Tail (LeftAlone t) t h₁ s.fresh h' s' step)
    (hs : Coherent s.toWorkerCore) (hlooks : Adds (Looks t) h h₁) (hrests : s.Rests t₀) (hlater : Later t s.nextDeadline) :
    Unmoved t h s h' s' step ↔ ¬ s.ReadyBy t := by
  have hfresh : s.fresh.Sound := ⟨hs, fun _ => rfl⟩
  have hkept : s.fresh.Rests t₀ := hrests.of_core rfl
  have hdrives {h₂ : Log m r} {s₂ : Frame m r} {result : Except WorkerCoreError Nat}
      (hdrive : DriveEffect t (.call s.fresh Op.now t :: h₁) s.fresh h₂ s₂ result) :
      (s.ReadyBy t ∧ s.connection ≠ none ∧ s₂.connection = none ∧ ∃ actions, result = .ok actions) ∨
        (¬ s.ReadyBy t ∧ h₂ = .call s.fresh Op.now t :: h₁ ∧ s₂.toWorkerCore = s.toWorkerCore ∧
          s₂.progress.commandResult = none ∧ result = .ok 0) :=
    hkept.drive hdrive hfresh hlater
  have hmoved (hconnection : s.connection ≠ none) (hnone : s'.connection = none) : ¬ Unmoved t h s h' s' step :=
    fun hunmoved => hconnection ((congrArg WorkerCore.connection hunmoved.core).symm.trans hnone)
  have hstill {s₂ : Frame m r} {actions : Nat} (hcore : s₂.toWorkerCore = s.toWorkerCore)
      (hallowed : (s₂.countActions actions).DueAllowed) : (s₂.countActions actions).Still t := by
    refine Frame.still_of_later ?_ hallowed ?_
    · exact hcore.symm ▸ hs
    · have hreporting : s₂.reporting = s.reporting := congrArg WorkerCore.reporting hcore
      exact hreporting.symm ▸ ((later_nextDeadline _).1 hlater).1
  -- Before its deadline a step can only become Ready: what falls due is still ahead.
  cases htail with
  | closed hrequest hends => exact nomatch hrequest
  | driveFailed hdrive hfail =>
    rcases hdrives hdrive with ⟨-, -, -, actions, hok⟩ | ⟨-, -, -, -, hok⟩
    · cases hok
    · cases hok
  | driven hdrive hskip =>
    rcases hdrives hdrive with ⟨hready, hsome, hnone, -⟩ | ⟨hnot, rfl, hcore, hanswer, -⟩
    · exact iff_of_false (hmoved hsome hnone) fun hnot => hnot hready
    · refine iff_of_true ⟨(hlooks.cons .clock).cons .shutdown, hcore, _, rfl, hanswer⟩ hnot
  | dueFailed hdrive hallowed hdue hterminal hfail =>
    rcases hdrives hdrive with ⟨hready, -⟩ | ⟨-, rfl, hcore, hanswer, hok⟩
    · refine iff_of_false ?_ fun hnot => hnot hready
      rintro ⟨-, -, progress, rfl, -⟩
      cases hfail.halts
    · cases hok
      obtain ⟨-, -, rfl⟩ := hdue.2 (hstill hcore hallowed)
      cases hterminal
  | due hdrive hallowed hdue =>
    rename_i h₂ h₃ s₂ s₃ actions due
    rcases hdrives hdrive with ⟨hready, hsome, hnone, -⟩ | ⟨hnot, rfl, hcore, hanswer, hok⟩
    · refine iff_of_false (hmoved hsome ?_) fun hnot => hnot hready
      exact hdue.1.connection.trans hnone
    · cases hok
      obtain ⟨rfl, rfl, rfl⟩ := hdue.2 (hstill hcore hallowed)
      rw [Frame.recordDue_none]
      exact iff_of_true ⟨(((hlooks.cons .clock).cons .shutdown).cons .clock).cons .shutdown, hcore, _, rfl, hanswer⟩ hnot

/-! ## The law -/

theorem Reporting.heldOff_iff (reporting : Reporting m r) (t until_ : Duration) :
    reporting.heldOff t = some until_ ↔ reporting.policy.bind PeriodicPolicy.replyHoldoffUntil = some until_ ∧ t < until_ := by
  unfold heldOff
  cases reporting.policy with
  | none => simp
  | some policy => exact policy.heldOff_iff t until_

/-- The reply holdoff that keeps the worker from Ready at `t₀` ends before `deadline`. -/
def Oversleeps (t₀ : Duration) (deadline : Option Duration) (s : Frame m r) : Prop :=
  ∃ work until_, s.connection = some work ∧ work.readiness.handshake.isSome = true ∧
    s.sender.committed.session.protocolReady = true ∧ s.reporting.heldOff t₀ = some until_ ∧ Later until_ deadline

/-- Nothing else makes a worker at rest ready before its deadline. -/
theorem Frame.Rests.oversleeps {deadline : Option Duration} (hrests : s.Rests t₀) (hready : s.ReadyBy t)
    (hlater : Later t deadline) : Oversleeps t₀ deadline s := by
  obtain ⟨work, hwork, hgate, hprotocol, hnone⟩ := hready
  obtain ⟨until_, hheld⟩ := Option.isSome_iff_exists.1 ((hrests work hwork).unready hgate hprotocol)
  refine ⟨work, until_, hwork, hgate, hprotocol, hheld, ?_⟩
  intro d hd
  refine lt_of_le_of_lt ?_ (hlater d hd)
  by_contra hahead
  have hstill := (s.reporting.heldOff_iff t until_).2 ⟨((s.reporting.heldOff_iff t₀ until_).1 hheld).1, not_le.1 hahead⟩
  rw [hnone] at hstill
  cases hstill

theorem Oversleeps.readyBy {deadline : Option Duration} (ho : Oversleeps t₀ deadline s) :
    ∃ t, t₀ < t ∧ Later t deadline ∧ s.ReadyBy t := by
  obtain ⟨work, until_, hwork, hgate, hprotocol, hheld, hlater⟩ := ho
  refine ⟨until_, ((s.reporting.heldOff_iff t₀ until_).1 hheld).2, hlater, work, hwork, hgate, hprotocol, ?_⟩
  rw [Option.eq_none_iff_forall_ne_some]
  intro other hother
  have hsame := ((s.reporting.heldOff_iff t₀ until_).1 hheld).1
  obtain ⟨hnow, hlt⟩ := (s.reporting.heldOff_iff until_ other).1 hother
  rw [hsame] at hnow
  cases hnow
  exact lt_irrefl _ hlt

/-- What a step reports is no later than what its end does. -/
theorem Tail.reported {R : LogEvent m r → Prop} {progress : StepProgress}
    (htail : Tail R t₀ h s h' s' (.continue progress)) (hlater : Later t progress.nextDeadline) : Later t s'.nextDeadline := by
  generalize hstep : WorkerStep.continue progress = step at htail
  have hfinished (f : Frame m r) (hf : Later t f.finish.progress.nextDeadline) : Later t f.finish.nextDeadline :=
    ((later_minimum t _ _).1 hf).2
  cases htail with
  | closed hrequest hends =>
    rw [← hstep] at hends
    cases hends
  | driveFailed hdrive hfail =>
    cases hstep
    cases hfail.halts
  | driven hdrive hskip =>
    cases hstep
    exact hfinished _ hlater
  | dueFailed hdrive hallowed hdue hterminal hfail =>
    cases hstep
    cases hfail.halts
  | due hdrive hallowed hdue =>
    cases hstep
    exact hfinished _ hlater

/-- Steps of a worker that is left alone, all after `t₀` and before `deadline`. -/
inductive PolledAlone (t₀ : Duration) (deadline : Option Duration) (h : Log m r) (s : Frame m r) :
    Log m r → Frame m r → Prop
  | none : PolledAlone t₀ deadline h s h s
  | step {h₁ h' : Log m r} {s₁ s' : Frame m r} {t : Duration} {progress : StepProgress}
      (hpolls : PolledAlone t₀ deadline h s h₁ s₁) (hafter : t₀ < t) (hbefore : Later t deadline)
      (hexec : Prog.Exec (stepRuntime s₁) h₁ h' s' (.continue progress)) (halone : Adds (LeftAlone t) h₁ h') :
      PolledAlone t₀ deadline h s h' s'

/-- A worker polled after a step at `t₀` does nothing before the deadline that the step has returned, unless a reply
holdoff keeps it from Ready that ends before that deadline. -/
theorem deadline_complete (hrun : Run h s) {progress : StepProgress}
    (hexec : Prog.Exec (stepRuntime s) h h₁ s₁ (.continue progress)) (hclock : Adds (AtTime t₀) h h₁) :
    (∀ h₂ s₂, PolledAlone t₀ progress.nextDeadline h₁ s₁ h₂ s₂ → ∀ t h' s' step, t₀ < t → Later t progress.nextDeadline →
      Prog.Exec (stepRuntime s₂) h₂ h' s' step → Adds (LeftAlone t) h₂ h' → Unmoved t h₂ s₂ h' s' step) ↔
      ¬ Oversleeps t₀ progress.nextDeadline s₁ := by
  obtain ⟨h₀, s₀, hs₀, htail⟩ := (hexec.given hclock (last_spec hrun.coherent)).resolve_left nofun
  have hrests := htail.rests hs₀ rfl
  have hcoherent : Coherent s₁.toWorkerCore := (hrun.step hexec).coherent
  have hunmoved {h₂ h' : Log m r} {s₂ s' : Frame m r} {t : Duration} {step : WorkerStep}
      (hcore : s₂.toWorkerCore = s₁.toWorkerCore) (hlater : Later t progress.nextDeadline)
      (hnext : Prog.Exec (stepRuntime s₂) h₂ h' s' step) (halone : Adds (LeftAlone t) h₂ h') :
      Unmoved t h₂ s₂ h' s' step ↔ ¬ s₂.ReadyBy t := by
    have hcoherent₂ : Coherent s₂.toWorkerCore := hcore.symm ▸ hcoherent
    obtain ⟨h₃, hlooks, hend⟩ := hnext.given halone (alone_spec hcoherent₂)
    refine hend.unmoved_iff hcoherent₂ hlooks (hrests.of_core hcore) ?_
    rw [hcore]
    exact htail.reported hlater
  constructor
  · intro hall hover
    obtain ⟨t, hafter, hlater, hready⟩ := hover.readyBy
    have hnext := playStep_exec (scripted t (fun _ => none) fun _ => []) (h₁, s₁)
    have halone := alone_scripted t (h₁, s₁)
    exact (hunmoved rfl hlater hnext halone).1 (hall _ _ .none t _ _ _ hafter hlater hnext halone) hready
  · intro hnot
    have hasleep {t : Duration} {s₂ : Frame m r} (hcore : s₂.toWorkerCore = s₁.toWorkerCore)
        (hlater : Later t progress.nextDeadline) : ¬ s₂.ReadyBy t := by
      intro hready
      refine hnot (hrests.oversleeps ?_ hlater)
      unfold Frame.ReadyBy ReadyBy at hready ⊢
      rwa [hcore] at hready
    intro h₂ s₂ hpolls
    -- The polls before have left the worker as it was.
    have hcore : s₂.toWorkerCore = s₁.toWorkerCore := by
      induction hpolls with
      | none => rfl
      | step hpolls hafter hbefore hnext halone ih =>
        exact ((hunmoved ih hbefore hnext halone).2 (hasleep ih hbefore)).core.trans ih
    intro t h' s' step hafter hlater hnext halone
    exact (hunmoved hcore hlater hnext halone).2 (hasleep hcore hlater)

theorem WorkerStep.goesOn_eq {step : WorkerStep} (hgoes : step.goesOn = true) : step = .continue step.progress := by
  cases step with
  | «continue» progress => rfl
  | closed completion error progress => cases hgoes
  | failed failure progress => cases hgoes

/-- A clock that stands still does so for a whole step. -/
theorem clock_scripted (t : Duration) (command : Nat → Option (RuntimeCommand m r)) (events : Nat → List TransportEvent)
    (point : Log m r × Frame m r) : Adds (AtTime t) point.1 (playStep (scripted t command events) point).1 := by
  refine Prog.adds_run ?_ ?_ _ 0 point.1
  · intro s n op
    cases op <;> first | exact fun _ _ hcall => by cases hcall; rfl | exact fun _ _ hcall => by cases hcall
  · exact fun _ _ _ _ hcall => by cases hcall

/-- The periodic worker with its pairing under way. -/
def sampleStarting : Log .pro .periodic × Frame .pro .periodic :=
  play (scripted .ZERO (fun _ => some (.pair sampleTimeout)) fun _ => []) (samplePeriodic.openLog, samplePeriodic.start)

theorem sampleStarting_run : Run sampleStarting.1 sampleStarting.2 := by
  have hopened : Run samplePeriodic.openLog samplePeriodic.start := .opened samplePeriodic_isNew
  exact @Run.play _ _ (samplePeriodic.openLog, samplePeriodic.start) hopened _ (by decide +kernel)

/-- The host that connects and asks for the device information. -/
def sampleAsks : Nat → (op : Op) → Op.Ans .pro .periodic op :=
  scripted .ZERO (fun _ => none) fun n => if n = 1 then [.connected, .hidChannelOpened .control,
    .hidChannelOpened .interrupt, sampleSubcommand 0x02 0x00] else []

/-- While its host has only asked for its device information, the worker may wait for the end of the holdoff. -/
theorem deadline_complete_asked : ¬ Oversleeps .ZERO (some replyHoldoff) (playStep sampleAsks sampleStarting).2.1 ∧
    ∀ h₂ s₂, PolledAlone .ZERO (some replyHoldoff) (playStep sampleAsks sampleStarting).1
      (playStep sampleAsks sampleStarting).2.1 h₂ s₂ → ∀ t h' s' step, Duration.ZERO < t →
        Later t (some replyHoldoff) → Prog.Exec (stepRuntime s₂) h₂ h' s' step → Adds (LeftAlone t) h₂ h' →
          Unmoved t h₂ s₂ h' s' step := by
  have hgoes : (playStep sampleAsks sampleStarting).2.2.goesOn = true := by decide +kernel
  have hnext : (playStep sampleAsks sampleStarting).2.2.progress.nextDeadline = some replyHoldoff := by decide +kernel
  have hunready : (playStep sampleAsks sampleStarting).2.1.sender.committed.session.protocolReady = false := by
    decide +kernel
  have hexec := playStep_exec sampleAsks sampleStarting
  rw [WorkerStep.goesOn_eq hgoes] at hexec
  have hcomplete := deadline_complete sampleStarting_run hexec (clock_scripted _ _ _ _)
  rw [hnext] at hcomplete
  have hnot : ¬ Oversleeps .ZERO (some replyHoldoff) (playStep sampleAsks sampleStarting).2.1 := by
    rintro ⟨work, until_, -, -, hready, -⟩
    rw [hunready] at hready
    cases hready
  exact ⟨hnot, hcomplete.2 hnot⟩

/-! ## A worker that oversleeps -/

/-- A worker that reports once a second. -/
def slowPeriodic : WorkerCore .pro .periodic :=
  .fromOpenTransport sampleProtocol (.periodic ⟨⟨⟨1000000000, second_le⟩, none, none⟩, none⟩) sampleBudget

/-- Its host connects and asks for reports at once, and 300 ms later the schedule starts. -/
def slowStarted : Log .pro .periodic × Frame .pro .periodic :=
  play (scripted replyHoldoff (fun _ => none) fun _ => [])
    (play (scripted .ZERO (fun _ => some (.pair sampleTimeout)) fun n => if n = 5 then [.connected,
      .hidChannelOpened .control, .hidChannelOpened .interrupt, sampleSubcommand 0x03 0x30] else [])
      (slowPeriodic.openLog, slowPeriodic.start))

theorem slowStarted_run : Run slowStarted.1 slowStarted.2 := by
  have hnew : WorkerCore.newPeriodic sampleProtocol ⟨1000000000, second_le⟩ sampleBudget = .ok slowPeriodic := rfl
  have hopened : Run slowPeriodic.openLog slowPeriodic.start := .opened (.periodic hnew)
  have hasked := @Run.play _ _ (slowPeriodic.openLog, slowPeriodic.start) hopened
    (scripted .ZERO (fun _ => some (.pair sampleTimeout)) fun n => if n = 5 then [.connected,
      .hidChannelOpened .control, .hidChannelOpened .interrupt, sampleSubcommand 0x03 0x30] else []) (by decide +kernel)
  exact hasked.play _ (by decide +kernel)

/-- A step at `t₀` with some events, and the worker left alone in the next step, at `t`. -/
theorem two_steps {point : Log m r × Frame m r} (hrun : Run point.1 point.2) (t₀ t : Duration)
    (events : Nat → List TransportEvent) {P : StepProgress → Frame m r → Frame m r → WorkerStep → Prop}
    (hgoes : (playStep (scripted t₀ (fun _ => none) events) point).2.2.goesOn = true)
    (hP : P (playStep (scripted t₀ (fun _ => none) events) point).2.2.progress
      (play (scripted t₀ (fun _ => none) events) point).2
      (playStep (scripted t (fun _ => none) fun _ => []) (play (scripted t₀ (fun _ => none) events) point)).2.1
      (playStep (scripted t (fun _ => none) fun _ => []) (play (scripted t₀ (fun _ => none) events) point)).2.2) :
    ∃ (h h₁ h' : Log m r) (s s₁ s' : Frame m r) (progress : StepProgress) (step : WorkerStep), Run h s ∧
      Prog.Exec (stepRuntime s) h h₁ s₁ (.continue progress) ∧ Adds (AtTime t₀) h h₁ ∧
      Prog.Exec (stepRuntime s₁) h₁ h' s' step ∧ Adds (LeftAlone t) h₁ h' ∧ P progress s₁ s' step := by
  have hexec := playStep_exec (scripted t₀ (fun _ => none) events) point
  rw [WorkerStep.goesOn_eq hgoes] at hexec
  let next := play (scripted t₀ (fun _ => none) events) point
  exact ⟨point.1, next.1, _, point.2, next.2, _, _, _, hrun, hexec, clock_scripted _ _ _ point, playStep_exec _ next,
    alone_scripted t next, hP⟩

/-- The player lights are set at 400 ms, and the worker, which is ready when the holdoff ends at 700 ms, is told to wait
for its first report at 1300 ms. -/
theorem oversleeps_lights : ∃ (h h₁ h' : Log .pro .periodic) (s s₁ s' : Frame .pro .periodic) (progress : StepProgress)
    (step : WorkerStep), Run h s ∧ Prog.Exec (stepRuntime s) h h₁ s₁ (.continue progress) ∧
      Adds (AtTime ⟨400000000, by decide⟩) h h₁ ∧ Prog.Exec (stepRuntime s₁) h₁ h' s' step ∧
      Adds (LeftAlone ⟨700000000, by decide⟩) h₁ h' ∧ progress.immediate = false ∧
      progress.nextDeadline = some ⟨1300000000, by decide⟩ ∧ s₁.lifecycle.state = .connecting ∧
      s'.lifecycle.state = .ready ∧ step.progress.commandResult.isSome = true := by
  refine two_steps (P := fun progress s₁ s' step => progress.immediate = false ∧
    progress.nextDeadline = some ⟨1300000000, by decide⟩ ∧ s₁.lifecycle.state = .connecting ∧
    s'.lifecycle.state = .ready ∧ step.progress.commandResult.isSome = true) slowStarted_run _ _
    (fun n => if n = 1 then [sampleSubcommand 0x30 0x01] else []) ?_ ?_
  · decide +kernel
  · decide +kernel

end Swbt
