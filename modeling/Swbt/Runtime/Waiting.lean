import Swbt.Runtime.Automatic
import Swbt.Runtime.Deadlines
/-!
# A worker left alone

A step that finds no request, no command and no event only drives the
connection and runs what is due. Where that does nothing, the step should not
report a deadline that has passed, for the worker would not wait for it.
-/

set_option autoImplicit false

open Effects

namespace Swbt

variable {m : ControllerKind} {r : ReportingKind} {h h₀ h₁ h' : Log m r} {s s₁ s' : Frame m r} {t : Duration}

/-! ## Handshakes without a schedule -/

/-- A handshake has no schedule before its topology is up. -/
def Handshake.Untimed (handshake : Handshake) : Prop := handshake.topologyReady = false → handshake.retry = none

/-- The handshake of a frame has no schedule before its topology is up. -/
def Frame.Untimed (s : Frame m r) : Prop :=
  ∀ work handshake, s.connection = some work → work.handshake = some handshake → handshake.Untimed

theorem Handshake.untimed_observeLink {handshake : Handshake} (hkept : handshake.Untimed) (id : ConnectionSessionId) :
    (handshake.observeLink id).Untimed := by
  unfold observeLink
  split
  · intro hdown
    refine hkept ?_
    simp only [topologyReady, Bool.true_and] at hdown ⊢
    rw [Bool.and_assoc, hdown, Bool.and_false]
  · exact hkept

theorem Handshake.untimed_observeChannel {handshake : Handshake} (hkept : handshake.Untimed) (id : ConnectionSessionId)
    (channel : HidChannel) : (handshake.observeChannel id channel).Untimed := by
  unfold observeChannel
  split
  · exact hkept
  · cases channel with
    | control =>
      intro hdown
      refine hkept ?_
      simp only [topologyReady, Bool.and_true, Bool.and_eq_false_iff] at hdown ⊢
      exact hdown.imp_left .inl
    | interrupt =>
      intro hdown
      refine hkept ?_
      simp only [topologyReady, Bool.and_true] at hdown ⊢
      rw [hdown, Bool.false_and]

theorem HandshakeEffect.untimed {handshake handshake' : Handshake} {result : Except HandshakeError HandshakeProgress}
    (he : HandshakeEffect handshake t h s h' s' (result, handshake')) (hkept : handshake.Untimed) :
    handshake'.Untimed := by
  cases he with
  | observed hrunning htopology haccepted hsatisfied => exact fun _ => rfl
  | attempted hattempting hscheduled hsent =>
    rename_i skipped scheduler sent
    intro hdown
    -- An attempt leaves the topology as it was, which is up.
    have htopology := hattempting.topology
    rcases sent with error | ⟨⟩
    · exact absurd (htopology.symm.trans hdown) (by decide)
    · unfold Handshake.recordBootstrapAttempt at hdown ⊢
      dsimp only at hdown ⊢
      split
      · rfl
      · rename_i hunsatisfied
        rw [if_neg hunsatisfied] at hdown
        exact absurd (htopology.symm.trans hdown) (by decide)
  | _ => exact hkept

theorem Frame.Untimed.of_connection (hs : s.Untimed) (hconnection : s'.connection = s.connection) : s'.Untimed := by
  intro work handshake hwork
  exact hs work handshake (hconnection.symm.trans hwork)

theorem Frame.Untimed.of_none (hnone : s.connection = none) : s.Untimed := by
  intro work handshake hwork
  rw [hnone] at hwork
  cases hwork

theorem Frame.Untimed.map (hs : s.Untimed) {f : ConnectionSessionId → Handshake → Handshake}
    (hf : ∀ id handshake, handshake.Untimed → (f id handshake).Untimed) : (s.mapHandshake f).Untimed := by
  intro work handshake hwork hhandshake
  obtain ⟨before, hbefore, rfl⟩ := Option.map_eq_some_iff.1 hwork
  obtain ⟨handshake, hsome, rfl⟩ := Option.map_eq_some_iff.1 hhandshake
  exact hf _ _ (hs before handshake hbefore hsome)

theorem HandshakeDriven.untimed {work : ConnectionWork} {a : Except WorkerCoreError Nat × ConnectionWork}
    (hd : HandshakeDriven work t h s h' s' a) (hkept : ∀ handshake, work.handshake = some handshake → handshake.Untimed) :
    ∀ handshake, a.2.handshake = some handshake → handshake.Untimed := by
  cases hd with
  | collected hnone => exact hkept
  | stepped hsome heffect =>
    rintro _ ⟨⟩
    exact heffect.untimed (hkept _ hsome)
  | overflow hsome heffect =>
    rintro _ ⟨⟩
    exact heffect.untimed (hkept _ hsome)

/-- An evaluation leaves the handshake where it is, or collects it. -/
theorem Evaluated.handshake {gate : ReadinessGate} {handshake : Option Handshake} {evaluation : Evaluation}
    (he : Evaluated gate t handshake h s h' s' evaluation) :
    evaluation.handshake = handshake ∨ evaluation.handshake = none := by
  have hcollected {gate' : ReadinessGate} {handshake' : Option Handshake}
      (hcollect : gate.collectHandshake handshake = .ok (true, gate', handshake')) :
      handshake' = handshake ∨ handshake' = none := by
    unfold ReadinessGate.collectHandshake at hcollect
    split at hcollect
    · cases hcollect
      exact .inl rfl
    · split at hcollect
      · cases hcollect
      · split at hcollect
        · cases hcollect
        · cases hcollect
          exact .inr rfl
  cases he with
  | uncollected hgate hcompletion => exact .inl rfl
  | mismatched hgate hcompletion hne => exact .inl rfl
  | overflow hcollect hstart => exact hcollected hcollect
  | unready hcollect hstart hready => exact hcollected hcollect
  | heldOff hcollect hstart hready hheld => exact hcollected hcollect
  | ready hcollect hgate hstart hready hheld => exact hcollected hcollect

theorem DriveEffect.untimed {result : Except WorkerCoreError Nat} (he : DriveEffect t h s h' s' result) (hs : s.Sound)
    (hkept : s.Untimed) : s'.Untimed := by
  cases he with
  | idle hnone => exact hkept
  | aborted hwork hinactive =>
    exact .of_none (abort_open (s := s.takeConnection) (hs.coherent.of_connection hwork).lifecycle rfl _).connection
  | failed hwork hactive hhandshake =>
    have hdriven := hhandshake.untimed (fun handshake => hkept _ handshake hwork)
    rintro work handshake ⟨⟩
    exact hdriven handshake
  | pending hwork hactive hhandshake hevaluated hresult =>
    have hdriven := hhandshake.untimed (fun handshake => hkept _ handshake hwork)
    rintro work handshake ⟨⟩ hsome
    rcases hevaluated.handshake with hsame | hnone
    · exact hdriven handshake (hsame.symm.trans hsome)
    · exact absurd (hnone.symm.trans hsome) nofun
  | ready hwork hactive hhandshake hevaluated hresult =>
    obtain ⟨hsame₁, -, hwork₁, -⟩ := hhandshake.sameControl (hs.coherent.of_connection hwork).work
    obtain ⟨hsame₂, -, -, -⟩ := hevaluated.sameControl hwork₁
    rename_i s₂
    exact .of_none ((s₂.markReady.complete_keeps _).2.2.2.2.2.2.2.trans (hsame₁.trans hsame₂).connection)
  | evaluationFailed hwork hactive hhandshake hevaluated hresult =>
    have hconnecting := hs.coherent.of_connection hwork
    obtain ⟨hsame₁, -, hwork₁, -⟩ := hhandshake.sameControl hconnecting.work
    obtain ⟨hsame₂, -, -, -⟩ := hevaluated.sameControl hwork₁
    have hsame := hsame₁.trans hsame₂
    exact .of_none (abort_open (hsame.lifecycle.trans hconnecting.lifecycle) hsame.connection _).connection

theorem DueEffect.connection {due : ReportingDue} (he : DueEffect t h s h' s' due) :
    (s'.recordDue due).connection = s.connection := by
  rw [(s'.recordDue_sameSession due).connection]
  cases he with
  | quiet htap hpolicy => rfl
  | failed hpolicy herror => rfl
  | backpressured htap hpolicy hticks => rfl
  | automatic hpolicy hticks hsent herrors => exact (Sent.sameControl hsent).connection
  | released htap hdue hreleased => exact hreleased.sameSession.connection

theorem Move.untimed {terminal : Option WorkerCoreError} (hmove : Move h s terminal h' s') (hs : s.Sound)
    (hkept : s.Untimed) : s'.Untimed := by
  cases hmove with
  | unrequested => exact hkept
  | noCommand hcommand htap => exact hkept
  | polled => exact hkept
  | pollFailed => exact hkept
  | untagged => exact hkept
  | progress hresult => exact hkept.of_connection rfl
  | command hcommand htap hresult heffect =>
    refine Frame.Untimed.of_connection ?_ (Frame.settle_sameSession _ _).connection
    cases heffect with
    | unstarted => exact hkept.of_connection rfl
    | refused hopen => exact hkept.of_connection rfl
    | ended hended => exact hkept.of_connection rfl
    | input heffect => exact hkept.of_connection heffect.sameSession.connection
    | begun hopen =>
      rintro work handshake ⟨⟩ ⟨⟩ -
      cases r with
      | periodic => rfl
      | direct => rfl
  | event heffect =>
    cases heffect with
    | dropped hstale => exact hkept
    | connected hcurrent hevent =>
      exact (hkept.of_connection rfl).map fun id _ hhandshake => Handshake.untimed_observeLink hhandshake id
    | opened hcurrent hevent => exact hkept.map fun id _ hhandshake => Handshake.untimed_observeChannel hhandshake id _
    | answered hcurrent hevent hheld hanswered => exact hkept.of_connection hanswered.keeps.2.2.1
    | disconnected hcurrent hevent => exact .of_none (disconnect_open hs hcurrent _).connection
  | drive heffect => exact heffect.untimed hs hkept
  | due hallowed heffect => exact hkept.of_connection heffect.connection

/-- Between any two steps, a handshake has no schedule before its topology is up. -/
theorem Run.untimed (hrun : Run h s) : s.Untimed := by
  induction hrun with
  | opened hnew => exact .of_none hnew.isOpen.connection
  | step hrun hexec ih =>
    cases hexec.post (stepRuntime_spec _ _ hrun.coherent) with
    | continued hpath hsound =>
      refine Frame.Untimed.of_connection ?_ rfl
      exact hpath.inv (P := fun _ s => s.Untimed) (ih.of_connection rfl) fun hs hmove hkept => hmove.untimed hs hkept
    | closed hpath hsound₁ hlast hsound hclose => cases hclose
    | failed hpath hsound₁ hmove hsound hfail => cases hfail

/-! ## Steps left alone -/

/-- What an operation answers a worker that is left alone at `t`. -/
def Op.LeftAlone (t : Duration) : (op : Op) → Op.Ans m r op → Prop
  | .now, answer => answer = t
  | .takeShutdown, request => request = none
  | .nextCommand, command => command = none
  | .poll _, events => events = .ok []
  | _, _ => True

/-- What may happen to a worker that is left alone at `t`. -/
def LeftAlone (t : Duration) : LogEvent m r → Prop
  | .call _ op answer => op.LeftAlone t answer
  | .emit _ _ => True

theorem LeftAlone.clock {e : LogEvent m r} (he : LeftAlone t e) : AtTime t e := by
  rintro s t' rfl
  exact he

/-- What a worker does that finds nothing to do. -/
inductive Looks (t : Duration) : LogEvent m r → Prop
  | clock {s : Frame m r} : Looks t (.call s Op.now t)
  | shutdown {s : Frame m r} : Looks t (.call s Op.takeShutdown none)
  | command {s : Frame m r} : Looks t (.call s Op.nextCommand none)
  | events {s : Frame m r} : Looks t (.call s (Op.poll .ZERO) (.ok []))

theorem alone_closeIfRequested (hs : s.Sound) (Q : Log m r → Frame m r → Option WorkerStep → Prop)
    (hnone : Q (.call s Op.takeShutdown none :: h) s none) : Act.given (LeftAlone t) closeIfRequested h s Q := by
  refine given_closeIfRequested (fun e he => he.clock) hs Q hnone ?_
  intro request h' s' step hrequest hends
  cases (show some request = none from hrequest)

theorem alone_commandPhase (Q : Log m r → Frame m r → Option WorkerStep → Prop)
    (hnone : ∀ h', Adds (Looks t) h h' → Q h' s none) : Act.given (LeftAlone t) commandPhase h s Q := by
  unfold commandPhase
  rw [Act.given_bind, given_frame]
  split
  · exact hnone h .refl
  · rw [Act.given_bind, given_nextCommand]
    intro command hcommand
    obtain rfl : command = none := hcommand
    exact hnone _ (.single .command)

theorem alone_pollBatches {remaining : Nat} (hremaining : 0 < remaining)
    (Q : Log m r → Frame m r → Option WorkerStep → Prop) (hnone : Q (.call s (Op.poll .ZERO) (.ok []) :: h) s none) :
    Act.given (LeftAlone t) (pollBatches remaining) h s Q := by
  obtain ⟨remaining, rfl⟩ := Nat.exists_eq_succ_of_ne_zero hremaining.ne'
  unfold pollBatches
  rw [Act.given_bind, given_poll]
  intro events hevents
  obtain rfl : events = .ok [] := hevents
  exact hnone

/-- A step left alone looks around, and has nothing but its end. -/
theorem alone_spec (hs : Coherent s.toWorkerCore) : Act.given (LeftAlone t) stepRuntime h s fun h' s' step =>
    ∃ h₁, Adds (Looks t) h h₁ ∧ Tail (LeftAlone t) t h₁ s.fresh h' s' step := by
  have hfresh : s.fresh.Sound := ⟨hs, fun _ => rfl⟩
  unfold stepRuntime modifyProgress
  rw [Act.given_bind, given_update, Act.given_bind]
  refine alone_closeIfRequested hfresh _ ?_
  rw [Act.given_bind]
  refine alone_commandPhase _ ?_
  intro h₁ hadds
  unfold stepAfterCommand markImmediate
  rw [Act.given_bind, Act.given_bind, given_frame, if_neg (by simp [Frame.fresh, StepProgress.new]), Act.given_pure,
    Act.given_bind, given_frame, Act.given_bind]
  refine alone_pollBatches s.budget.pollBatches_pos _ ?_
  refine Act.given_mono (stepTail_spec (fun e he => he.clock) hfresh) ?_
  intro h' s' step htail
  exact ⟨_, ((Adds.single .shutdown).trans hadds).cons .events, htail⟩

/-! ## What a drive leaves that does nothing -/

/-- The handshake of the work is complete. -/
def ConnectionWork.collected (work : ConnectionWork) : Bool :=
  work.readiness.handshake.isSome || (work.handshake.bind Handshake.completion).isSome

/-- The handshake of the work is complete, or would be if it was stepped. -/
def ConnectionWork.bootstrapped (work : ConnectionWork) (s : Frame m r) : Bool :=
  work.readiness.handshake.isSome || work.handshake.any fun handshake => handshake.bootstrapStopped ||
    (handshake.topologyReady && handshake.bootstrapAccepted && handshake.satisfied s)

theorem Handshake.completion_isSome (handshake : Handshake) : handshake.completion.isSome = handshake.bootstrapStopped := by
  unfold completion
  cases handshake.bootstrapStopped <;> rfl

/-- A handshake step without an attempt. -/
theorem HandshakeEffect.waits {handshake handshake' : Handshake} {progress : HandshakeProgress}
    (he : HandshakeEffect handshake t h s h' s' (.ok progress, handshake')) (hactions : progress.outcome = .ok 0) :
    s' = s ∧ handshake'.bootstrapStopped = (handshake.bootstrapStopped ||
        (handshake.topologyReady && handshake.bootstrapAccepted && handshake.satisfied s)) ∧
      (∀ deadline, progress = .waitingUntil deadline → t < deadline) ∧
      (handshake.Untimed → Later t handshake'.nextDeadline) := by
  cases he with
  | stopped hstopped =>
    refine ⟨rfl, by rw [hstopped, Bool.true_or], nofun, fun _ => ?_⟩
    rw [Handshake.nextDeadline, if_pos hstopped]
    exact later_none t
  | waitingForTopology hrunning htopology =>
    refine ⟨rfl, by rw [hrunning, htopology]; rfl, nofun, fun huntimed => ?_⟩
    rw [Handshake.nextDeadline, if_neg (by simp [hrunning]), huntimed htopology]
    exact later_none t
  | observed hrunning htopology haccepted hsatisfied =>
    refine ⟨rfl, by rw [htopology, haccepted, hsatisfied]; simp [Handshake.stopBootstrap], nofun, fun _ => ?_⟩
    exact later_none t
  | waiting hattempting hretry hlt =>
    refine ⟨rfl, ?_, ?_, fun _ => ?_⟩
    · have hunsatisfied := hattempting.unsatisfied
      rw [hattempting.running, hattempting.topology, Bool.true_and, hunsatisfied]
      rfl
    · rintro _ ⟨⟩
      exact hlt
    · rw [Handshake.nextDeadline, if_neg (by simp [hattempting.running]), hretry]
      exact (later_some t _).2 hlt
  | attempted hattempting hscheduled hsent =>
    rename_i skipped scheduler result
    cases result with
    | ok accepted => cases hactions
    | error error =>
      unfold HandshakeProgress.outcome at hactions
      dsimp only at hactions
      split at hactions
      · cases hactions
      · cases hactions

theorem HandshakeProgress.outcome_attempted (result : TransportResult Unit) (skipped : UInt64) :
    (HandshakeProgress.bootstrapAttempted result skipped).outcome ≠ .ok 0 := by
  unfold outcome
  cases result with
  | ok accepted => exact nofun
  | error error =>
    dsimp only
    split
    · exact nofun
    · exact nofun

/-- Only the deadline is noted of a handshake step without an attempt. -/
theorem Frame.noteHandshake_waits (s : Frame m r) {progress : HandshakeProgress} (hactions : progress.outcome = .ok 0) :
    (s.noteHandshake progress).toWorkerCore = s.toWorkerCore ∧
      (s.noteHandshake progress).progress.immediate = s.progress.immediate ∧
      ((∀ deadline, progress = .waitingUntil deadline → t < deadline) → Later t s.progress.nextDeadline →
        Later t (s.noteHandshake progress).progress.nextDeadline) := by
  cases progress with
  | bootstrapAttempted result skipped => exact absurd hactions (HandshakeProgress.outcome_attempted result skipped)
  | waitingUntil deadline =>
    refine ⟨rfl, rfl, fun hwaiting hlater => ?_⟩
    simp only [Frame.noteHandshake, later_minimum, later_some]
    exact ⟨hlater, hwaiting deadline rfl⟩
  | _ => exact ⟨rfl, rfl, fun _ => id⟩

/-- The handshake's part of a drive, without an attempt. -/
theorem HandshakeDriven.waits {work work' : ConnectionWork} (hd : HandshakeDriven work t h s h' s' (.ok 0, work')) :
    s'.toWorkerCore = s.toWorkerCore ∧ s'.progress.immediate = s.progress.immediate ∧
      (Later t s.progress.nextDeadline → Later t s'.progress.nextDeadline) ∧ work'.collected = work.bootstrapped s ∧
      ((∀ handshake, work.handshake = some handshake → handshake.Untimed) →
        Later t (work'.handshake.bind Handshake.nextDeadline)) := by
  generalize hresult : (Except.ok 0, work') = result at hd
  cases hd with
  | collected hnone =>
    cases hresult
    refine ⟨rfl, rfl, id, ?_, fun _ => ?_⟩
    · rw [ConnectionWork.collected, ConnectionWork.bootstrapped, hnone]
      rfl
    · rw [hnone]
      exact later_none t
  | overflow hsome heffect => cases hresult
  | stepped hsome heffect =>
    obtain ⟨hactions, rfl⟩ := Prod.mk.inj hresult
    obtain ⟨rfl, hstopped, hwaiting, hlater⟩ := heffect.waits hactions.symm
    obtain ⟨hcore, himmediate, hnoted⟩ := Frame.noteHandshake_waits (t := t) _ hactions.symm
    refine ⟨hcore, himmediate, hnoted hwaiting, ?_, fun huntimed => hlater (huntimed _ hsome)⟩
    rw [ConnectionWork.collected, ConnectionWork.bootstrapped, hsome, Option.bind_some, Option.any_some,
      Handshake.completion_isSome, hstopped]

/-! ## Evaluations that stay pending -/

theorem Reporting.started_unasked {reporting reporting' : Reporting m r} {session : ProtocolSession}
    (hstart : reporting.started session t = .ok reporting') (hmode : session.reportMode ≠ some 0x30) :
    reporting' = reporting := by
  unfold started at hstart
  cases reporting with
  | direct runtime => exact (Except.ok.inj hstart).symm
  | periodic runtime =>
    dsimp only at hstart
    rw [if_neg hmode] at hstart
    exact (Except.ok.inj hstart).symm

/-- A schedule that could have been started and was not is held off. -/
theorem Reporting.started_asked {reporting reporting' : Reporting m r} {session : ProtocolSession}
    (hstart : reporting.started session t = .ok reporting') (hmode : session.reportMode = some 0x30)
    {policy : PeriodicPolicy} (hpolicy : reporting'.policy = some policy) (hstopped : policy.scheduler = none) :
    ∃ until_, policy.replyHoldoffUntil = some until_ ∧ t < until_ := by
  unfold started at hstart
  cases reporting with
  | direct runtime =>
    cases hstart
    cases hpolicy
  | periodic runtime =>
    dsimp only at hstart
    rw [if_pos hmode] at hstart
    unfold PeriodicPolicy.startWhenUnheld at hstart
    cases hheld : runtime.policy.heldOff t with
    | some until_ =>
      rw [hheld] at hstart
      cases hstart
      cases hpolicy
      exact ⟨until_, (PeriodicPolicy.heldOff_iff _ _ _).1 hheld⟩
    | none =>
      rw [hheld] at hstart
      dsimp only at hstart
      split at hstart
      · cases hstart
      · rename_i start started hunheld
        cases hstart
        cases hpolicy
        split at hunheld
        · rename_i scheduler hscheduler
          cases hunheld
          exact absurd (hscheduler.symm.trans hstopped) nofun
        · split at hunheld
          · cases hunheld
          · cases hunheld
            cases hstopped

/-- Only a complete handshake is collected. -/
theorem collectHandshake_collected {work : ConnectionWork} {gate : ReadinessGate} {handshake : Option Handshake}
    (hcollect : work.readiness.collectHandshake work.handshake = .ok (true, gate, handshake)) :
    work.collected = true ∧ gate.operationDeadline = work.readiness.operationDeadline := by
  unfold ReadinessGate.collectHandshake at hcollect
  unfold ConnectionWork.collected
  split at hcollect
  · rename_i hgate
    cases hcollect
    exact ⟨by rw [hgate, Bool.true_or], rfl⟩
  · split at hcollect
    · cases hcollect
    · rename_i completion hcompletion
      split at hcollect
      · cases hcollect
      · cases hcollect
        exact ⟨by rw [hcompletion, Option.isSome_some, Bool.or_true], rfl⟩

/-- An evaluation that stays pending may start the schedule once the handshake is complete. -/
theorem Evaluated.waits {work : ConnectionWork} {evaluation : Evaluation} {wait : ReadinessWait}
    (he : Evaluated work.readiness t work.handshake h s h' s' evaluation)
    (hresult : evaluation.result = .ok (.pending wait)) :
    evaluation.readiness.operationDeadline = work.readiness.operationDeadline ∧ ∃ reporting, s' = { s with reporting } ∧
      (work.collected = true → s.reporting.started s.sender.committed.session t = .ok reporting) ∧
      (work.collected = false → reporting = s.reporting) := by
  cases he with
  | uncollected hgate hcompletion =>
    refine ⟨rfl, _, rfl, fun hcollected => ?_, fun _ => rfl⟩
    rw [ConnectionWork.collected, hgate, hcompletion] at hcollected
    cases hcollected
  | unready hcollect hstart hready =>
    obtain ⟨hcollected, hdeadline⟩ := collectHandshake_collected hcollect
    exact ⟨hdeadline, _, rfl, fun _ => hstart, fun hnot => absurd (hcollected.symm.trans hnot) (by decide)⟩
  | heldOff hcollect hstart hready hheld =>
    obtain ⟨hcollected, hdeadline⟩ := collectHandshake_collected hcollect
    exact ⟨hdeadline, _, rfl, fun _ => hstart, fun hnot => absurd (hcollected.symm.trans hnot) (by decide)⟩
  | _ => cases hresult

/-! ## Drives that do nothing -/

/-- A drive that has left the work pending, without an attempt. -/
structure Pended (t : Duration) (s s' : Frame m r) (work work' : ConnectionWork) : Prop where
  before : s.connection = some work
  after : s'.connection = some work'
  active : t < work'.readiness.operationDeadline
  handshake : Later t (work'.handshake.bind Handshake.nextDeadline)
  immediate : s'.progress.immediate = s.progress.immediate
  deadline : Later t s.progress.nextDeadline → Later t s'.progress.nextDeadline
  started : work.bootstrapped s = true → s.reporting.started s.sender.committed.session t = .ok s'.reporting
  unstarted : work.bootstrapped s = false → s'.reporting = s.reporting

/-- A connection that fails answers its command. -/
theorem Frame.abort_answers {s : Frame m r} (hcommand : s.connectionCommandPending.isSome = true)
    (error : ReadinessError) : (s.abort error).progress.commandResult ≠ none := by
  obtain ⟨failure, hfailure⟩ := (s.failConnection_flight error).2.2.2.1 hcommand
  change (s.failConnection error).progress.commandResult ≠ none
  rw [hfailure]
  exact nofun

theorem DriveEffect.waits (he : DriveEffect t h s h' s' (.ok 0)) (hs : s.Sound) (huntimed : s.Untimed)
    (hresult : s'.progress.commandResult = none) :
    (s.connection = none ∧ s' = s) ∨ ∃ work work', Pended t s s' work work' := by
  generalize hactions : (Except.ok 0 : Except WorkerCoreError Nat) = result at he
  cases he with
  | idle hnone => exact .inl ⟨hnone, rfl⟩
  | aborted hwork hinactive =>
    have hcommand : s.takeConnection.connectionCommandPending.isSome = true := (hs.coherent.of_connection hwork).command
    exact absurd hresult (Frame.abort_answers hcommand _)
  | failed hwork hactive hhandshake => cases hactions
  | ready hwork hactive hhandshake hevaluated hready => cases hactions
  | evaluationFailed hwork hactive hhandshake hevaluated herror =>
    have hconnecting := hs.coherent.of_connection hwork
    obtain ⟨hsame₁, -, hwork₁, -⟩ := hhandshake.sameControl hconnecting.work
    obtain ⟨hsame₂, -, -, -⟩ := hevaluated.sameControl hwork₁
    refine absurd hresult (Frame.abort_answers ?_ _)
    rw [(hsame₁.trans hsame₂).command]
    exact hconnecting.command
  | pending hwork hactive hhandshake hevaluated hpending =>
    cases hactions
    rename_i work work' wait evaluation h₁ s₁ s₂
    obtain ⟨hcore, himmediate, hlater, hcollected, hnext⟩ := hhandshake.waits
    obtain ⟨hdeadline, reporting, rfl, hstarted, hunstarted⟩ := hevaluated.waits hpending
    have hreporting : s₁.reporting = s.takeConnection.reporting := congrArg WorkerCore.reporting hcore
    have hsender : s₁.sender = s.takeConnection.sender := congrArg WorkerCore.sender hcore
    rw [hreporting, hsender, hcollected] at hstarted
    rw [hreporting, hcollected] at hunstarted
    refine .inr ⟨work, work'.evaluated evaluation, hwork, rfl, ?_, ?_, himmediate, hlater, hstarted, hunstarted⟩
    · change t < evaluation.readiness.operationDeadline
      rw [hdeadline, show work'.readiness = work.readiness from hhandshake.readiness]
      exact ReadinessGate.before_deadline hactive
    · rcases hevaluated.handshake with hsame | hnone
      · change Later t (evaluation.handshake.bind Handshake.nextDeadline)
        rw [hsame]
        exact hnext fun handshake => huntimed work handshake hwork
      · change Later t (evaluation.handshake.bind Handshake.nextDeadline)
        rw [hnone]
        exact later_none t

/-! ## Due actions that do nothing -/

/-- A due phase without an action leaves nothing due. -/
theorem DueEffect.waits {due : ReportingDue} (he : DueEffect t h s h' s' due) (hactions : due.actions = 0) :
    due = .none ∧ (∀ tap, s'.reporting.tap = some tap → t < tap.releaseAt) ∧
      (∀ policy, s'.reporting.policy = some policy → policy.NotDue t) ∧ s'.connection = s.connection ∧
      s'.progress = s.progress := by
  cases he with
  | quiet htap hpolicy => exact ⟨rfl, htap, hpolicy, rfl, rfl⟩
  | failed hpolicy herror => cases hactions
  | automatic hpolicy hticks hsent herrors => cases hactions
  | released htap hdue hreleased => cases hactions
  | backpressured htap hpolicy hticks =>
    rename_i policy skipped scheduler
    refine ⟨rfl, ?_, ?_, rfl, rfl⟩
    · intro tap hsome
      rw [Frame.setPolicy, Reporting.tap_withPolicy] at hsome
      exact htap tap hsome
    · intro other hother
      rw [Frame.setPolicy, Reporting.policy_withPolicy hpolicy] at hother
      cases hother
      obtain ⟨before, -, hstep⟩ := hticks.step
      refine ⟨scheduler, rfl, .inr ?_⟩
      rcases ReportScheduler.step_cases hstep with ⟨-, hnot, -⟩ | ⟨-, -, -, hlt⟩
      · cases hnot
      · exact hlt

theorem Frame.recordDue_none (s : Frame m r) : s.recordDue .none = s := by
  unfold recordDue settleDue noteAll countDue ReportingDue.none
  simp

/-- A due action that ends in a terminal error is counted. -/
theorem DueEffect.counted {due : ReportingDue} {error : WorkerCoreError} (he : DueEffect t h s h' s' due)
    (hterminal : due.terminal = some error) : 0 < due.actions := by
  cases he with
  | quiet htap hpolicy => cases hterminal
  | backpressured htap hpolicy hticks => cases hterminal
  | _ => exact Nat.one_pos

theorem Frame.dueActions_recordDue (s : Frame m r) (due : ReportingDue) :
    (s.recordDue due).progress.dueActions = s.progress.dueActions + due.actions := by
  unfold recordDue settleDue
  split
  · rfl
  · rename_i progress
    unfold settle
    split
    · rfl
    · rfl

theorem Frame.dueActions_fail (s : Frame m r) (error : WorkerCoreError) :
    (s.fail error).progress.dueActions = s.progress.dueActions := by
  unfold fail completeFailure complete
  cases s.connectionCommandPending <;> rfl

/-- A failure answers the connection command. -/
theorem Frame.fail_answers {s : Frame m r} (hcommand : s.connectionCommandPending.isSome = true)
    (error : WorkerCoreError) : (s.fail error).progress.commandResult ≠ none := by
  obtain ⟨command, hpending⟩ := Option.isSome_iff_exists.1 hcommand
  unfold fail completeFailure complete
  rw [hpending]
  exact nofun

/-! ## Steps that do nothing -/

/-- A reply holdoff has ended by `t`, and the automatic schedule that it held off is not started: the host has not asked
for it, or the bootstrap is not over. -/
def Stalled (t : Duration) (s : Frame m r) : Prop :=
  ∃ work policy until_, s.connection = some work ∧ s.reporting.policy = some policy ∧ policy.scheduler = none ∧
    policy.replyHoldoffUntil = some until_ ∧ until_ ≤ t ∧
    ¬ (work.bootstrapped s = true ∧ s.sender.committed.session.reportMode = some 0x30)

/-- The schedule is only started once the bootstrap is over and the host has asked for it. -/
theorem Pended.reporting {work work' : ConnectionWork} (hp : Pended t s s' work work')
    (hnot : ¬ (work.bootstrapped s = true ∧ s.sender.committed.session.reportMode = some 0x30)) :
    s'.reporting = s.reporting := by
  cases hboot : work.bootstrapped s with
  | false => exact hp.unstarted hboot
  | true => exact Reporting.started_unasked (hp.started hboot) fun hmode => hnot ⟨hboot, hmode⟩

theorem Pended.stalled {work work' : ConnectionWork} (hp : Pended t s s' work work') (hstalled : Stalled t s) :
    ∃ policy until_, s'.reporting.policy = some policy ∧ policy.scheduler = none ∧
      policy.replyHoldoffUntil = some until_ ∧ until_ ≤ t := by
  obtain ⟨other, policy, until_, hwork, hpolicy, hscheduler, hholdoff, hle, hnot⟩ := hstalled
  rw [hp.before] at hwork
  cases hwork
  exact ⟨policy, until_, by rw [hp.reporting hnot, hpolicy], hscheduler, hholdoff, hle⟩

/-- A holdoff that has ended and holds off no schedule is a stalled worker's. -/
theorem Pended.stalled_of {work work' : ConnectionWork} (hp : Pended t s s' work work') {policy : PeriodicPolicy}
    {until_ : Duration} (hpolicy : s'.reporting.policy = some policy) (hscheduler : policy.scheduler = none)
    (hholdoff : policy.replyHoldoffUntil = some until_) (hle : until_ ≤ t) : Stalled t s := by
  have hnot : ¬ (work.bootstrapped s = true ∧ s.sender.committed.session.reportMode = some 0x30) := by
    rintro ⟨hboot, hmode⟩
    obtain ⟨other, hother, hlt⟩ := Reporting.started_asked (hp.started hboot) hmode hpolicy hscheduler
    rw [hholdoff] at hother
    cases hother
    exact absurd hlt (not_lt.2 hle)
  exact ⟨work, policy, until_, hp.before, by rw [← hp.reporting hnot, hpolicy], hscheduler, hholdoff, hle, hnot⟩

theorem automaticDue_iff {reporting : Reporting m r} : reporting.automaticDueBeforeReady = true ↔
    ∃ policy scheduler, reporting.policy = some policy ∧ policy.scheduler = some scheduler := by
  cases reporting with
  | direct runtime => simp [Reporting.automaticDueBeforeReady, Reporting.policy]
  | periodic runtime =>
    simp [Reporting.automaticDueBeforeReady, Reporting.policy, PeriodicPolicy.nextDeadline, Option.isSome_iff_exists]

/-- A worker that is not connecting stalls on nothing. -/
theorem not_stalled (hnone : s.connection = none) : ¬ Stalled t s := by
  rintro ⟨work, -, -, hwork, -⟩
  rw [hnone] at hwork
  cases hwork

/-- With nothing due, what a worker reports lies ahead. -/
theorem later_due (htap : ∀ tap, s.reporting.tap = some tap → t < tap.releaseAt)
    (hpolicy : ∀ policy, s.reporting.policy = some policy → policy.NotDue t) : Later t s.reporting.nextDeadline := by
  refine (later_reporting _).2 ⟨htap, ?_⟩
  intro policy hsome
  obtain ⟨scheduler, hscheduler, hnot⟩ := hpolicy policy hsome
  exact (PeriodicPolicy.later_running hscheduler).2 ⟨scheduler, hscheduler, hnot⟩

/-- What is reported after a drive that nothing is due after. -/
theorem Pended.later {work work' : ConnectionWork} (hp : Pended t s s' work work') (hs : s'.Sound)
    (hskip : ¬ s'.DueAllowed) : Later t s'.nextDeadline ↔ ¬ Stalled t s := by
  have hconnecting := hs.coherent.of_connection hp.after
  have htap : s'.reporting.tap = none := by
    have hpending := hconnecting.noTap
    rwa [Reporting.hasPending_eq, Option.isSome_eq_false_iff, Option.isNone_iff_eq_none] at hpending
  have hstopped : ∀ policy, s'.reporting.policy = some policy → policy.scheduler = none := by
    intro policy hpolicy
    by_contra hsome
    obtain ⟨scheduler, hscheduler⟩ := Option.ne_none_iff_exists'.1 hsome
    exact hskip (.inr ⟨by rw [hconnecting.lifecycle]; rfl, automaticDue_iff.2 ⟨policy, scheduler, hpolicy, hscheduler⟩⟩)
  have hreported : Later t s'.nextDeadline ↔
      ∀ policy, s'.reporting.policy = some policy → Later t policy.replyHoldoffUntil := by
    rw [later_nextDeadline, later_reporting]
    constructor
    · rintro ⟨⟨-, hpolicies⟩, -⟩ policy hpolicy
      have hlater := hpolicies policy hpolicy
      rwa [PeriodicPolicy.reported_stopped (hstopped policy hpolicy)] at hlater
    · intro hpolicies
      refine ⟨⟨?_, ?_⟩, ?_⟩
      · intro tap hsome
        rw [htap] at hsome
        cases hsome
      · intro policy hpolicy
        rw [PeriodicPolicy.reported_stopped (hstopped policy hpolicy)]
        exact hpolicies policy hpolicy
      · intro other hother
        rw [hp.after] at hother
        cases hother
        exact ⟨hp.active, hp.handshake⟩
  rw [hreported]
  constructor
  · intro hlater hstalled
    obtain ⟨policy, until_, hpolicy, -, hholdoff, hle⟩ := hp.stalled hstalled
    exact absurd (hlater policy hpolicy until_ hholdoff) (not_lt.2 hle)
  · intro hgoes policy hpolicy until_ hholdoff
    by_contra hpast
    exact hgoes (hp.stalled_of hpolicy (hstopped policy hpolicy) hholdoff (not_lt.1 hpast))

/-- A worker with its schedule running does not stall. -/
theorem Pended.not_stalled {work work' : ConnectionWork} (hp : Pended t s s' work work') (hs : s'.Sound)
    (hallowed : s'.DueAllowed) : ¬ Stalled t s := by
  intro hstalled
  obtain ⟨policy, until_, hpolicy, hscheduler, -⟩ := hp.stalled hstalled
  have hconnecting := hs.coherent.of_connection hp.after
  rcases hallowed with hready | ⟨-, hautomatic⟩
  · rw [hconnecting.lifecycle] at hready
    cases hready
  · obtain ⟨other, scheduler, hother, hrunning⟩ := automaticDue_iff.1 hautomatic
    rw [hpolicy] at hother
    cases hother
    rw [hscheduler] at hrunning
    cases hrunning

/-- What is reported by a worker without a connection that nothing is due in. -/
theorem IsOpen.later (hopen : IsOpen s.toWorkerCore) : Later t s.nextDeadline := by
  rw [later_nextDeadline, later_reporting]
  refine ⟨⟨?_, ?_⟩, ?_⟩
  · intro tap hsome
    have hpending := Reporting.hasPending_of_idle hopen.idle
    rw [Reporting.hasPending_eq, hsome] at hpending
    cases hpending
  · intro policy hpolicy
    obtain ⟨hscheduler, hholdoff⟩ := Reporting.policy_of_idle hopen.idle policy hpolicy
    rw [PeriodicPolicy.reported_stopped hscheduler, hholdoff]
    exact later_none t
  · intro work hwork
    rw [hopen.connection] at hwork
    cases hwork

/-- A drive that fails answers the connection command. -/
theorem DriveEffect.fail_answers {error : WorkerCoreError} (he : DriveEffect t h s h' s' (.error error)) (hs : s.Sound) :
    (s'.fail error).progress.commandResult ≠ none := by
  cases he with
  | failed hwork hactive hhandshake =>
    have hconnecting := hs.coherent.of_connection hwork
    obtain ⟨hsame, -⟩ := hhandshake.sameControl hconnecting.work
    refine Frame.fail_answers ?_ error
    exact (congrArg Option.isSome hsame.command).trans hconnecting.command

/-- What is left of a step that has driven without an effect: the frame it ends in, and what it reports. -/
theorem Pended.ends {work work' : ConnectionWork} (hp : Pended t s.fresh s' work work') (f : Frame m r)
    (hprogress : f.progress = s'.progress) (hlater : Later t f.nextDeadline ↔ ¬ Stalled t s) :
    f.progress.immediate = false ∧ Later t f.progress.nextDeadline ∧ (Later t f.nextDeadline ↔ ¬ Stalled t s) := by
  rw [hprogress]
  exact ⟨hp.immediate, hp.deadline (later_none t), hlater⟩

/-- The end of a step that neither acts nor answers. -/
theorem Tail.waits {step : WorkerStep} (htail : Tail (LeftAlone t) t h s.fresh h' s' step) (hs : Coherent s.toWorkerCore)
    (huntimed : s.Untimed) (hactions : step.progress.dueActions = 0) (hresult : step.progress.commandResult = none) :
    ∃ f : Frame m r, step = .continue f.finish.progress ∧ f.progress.immediate = false ∧
      Later t f.progress.nextDeadline ∧ (Later t f.nextDeadline ↔ ¬ Stalled t s) := by
  have hfresh : s.fresh.Sound := ⟨hs, fun _ => rfl⟩
  cases htail with
  | closed hrequest hends => exact nomatch hrequest
  | driveFailed hdrive hfail =>
    cases hfail
    exact absurd hresult (hdrive.fail_answers hfresh)
  | driven hdrive hskip =>
    rename_i h₁ s₁ actions
    obtain ⟨-, rfl⟩ := Nat.add_eq_zero_iff.1 hactions
    have hsound : s₁.Sound := (Move.drive hdrive).sound hfresh
    refine ⟨s₁, rfl, ?_⟩
    rcases hdrive.waits hfresh huntimed hresult with ⟨hnone, rfl⟩ | ⟨work, work', hp⟩
    · refine ⟨rfl, later_none t, iff_of_true ?_ (not_stalled hnone)⟩
      -- Without a connection the worker is open, or ready with its due actions allowed.
      cases hs with
      | «open» hopen => exact hopen.later
      | connecting hwork hconnecting => exact absurd (hwork.symm.trans hnone) nofun
      | ready hready =>
        have hstate : s.lifecycle.state = .ready := congrArg LifecycleStateMachine.state hready.lifecycle
        exact absurd (.inl hstate) hskip
    · exact hp.ends s₁ rfl (hp.later hsound hskip)
  | dueFailed hdrive hallowed hdue hterminal hfail =>
    cases hfail
    have hcounted := hdue.1.counted hterminal
    simp only [WorkerStep.progress, Frame.dueActions_fail, Frame.dueActions_recordDue] at hactions
    omega
  | due hdrive hallowed hdue =>
    rename_i h₁ s₁ s₂ actions due
    have hsum : (s₂.recordDue due).progress.dueActions = 0 := hactions
    rw [Frame.dueActions_recordDue] at hsum
    obtain ⟨hbefore, hnone⟩ := Nat.add_eq_zero_iff.1 hsum
    obtain ⟨rfl, htap, hpolicy, hconnection, hprogress⟩ := hdue.1.waits hnone
    rw [Frame.recordDue_none] at hresult ⊢
    have hnothing : s₁.progress.dueActions + actions = 0 := (congrArg StepProgress.dueActions hprogress).symm.trans hbefore
    obtain ⟨-, rfl⟩ := Nat.add_eq_zero_iff.1 hnothing
    have hanswer : s₁.progress.commandResult = none := (congrArg StepProgress.commandResult hprogress).symm.trans hresult
    have hsound : s₁.Sound := (Move.drive hdrive).sound hfresh
    refine ⟨s₂, rfl, ?_⟩
    rcases hdrive.waits hfresh huntimed hanswer with ⟨hnone, rfl⟩ | ⟨work, work', hp⟩
    · have hlater : Later t s₂.nextDeadline := by
        refine (later_nextDeadline _).2 ⟨later_due htap hpolicy, ?_⟩
        intro work hwork
        rw [hconnection.trans hnone] at hwork
        cases hwork
      rw [hprogress]
      exact ⟨rfl, later_none t, iff_of_true hlater (not_stalled hnone)⟩
    · have hlater : Later t s₂.nextDeadline := by
        refine (later_nextDeadline _).2 ⟨later_due htap hpolicy, ?_⟩
        intro other hother
        rw [hconnection.trans hp.after] at hother
        cases hother
        exact ⟨hp.active, hp.handshake⟩
      exact hp.ends s₂ hprogress (iff_of_true hlater (hp.not_stalled hsound hallowed))

/-! ## The law -/

theorem waitRequest_later {progress : StepProgress} (himmediate : progress.immediate = false) :
    (progress.waitRequest t).isSome = true ↔ Later t progress.nextDeadline := by
  unfold StepProgress.waitRequest
  rw [himmediate, Bool.false_or]
  cases hdeadline : progress.nextDeadline with
  | none => simp
  | some deadline =>
    by_cases hlt : t < deadline
    · simp [hlt, not_le.2 hlt]
    · simp [hlt, not_lt.1 hlt]

/-- A worker left alone that does nothing in a step waits for a time ahead, unless it stalls: then it is
given a deadline that has passed, and makes the next step at once. -/
theorem no_busy_loop (hrun : Run h s) {step : WorkerStep} (hexec : Prog.Exec (stepRuntime s) h h' s' step)
    (halone : Adds (LeftAlone t) h h') (hactions : step.progress.dueActions = 0)
    (hresult : step.progress.commandResult = none) :
    (∃ progress, step = .continue progress ∧ progress.immediate = false ∧ Later t progress.nextDeadline ∧
      (progress.waitRequest t).isSome = true) ↔ ¬ Stalled t s := by
  obtain ⟨h₁, -, htail⟩ := hexec.given halone (alone_spec hrun.coherent)
  obtain ⟨f, rfl, himmediate, hprogress, hlater⟩ := htail.waits hrun.coherent hrun.untimed hactions hresult
  have hreported : Later t f.finish.progress.nextDeadline ↔ ¬ Stalled t s := by
    rw [← hlater]
    change Later t (minimumDeadline f.progress.nextDeadline f.nextDeadline) ↔ _
    rw [later_minimum]
    exact and_iff_right hprogress
  constructor
  · rintro ⟨progress, ⟨⟩, -, hnext, -⟩
    exact hreported.1 hnext
  · intro hgoes
    have hnext := hreported.2 hgoes
    have hwaits : f.finish.progress.immediate = false := himmediate
    exact ⟨f.finish.progress, rfl, hwaits, hnext, (waitRequest_later hwaits).2 hnext⟩

/-- A worker that nobody asks anything is left alone. -/
theorem alone_scripted (t : Duration) (point : Log m r × Frame m r) :
    Adds (LeftAlone t) point.1 (playStep (scripted t (fun _ => none) fun _ => []) point).1 := by
  refine Prog.adds_run ?_ ?_ _ 0 point.1
  · intro s n op
    cases op <;> first | exact rfl | trivial
  · exact fun _ _ => trivial

/-- The step goes on without an action, an answer or anything to do at once, up to `deadline`. -/
def WorkerStep.waitsFor (deadline : Option Duration) : WorkerStep → Bool
  | .continue progress => progress.dueActions == 0 && progress.commandResult.isNone && !progress.immediate &&
      decide (progress.nextDeadline = deadline)
  | .closed .. | .failed .. => false

/-- The periodic worker whose host has only asked for its device information. -/
def sampleAsked : Log .pro .periodic × Frame .pro .periodic :=
  play (scripted .ZERO (fun _ => none) fun n => if n = 1 then [.connected, .hidChannelOpened .control,
    .hidChannelOpened .interrupt, sampleSubcommand 0x02 0x00] else [])
    (play (scripted .ZERO (fun _ => some (.pair sampleTimeout)) fun _ => [])
      (samplePeriodic.openLog, samplePeriodic.start))

theorem sampleAsked_run : Run sampleAsked.1 sampleAsked.2 := by
  have hopened : Run samplePeriodic.openLog samplePeriodic.start := .opened samplePeriodic_isNew
  have hpairing := @Run.play _ _ (samplePeriodic.openLog, samplePeriodic.start) hopened
    (scripted .ZERO (fun _ => some (.pair sampleTimeout)) fun _ => []) (by decide +kernel)
  exact hpairing.play _ (by decide +kernel)

/-- Until it ends, the holdoff of that reply is what the worker waits for. -/
theorem no_busy_loop_asked : ∃ progress,
    (playStep (scripted .ZERO (fun _ => none) fun _ => []) sampleAsked).2.2 = .continue progress ∧
      progress.immediate = false ∧ Later Duration.ZERO progress.nextDeadline ∧
      (progress.waitRequest Duration.ZERO).isSome = true := by
  have hplayed : ((playStep (scripted .ZERO (fun _ => none) fun _ => []) sampleAsked).2.2.waitsFor
      (some replyHoldoff)) = true := by decide +kernel
  have hanswers : (playStep (scripted .ZERO (fun _ => none) fun _ => []) sampleAsked).2.2.progress.dueActions = 0 ∧
      (playStep (scripted .ZERO (fun _ => none) fun _ => []) sampleAsked).2.2.progress.commandResult = none := by
    unfold WorkerStep.waitsFor at hplayed
    split at hplayed
    · rename_i progress hstep
      simp only [Bool.and_eq_true, beq_iff_eq, Option.isNone_iff_eq_none] at hplayed
      rw [hstep]
      exact hplayed.1.1
    · cases hplayed
    · cases hplayed
  refine (no_busy_loop sampleAsked_run (playStep_exec _ _) (alone_scripted _ _) hanswers.1 hanswers.2).2 ?_
  rintro ⟨work, policy, until_, -, hpolicy, -, hholdoff, hle, -⟩
  have hpolicies : (sampleAsked.2.reporting.policy.bind PeriodicPolicy.replyHoldoffUntil) = some replyHoldoff := by
    decide +kernel
  rw [hpolicy, Option.bind_some, hholdoff] at hpolicies
  cases hpolicies
  exact absurd hle (by decide)

/-- Once it has ended, the worker is told to wait until then, and does not wait at all. -/
theorem stalled_spins : ∃ (h h' : Log .pro .periodic) (s s' : Frame .pro .periodic) (progress : StepProgress),
    Run h s ∧ Prog.Exec (stepRuntime s) h h' s' (.continue progress) ∧ Adds (LeftAlone replyHoldoff) h h' ∧
      progress.dueActions = 0 ∧ progress.commandResult = none ∧ progress.immediate = false ∧
      progress.nextDeadline = some replyHoldoff ∧ progress.waitRequest replyHoldoff = none := by
  have hplayed : ((playStep (scripted replyHoldoff (fun _ => none) fun _ => []) sampleAsked).2.2.waitsFor
      (some replyHoldoff)) = true := by decide +kernel
  have hexec := playStep_exec (scripted replyHoldoff (fun _ => none) fun _ => []) sampleAsked
  unfold WorkerStep.waitsFor at hplayed
  split at hplayed
  · rename_i progress hstep
    simp only [Bool.and_eq_true, beq_iff_eq, Option.isNone_iff_eq_none, Bool.not_eq_true', decide_eq_true_iff] at hplayed
    rw [hstep] at hexec
    refine ⟨_, _, _, _, progress, sampleAsked_run, hexec, alone_scripted _ _, hplayed.1.1.1, hplayed.1.1.2, hplayed.1.2,
      hplayed.2, ?_⟩
    unfold StepProgress.waitRequest
    rw [hplayed.2, Option.any_some, decide_eq_true (le_refl replyHoldoff), Bool.or_true, if_pos rfl]
  · cases hplayed
  · cases hplayed

end Swbt
