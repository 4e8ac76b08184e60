import Swbt.Runtime.Automatic
import Swbt.Runtime.Readiness
import Swbt.Runtime.Timeliness
/-!
# Ready comes as soon as it may

The other half of the evidence: a worker overlooks nothing that its session
shows. So a step that goes on and leaves the worker connecting leaves a session
that still lacks something Ready takes.
-/

set_option autoImplicit false

open Effects

namespace Swbt

variable {m : ControllerKind} {r : ReportingKind} {h h₀ h₁ h₂ h' : Log m r} {s s₁ s₂ s' f : Frame m r} {t : Duration}

/-! ## Events that show nothing -/

/-- An event that neither begins a session nor is one the worker comes to. -/
structure Unmet (e : LogEvent m r) : Prop where
  begun : begunSession e = none
  processed : processedEvent e = none

/-- An event that neither begins a session nor is an input report accepted. -/
structure Unreported (e : LogEvent m r) : Prop where
  begun : begunSession e = none
  report : (acceptedPayload e).bind List.head? ≠ some 0x30

theorem Unreported.of_offered {e : LogEvent m r} (hbegun : begunSession e = none) (hoffered : offeredPayload e = none) :
    Unreported e := by
  refine ⟨hbegun, ?_⟩
  rw [acceptedPayload_of_offered hoffered]
  simp

theorem Routine.unmet {e : LogEvent m r} (hroutine : Routine e) : Unmet e := by
  cases hroutine with
  | report hhead => exact ⟨rfl, rfl⟩
  | counted => exact ⟨rfl, rfl⟩
  | committed => exact ⟨rfl, rfl⟩

/-- Events that never satisfy `P` leave what was seen of it. -/
theorem Adds.since_eq {P : Log m r → LogEvent m r → Bool} {Q : LogEvent m r → Prop} (hadds : Adds Q h h')
    (hQ : ∀ e h, Q e → begunSession e = none ∧ P h e = false) : h'.since P = h.since P := by
  obtain ⟨added, rfl, hall⟩ := hadds
  induction added with
  | nil => rfl
  | cons e rest ih =>
    obtain ⟨he, hrest⟩ := List.forall_mem_cons.1 hall
    obtain ⟨hbegun, hfalse⟩ := hQ e (rest ++ h) he
    rw [List.cons_append, Log.since, hbegun]
    simp only [hfalse, Bool.false_or]
    exact ih hrest

theorem Adds.handled_eq (hadds : Adds Unmet h h') (event : TransportEvent) : h'.handled event = h.handled event := by
  refine Adds.since_eq hadds ?_
  intro e h he
  exact ⟨he.begun, by rw [he.processed]; rfl⟩

theorem Unmet.request {e : LogEvent m r} (hunmet : Unmet e) : (arrivedRequest e).any Option.isSome = false := by
  have hprocessed := hunmet.processed
  unfold arrivedRequest
  split
  · cases hprocessed
  · rfl
  · rfl

theorem Adds.noticed_eq (hadds : Adds Unmet h h') : h'.noticed = h.noticed :=
  Adds.since_eq hadds fun _ _ he => ⟨he.begun, he.request⟩

theorem Unreported.bootstraps {e : LogEvent m r} (hunreported : Unreported e) (h : Log m r) : h.bootstraps e = false := by
  have hreport := hunreported.report
  unfold Log.bootstraps
  cases haccepted : acceptedPayload e with
  | none => rfl
  | some payload =>
    rw [haccepted, Option.bind_some] at hreport
    simp [hreport]

theorem Adds.bootstrapped_eq (hadds : Adds Unreported h h') : h'.bootstrapped = h.bootstrapped := by
  refine Adds.since_eq hadds ?_
  intro e h he
  exact ⟨he.begun, by rw [he.bootstraps, Bool.and_false]⟩

/-- The automatic reports of a session are no bootstrap of it. -/
theorem Log.bootstraps_asked {e : LogEvent m r} (hasked : h.asksCapacity = true) : h.bootstraps e = false := by
  unfold Log.bootstraps
  rw [hasked]
  simp

theorem Log.handled_come {event : SessionEvent} {other : TransportEvent} :
    Log.handled other (.emit f (.processed (some event)) :: h) = (decide (event.event = other) || h.handled other) := rfl

theorem Log.noticed_come {e : LogEvent m r} (hbegun : begunSession e = none)
    (hrequest : (arrivedRequest e).any Option.isSome = false) : Log.noticed (e :: h) = h.noticed := by
  unfold Log.noticed
  rw [Log.since, hbegun]
  simp [hrequest]

/-! ## What a worker is aware of -/

/-- The handshake has seen what the log shows of its session. -/
structure Handshake.Aware (r : ReportingKind) (handshake : Handshake) (h : Log m r) : Prop where
  condition : r = .direct → handshake.completionCondition = .protocolReady
  link : h.handled .connected = true → handshake.linkObserved = true
  control : h.handled (.hidChannelOpened .control) = true → handshake.controlObserved = true
  interrupt : h.handled (.hidChannelOpened .interrupt) = true → handshake.interruptObserved = true
  accepted : h.bootstrapped = true → handshake.bootstrapAccepted = true

structure ConnectionWork.Aware (work : ConnectionWork) (h : Log m r) : Prop where
  handshake : ∀ handshake, work.handshake = some handshake → handshake.Aware r h
  collected : work.handshake = none → work.readiness.handshake.isSome = true

/-- The holdoff of a policy is that of a reply completed in the session. -/
def PeriodicPolicy.Owed (policy : PeriodicPolicy) (h : Log m r) : Prop :=
  ∀ until_, policy.replyHoldoffUntil = some until_ →
    ∃ u ∈ h.completions, until_.asNanos ≤ u.asNanos + replyHoldoff.asNanos

/-- The worker overlooks nothing that the log shows of its session. -/
structure Aware (h : Log m r) (s : Frame m r) : Prop where
  observed : s.sessions.current ≠ none → h.noticed = true → s.observed.isEmpty = false
  work : ∀ work, s.connection = some work → work.Aware h
  holdoff : s.sessions.current ≠ none → ∀ policy, s.reporting.policy = some policy → policy.Owed h

theorem Handshake.Aware.keep {handshake : Handshake} (haware : handshake.Aware r h) (hadds : Adds Unmet h h')
    (hbootstrapped : h'.bootstrapped = true → h.bootstrapped = true) : handshake.Aware r h' := by
  refine ⟨haware.condition, ?_, ?_, ?_, fun haccepted => haware.accepted (hbootstrapped haccepted)⟩
  · rw [Adds.handled_eq hadds]
    exact haware.link
  · rw [Adds.handled_eq hadds]
    exact haware.control
  · rw [Adds.handled_eq hadds]
    exact haware.interrupt

theorem ConnectionWork.Aware.keep {work : ConnectionWork} (haware : work.Aware h) (hadds : Adds Unmet h h')
    (hbootstrapped : h'.bootstrapped = true → h.bootstrapped = true) : work.Aware h' :=
  ⟨fun handshake hsome => (haware.handshake handshake hsome).keep hadds hbootstrapped, haware.collected⟩

/-- Events that show nothing leave a worker as aware as it was. -/
theorem Aware.keep (haware : Aware h s) (hclosed : h.replyOpen = false) (hunmet : Adds Unmet h h')
    (hunreplied : Adds Unreplied h h') (hsame : SameSession s s')
    (hbootstrapped : s.connection ≠ none → h'.bootstrapped = true → h.bootstrapped = true) : Aware h' s' := by
  obtain ⟨-, hcompletions⟩ := Adds.completions hunreplied hclosed
  refine ⟨?_, ?_, ?_⟩
  · rw [hsame.sessions, hsame.observed, Adds.noticed_eq hunmet]
    exact haware.observed
  · rw [hsame.connection]
    intro work hwork
    refine (haware.work work hwork).keep hunmet (hbootstrapped ?_)
    rw [hwork]
    exact Option.some_ne_none _
  · rw [hsame.sessions, hsame.policy]
    unfold PeriodicPolicy.Owed
    rw [hcompletions]
    exact haware.holdoff

/-- One event that shows nothing. -/
theorem Aware.log {e : LogEvent m r} (haware : Aware h s) (hclosed : h.replyOpen = false) (hunmet : Unmet e)
    (hoffered : offeredPayload e = none) : Aware (e :: h) s := by
  refine haware.keep hclosed (.single hunmet) (.single (.of_offered hunmet.begun hoffered)) .refl ?_
  intro _ hbootstrapped
  exact (Adds.bootstrapped_eq (.single (.of_offered hunmet.begun hoffered))).symm.trans hbootstrapped

theorem Aware.of_same (haware : Aware h s) (hsame : SameSession s s') : Aware h s' := by
  refine ⟨?_, ?_, ?_⟩
  · rw [hsame.sessions, hsame.observed]
    exact haware.observed
  · rw [hsame.connection]
    exact haware.work
  · rw [hsame.sessions, hsame.policy]
    exact haware.holdoff

theorem Aware.of_open (hopen : IsOpen s.toWorkerCore) : Aware h s := by
  refine ⟨fun hlive => absurd hopen.current hlive, ?_, fun hlive => absurd hopen.current hlive⟩
  intro work hwork
  rw [hopen.connection] at hwork
  cases hwork

/-! ## Commands -/

theorem Reporting.holdoff_resetPolicy {reporting : Reporting m r} {policy : PeriodicPolicy}
    (hpolicy : reporting.resetPolicy.policy = some policy) : policy.replyHoldoffUntil = none := by
  cases reporting with
  | periodic runtime =>
    cases hpolicy
    rfl
  | direct runtime => cases hpolicy

/-- A session that begins has nothing to overlook. -/
theorem Aware.begun {kind : ConnectionCommandKind} {timeout t : Duration} :
    Aware (s.beginLog (deadlineAfter t timeout) (.call s Op.now t :: startEvent kind s (.ok ()) ::
        .call f Op.nextCommand (some (connectCommand kind timeout)) :: h))
      (s.begin kind (deadlineAfter t timeout)) := by
  refine ⟨fun _ hnoticed => absurd hnoticed Bool.false_ne_true, ?_, ?_⟩
  · rintro work ⟨⟩
    refine ⟨?_, fun hnone => absurd hnone (Option.some_ne_none _)⟩
    rintro handshake ⟨⟩
    have hnothing : ∀ {P : Prop}, false = true → P := fun hfalse => absurd hfalse Bool.false_ne_true
    refine ⟨?_, hnothing, hnothing, hnothing, hnothing⟩
    rintro rfl
    rfl
  · intro _ policy hpolicy until_ huntil
    rw [Reporting.holdoff_resetPolicy hpolicy] at huntil
    cases huntil

theorem CommandEffect.aware {command : RuntimeCommand m r} {progress : WorkerCommandProgress}
    (he : CommandEffect (.call f Op.nextCommand (some command) :: h) s command h' s' progress)
    (hclosed : h.replyOpen = false) (hidle : s.connection = none) (haware : Aware h s) : Aware h' s' := by
  have hkeep : ∀ {h' : Log m r} {s' : Frame m r}, Adds Unmet h h' → Adds Unreplied h h' → SameSession s s' →
      Aware h' s' := fun hunmet hunreplied hsame => haware.keep hclosed hunmet hunreplied hsame (absurd hidle)
  have hstart : ∀ (kind : ConnectionCommandKind) (result : TransportResult Unit),
      Unmet (startEvent kind s result) ∧ Unreplied (startEvent kind s result) := by
    intro kind result
    cases kind with
    | pair => exact ⟨⟨rfl, rfl⟩, .of_offered rfl rfl⟩
    | reconnect => exact ⟨⟨rfl, rfl⟩, .of_offered rfl rfl⟩
  have htaken : ∀ command : RuntimeCommand m r, Adds Unmet h (.call f Op.nextCommand (some command) :: h) ∧
      Adds Unreplied h (.call f Op.nextCommand (some command) :: h) :=
    fun command => ⟨.single ⟨rfl, rfl⟩, .single (.of_offered rfl rfl)⟩
  cases he with
  | unstarted =>
    exact hkeep ((htaken _).1.cons (hstart _ _).1) ((htaken _).2.cons (hstart _ _).2) .refl
  | refused hopen =>
    refine hkeep (((htaken _).1.cons (hstart _ _).1).cons ?_) (((htaken _).2.cons (hstart _ _).2).cons ?_) .refl
    · exact ⟨rfl, rfl⟩
    · exact .of_offered rfl rfl
  | begun hopen => exact .begun
  | ended hended => exact hkeep (htaken _).1 (htaken _).2 .refl
  | input heffect =>
    have hunmet := heffect.routine.mono fun _ => Routine.unmet
    have hunreplied := heffect.routine.mono fun _ => Routine.unreplied
    refine hkeep (((htaken _).1.cons ?_).trans hunmet) (((htaken _).2.cons ?_).trans hunreplied) heffect.sameSession
    · exact ⟨rfl, rfl⟩
    · exact .of_offered rfl rfl

/-! ## Events -/

/-- An event that is no output report comes up. -/
theorem Aware.come {event : SessionEvent} {g : ConnectionSessionId → Handshake → Handshake} (haware : Aware h s)
    (hclosed : h.replyOpen = false)
    (hrequest : (arrivedRequest (.emit s (.processed (some event)) : LogEvent m r)).any Option.isSome = false)
    (hmap : ∀ work handshake, s.connection = some work → work.handshake = some handshake → handshake.Aware r h →
      (g work.sessionId handshake).Aware r (.emit s (.processed (some event)) :: h : Log m r)) :
    Aware (.emit s (.processed (some event)) :: h) (s.mapHandshake g) := by
  have hadds : Adds Unreplied h (.emit s (.processed (some event)) :: h) := .single (.of_offered rfl rfl)
  obtain ⟨-, hcompletions⟩ := Adds.completions hadds hclosed
  refine ⟨?_, ?_, ?_⟩
  · rw [Log.noticed_come rfl hrequest]
    exact haware.observed
  · intro work hwork
    obtain ⟨before, hbefore, rfl⟩ := Option.map_eq_some_iff.1 hwork
    obtain ⟨hshown, hcollected⟩ := haware.work before hbefore
    refine ⟨?_, fun hnone => hcollected (Option.map_eq_none_iff.1 hnone)⟩
    intro handshake hsome
    obtain ⟨earlier, hearlier, rfl⟩ := Option.map_eq_some_iff.1 hsome
    exact hmap before earlier hbefore hearlier (hshown earlier hearlier)
  · unfold PeriodicPolicy.Owed
    rw [hcompletions]
    exact haware.holdoff

theorem Handshake.Aware.observeLink {handshake : Handshake} {event : SessionEvent} (haware : handshake.Aware r h)
    (hevent : event.event = .connected) :
    (handshake.observeLink handshake.sessionId).Aware r (.emit f (.processed (some event)) :: h : Log m r) := by
  unfold Handshake.observeLink
  rw [if_pos rfl]
  have hbootstrapped : Log.bootstrapped (.emit f (.processed (some event)) :: h) = h.bootstrapped :=
    Adds.bootstrapped_eq (.single (.of_offered rfl rfl))
  refine ⟨haware.condition, fun _ => rfl, ?_, ?_, ?_⟩
  · rw [Log.handled_come, hevent]
    exact haware.control
  · rw [Log.handled_come, hevent]
    exact haware.interrupt
  · rw [hbootstrapped]
    exact haware.accepted

theorem Handshake.Aware.observeChannel {handshake : Handshake} {event : SessionEvent} {channel : HidChannel}
    (haware : handshake.Aware r h) (hevent : event.event = .hidChannelOpened channel) :
    (handshake.observeChannel handshake.sessionId channel).Aware r
      (.emit f (.processed (some event)) :: h : Log m r) := by
  unfold Handshake.observeChannel
  rw [if_neg (not_not.2 rfl)]
  have hbootstrapped : Log.bootstrapped (.emit f (.processed (some event)) :: h) = h.bootstrapped :=
    Adds.bootstrapped_eq (.single (.of_offered rfl rfl))
  have hlink : Log.handled .connected (.emit f (.processed (some event)) :: h) = h.handled .connected := by
    rw [Log.handled_come, hevent]
    rfl
  cases channel with
  | control =>
    refine ⟨haware.condition, ?_, fun _ => rfl, ?_, ?_⟩
    · rw [hlink]
      exact haware.link
    · rw [Log.handled_come, hevent]
      exact haware.interrupt
    · rw [hbootstrapped]
      exact haware.accepted
  | interrupt =>
    refine ⟨haware.condition, ?_, ?_, fun _ => rfl, ?_⟩
    · rw [hlink]
      exact haware.link
    · rw [Log.handled_come, hevent]
      exact haware.control
    · rw [hbootstrapped]
      exact haware.accepted

/-- What an answer adds shows no link, no channel and no bootstrap. -/
theorem Answered.unmet {channel : HidChannel} {raw : List UInt8} {current : InputState m}
    {completion : Except OutputHandlingError OutputHandling} (ha : Answered channel raw current h s h' s' completion) :
    Adds Unmet h h' ∧ Adds Unreported h h' := by
  have hunmet : ∀ {channel : HidChannel} {output : OutputReport} {id : UInt8}, Adds Unmet h
      (.emit (s.observe id) (.status (.recordSubcommand id)) :: .emit s (.observeOutput (observationOf channel output)) :: h) := by
    intro channel output id
    refine Adds.cons (Adds.single ?_) ?_
    · exact ⟨rfl, rfl⟩
    · exact ⟨rfl, rfl⟩
  have hunreported : ∀ {channel : HidChannel} {output : OutputReport} {id : UInt8}, Adds Unreported h
      (.emit (s.observe id) (.status (.recordSubcommand id)) :: .emit s (.observeOutput (observationOf channel output)) :: h) :=
    (Adds.single (.of_offered rfl rfl)).cons (.of_offered rfl rfl)
  cases ha with
  | malformed hparse => exact ⟨.refl, .refl⟩
  | rumble hparse =>
    refine ⟨.single ?_, .single (.of_offered rfl rfl)⟩
    exact ⟨rfl, rfl⟩
  | unprepared hparse hprepare => exact ⟨hunmet, hunreported⟩
  | replied hparse hprepare hsent =>
    have hhead := (prepareReply_spec hprepare).head
    cases hsent with
    | refused error =>
      refine ⟨hunmet.cons ?_, hunreported.cons ?_⟩
      · exact ⟨rfl, rfl⟩
      · exact ⟨rfl, by simp [acceptedPayload]⟩
    | accepted =>
      refine ⟨(hunmet.cons ?_).cons ?_, (hunreported.cons ?_).cons (.of_offered rfl rfl)⟩
      · exact ⟨rfl, rfl⟩
      · exact ⟨rfl, rfl⟩
      · refine ⟨rfl, ?_⟩
        change List.head? _ ≠ _
        rw [hhead]
        decide

/-- Whatever subcommand there is in an output report is observed. -/
theorem Answered.observed {event : SessionEvent} {channel : HidChannel} {raw : List UInt8} {current : InputState m}
    {completion : Except OutputHandlingError OutputHandling} (ha : Answered channel raw current h s h' s' completion)
    (hevent : event.event = .hidOutput channel raw) :
    s'.observed.isEmpty = false ∨
      (s'.observed = s.observed ∧
        (arrivedRequest (.emit f (.processed (some event)) : LogEvent m r)).any Option.isSome = false) := by
  obtain ⟨sessionId, transported⟩ := event
  cases hevent
  cases ha with
  | malformed hparse => exact .inr ⟨rfl, by simp [arrivedRequest, hparse]⟩
  | rumble hparse => exact .inr ⟨rfl, by simp [arrivedRequest, hparse]⟩
  | unprepared hparse hprepare => exact .inl (s.observed.isEmpty_observe _)
  | replied hparse hprepare hsent =>
    rename_i request _ _
    rw [(Sent.sameControl hsent).observed]
    exact .inl (s.observed.isEmpty_observe request.id)

/-- The holdoff after a reply completed at `t` is that reply's, or the one before. -/
theorem Reporting.owed_recorded {reporting : Reporting m r} {policy : PeriodicPolicy}
    (hpolicy : (reporting.recorded t (.ok .replyAccepted)).policy = some policy)
    (howed : ∀ before, reporting.policy = some before → before.Owed h) {until_ : Duration}
    (huntil : policy.replyHoldoffUntil = some until_) :
    ∃ u ∈ t :: h.completions, until_.asNanos ≤ u.asNanos + replyHoldoff.asNanos := by
  cases reporting with
  | direct runtime => cases hpolicy
  | periodic runtime =>
    have hbefore : ∀ until_, runtime.policy.replyHoldoffUntil = some until_ →
        ∃ u ∈ t :: h.completions, until_.asNanos ≤ u.asNanos + replyHoldoff.asNanos := by
      intro until_ huntil
      obtain ⟨u, hmem, hle⟩ := howed runtime.policy rfl until_ huntil
      exact ⟨u, List.mem_cons_of_mem _ hmem, hle⟩
    unfold recorded PeriodicPolicy.recordOutputCompletion at hpolicy
    cases hadd : t.checkedAdd replyHoldoff with
    | none =>
      rw [hadd] at hpolicy
      cases hpolicy
      exact hbefore until_ huntil
    | some heldUntil =>
      rw [hadd] at hpolicy
      cases hpolicy
      have hown := Duration.checkedAdd_some hadd
      cases hholdoff : runtime.policy.replyHoldoffUntil with
      | none =>
        rw [hholdoff] at huntil
        cases huntil
        exact ⟨t, List.mem_cons_self .., hown.le⟩
      | some current =>
        rw [hholdoff] at huntil
        cases huntil
        dsimp only
        rcases le_total current heldUntil with hle | hle
        · rw [max_eq_right hle]
          exact ⟨t, List.mem_cons_self .., hown.le⟩
        · rw [max_eq_left hle]
          exact hbefore current hholdoff

theorem Answered.aware {event : SessionEvent} {channel : HidChannel} {raw : List UInt8} {held : Option (Tap m)}
    {completion : Except OutputHandlingError OutputHandling} {errors : List WorkerOperationError}
    (ha : Answered channel raw s.input (.emit s (.processed (some event)) :: h) (s.setTap held) h' s' completion)
    (hevent : event.event = .hidOutput channel raw) (hclosed : h.replyOpen = false) (haware : Aware h s) :
    Aware (.call (s'.setTap s.reporting.tap) Op.now t :: h') ((s'.setTap s.reporting.tap).record t completion errors) := by
  obtain ⟨-, hsessions, hconnection, -⟩ := ha.keeps
  have hsessions : s'.sessions = s.sessions := hsessions
  have hreporting := ha.reporting_back
  have hprocessed : Adds Unreplied h (.emit s (.processed (some event)) :: h) := .single (.of_offered rfl rfl)
  obtain ⟨hstillClosed, hcompletions⟩ := Adds.completions hprocessed hclosed
  obtain ⟨hanswer, hreport⟩ := ha.unmet
  have hunmet : Adds Unmet (.emit s (.processed (some event)) :: h) (.call (s'.setTap s.reporting.tap) Op.now t :: h') := by
    refine hanswer.cons ?_
    exact ⟨rfl, rfl⟩
  have hunreported : Adds Unreported h (.call (s'.setTap s.reporting.tap) Op.now t :: h') :=
    ((Adds.single (.of_offered rfl rfl)).trans hreport).cons (.of_offered rfl rfl)
  refine ⟨?_, ?_, ?_⟩
  · intro hlive hnoticed
    rcases Answered.observed (f := s) ha hevent with hobserved | ⟨hobserved, hrequest⟩
    · exact hobserved
    · rw [Adds.noticed_eq hunmet, Log.noticed_come rfl hrequest] at hnoticed
      have hlive : s.sessions.current ≠ none := (congrArg ConnectionSessions.current hsessions) ▸ hlive
      exact (congrArg ObservedSubcommands.isEmpty hobserved).trans (haware.observed hlive hnoticed)
  · intro work hwork
    obtain ⟨hshown, hcollected⟩ := haware.work work (hconnection.symm.trans hwork)
    refine ⟨?_, hcollected⟩
    intro handshake hsome
    have hbefore := hshown handshake hsome
    have hother : ∀ other, other ≠ .hidOutput channel raw →
        Log.handled other (.call (s'.setTap s.reporting.tap) Op.now t :: h') = h.handled other := by
      intro other hother
      rw [Adds.handled_eq hunmet, Log.handled_come, hevent, decide_eq_false (Ne.symm hother), Bool.false_or]
    refine ⟨hbefore.condition, ?_, ?_, ?_, ?_⟩
    · rw [hother _ (by simp)]
      exact hbefore.link
    · rw [hother _ (by simp)]
      exact hbefore.control
    · rw [hother _ (by simp)]
      exact hbefore.interrupt
    · rw [Adds.bootstrapped_eq hunreported]
      exact hbefore.accepted
  · intro hlive policy hpolicy
    have hpolicy : ((s'.setTap s.reporting.tap).reporting.recorded t completion).policy = some policy := hpolicy
    have hlive : s.sessions.current ≠ none := (congrArg ConnectionSessions.current hsessions) ▸ hlive
    have howed := haware.holdoff hlive
    rw [hreporting] at hpolicy
    rcases ha.completes with ⟨hnone, hadds⟩ | ⟨rfl, hopen, hkept, -⟩
    · rw [Reporting.policy_recorded _ _ hnone] at hpolicy
      obtain ⟨-, hkept⟩ := Adds.completions (hadds.cons (e := .call (s'.setTap s.reporting.tap) Op.now t)
        (.of_offered rfl rfl)) hstillClosed
      unfold PeriodicPolicy.Owed
      rw [hkept, hcompletions]
      exact howed policy hpolicy
    -- the reading completes the reply
    · have hread : Log.completions (.call (s'.setTap s.reporting.tap) Op.now t :: h') = t :: h.completions := by
        rw [Log.completions, hkept, hcompletions]
        unfold Log.completion
        rw [hopen]
        rfl
      intro until_ huntil
      rw [hread]
      exact Reporting.owed_recorded hpolicy howed huntil

theorem EventEffect.aware {event : SessionEvent} {result : Except WorkerCoreError Bool}
    (he : EventEffect event h s h' s' result) (hs : s.Sound) (hclosed : h.replyOpen = false) (haware : Aware h s) :
    Aware h' s' := by
  have hown : ∀ work handshake, s.connection = some work → work.handshake = some handshake →
      work.sessionId = handshake.sessionId := by
    intro work handshake hwork hsome
    exact ((hs.coherent.of_connection hwork).work.handshake handshake hsome).symm
  obtain ⟨sessionId, transported⟩ := event
  cases he with
  | dropped hstale => exact haware.log hclosed ⟨rfl, rfl⟩ rfl
  | connected hcurrent hevent =>
    cases hevent
    have hcome : Aware (.emit s (.processed (some ⟨sessionId, .connected⟩)) :: h) s.observeLink := by
      refine haware.come hclosed rfl ?_
      intro work handshake hwork hsome hbefore
      rw [hown work handshake hwork hsome]
      exact hbefore.observeLink rfl
    have hsame : SameSession s.observeLink s.connect.observeLink :=
      ⟨rfl, rfl, rfl, rfl⟩
    have hstillClosed : Log.replyOpen (.emit s (.processed (some ⟨sessionId, .connected⟩)) :: h) = false :=
      Log.replyOpen_cons (by simp [acceptedPayload]) hclosed
    refine (hcome.log (e := .emit s.connect (.status (.setConnected true))) hstillClosed ?_ rfl).of_same hsame
    exact ⟨rfl, rfl⟩
  | opened hcurrent hevent =>
    cases hevent
    rename_i channel
    refine haware.come hclosed rfl ?_
    intro work handshake hwork hsome hbefore
    rw [hown work handshake hwork hsome]
    exact hbefore.observeChannel rfl
  | answered hcurrent hevent hheld hanswered => exact hanswered.aware hevent hclosed haware
  | disconnected hcurrent hevent => exact .of_open (disconnect_open hs hcurrent _)

/-! ## Drives -/

/-- A running handshake still lacks something of what it has to show. -/
theorem HandshakeEffect.aware {handshake handshake' : Handshake} {progress : HandshakeProgress}
    (he : HandshakeEffect handshake t h s h' s' (.ok progress, handshake')) (haware : handshake.Aware r h) :
    handshake'.Aware r h' ∧ (handshake'.bootstrapStopped = false → h'.linked = true → h'.bootstrapped = true →
      handshake'.satisfied s' = false) := by
  cases he with
  | stopped hstopped => exact ⟨haware, fun hrunning => absurd (hstopped.symm.trans hrunning) Bool.true_eq_false.mp⟩
  | waitingForTopology hrunning htopology =>
    refine ⟨haware, ?_⟩
    intro _ hlinked _
    unfold Log.linked at hlinked
    rw [Bool.and_eq_true, Bool.and_eq_true] at hlinked
    have hready : handshake.topologyReady = true := by
      unfold Handshake.topologyReady
      rw [haware.link hlinked.1.1, haware.control hlinked.1.2, haware.interrupt hlinked.2]
      rfl
    rw [hready] at htopology
    cases htopology
  | observed hrunning htopology haccepted hsatisfied =>
    refine ⟨⟨haware.condition, haware.link, haware.control, haware.interrupt, haware.accepted⟩, ?_⟩
    intro hstopped
    cases hstopped
  | waiting hattempting hretry hlt =>
    refine ⟨haware, ?_⟩
    intro _ _ hbootstrapped
    simpa [haware.accepted hbootstrapped] using hattempting.unsatisfied
  | attempted hattempting hscheduled hsent =>
    rename_i skipped scheduler sent
    have hunmet : Adds Unmet h h' := hsent.routine.mono fun _ => Routine.unmet
    unfold Handshake.recordBootstrapAttempt
    rcases sent with error | ⟨⟩
    -- a refused report leaves the log without a bootstrap
    · have hrefused : s' = s ∧ h'.bootstrapped = h.bootstrapped := by
        unfold InputSent at hsent
        cases hsent with
        | refused error =>
          refine ⟨rfl, Adds.bootstrapped_eq (.single ?_)⟩
          exact ⟨rfl, by simp [acceptedPayload]⟩
      obtain ⟨rfl, hsame⟩ := hrefused
      have hkept := haware.keep hunmet hsame.symm.trans
      refine ⟨⟨hkept.condition, hkept.link, hkept.control, hkept.interrupt, hkept.accepted⟩, ?_⟩
      intro _ _ hbootstrapped
      have haccepted := haware.accepted (hsame.symm.trans hbootstrapped)
      change handshake.satisfied s' = false
      simpa [haccepted] using hattempting.unsatisfied
    · have hlinked : ∀ {event : TransportEvent}, h'.handled event = h.handled event := Adds.handled_eq hunmet _
      have haccepted : Handshake.Aware r { handshake with retry := some scheduler, bootstrapAccepted := true } h' := by
        refine ⟨haware.condition, ?_, ?_, ?_, fun _ => rfl⟩
        · rw [hlinked]
          exact haware.link
        · rw [hlinked]
          exact haware.control
        · rw [hlinked]
          exact haware.interrupt
      dsimp only
      split
      · rename_i hsatisfied
        refine ⟨⟨haccepted.condition, haccepted.link, haccepted.control, haccepted.interrupt, haccepted.accepted⟩, ?_⟩
        intro hstopped
        cases hstopped
      · rename_i hunsatisfied
        exact ⟨haccepted, fun _ _ _ => Bool.not_eq_true _ ▸ hunsatisfied⟩

/-- What Ready takes is there, as the worker sees it at `t`. -/
structure Able (h : Log m r) (s : Frame m r) (t : Duration) : Prop where
  linked : h.linked = true
  bootstrapped : h.bootstrapped = true
  protocol : s.sender.committed.session.protocolReady = true
  noticed : r = .periodic → h.noticed = true
  unheld : r = .periodic → ∀ u ∈ h.completions, u.asNanos + replyHoldoff.asNanos ≤ t.asNanos

/-- A worker in the middle of a drive, its work taken out. -/
structure Onward (work : ConnectionWork) (h : Log m r) (s : Frame m r) : Prop where
  aware : Aware h s
  carried : work.Aware h
  live : s.sessions.current ≠ none
  unsatisfied : ∀ handshake, work.handshake = some handshake → handshake.bootstrapStopped = false →
    h.linked = true → h.bootstrapped = true → handshake.satisfied s = false

theorem Frame.satisfied_noteHandshake (s : Frame m r) (progress : HandshakeProgress) (handshake : Handshake) :
    handshake.satisfied (s.noteHandshake progress) = handshake.satisfied s := by
  unfold Handshake.satisfied
  rw [Frame.sender_noteHandshake, (s.noteHandshake_sameControl progress).observed]

theorem HandshakeDriven.onward {work work' : ConnectionWork} {actions : Nat}
    (hd : HandshakeDriven work t h s.takeConnection h' s' (.ok actions, work')) (hs : s.Sound)
    (hclosed : h.replyOpen = false) (haware : Aware h s) (hwork : s.connection = some work) : Onward work' h' s' := by
  have hconnecting := hs.coherent.of_connection hwork
  obtain ⟨hcontrol, hreporting, -⟩ := hd.sameControl hconnecting.work
  have hlive : s.sessions.current ≠ none := by
    rw [hconnecting.current]
    exact Option.some_ne_none _
  have htaken : Aware h s.takeConnection :=
    ⟨haware.observed, fun work hnone => absurd hnone.symm (Option.some_ne_none work), haware.holdoff⟩
  have hsame : SameSession s.takeConnection s' :=
    ⟨hcontrol.sessions, hcontrol.connection, hcontrol.observed, congrArg Reporting.policy hreporting⟩
  refine ⟨?_, ?_, hcontrol.sessions ▸ hlive, ?_⟩
  · exact htaken.keep hclosed (hd.routine.mono fun _ => Routine.unmet) (hd.routine.mono fun _ => Routine.unreplied) hsame
      (absurd rfl)
  · have hbefore := haware.work work hwork
    generalize hresult : (Except.ok actions, work') = result at hd
    cases hd with
    | collected hnone =>
      cases hresult
      exact hbefore
    | overflow hsome heffect => cases hresult
    | stepped hsome heffect =>
      obtain rfl := (Prod.mk.inj hresult).2
      refine ⟨?_, fun hnone => absurd hnone (Option.some_ne_none _)⟩
      rintro handshake ⟨⟩
      exact (heffect.aware (hbefore.handshake _ hsome)).1
  · generalize hresult : (Except.ok actions, work') = result at hd
    cases hd with
    | collected hnone =>
      cases hresult
      intro handshake hsome
      rw [hnone] at hsome
      cases hsome
    | overflow hsome heffect => cases hresult
    | stepped hsome heffect =>
      obtain rfl := (Prod.mk.inj hresult).2
      rintro handshake ⟨⟩ hrunning hlinked hbootstrapped
      rw [Frame.satisfied_noteHandshake]
      exact (heffect.aware ((haware.work work hwork).handshake _ hsome)).2 hrunning hlinked hbootstrapped

/-- A pending evaluation has found something lacking. -/
theorem Evaluated.unable {work : ConnectionWork} {wait : ReadinessWait} {evaluation : Evaluation}
    (he : Evaluated work.readiness t work.handshake h s h' s' evaluation) (hresult : evaluation.result = .ok (.pending wait))
    (honward : Onward work h s) (hevident : work.Shown h) : ¬ Able h s t := by
  intro hable
  cases he with
  | uncollected hgate hcompletion =>
    cases hhandshake : work.handshake with
    | none =>
      have hcollected := honward.carried.collected hhandshake
      rw [hgate] at hcollected
      cases hcollected
    | some handshake =>
      have hrunning : handshake.bootstrapStopped = false := by
        rw [hhandshake, Option.bind_some] at hcompletion
        unfold Handshake.completion at hcompletion
        simpa using hcompletion
      have hunsatisfied := honward.unsatisfied handshake hhandshake hrunning hable.linked hable.bootstrapped
      unfold Handshake.satisfied HandshakeCompletionCondition.isSatisfied at hunsatisfied
      cases r with
      | periodic =>
        rw [(hevident.handshake handshake hhandshake).condition rfl] at hunsatisfied
        have hobserved := honward.aware.observed honward.live (hable.noticed rfl)
        simp [hobserved] at hunsatisfied
      | direct =>
        rw [(honward.carried.handshake handshake hhandshake).condition rfl] at hunsatisfied
        exact absurd (hable.protocol.symm.trans hunsatisfied) (by decide)
  | mismatched hgate hcompletion hne => cases hresult
  | overflow hcollect hstart => cases hresult
  | unready hcollect hstart hready => exact absurd (hable.protocol.symm.trans hready) (by decide)
  | heldOff hcollect hstart hready hheld =>
    rename_i until_
    obtain ⟨policy, hpolicy, hheld⟩ := Option.bind_eq_some_iff.1 hheld
    unfold PeriodicPolicy.heldOff at hheld
    obtain ⟨huntil, hlater⟩ := Option.filter_eq_some_iff.1 hheld
    rw [decide_eq_true_eq, Duration.lt_def] at hlater
    obtain ⟨u, hmem, hle⟩ := honward.aware.holdoff honward.live policy hpolicy until_ huntil
    have hr : r = .periodic := by
      cases r with
      | periodic => rfl
      | direct =>
        rw [Frame.policy_direct] at hpolicy
        cases hpolicy
    -- Every holdoff of the session has passed, and the policy holds none but these.
    have hpast := hable.unheld hr u hmem
    omega
  | ready hcollect hgate hstart hready hheld => cases hresult

theorem Aware.started {reporting : Reporting m r} {session : ProtocolSession} (haware : Aware h s)
    (hstart : s.reporting.started session t = .ok reporting) : Aware h { s with reporting } := by
  refine ⟨haware.observed, haware.work, ?_⟩
  intro hlive policy hpolicy until_ huntil
  have hholdoff := Reporting.holdoff_started hstart
  rw [show reporting.policy = some policy from hpolicy] at hholdoff
  obtain ⟨before, hbefore, hsame⟩ := Option.map_eq_some_iff.1 hholdoff.symm
  exact haware.holdoff hlive before hbefore until_ (hsame.trans huntil)

/-- A gate that has collected its handshake keeps hold of it. -/
theorem ConnectionWork.Aware.collect {work : ConnectionWork} {gate : ReadinessGate} {handshake : Option Handshake}
    (haware : work.Aware h) (hcollect : work.readiness.collectHandshake work.handshake = .ok (true, gate, handshake)) :
    ConnectionWork.Aware ⟨work.sessionId, handshake, gate⟩ h := by
  unfold ReadinessGate.collectHandshake at hcollect
  split at hcollect
  · cases hcollect
    exact ⟨haware.handshake, haware.collected⟩
  · split at hcollect
    · cases hcollect
    · split at hcollect
      · cases hcollect
      · cases hcollect
        exact ⟨fun handshake hnone => absurd hnone.symm (Option.some_ne_none handshake), fun _ => rfl⟩

theorem Evaluated.aware {work : ConnectionWork} {progress : ReadinessProgress} {evaluation : Evaluation}
    (he : Evaluated work.readiness t work.handshake h s h' s' evaluation)
    (hresult : evaluation.result = .ok progress) (honward : Onward work h s) :
    Aware h' s' ∧ (∀ wait, progress = .pending wait → (work.evaluated evaluation).Aware h') := by
  cases he with
  | uncollected hgate hcompletion => exact ⟨honward.aware, fun _ _ => honward.carried⟩
  | mismatched hgate hcompletion hne => cases hresult
  | overflow hcollect hstart => cases hresult
  | unready hcollect hstart hready => exact ⟨honward.aware.started hstart, fun _ _ => honward.carried.collect hcollect⟩
  | heldOff hcollect hstart hready hheld =>
    exact ⟨honward.aware.started hstart, fun _ _ => honward.carried.collect hcollect⟩
  | ready hcollect hgate hstart hready hheld =>
    refine ⟨honward.aware.started hstart, ?_⟩
    rintro wait rfl
    cases hresult

/-- A drive that leaves work behind has found something lacking. -/
theorem DriveEffect.aware {actions : Nat} (he : DriveEffect t (.call s Op.now t :: h) s h' s' (.ok actions))
    (hs : s.Sound) (hevident : Evident h s) (haware : Aware h s) :
    Aware h' s' ∧ (s'.connection ≠ none → ¬ Able h' s' t) := by
  have hclosed : Log.replyOpen (.call s Op.now t :: h) = false := rfl
  have hnow : Aware (.call s Op.now t :: h) s := haware.log hevident.completed ⟨rfl, rfl⟩ rfl
  cases he with
  | idle hnone => exact ⟨hnow, absurd hnone⟩
  | aborted hwork hinactive =>
    have hopen := abort_open (s := s.takeConnection) (hs.coherent.of_connection hwork).lifecycle rfl
    exact ⟨.of_open (hopen _), absurd (hopen _).connection⟩
  | pending hwork hactive hhandshake hevaluated hresult =>
    have honward := hhandshake.onward hs hclosed hnow hwork
    obtain ⟨hdriven, -⟩ := hhandshake.driven hs hevident hwork
    obtain ⟨hafter, hcarried⟩ := hevaluated.aware hresult honward
    obtain ⟨-, -, hwork', -⟩ := hhandshake.sameControl (hs.coherent.of_connection hwork).work
    obtain ⟨-, hsender, hlog, -⟩ := hevaluated.sameControl hwork'
    refine ⟨⟨hafter.observed, ?_, hafter.holdoff⟩, fun _ hable => ?_⟩
    · rintro work ⟨⟩
      exact hcarried _ rfl
    · refine hevaluated.unable hresult honward hdriven.shown ?_
      rw [hlog] at hable
      refine ⟨hable.linked, hable.bootstrapped, ?_, hable.noticed, hable.unheld⟩
      rw [← hsender]
      exact hable.protocol
  | ready hwork hactive hhandshake hevaluated hresult =>
    have hconnecting := hs.coherent.of_connection hwork
    have honward := hhandshake.onward hs hclosed hnow hwork
    obtain ⟨hdriven, -⟩ := hhandshake.driven hs hevident hwork
    obtain ⟨hafter, -⟩ := hevaluated.aware hresult honward
    obtain ⟨hsame₁, -, hwork₁, -⟩ := hhandshake.sameControl hconnecting.work
    obtain ⟨hsame₂, -, hlog, -⟩ := hevaluated.sameControl hwork₁
    have hidle := (hsame₁.trans hsame₂).connection
    rename_i s₂
    have hmarked : SameSession s₂ s₂.markReady := ⟨rfl, rfl, rfl, rfl⟩
    have hsame := hmarked.trans (s₂.markReady.complete_sameSession (.ok ()))
    refine ⟨?_, absurd (hsame.connection.trans hidle)⟩
    refine (hafter.log ?_ ⟨rfl, rfl⟩ rfl).of_same hsame
    rw [hlog]
    exact hdriven.evident.completed
  | evaluationFailed hwork hactive hhandshake hevaluated hresult =>
    have hconnecting := hs.coherent.of_connection hwork
    obtain ⟨hsame₁, -, hwork₁, -⟩ := hhandshake.sameControl hconnecting.work
    obtain ⟨hsame₂, -, -, -⟩ := hevaluated.sameControl hwork₁
    have hsame := hsame₁.trans hsame₂
    have hopen := abort_open (hsame.lifecycle.trans hconnecting.lifecycle) hsame.connection
    exact ⟨.of_open (hopen _), absurd (hopen _).connection⟩

/-! ## Due actions -/

/-- A report sent once send capacity has been asked for is no bootstrap. -/
theorem InputSent.bootstrapped_asked {state : InputState m} {nowNs : UInt64} {result : TransportResult Unit}
    (hsent : InputSent state nowNs h s h' s' result) (hasked : h.asksCapacity = true) :
    h'.bootstrapped = h.bootstrapped := by
  unfold InputSent at hsent
  cases hsent with
  | refused error =>
    refine Adds.bootstrapped_eq (.single ?_)
    exact ⟨rfl, by simp [acceptedPayload]⟩
  | accepted =>
    refine (Adds.bootstrapped_eq (.single (.of_offered rfl rfl))).trans ?_
    unfold Log.bootstrapped
    simp only [Log.since, begunSession, Log.bootstraps_asked hasked, Bool.and_false, Bool.false_or]

/-- What falls due while a connection is pending is no bootstrap. -/
theorem DueEffect.awaits {due : ReportingDue} (he : DueEffect t (.call s Op.now t :: h) s h' s' due)
    (hs : s.Sound) (hwork : s.connection ≠ none) : h'.bootstrapped = h.bootstrapped := by
  have hread : Adds Unreported h (.call s Op.now t :: h) := .single (.of_offered rfl rfl)
  cases he with
  | quiet htap hpolicy => exact Adds.bootstrapped_eq hread
  | failed hpolicy herror => exact Adds.bootstrapped_eq hread
  | backpressured htap hpolicy hticks => exact Adds.bootstrapped_eq (hread.cons (.of_offered rfl rfl))
  | automatic hpolicy hticks hsent herrors =>
    refine (hsent.bootstrapped_asked rfl).trans (Adds.bootstrapped_eq (hread.cons ?_))
    exact .of_offered rfl rfl
  | released htap hdue hreleased =>
    obtain ⟨work, hwork⟩ := Option.ne_none_iff_exists'.1 hwork
    rw [(hs.coherent.of_connection hwork).tap] at htap
    cases htap

theorem DueEffect.unmet {due : ReportingDue} (he : DueEffect t (.call s Op.now t :: h) s h' s' due) :
    Adds Unmet h h' ∧ Adds Unreplied h h' := by
  have hunmet : Adds Unmet h (.call s Op.now t :: h) := .single ⟨rfl, rfl⟩
  have hunreplied : Adds Unreplied h (.call s Op.now t :: h) := .single (.of_offered rfl rfl)
  refine ⟨hunmet.trans (he.events.mono ?_), hunreplied.trans (he.events.mono ?_)⟩
  · intro e hevent
    cases hevent with
    | asked => exact ⟨rfl, rfl⟩
    | routine hroutine => exact hroutine.unmet
  · intro e hevent
    cases hevent with
    | asked => exact .of_offered rfl rfl
    | routine hroutine => exact hroutine.unreplied

theorem DueEffect.aware {due : ReportingDue} (he : DueEffect t (.call s Op.now t :: h) s h' s' due) (hs : s.Sound)
    (hclosed : h.replyOpen = false) (haware : Aware h s) : Aware h' (s'.recordDue due) := by
  have hbootstrapped : s.connection ≠ none → h'.bootstrapped = true → h.bootstrapped = true :=
    fun hwork => (he.awaits hs hwork).symm.trans
  obtain ⟨hunmet, hunreplied⟩ := he.unmet
  have hrecord := s'.recordDue_sameSession due
  have hticked : ∀ {policy : PeriodicPolicy} {scheduler : ReportScheduler}, s.reporting.policy = some policy →
      Aware h (s.setPolicy { policy with scheduler := some scheduler }) := by
    intro policy scheduler hpolicy
    refine ⟨haware.observed, haware.work, ?_⟩
    intro hlive policy' hpolicy'
    rw [Frame.setPolicy, Reporting.policy_withPolicy hpolicy] at hpolicy'
    cases hpolicy'
    exact haware.holdoff hlive policy hpolicy
  cases he with
  | quiet htap hpolicy => exact haware.keep hclosed hunmet hunreplied hrecord hbootstrapped
  | failed hpolicy herror => exact haware.keep hclosed hunmet hunreplied hrecord hbootstrapped
  | backpressured htap hpolicy hticks => exact (hticked hpolicy).keep hclosed hunmet hunreplied hrecord hbootstrapped
  | automatic hpolicy hticks hsent herrors =>
    have hcontrol := Sent.sameControl hsent
    have hsame := SameSession.mk hcontrol.sessions hcontrol.connection hcontrol.observed
      (congrArg Reporting.policy (Sent.reporting hsent))
    exact (hticked hpolicy).keep hclosed hunmet hunreplied (hsame.trans hrecord) hbootstrapped
  | released htap hdue hreleased =>
    have hsame := (SameSession.refl (s := s)).setTap none
    exact haware.keep hclosed hunmet hunreplied ((hsame.trans hreleased.sameSession).trans hrecord) hbootstrapped

theorem InputSent.protocolReady {state : InputState m} {nowNs : UInt64} {result : TransportResult Unit}
    (hsent : InputSent state nowNs h s h' s' result) :
    s'.sender.committed.session.protocolReady = s.sender.committed.session.protocolReady := by
  unfold InputSent at hsent
  cases hsent with
  | refused error => rfl
  | accepted => rfl

theorem DueEffect.protocolReady {due : ReportingDue} (he : DueEffect t (.call s Op.now t :: h) s h' s' due)
    (hs : s.Sound) (hwork : s.connection ≠ none) :
    s'.sender.committed.session.protocolReady = s.sender.committed.session.protocolReady := by
  cases he with
  | quiet htap hpolicy => rfl
  | failed hpolicy herror => rfl
  | backpressured htap hpolicy hticks => rfl
  | automatic hpolicy hticks hsent herrors => exact hsent.protocolReady
  | released htap hdue hreleased =>
    obtain ⟨work, hwork⟩ := Option.ne_none_iff_exists'.1 hwork
    rw [(hs.coherent.of_connection hwork).tap] at htap
    cases htap

/-! ## Runs -/

theorem Move.aware (hmove : Move h s none h' s') (hs : s.Sound) (hevident : Evident h s) (haware : Aware h s) :
    Aware h' s' := by
  have hclosed := hevident.completed
  generalize hterminal : (none : Option WorkerCoreError) = terminal at hmove
  cases hmove with
  | unrequested => exact haware.log hclosed ⟨rfl, rfl⟩ rfl
  | noCommand hcommand htap => exact haware.log hclosed ⟨rfl, rfl⟩ rfl
  | polled => exact haware.log hclosed ⟨rfl, rfl⟩ rfl
  | pollFailed => cases hterminal
  | untagged => exact haware.log hclosed ⟨rfl, rfl⟩ rfl
  | progress hresult => exact haware.of_same ⟨rfl, rfl, rfl, rfl⟩
  | command hcommand htap hresult heffect =>
    have hidle : s.connection = none := by
      rw [← Option.not_isSome_iff_eq_none]
      intro hsome
      obtain ⟨work, hwork⟩ := Option.isSome_iff_exists.1 hsome
      have hpending := (hs.coherent.of_connection hwork).command
      rw [hcommand] at hpending
      cases hpending
    have hcounted : Aware h s.countCommand := haware.of_same ⟨rfl, rfl, rfl, rfl⟩
    exact (heffect.aware hclosed hidle hcounted).of_same (Frame.settle_sameSession _ _)
  | event heffect => exact heffect.aware hs hclosed haware
  | drive heffect =>
    rename_i t result
    rcases result with error | actions
    · cases hterminal
    · exact (heffect.aware hs hevident haware).1
  | due hallowed heffect => exact heffect.aware hs hclosed haware

/-- What is in the log of a session and what its worker knows are the same. -/
structure Informed (h : Log m r) (s : Frame m r) : Prop where
  evident : Evident h s
  aware : Aware h s

theorem Path.informed (hpath : Path h s h' s') (hinformed : Informed h s) : Informed h' s' := by
  refine hpath.inv hinformed ?_
  intro h₁ h₂ s₁ s₂ hs hmove hbefore
  exact ⟨hmove.evident hs hbefore.evident, hmove.aware hs hbefore.evident hbefore.aware⟩

theorem Informed.of_same (hinformed : Informed h s) (hsame : SameSession s s') : Informed h s' :=
  ⟨hinformed.evident.keep .refl hsame, hinformed.aware.of_same hsame⟩

theorem Run.informed (hrun : Run h s) : Informed h s := by
  induction hrun with
  | opened hnew => exact ⟨.of_open rfl hnew.isOpen, .of_open hnew.isOpen⟩
  | step hrun hexec ih =>
    have hsame : ∀ {s : Frame m r}, SameSession s s.fresh := ⟨rfl, rfl, rfl, rfl⟩
    have hfresh := ih.of_same hsame
    cases hexec.post (stepRuntime_spec _ _ hrun.coherent) with
    | continued hpath hsound => exact (hpath.informed hfresh).of_same ⟨rfl, rfl, rfl, rfl⟩
    | closed hpath hsound₁ hlast hsound hclose => cases hclose
    | failed hpath hsound₁ hmove hsound hfail => cases hfail

/-! ## Steps -/

/-- Events that show nothing leave a worker no abler. -/
theorem Able.before (hable : Able h' s' t) (hclosed : h.replyOpen = false) (hunmet : Adds Unmet h h')
    (hunreplied : Adds Unreplied h h') (hbootstrapped : h'.bootstrapped = h.bootstrapped)
    (hprotocol : s'.sender.committed.session.protocolReady = s.sender.committed.session.protocolReady) : Able h s t := by
  obtain ⟨-, hcompletions⟩ := Adds.completions hunreplied hclosed
  refine ⟨?_, hbootstrapped.symm.trans hable.bootstrapped, hprotocol.symm.trans hable.protocol, ?_, ?_⟩
  · have hlinked := hable.linked
    unfold Log.linked at hlinked ⊢
    rw [Adds.handled_eq hunmet, Adds.handled_eq hunmet, Adds.handled_eq hunmet] at hlinked
    exact hlinked
  · rw [← Adds.noticed_eq hunmet]
    exact hable.noticed
  · rw [← hcompletions]
    exact hable.unheld

/-- A worker left connecting was not able to become ready at a reading since `h₀`. -/
def Lacking (h₀ h : Log m r) (s : Frame m r) : Prop :=
  s.connection ≠ none → ∃ g h₁ t, Within h₀ (.call g Op.now t) h₁ h ∧ ¬ Able h s t

theorem drive_lacking (h : Log m r) (hs : s.Sound) (hinformed : Informed h s) :
    Act.wp drive h s fun h' s' exit => exit = none → s'.Sound ∧ Informed h' s' ∧ Lacking h h' s' := by
  unfold drive
  simp only [Act.wp_bind, wp_now]
  intro t
  refine Act.wp_mono (Act.wp_and (driveConnection_spec t _ s hs) (Prog.wp_suffix _ _)) ?_
  rintro h₁ s₁ result ⟨heffect, hread⟩
  have hmove := Move.drive heffect
  cases result with
  | error error => exact wp_ends fun _ _ _ hnone => absurd hnone (Option.some_ne_none _)
  | ok actions =>
    simp only [Act.wp_bind, modifyProgress, wp_update]
    have hcount := @Move.progress _ _ h₁ s₁ { s₁.progress with dueActions := s₁.progress.dueActions + actions } rfl
    have hs₁ := hcount.sound (hmove.sound hs)
    refine wp_closeIfRequested h₁ _ hs₁ _ ?_ fun _ _ _ _ _ _ hnone => absurd hnone (Option.some_ne_none _)
    intro _
    obtain ⟨haware, hunable⟩ := heffect.aware hs hinformed.evident hinformed.aware
    have hevident := hmove.evident hs hinformed.evident
    have hinformed : Informed h₁ { s₁ with progress := { s₁.progress with dueActions := s₁.progress.dueActions + actions } } :=
      Informed.of_same ⟨hevident, haware⟩ ⟨rfl, rfl, rfl, rfl⟩
    refine ⟨hs₁, ⟨?_, hinformed.aware.log hevident.completed ⟨rfl, rfl⟩ rfl⟩, ?_⟩
    · exact hinformed.evident.keep (.single (.of_offered rfl rfl)) .refl
    · intro hwork
      refine ⟨s, h, t, ⟨hread.trans (List.suffix_cons _ _), List.suffix_refl _⟩, ?_⟩
      intro hable
      refine hunable hwork (hable.before hevident.completed (.single ?_) (.single (.of_offered rfl rfl))
        (Adds.bootstrapped_eq (.single (.of_offered rfl rfl))) rfl)
      exact ⟨rfl, rfl⟩

/-- A due phase leaves a connecting worker as able as it was. -/
theorem duePhase_lacking (h : Log m r) (hs : s.Sound) (hinformed : Informed h s) :
    Act.wp duePhase h s fun h' s' exit => exit = none →
      h <:+ h' ∧ s'.connection = s.connection ∧ (s.connection ≠ none → ∀ t, Able h' s' t → Able h s t) := by
  have hclosed := hinformed.evident.completed
  unfold duePhase
  rw [Act.wp_bind, wp_frame]
  split
  · rename_i hallowed
    have hallowed : s.DueAllowed := by
      simpa only [WorkerCore.DueAllowed, Bool.or_eq_true, Bool.and_eq_true, decide_eq_true_eq] using hallowed
    unfold modifyProgress
    simp only [Act.wp_bind, wp_now, wp_update]
    intro t
    refine Act.wp_mono (runDue_spec t _ s) ?_
    intro h₁ s₁ due heffect
    have hmove := Move.due hallowed heffect
    have hs₁ := hmove.sound hs
    refine recordDueCompletion_spec _ _ (s₁.countDue due) (heffect.unanswered hs) _ ?_
    refine recordDueErrors_spec _ _ _ _ _ ?_
    refine wp_closeIfRequested _ _ hs₁ _ ?_ fun _ _ _ _ _ _ hnone => absurd hnone (Option.some_ne_none _)
    dsimp only
    split
    · exact wp_ends fun _ _ _ hnone => absurd hnone (Option.some_ne_none _)
    · refine fun _ => ⟨hmove.suffix.trans (List.suffix_cons _ _), heffect.connection, ?_⟩
      intro hwork t hable
      obtain ⟨hunmet, hunreplied⟩ := heffect.unmet
      have hrecorded : (s₁.recordDue due).sender = s₁.sender := congrArg WorkerCore.sender (s₁.recordDue_keeps due)
      refine hable.before hclosed (hunmet.cons ?_) (hunreplied.cons (.of_offered rfl rfl)) ?_ ?_
      · exact ⟨rfl, rfl⟩
      · exact (Adds.bootstrapped_eq (.single (.of_offered rfl rfl))).trans (heffect.awaits hs hwork)
      · rw [hrecorded]
        exact heffect.protocolReady hs hwork
  · exact fun _ => ⟨List.suffix_refl _, rfl, fun _ _ => id⟩

/-- A phase that lets the step go on keeps the worker informed. -/
theorem PhaseEffect.informed (he : PhaseEffect h s h' s' none) (hinformed : Informed h s) :
    s'.Sound ∧ h <:+ h' ∧ Informed h' s' := by
  generalize hexit : (none : Option WorkerStep) = exit at he
  cases he with
  | running hpath hsound =>
    refine ⟨hsound, ?_, hpath.informed hinformed⟩
    refine hpath.inv (P := fun h₁ _ => h <:+ h₁) (List.suffix_refl _) ?_
    intro h₁ h₂ s₁ s₂ _ hmove hsuffix
    exact hsuffix.trans hmove.suffix
  | closed hpath hsound₁ hlast hsound hclose => cases hexit
  | failed hpath hsound₁ hmove hsound hfail => cases hexit

/-- A phase, then the rest of a step that goes on, the worker being informed throughout. -/
theorem wp_informed {x : Worker m r (Option WorkerStep)} {g : Option WorkerStep → Worker m r WorkerStep}
    {Q : Log m r → Frame m r → StepProgress → Prop} (hinformed : Informed h s)
    (hphase : Act.wp x h s (PhaseEffect h s)) (hexit : ∀ step, g (some step) = pure step)
    (hgo : ∀ h' s', s'.Sound → h <:+ h' → Informed h' s' → Act.wp (g none) h' s' (OnContinue Q)) :
    Act.wp (x >>= g) h s (OnContinue Q) := by
  refine wp_onContinue hphase (R := fun h' s' exit => PhaseEffect h s h' s' exit) hphase hexit ?_
  intro h' s' heffect
  obtain ⟨hs', hsuffix, hafter⟩ := heffect.informed hinformed
  exact hgo h' s' hs' hsuffix hafter

theorem markImmediate_informed (hs : s.Sound) (hinformed : Informed h s) :
    Act.wp markImmediate h s fun h' s' _ => s'.Sound ∧ h' = h ∧ Informed h' s' := by
  unfold markImmediate modifyProgress
  rw [Act.wp_bind, wp_frame]
  have hmove := @Move.progress _ _ h s { s.progress with immediate := true } rfl
  split
  · exact ⟨hmove.sound hs, rfl, hinformed.of_same ⟨rfl, rfl, rfl, rfl⟩⟩
  · exact ⟨hs, rfl, hinformed⟩

theorem stepAfterCommand_lacking (hs : s.Sound) (hsuffix : h₀ <:+ h) (hinformed : Informed h s) :
    Act.wp stepAfterCommand h s (OnContinue fun h' s' _ => Lacking h₀ h' s') := by
  unfold stepAfterCommand
  rw [Act.wp_bind]
  refine Act.wp_mono (markImmediate_informed hs hinformed) ?_
  rintro h s₁ - ⟨hs₁, rfl, hinformed₁⟩
  rw [Act.wp_bind, wp_frame]
  refine wp_informed hinformed₁ (pollBatches_spec _ h s₁ hs₁) (fun _ => rfl) ?_
  intro h₂ s₂ hs₂ hsuffix₂ hinformed₂
  refine wp_onContinue (drive_spec h₂ s₂ hs₂) (drive_lacking h₂ hs₂ hinformed₂) (fun _ => rfl) ?_
  intro h₃ s₃ hdriven
  obtain ⟨hs₃, hinformed₃, hlacking⟩ := hdriven rfl
  refine wp_onContinue (duePhase_spec h₃ s₃ hs₃) (duePhase_lacking h₃ hs₃ hinformed₃) (fun _ => rfl) ?_
  intro h₄ s₄ hended
  obtain ⟨hsuffix₄, hsame, hable⟩ := hended rfl
  rintro progress ⟨⟩ hwork
  have hwork : s₃.connection ≠ none := fun hnone => hwork (hsame.trans hnone)
  obtain ⟨g, h₁, t, hwithin, hunable⟩ := hlacking hwork
  exact ⟨g, h₁, t, ⟨hwithin.1.trans hsuffix₄, (hsuffix.trans hsuffix₂).trans hwithin.2⟩,
    fun hafter => hunable (hable hwork t ⟨hafter.linked, hafter.bootstrapped, hafter.protocol, hafter.noticed, hafter.unheld⟩)⟩

theorem stepRuntime_lacking (hs : Coherent s.toWorkerCore) (hinformed : Informed h s) :
    Act.wp stepRuntime h s (OnContinue fun h' s' _ => Lacking h h' s') := by
  have hfresh : s.fresh.Sound := ⟨hs, fun _ => rfl⟩
  have hinformed : Informed h s.fresh := hinformed.of_same ⟨rfl, rfl, rfl, rfl⟩
  have hasked : Informed (.call s.fresh Op.takeShutdown none :: h) s.fresh :=
    ⟨hinformed.evident.keep (.single (.of_offered rfl rfl)) .refl,
      hinformed.aware.log hinformed.evident.completed ⟨rfl, rfl⟩ rfl⟩
  unfold stepRuntime modifyProgress
  rw [Act.wp_bind, wp_update]
  refine wp_onContinue (R := fun h' s' exit => exit = none → h' = .call s.fresh Op.takeShutdown none :: h ∧ s' = s.fresh)
    (closeIfRequested_spec h s.fresh hfresh) ?_ (fun _ => rfl) ?_
  · refine wp_closeIfRequested h s.fresh hfresh _ ?_ fun _ _ _ _ _ _ hnone => absurd hnone (Option.some_ne_none _)
    exact fun _ => ⟨rfl, rfl⟩
  intro h₁ s₁ hunrequested
  obtain ⟨rfl, rfl⟩ := hunrequested rfl
  refine wp_informed hasked (commandPhase_spec _ s.fresh hfresh rfl) (fun _ => rfl) ?_
  intro h₂ s₂ hs₂ hsuffix₂ hinformed₂
  exact stepAfterCommand_lacking hs₂ ((List.suffix_cons _ _).trans hsuffix₂) hinformed₂

/-! ## The host's side -/

/-- A selection is one that a host has requested. -/
def ProtocolSession.Requested (session : ProtocolSession) : Prop :=
  ∀ selection, session.reportModeSelection = some selection → ∃ requested, selection = .fromRequested requested

theorem ProtocolSession.protocolReady_of_settings {session : ProtocolSession} (hrequested : session.Requested)
    (hmode : session.reportMode = some 0x30) {lights : UInt8} (hlights : session.playerLights = some lights)
    (hlit : lights ≠ 0) : session.protocolReady = true := by
  have hsupported : session.reportModeSelection = some .standardFull := by
    unfold reportMode at hmode
    cases hselection : session.reportModeSelection with
    | none =>
      rw [hselection] at hmode
      cases hmode
    | some selection =>
      obtain ⟨requested, rfl⟩ := hrequested selection hselection
      by_cases hfull : requested = 0x30
      · exact congrArg some ((fromRequested_supported requested).2 hfull)
      · have hunsupported : ReportModeSelection.fromRequested requested = .unsupported requested := if_neg hfull
        rw [hselection, hunsupported] at hmode
        exact absurd (Option.some.inj hmode) hfull
  unfold protocolReady reportModeSupported
  rw [hsupported, hlights]
  simp [hlit]

theorem requestedSession_requested {id requested : UInt8} {session next : ProtocolSession}
    (hsession : requestedSession m id requested session = .ok next) (hbefore : session.Requested) : next.Requested := by
  unfold requestedSession at hsession
  split at hsession
  · cases hsession
    rintro selection ⟨⟩
    exact ⟨requested, rfl⟩
  · cases hsession
    exact hbefore
  · dsimp only at hsession
    split at hsession
    · cases hsession
      exact hbefore
    · cases hsession
  · split at hsession
    · cases hsession
      exact hbefore
    · cases hsession
      exact hbefore
    · cases hsession

theorem Candidate.requested {bytes : List UInt8} {candidate : SenderCommit} (hc : Candidate h s bytes candidate)
    (hbefore : s.sender.committed.session.Requested) : candidate.session.Requested := by
  cases hc with
  | input state nowNs => exact hbefore
  | reply hrequest hprepare =>
    cases prepareReply_spec hprepare with
    | plain hid hbytes => exact hbefore
    | stateful hid harg hsession hbytes => exact requestedSession_requested hsession hbefore

theorem Wire.requested (hwire : Wire h s h' s')
    (hbefore : s.sessions.current ≠ none → s.sender.committed.session.Requested) :
    s'.sessions.current ≠ none → s'.sender.committed.session.Requested := by
  intro hlive
  cases hwire with
  | update hkeep =>
    obtain ⟨hsender, hcurrent⟩ := hkeep hlive
    rw [hsender]
    exact hbefore (hcurrent ▸ hlive)
  | event hstate hoffered hbegun => exact hbefore hlive
  | refused hlive hcandidate => exact hbefore hlive
  | accepted hlive hcandidate => exact hcandidate.requested (hbefore hlive)
  | begun hcurrent hsender =>
    rw [hsender]
    intro selection hnone
    cases hnone

theorem Trace.requested (htrace : Trace h s) (hlive : s.sessions.current ≠ none) :
    s.sender.committed.session.Requested := by
  obtain ⟨core, hnew, hwires⟩ := htrace.wires
  have hstart : core.start.sessions.current ≠ none → core.start.sender.committed.session.Requested :=
    absurd hnew.isOpen.current
  exact (hwires.inv (G := fun _ _ => True) (fun hwire hP => hwire.requested hP) (fun _ _ => trivial) hstart
    (always_iff.2 fun _ _ _ => trivial)).1 hlive

/-! ## Promptness -/

/-- What a session has shown is all that Ready takes, as of a reading of the clock. -/
structure Log.Qualified (h : Log m r) (t : Duration) : Prop where
  linked : h.linked = true
  bootstrapped : h.bootstrapped = true
  mode : (h.lastReplied 0x03).bind (fun request => request.payload.head?) = some 0x30
  lights : ∃ lights, (h.lastReplied 0x30).bind (fun request => request.payload.head?) = some lights ∧ lights ≠ 0
  noticed : r = .periodic → h.noticed = true
  unheld : r = .periodic → ∀ u ∈ h.completions, u.asNanos + replyHoldoff.asNanos ≤ t.asNanos

theorem Log.Qualified.able (hqualified : h.Qualified t) (htrace : Trace h s) (hlive : s.sessions.current ≠ none) :
    Able h s t := by
  obtain ⟨lights, hlights, hlit⟩ := hqualified.lights
  have hsettings := (htrace.replayed.1 hlive).settings
  have hmode : s.sender.committed.session.reportMode = some 0x30 := by
    rw [← hqualified.mode, ← h.reportMode_settings, ← hsettings]
    rfl
  have hlights : s.sender.committed.session.playerLights = some lights := by
    rw [← hlights, ← h.playerLights_settings, ← hsettings]
    rfl
  exact ⟨hqualified.linked, hqualified.bootstrapped,
    ProtocolSession.protocolReady_of_settings (htrace.requested hlive) hmode hlights hlit,
    hqualified.noticed, hqualified.unheld⟩

/-- What a ready worker has shown by the time it says so qualifies. -/
theorem Readied.qualified (hreadied : Readied h f) : ∃ t, h.clock = some t ∧ h.Qualified t := by
  obtain ⟨t, deadline, hclock, -, -, hperiodic⟩ := hreadied.timely
  exact ⟨t, hclock, hreadied.linked, hreadied.bootstrapped, hreadied.mode, hreadied.lights, fun hr => (hperiodic hr).1,
    fun hr => (hperiodic hr).2.2⟩

/-- A step that goes on and leaves the worker connecting has read the clock at a time as of which its session did not
qualify: Ready waits for nothing else. -/
theorem readiness_prompt (hrun : Run h s) {progress : StepProgress}
    (hexec : Prog.Exec (stepRuntime s) h h' s' (.continue progress)) (hconnecting : s'.lifecycle.state = .connecting) :
    ∃ g h₁ t, Within h (.call g Op.now t) h₁ h' ∧ ¬ h'.Qualified t := by
  have hrun' := hrun.step hexec
  obtain ⟨work, hwork, hcurrent⟩ : ∃ work, s'.connection = some work ∧ s'.sessions.current ≠ none := by
    cases hrun'.coherent with
    | «open» hopen =>
      rw [hopen.lifecycle] at hconnecting
      cases hconnecting
    | connecting hwork hc =>
      refine ⟨_, hwork, ?_⟩
      rw [hc.current]
      exact Option.some_ne_none _
    | ready hready =>
      rw [hready.lifecycle] at hconnecting
      cases hconnecting
  have hlacking := hexec.post (stepRuntime_lacking hrun.coherent hrun.informed) progress rfl
  obtain ⟨g, h₁, t, hwithin, hunable⟩ := hlacking (hwork ▸ Option.some_ne_none _)
  exact ⟨g, h₁, t, hwithin, fun hqualified => hunable (hqualified.able (.running hrun') hcurrent)⟩

theorem samplePaired_run : Run samplePaired.1 samplePaired.2 := by
  have hopened : Run samplePeriodic.openLog samplePeriodic.start := .opened samplePeriodic_isNew
  have hpairing := @Run.play _ _ (samplePeriodic.openLog, samplePeriodic.start) hopened
    (scripted .ZERO (fun _ => some (.pair sampleTimeout)) fun _ => []) (by decide +kernel)
  exact hpairing.play _ (by decide +kernel)

/-- The periodic sample worker a nanosecond before its holdoff is over. -/
def sampleHeldOff : Log .pro .periodic × Frame .pro .periodic × WorkerStep :=
  playStep (scripted ⟨299999999, by decide⟩ (fun _ => none) fun _ => []) samplePaired

theorem sampleHeldOff_exec : Prog.Exec (stepRuntime samplePaired.2) samplePaired.1 sampleHeldOff.1 sampleHeldOff.2.1
    sampleHeldOff.2.2 := by
  unfold sampleHeldOff
  exact playStep_exec _ _

theorem readiness_prompt_heldOff : ∃ (g : Frame .pro .periodic) (h₁ : Log .pro .periodic) (t : Duration),
    Within samplePaired.1 (.call g Op.now t) h₁ sampleHeldOff.1 ∧ ¬ sampleHeldOff.1.Qualified t := by
  have hgoes : sampleHeldOff.2.2.goesOn = true := by decide +kernel
  have hexec := sampleHeldOff_exec
  rw [WorkerStep.goesOn_eq hgoes] at hexec
  exact readiness_prompt samplePaired_run hexec (by decide +kernel)

end Swbt
