import Swbt.Runtime.Points
import Swbt.Runtime.Transaction
/-!
# What a session shows

What the log of a session shows of its connection: the events the worker came
to, a bootstrap report accepted once the link and both channels were up, the
subcommands, and the completion times of the replies. A worker's handshake,
readiness gate, observed subcommands and holdoff never run ahead of it.
-/

set_option autoImplicit false

open Effects

namespace Swbt

variable {m : ControllerKind} {r : ReportingKind} {h h₀ h₁ h' : Log m r} {s s₁ s' f : Frame m r}

/-! ## Reading a session -/

/-- The timeout of a connection command. -/
def RuntimeCommand.timeout : RuntimeCommand m r → Option Duration
  | pair timeout | reconnect timeout => some timeout
  | input _ => none

namespace Log

/-- An event since a session began that satisfies `P` with the log before it. -/
def since (P : Log m r → LogEvent m r → Bool) : Log m r → Bool
  | [] => false
  | e :: h => match begunSession e with
    | some _ => false
    | none => P h e || since P h

/-- The worker has come to `event` in the session. -/
def handled (event : TransportEvent) (h : Log m r) : Bool :=
  h.since fun _ e => (processedEvent e).any (·.event = event)

def linked (h : Log m r) : Bool :=
  h.handled .connected && h.handled (.hidChannelOpened .control) && h.handled (.hidChannelOpened .interrupt)

/-- A neutral report that is not an automatic one is accepted. -/
def bootstraps (h : Log m r) (e : LogEvent m r) : Bool :=
  (acceptedPayload e).any (fun payload => payload.head? = some 0x30 && controlBytes payload = neutralControls) &&
    !h.asksCapacity

/-- A bootstrap report was accepted with the link and both channels up. -/
def bootstrapped (h : Log m r) : Bool := h.since fun h e => h.linked && h.bootstraps e

/-- The worker has come to a subcommand in the session. -/
def noticed (h : Log m r) : Bool := h.since fun _ e => (arrivedRequest e).any Option.isSome

/-- The deadline of the command that began the session. -/
def operationDeadline : Log m r → Option Duration
  | [] => none
  | e :: h => match begunSession e with
    | some _ => (clock h).bind fun t => ((taken h).bind fun taken => taken.2.timeout).map (deadlineAfter t)
    | none => operationDeadline h

/-- A reply was accepted and the clock has not been read since. -/
def replyOpen : Log m r → Bool
  | [] => false
  | e :: h =>
    if (acceptedPayload e).bind List.head? = some 0x21 then true
    else match e with
      | .call _ .now _ => false
      | _ => replyOpen h

/-- The time of an event that completes an accepted reply. -/
def completion (h : Log m r) : LogEvent m r → Option Duration
  | .call _ .now t => if h.replyOpen then some t else none
  | _ => none

/-- The completion times of the replies accepted in the session, the latest first. -/
def completions : Log m r → List Duration
  | [] => []
  | e :: h => match begunSession e with
    | some _ => []
    | none => (completion h e).toList ++ completions h

/-- No reading of the clock comes within a holdoff of the end of time. -/
def Bounded (h : Log m r) : Prop :=
  ∀ (f : Frame m r) (t : Duration), .call f Op.now t ∈ h → t.asNanos + replyHoldoff.asNanos ≤ maxNanos

end Log

/-- The handshake is complete: the bootstrap, and in periodic mode a subcommand too. -/
def Log.Handshaken (h : Log m r) : Prop := h.bootstrapped = true ∧ (r = .periodic → h.noticed = true)

/-! ## Events that leave it -/

def Unbegun (e : LogEvent m r) : Prop := begunSession e = none

/-- An event that neither begins a session nor is a reply accepted. -/
structure Unreplied (e : LogEvent m r) : Prop where
  begun : begunSession e = none
  reply : (acceptedPayload e).bind List.head? ≠ some 0x21

theorem Unreplied.of_offered {e : LogEvent m r} (hbegun : begunSession e = none) (hoffered : offeredPayload e = none) :
    Unreplied e := by
  refine ⟨hbegun, ?_⟩
  rw [acceptedPayload_of_offered hoffered]
  exact nofun

theorem Routine.unreplied {e : LogEvent m r} (hroutine : Routine e) : Unreplied e := by
  cases hroutine with
  | report hhead =>
    rename_i s payload result
    refine ⟨rfl, ?_⟩
    cases result with
    | error error => exact nofun
    | ok accepted =>
      change payload.head? ≠ some 0x21
      rw [hhead]
      decide
  | counted => exact ⟨rfl, nofun⟩
  | committed => exact ⟨rfl, nofun⟩

theorem Adds.unbegun (hadds : Adds Unreplied h h') : Adds Unbegun h h' := hadds.mono fun _ he => he.begun

theorem Adds.since {P : Log m r → LogEvent m r → Bool} (hadds : Adds Unbegun h h') (hsince : h.since P = true) :
    h'.since P = true := by
  obtain ⟨added, rfl, hall⟩ := hadds
  induction added with
  | nil => exact hsince
  | cons e rest ih =>
    obtain ⟨hbegun, hrest⟩ := List.forall_mem_cons.1 hall
    rw [List.cons_append, Log.since, show begunSession e = none from hbegun]
    simp [ih hrest]

theorem Adds.handshaken (hadds : Adds Unbegun h h') (hshaken : h.Handshaken) : h'.Handshaken :=
  ⟨Adds.since hadds hshaken.1, fun hr => Adds.since hadds (hshaken.2 hr)⟩

theorem Adds.operationDeadline (hadds : Adds Unbegun h h') : h'.operationDeadline = h.operationDeadline := by
  obtain ⟨added, rfl, hall⟩ := hadds
  induction added with
  | nil => rfl
  | cons e rest ih =>
    obtain ⟨hbegun, hrest⟩ := List.forall_mem_cons.1 hall
    rw [List.cons_append, Log.operationDeadline, show begunSession e = none from hbegun]
    exact ih hrest

theorem Log.replyOpen_cons {e : LogEvent m r} (hreply : (acceptedPayload e).bind List.head? ≠ some 0x21)
    (hclosed : h.replyOpen = false) : Log.replyOpen (e :: h) = false := by
  unfold Log.replyOpen
  rw [if_neg hreply]
  split
  · rfl
  · exact hclosed

/-- Without a reply there is nothing to complete. -/
theorem Adds.completions (hadds : Adds Unreplied h h') (hclosed : h.replyOpen = false) :
    h'.replyOpen = false ∧ h'.completions = h.completions := by
  obtain ⟨added, rfl, hall⟩ := hadds
  induction added with
  | nil => exact ⟨hclosed, rfl⟩
  | cons e rest ih =>
    obtain ⟨⟨hbegun, hreply⟩, hrest⟩ := List.forall_mem_cons.1 hall
    obtain ⟨hopen, hsame⟩ := ih hrest
    refine ⟨Log.replyOpen_cons hreply hopen, ?_⟩
    rw [List.cons_append, Log.completions, hbegun, ← hsame]
    have hnone : Log.completion (rest ++ h) e = none := by
      unfold Log.completion
      rw [hopen]
      split
      · rfl
      · rfl
    rw [hnone]
    rfl

theorem Adds.bounded {P : LogEvent m r → Prop} (hadds : Adds P h h') (hbounded : h'.Bounded) : h.Bounded := by
  obtain ⟨added, rfl, -⟩ := hadds
  exact fun f t hmem => hbounded f t (List.mem_append_right _ hmem)

theorem Adds.clock (hadds : Adds Routine h h') : h'.clock = h.clock := by
  obtain ⟨added, rfl, hall⟩ := hadds
  induction added with
  | nil => rfl
  | cons e rest ih =>
    obtain ⟨hroutine, hrest⟩ := List.forall_mem_cons.1 hall
    rw [← ih hrest]
    cases hroutine with
    | report hhead => rfl
    | counted => rfl
    | committed => rfl

/-! ## The evidence of a worker -/

/-- What a handshake has seen is in the log. -/
structure Handshake.Shown (r : ReportingKind) (handshake : Handshake) (h : Log m r) : Prop where
  condition : r = .periodic → handshake.completionCondition = .firstSubcommand
  link : handshake.linkObserved = true → h.handled .connected = true
  control : handshake.controlObserved = true → h.handled (.hidChannelOpened .control) = true
  interrupt : handshake.interruptObserved = true → h.handled (.hidChannelOpened .interrupt) = true
  accepted : handshake.bootstrapAccepted = true → h.bootstrapped = true
  stopped : handshake.bootstrapStopped = true → h.Handshaken

structure ConnectionWork.Shown (work : ConnectionWork) (h : Log m r) : Prop where
  deadline : h.operationDeadline = some work.readiness.operationDeadline
  handshake : ∀ handshake, work.handshake = some handshake → handshake.Shown r h
  collected : work.readiness.handshake.isSome = true → h.Handshaken

/-- The holdoff of a policy covers every reply completed in the session. -/
def PeriodicPolicy.Covers (policy : PeriodicPolicy) (h : Log m r) : Prop :=
  ∀ t ∈ h.completions, ∃ until_, policy.replyHoldoffUntil = some until_ ∧
    t.asNanos + replyHoldoff.asNanos ≤ until_.asNanos

/-- What the worker knows of its session is in the log. -/
structure Evident (h : Log m r) (s : Frame m r) : Prop where
  completed : h.replyOpen = false
  observed : s.sessions.current ≠ none → s.observed.isEmpty = false → h.noticed = true
  work : ∀ work, s.connection = some work → work.Shown h
  scheduler : ∀ policy, s.reporting.policy = some policy → policy.scheduler.isSome = true → h.Handshaken
  holdoff : h.Bounded → s.sessions.current ≠ none → ∀ policy, s.reporting.policy = some policy → policy.Covers h

theorem Handshake.Shown.later {handshake : Handshake} (hshown : handshake.Shown r h) (hadds : Adds Unbegun h h') :
    handshake.Shown r h' where
  condition := hshown.condition
  link := fun hlink => Adds.since hadds (hshown.link hlink)
  control := fun hcontrol => Adds.since hadds (hshown.control hcontrol)
  interrupt := fun hinterrupt => Adds.since hadds (hshown.interrupt hinterrupt)
  accepted := fun haccepted => Adds.since hadds (hshown.accepted haccepted)
  stopped := fun hstopped => Adds.handshaken hadds (hshown.stopped hstopped)

theorem ConnectionWork.Shown.later {work : ConnectionWork} (hshown : work.Shown h) (hadds : Adds Unbegun h h') :
    work.Shown h' where
  deadline := (Adds.operationDeadline hadds).trans hshown.deadline
  handshake := fun handshake hsome => (hshown.handshake handshake hsome).later hadds
  collected := fun hcollected => Adds.handshaken hadds (hshown.collected hcollected)

/-- What the worker knows of its session stays as it was. -/
structure SameSession (s s' : Frame m r) : Prop where
  sessions : s'.sessions = s.sessions
  connection : s'.connection = s.connection
  observed : s'.observed = s.observed
  policy : s'.reporting.policy = s.reporting.policy

theorem SameSession.refl : SameSession s s := ⟨rfl, rfl, rfl, rfl⟩

theorem SameSession.trans (hleft : SameSession s s₁) (hright : SameSession s₁ s') : SameSession s s' :=
  ⟨hright.sessions.trans hleft.sessions, hright.connection.trans hleft.connection,
    hright.observed.trans hleft.observed, hright.policy.trans hleft.policy⟩

theorem Evident.keep (hevident : Evident h s) (hadds : Adds Unreplied h h') (hsame : SameSession s s') :
    Evident h' s' := by
  have hunbegun := Adds.unbegun hadds
  obtain ⟨hclosed, hcompletions⟩ := Adds.completions hadds hevident.completed
  refine ⟨hclosed, ?_, ?_, ?_, ?_⟩
  · rw [hsame.sessions, hsame.observed]
    exact fun hlive hobserved => Adds.since hunbegun (hevident.observed hlive hobserved)
  · rw [hsame.connection]
    exact fun work hwork => (hevident.work work hwork).later hunbegun
  · rw [hsame.policy]
    exact fun policy hpolicy hrunning => Adds.handshaken hunbegun (hevident.scheduler policy hpolicy hrunning)
  · intro hbounded
    rw [hsame.sessions, hsame.policy]
    unfold PeriodicPolicy.Covers
    rw [hcompletions]
    exact hevident.holdoff (Adds.bounded hadds hbounded)

/-- A worker that is open shows nothing. -/
theorem Evident.of_open (hclosed : h.replyOpen = false) (hopen : IsOpen s.toWorkerCore) : Evident h s := by
  refine ⟨hclosed, fun hlive => absurd hopen.current hlive, ?_, ?_, fun _ hlive => absurd hopen.current hlive⟩
  · intro work hwork
    rw [hopen.connection] at hwork
    cases hwork
  · intro policy hpolicy hrunning
    rw [(Reporting.policy_of_idle hopen.idle policy hpolicy).1] at hrunning
    cases hrunning

/-! ## Commands -/

theorem DirectSent.sameSession {candidate : InputState m} {nowNs : UInt64} {result : TransportResult Unit}
    (hsent : DirectSent candidate nowNs h s h' s' result) : SameSession s s' := by
  cases hsent with
  | refused hsent =>
    have hcontrol := Sent.sameControl hsent
    have hpolicy := congrArg Reporting.policy (Sent.reporting hsent)
    exact ⟨hcontrol.sessions, hcontrol.connection, hcontrol.observed, hpolicy⟩
  | accepted hsent =>
    have hcontrol := Sent.sameControl hsent
    have hpolicy := congrArg Reporting.policy (Sent.reporting hsent)
    exact ⟨hcontrol.sessions, hcontrol.connection, hcontrol.observed, hpolicy⟩

theorem PeriodicSent.sameSession {candidate : InputState m} {nowNs : UInt64} {result : TransportResult Unit}
    (hsent : PeriodicSent candidate nowNs h s h' s' result) : SameSession s s' := by
  have hcontrol := Sent.sameControl hsent
  have hpolicy := congrArg Reporting.policy (Sent.reporting hsent)
  exact ⟨hcontrol.sessions, hcontrol.connection, hcontrol.observed, hpolicy⟩

theorem SameSession.setTap (hsame : SameSession s s') (tap : Option (Tap m)) : SameSession s (s'.setTap tap) :=
  ⟨hsame.sessions, hsame.connection, hsame.observed, (Reporting.policy_withTap tap s'.reporting).trans hsame.policy⟩

theorem InputEffect.sameSession {command : ReportingCommand m r} {t : Duration} {progress : WorkerCommandProgress}
    (he : InputEffect command t h s h' s' progress) : SameSession s s' := by
  cases he with
  | rejected herror hplan => exact .refl
  | committed hr candidate hplan => exact ⟨rfl, rfl, rfl, rfl⟩
  | sent hr hready hsent hplan => exact hsent.sameSession
  | unsent hr hready hsent hplan => exact hsent.sameSession
  | pressedDirect hr hready hsent hplan => exact hsent.sameSession.setTap _
  | pressedPeriodic hr hready hsent hresult hplan => exact hsent.sameSession.setTap _
  | unpressed hr hready hsent hkind hplan => exact hsent.sameSession

theorem Frame.settle_sameSession (s : Frame m r) (progress : WorkerCommandProgress) :
    SameSession s (s.settle progress) := by
  cases progress with
  | pending => exact .refl
  | complete result => exact ⟨rfl, rfl, rfl, rfl⟩

theorem Reporting.scheduler_resetPolicy {reporting : Reporting m r} {policy : PeriodicPolicy}
    (hpolicy : reporting.resetPolicy.policy = some policy) : policy.scheduler = none := by
  cases reporting with
  | periodic runtime =>
    cases hpolicy
    rfl
  | direct runtime => cases hpolicy

/-- A session that begins has shown nothing yet. -/
theorem Evident.begun {kind : ConnectionCommandKind} {timeout t : Duration} :
    Evident (s.beginLog (deadlineAfter t timeout) (.call s Op.now t :: startEvent kind s (.ok ()) ::
        .call f Op.nextCommand (some (connectCommand kind timeout)) :: h))
      (s.begin kind (deadlineAfter t timeout)) := by
  refine ⟨rfl, ?_, ?_, ?_, ?_⟩
  · intro _ hobserved
    cases hobserved
  · rintro work ⟨⟩
    refine ⟨?_, ?_, nofun⟩
    · cases kind with
      | pair => rfl
      | reconnect => rfl
    · rintro handshake ⟨⟩
      cases r with
      | periodic => exact ⟨fun _ => rfl, nofun, nofun, nofun, nofun, nofun⟩
      | direct => exact ⟨nofun, nofun, nofun, nofun, nofun, nofun⟩
  · intro policy hpolicy hrunning
    rw [Reporting.scheduler_resetPolicy hpolicy] at hrunning
    cases hrunning
  · intro _ _ policy _ t hmem
    cases hmem

theorem CommandEffect.evident {command : RuntimeCommand m r} {progress : WorkerCommandProgress}
    (he : CommandEffect (.call f Op.nextCommand (some command) :: h) s command h' s' progress) (hevident : Evident h s) :
    Evident h' s' := by
  have htaken : ∀ command : RuntimeCommand m r, Adds Unreplied h (.call f Op.nextCommand (some command) :: h) :=
    fun command => .single (.of_offered rfl rfl)
  have hstart : ∀ (kind : ConnectionCommandKind) (command : RuntimeCommand m r) (result : TransportResult Unit),
      Adds Unreplied h (startEvent kind s result :: .call f Op.nextCommand (some command) :: h) := by
    intro kind command result
    cases kind with
    | pair => exact (htaken command).cons (.of_offered rfl rfl)
    | reconnect => exact (htaken command).cons (.of_offered rfl rfl)
  cases he with
  | unstarted => exact hevident.keep (hstart _ _ _) .refl
  | refused hopen => exact hevident.keep ((hstart _ _ _).cons (.of_offered rfl rfl)) .refl
  | begun hopen => exact .begun
  | ended hended => exact hevident.keep (htaken _) .refl
  | input heffect =>
    have hroutine := heffect.routine.mono fun _ => Routine.unreplied
    exact hevident.keep (((htaken _).cons (.of_offered rfl rfl)).trans hroutine) heffect.sameSession

/-! ## Events -/

theorem Handshake.Shown.observeLink {handshake : Handshake} (hshown : handshake.Shown r h)
    (hhandled : h.handled .connected = true) (id : ConnectionSessionId) : (handshake.observeLink id).Shown r h := by
  unfold Handshake.observeLink
  split
  · exact { hshown with link := fun _ => hhandled }
  · exact hshown

theorem Handshake.Shown.observeChannel {handshake : Handshake} {channel : HidChannel} (hshown : handshake.Shown r h)
    (hhandled : h.handled (.hidChannelOpened channel) = true) (id : ConnectionSessionId) :
    (handshake.observeChannel id channel).Shown r h := by
  unfold Handshake.observeChannel
  split
  · exact hshown
  · split
    · exact { hshown with control := fun _ => hhandled }
    · exact { hshown with interrupt := fun _ => hhandled }

/-- The handshake notes an event. -/
theorem Evident.mapHandshake (hevident : Evident h s) {f : ConnectionSessionId → Handshake → Handshake}
    (hshown : ∀ id handshake, Handshake.Shown r handshake h → Handshake.Shown r (f id handshake) h) :
    Evident h (s.mapHandshake f) := by
  refine ⟨hevident.completed, hevident.observed, ?_, hevident.scheduler, hevident.holdoff⟩
  intro work hwork
  obtain ⟨before, hbefore, rfl⟩ := Option.map_eq_some_iff.1 hwork
  have hwork := hevident.work before hbefore
  refine ⟨hwork.deadline, ?_, hwork.collected⟩
  intro handshake hsome
  obtain ⟨earlier, hearlier, rfl⟩ := Option.map_eq_some_iff.1 hsome
  exact hshown _ _ (hwork.handshake earlier hearlier)

theorem Log.handled_processed {event : SessionEvent} :
    Log.handled event.event (.emit s (.processed (some event)) :: h) = true := by
  unfold Log.handled
  rw [Log.since]
  simp [processedEvent, begunSession]

theorem Log.noticed_processed {event : SessionEvent} {channel : HidChannel} {raw : List UInt8} {packetId : UInt8}
    {bytes : List UInt8} {request : SubcommandRequest} (hevent : event.event = .hidOutput channel raw)
    (hparse : parseOutputReport raw = .ok (.subcommand packetId bytes request)) :
    Log.noticed (.emit s (.processed (some event)) :: h) = true := by
  obtain ⟨sessionId, transported⟩ := event
  cases hevent
  unfold Log.noticed
  rw [Log.since]
  simp [arrivedRequest, begunSession, hparse]

/-- A reply accepted waits for its completion, and nothing else does. -/
theorem Answered.completes {channel : HidChannel} {raw : List UInt8} {current : InputState m}
    {completion : Except OutputHandlingError OutputHandling} (ha : Answered channel raw current h s h' s' completion) :
    (completion ≠ .ok .replyAccepted ∧ Adds Unreplied h h') ∨
      (completion = .ok .replyAccepted ∧ h'.replyOpen = true ∧ h'.completions = h.completions ∧ Adds Unbegun h h') := by
  have hnoticed : ∀ {channel : HidChannel} {output : OutputReport} {id : UInt8}, Adds Unreplied h
      (.emit (s.observe id) (.status (.recordSubcommand id)) :: .emit s (.observeOutput (observationOf channel output)) :: h) :=
    (Adds.single (.of_offered rfl rfl)).cons (.of_offered rfl rfl)
  cases ha with
  | malformed hparse => exact .inl ⟨nofun, .refl⟩
  | rumble hparse => exact .inl ⟨nofun, .single (.of_offered rfl rfl)⟩
  | unprepared hparse hprepare => exact .inl ⟨nofun, hnoticed⟩
  | replied hparse hprepare hsent =>
    have hhead := (prepareReply_spec hprepare).head
    cases hsent with
    | refused error => exact .inl ⟨nofun, hnoticed.cons ⟨rfl, nofun⟩⟩
    | accepted =>
      refine .inr ⟨rfl, if_pos hhead, rfl, ?_⟩
      refine Adds.cons (Adds.cons (Adds.unbegun hnoticed) ?_) ?_
      · rfl
      · rfl

theorem Answered.observes {channel : HidChannel} {raw : List UInt8} {current : InputState m}
    {completion : Except OutputHandlingError OutputHandling} (ha : Answered channel raw current h s h' s' completion) :
    s'.observed = s.observed ∨ ∃ packetId bytes request, parseOutputReport raw = .ok (.subcommand packetId bytes request) := by
  cases ha with
  | malformed hparse => exact .inl rfl
  | rumble hparse => exact .inl rfl
  | unprepared hparse hprepare => exact .inr ⟨_, _, _, hparse⟩
  | replied hparse hprepare hsent => exact .inr ⟨_, _, _, hparse⟩

/-- The holdoff after a reply completed at `t`. -/
theorem Reporting.covers_recorded {reporting : Reporting m r} {t : Duration} {policy : PeriodicPolicy}
    (hbound : t.asNanos + replyHoldoff.asNanos ≤ maxNanos)
    (hpolicy : (reporting.recorded t (.ok .replyAccepted)).policy = some policy)
    (hcovers : ∀ before, reporting.policy = some before → before.Covers h) :
    ∃ until_, policy.replyHoldoffUntil = some until_ ∧
      ∀ u ∈ t :: h.completions, u.asNanos + replyHoldoff.asNanos ≤ until_.asNanos := by
  cases reporting with
  | direct runtime => cases hpolicy
  | periodic runtime =>
    have hadd : t.checkedAdd replyHoldoff = some ⟨replyHoldoff.asNanos + t.asNanos, by omega⟩ :=
      dif_pos (by omega)
    have hcovers := hcovers runtime.policy rfl
    unfold recorded PeriodicPolicy.recordOutputCompletion at hpolicy
    rw [hadd] at hpolicy
    cases hpolicy
    refine ⟨_, rfl, ?_⟩
    intro u hmem
    cases hholdoff : runtime.policy.replyHoldoffUntil with
    | none =>
      rcases List.mem_cons.1 hmem with rfl | hmem
      · dsimp only
        omega
      · obtain ⟨until_, huntil, -⟩ := hcovers u hmem
        rw [hholdoff] at huntil
        cases huntil
    | some current =>
      rcases List.mem_cons.1 hmem with rfl | hmem
      · refine le_trans ?_ ((Duration.le_def _ _).1 (le_max_right _ _))
        dsimp only
        omega
      · obtain ⟨until_, huntil, hle⟩ := hcovers u hmem
        rw [hholdoff] at huntil
        cases huntil
        exact hle.trans ((Duration.le_def _ _).1 (le_max_left _ _))

theorem Answered.evident {event : SessionEvent} {channel : HidChannel} {raw : List UInt8} {held : Option (Tap m)}
    {completion : Except OutputHandlingError OutputHandling} {t : Duration} {errors : List WorkerOperationError}
    (ha : Answered channel raw s.input (.emit s (.processed (some event)) :: h) (s.setTap held) h' s' completion)
    (hevent : event.event = .hidOutput channel raw) (hevident : Evident h s) :
    Evident (.call (s'.setTap s.reporting.tap) Op.now t :: h') ((s'.setTap s.reporting.tap).record t completion errors) := by
  obtain ⟨-, hsessions, hconnection, -⟩ := ha.keeps
  have hsessions : s'.sessions = s.sessions := hsessions
  have hreporting := ha.reporting_back
  have hprocessed : Adds Unreplied h (.emit s (.processed (some event)) :: h) := .single (.of_offered rfl rfl)
  obtain ⟨hclosed, hcompletions⟩ := Adds.completions hprocessed hevident.completed
  have hanswered : Adds Unbegun (.emit s (.processed (some event)) :: h) (.call (s'.setTap s.reporting.tap) Op.now t :: h') := by
    refine Adds.cons ?_ ?_
    · rcases ha.completes with ⟨-, hadds⟩ | ⟨-, -, -, hadds⟩
      · exact Adds.unbegun hadds
      · exact hadds
    · rfl
  have hbegun := (Adds.unbegun hprocessed).trans hanswered
  refine ⟨rfl, ?_, ?_, ?_, ?_⟩
  · intro hlive hobserved
    rcases ha.observes with hsame | ⟨packetId, bytes, request, hparse⟩
    · have hbefore : s.observed.isEmpty = false := (congrArg ObservedSubcommands.isEmpty hsame).symm.trans hobserved
      have hlive : s.sessions.current ≠ none := (congrArg ConnectionSessions.current hsessions) ▸ hlive
      exact Adds.since hbegun (hevident.observed hlive hbefore)
    · exact Adds.since hanswered (Log.noticed_processed hevent hparse)
  · intro work hwork
    exact (hevident.work work (hconnection.symm.trans hwork)).later hbegun
  · intro policy hpolicy hrunning
    have hscheduler := (s'.setTap s.reporting.tap).reporting.scheduler_recorded t completion
    rw [show ((s'.setTap s.reporting.tap).reporting.recorded t completion).policy = _ from hpolicy, hreporting] at hscheduler
    obtain ⟨before, hbefore, hsame⟩ := Option.map_eq_some_iff.1 hscheduler.symm
    rw [← hsame] at hrunning
    exact Adds.handshaken hbegun (hevident.scheduler before hbefore hrunning)
  · intro hbounded hlive policy hpolicy
    have hpolicy : ((s'.setTap s.reporting.tap).reporting.recorded t completion).policy = some policy := hpolicy
    have hlive : s.sessions.current ≠ none := (congrArg ConnectionSessions.current hsessions) ▸ hlive
    have hcovers := hevident.holdoff (Adds.bounded hbegun hbounded) hlive
    rw [hreporting] at hpolicy
    rcases ha.completes with ⟨hnone, hadds⟩ | ⟨rfl, hopen, hkept, -⟩
    · rw [Reporting.policy_recorded _ _ hnone] at hpolicy
      obtain ⟨-, hkept⟩ := Adds.completions (hadds.cons (e := .call (s'.setTap s.reporting.tap) Op.now t)
        (.of_offered rfl rfl)) hclosed
      unfold PeriodicPolicy.Covers
      rw [hkept, hcompletions]
      exact hcovers policy hpolicy
    -- the reading completes the reply
    · obtain ⟨until_, huntil, hle⟩ := Reporting.covers_recorded (hbounded _ t (List.mem_cons_self ..)) hpolicy hcovers
      have hread : Log.completions (.call (s'.setTap s.reporting.tap) Op.now t :: h') = t :: h.completions := by
        rw [Log.completions, hkept, hcompletions]
        unfold Log.completion
        rw [hopen]
        rfl
      intro u hmem
      rw [hread] at hmem
      exact ⟨until_, huntil, hle u hmem⟩

theorem EventEffect.evident {event : SessionEvent} {result : Except WorkerCoreError Bool}
    (he : EventEffect event h s h' s' result) (hs : s.Sound) (hevident : Evident h s) : Evident h' s' := by
  have hprocessed : Adds Unreplied h (.emit s (.processed (some event)) :: h) := .single (.of_offered rfl rfl)
  cases he with
  | dropped hstale => exact hevident.keep (.single (.of_offered rfl rfl)) .refl
  | connected hcurrent hevent =>
    refine Evident.mapHandshake (s := s.connect) (hevident.keep ?_ ⟨rfl, rfl, rfl, rfl⟩) ?_
    · exact hprocessed.cons (.of_offered rfl rfl)
    intro id handshake hshown
    refine hshown.observeLink ?_ id
    rw [← hevent]
    exact Adds.since (.single rfl) Log.handled_processed
  | opened hcurrent hevent =>
    refine (hevident.keep hprocessed .refl).mapHandshake ?_
    intro id handshake hshown
    refine hshown.observeChannel ?_ id
    rw [← hevent]
    exact Log.handled_processed
  | answered hcurrent hevent hheld hanswered => exact hanswered.evident hevent hevident
  | disconnected hcurrent hevent =>
    refine .of_open ?_ (disconnect_open hs hcurrent _)
    exact Log.replyOpen_cons nofun (Log.replyOpen_cons nofun hevident.completed)

/-! ## Drives -/

theorem Handshake.Shown.satisfied {handshake : Handshake} (hshown : handshake.Shown r h)
    (hobserved : s.observed.isEmpty = false → h.noticed = true) (hbootstrapped : h.bootstrapped = true)
    (hsatisfied : handshake.satisfied s = true) : h.Handshaken := by
  refine ⟨hbootstrapped, ?_⟩
  intro hr
  unfold Handshake.satisfied HandshakeCompletionCondition.isSatisfied at hsatisfied
  rw [hshown.condition hr] at hsatisfied
  exact hobserved (by simpa using hsatisfied)

theorem InputSent.bootstrapped {nowNs : UInt64} (hsent : InputSent .neutral nowNs h s h' s' (.ok ()))
    (hlinked : h.linked = true) (hcapacity : h.asksCapacity = false) : h'.bootstrapped = true := by
  have hhead := s.sender.head_inputCandidate (InputState.neutral (m := m)) nowNs
  have hcontrols := s.sender.controls_inputCandidate (InputState.neutral (m := m)) nowNs
  rw [encodeControls_neutral] at hcontrols
  unfold InputSent at hsent
  cases hsent with
  | accepted =>
    refine Adds.since (.single rfl) ?_
    rw [Log.since]
    simp [begunSession, acceptedPayload, Log.bootstraps, hlinked, hcapacity, hhead, hcontrols]

theorem HandshakeEffect.shown {handshake handshake' : Handshake} {t : Duration}
    {result : Except HandshakeError HandshakeProgress} (he : HandshakeEffect handshake t h s h' s' (result, handshake'))
    (hshown : handshake.Shown r h) (hobserved : s.observed.isEmpty = false → h.noticed = true)
    (hcapacity : h.asksCapacity = false) : handshake'.Shown r h' := by
  cases he with
  | stopped hstopped => exact hshown
  | waitingForTopology hrunning htopology => exact hshown
  | observed hrunning htopology haccepted hsatisfied =>
    exact { hshown with stopped := fun _ => hshown.satisfied hobserved (hshown.accepted haccepted) hsatisfied }
  | waiting hattempting hretry hlt => exact hshown
  | overflow hattempting => exact hshown
  | attempted hattempting hscheduled hsent =>
    have hlinked : h.linked = true := by
      have htopology := hattempting.topology
      unfold Handshake.topologyReady at htopology
      rw [Bool.and_eq_true, Bool.and_eq_true] at htopology
      unfold Log.linked
      rw [hshown.link htopology.1.1, hshown.control htopology.1.2, hshown.interrupt htopology.2]
      rfl
    have hadds := Adds.unbegun (hsent.routine.mono fun _ => Routine.unreplied)
    have hlater := hshown.later hadds
    have hobserved : s'.observed.isEmpty = false → h'.noticed = true := by
      rw [(Sent.sameControl hsent).observed]
      exact fun hempty => Adds.since hadds (hobserved hempty)
    rename_i skipped scheduler sent
    have hretry : Handshake.Shown r { handshake with retry := some scheduler } h' :=
      ⟨hlater.condition, hlater.link, hlater.control, hlater.interrupt, hlater.accepted, hlater.stopped⟩
    unfold Handshake.recordBootstrapAttempt
    rcases sent with error | ⟨⟩
    · exact hretry
    · have hbootstrapped := hsent.bootstrapped hlinked hcapacity
      have haccepted : Handshake.Shown r { handshake with retry := some scheduler, bootstrapAccepted := true } h' :=
        { hretry with accepted := fun _ => hbootstrapped }
      dsimp only
      split
      · rename_i hsatisfied
        exact { haccepted with stopped := fun _ => haccepted.satisfied hobserved hbootstrapped hsatisfied }
      · exact haccepted

theorem HandshakeDriven.shown {work : ConnectionWork} {t : Duration} {a : Except WorkerCoreError Nat × ConnectionWork}
    (hd : HandshakeDriven work t h s h' s' a) (hwork : work.Shown h)
    (hobserved : s.observed.isEmpty = false → h.noticed = true) (hcapacity : h.asksCapacity = false) :
    a.2.Shown h' ∧ a.2.readiness = work.readiness := by
  have hlater := hwork.later (Adds.unbegun (hd.routine.mono fun _ => Routine.unreplied))
  cases hd with
  | collected hnone => exact ⟨hlater, rfl⟩
  | stepped hsome heffect =>
    refine ⟨⟨hlater.deadline, ?_, hlater.collected⟩, rfl⟩
    rintro handshake ⟨⟩
    exact heffect.shown (hwork.handshake _ hsome) hobserved hcapacity
  | overflow hsome heffect =>
    refine ⟨⟨hlater.deadline, ?_, hlater.collected⟩, rfl⟩
    rintro handshake ⟨⟩
    exact heffect.shown (hwork.handshake _ hsome) hobserved hcapacity

/-- A gate collects the handshake once it is complete. -/
theorem ConnectionWork.Shown.collect {work : ConnectionWork} {gate : ReadinessGate} {handshake : Option Handshake}
    (hwork : work.Shown h)
    (hcollect : work.readiness.collectHandshake work.handshake = .ok (true, gate, handshake)) :
    h.Handshaken ∧ ConnectionWork.Shown ⟨work.sessionId, handshake, gate⟩ h := by
  unfold ReadinessGate.collectHandshake at hcollect
  split at hcollect
  · rename_i hcollected
    cases hcollect
    exact ⟨hwork.collected hcollected, hwork.deadline, hwork.handshake, hwork.collected⟩
  · split at hcollect
    · cases hcollect
    · rename_i completion hcompletion
      split at hcollect
      · cases hcollect
      · cases hcollect
        obtain ⟨running, hrunning, hstopped⟩ := Option.bind_eq_some_iff.1 hcompletion
        have hshaken : h.Handshaken := by
          refine (hwork.handshake running hrunning).stopped ?_
          unfold Handshake.completion at hstopped
          split at hstopped
          · assumption
          · cases hstopped
        exact ⟨hshaken, hwork.deadline, nofun, fun _ => hshaken⟩

/-- Starting the schedule leaves the holdoff. -/
theorem Reporting.holdoff_started {reporting reporting' : Reporting m r} {session : ProtocolSession} {t : Duration}
    (hstart : reporting.started session t = .ok reporting') :
    reporting'.policy.map PeriodicPolicy.replyHoldoffUntil = reporting.policy.map PeriodicPolicy.replyHoldoffUntil := by
  unfold started at hstart
  cases reporting with
  | direct runtime =>
    cases hstart
    rfl
  | periodic runtime =>
    dsimp only at hstart
    split at hstart
    · split at hstart
      · cases hstart
      · rename_i start policy hunheld
        cases hstart
        unfold PeriodicPolicy.startWhenUnheld at hunheld
        split at hunheld
        · cases hunheld
          rfl
        · split at hunheld
          · cases hunheld
            rfl
          · split at hunheld
            · cases hunheld
            · cases hunheld
              rfl
    · cases hstart
      rfl

theorem Evident.put {work : ConnectionWork} (hevident : Evident h s) (hshown : work.Shown h) :
    Evident h (s.putConnection work) := by
  refine ⟨hevident.completed, hevident.observed, ?_, hevident.scheduler, hevident.holdoff⟩
  rintro work ⟨⟩
  exact hshown

theorem Evident.take (hevident : Evident h s) : Evident h s.takeConnection :=
  ⟨hevident.completed, hevident.observed, nofun, hevident.scheduler, hevident.holdoff⟩

/-- The worker after its schedule may have been started. -/
theorem Evident.started {reporting : Reporting m r} {t : Duration} (hevident : Evident h s) (hshaken : h.Handshaken)
    (hstart : s.reporting.started s.sender.committed.session t = .ok reporting) : Evident h { s with reporting } := by
  refine ⟨hevident.completed, hevident.observed, hevident.work, fun _ _ _ => hshaken, ?_⟩
  intro hbounded hlive policy hpolicy
  have hholdoff := Reporting.holdoff_started hstart
  rw [show reporting.policy = some policy from hpolicy] at hholdoff
  obtain ⟨before, hbefore, hsame⟩ := Option.map_eq_some_iff.1 hholdoff.symm
  unfold PeriodicPolicy.Covers
  rw [← hsame]
  exact hevident.holdoff hbounded hlive before hbefore

theorem Evaluated.evident {work : ConnectionWork} {t : Duration} {evaluation : Evaluation}
    (he : Evaluated work.readiness t work.handshake h s h' s' evaluation) (hevident : Evident h s) (hshown : work.Shown h) :
    Evident h' s' ∧ (∀ progress, evaluation.result = .ok progress → (work.evaluated evaluation).Shown h') := by
  cases he with
  | uncollected hgate hcompletion => exact ⟨hevident, fun _ _ => hshown⟩
  | mismatched hgate hcompletion hne => exact ⟨hevident, fun _ _ => hshown⟩
  | overflow hcollect hstart => exact ⟨hevident, nofun⟩
  | unready hcollect hstart hready =>
    obtain ⟨hshaken, hcollected⟩ := hshown.collect hcollect
    exact ⟨hevident.started hshaken hstart, fun _ _ => hcollected⟩
  | heldOff hcollect hstart hready hheld =>
    obtain ⟨hshaken, hcollected⟩ := hshown.collect hcollect
    exact ⟨hevident.started hshaken hstart, fun _ _ => hcollected⟩
  | ready hcollect hgate hstart hready hheld =>
    obtain ⟨hshaken, hcollected⟩ := hshown.collect hcollect
    exact ⟨hevident.started hshaken hstart, fun _ _ => ⟨hcollected.deadline, hcollected.handshake, nofun⟩⟩

/-! ## Ready -/

def announcesReady : LogEvent m r → Bool
  | .emit _ (.status (.setLifecycle .ready)) => true
  | _ => false

/-- An event that neither announces Ready nor asks for send capacity. -/
structure Unnoted (e : LogEvent m r) : Prop where
  ready : announcesReady e = false
  asked : asksEvent e = false

theorem Routine.unnoted {e : LogEvent m r} (hroutine : Routine e) : Unnoted e := by
  cases hroutine with
  | report hhead => exact ⟨rfl, rfl⟩
  | counted => exact ⟨rfl, rfl⟩
  | committed => exact ⟨rfl, rfl⟩

/-- What the log shows of a worker that becomes ready. -/
structure ReadyShown (h : Log m r) (f : Frame m r) : Prop where
  live : f.sessions.current ≠ none
  handshaken : h.Handshaken
  protocol : f.sender.committed.session.protocolReady = true
  running : ∀ policy, f.reporting.policy = some policy → policy.scheduler.isSome = true
  timely : ∃ t deadline, h.clock = some t ∧ h.operationDeadline = some deadline ∧ t < deadline ∧
    (h.Bounded → r = .periodic → ∀ u ∈ h.completions, u.asNanos + replyHoldoff.asNanos ≤ t.asNanos)

/-- What the log shows of a worker that makes an automatic attempt. -/
structure AskShown (h : Log m r) (f : Frame m r) : Prop where
  live : f.sessions.current ≠ none
  handshaken : h.Handshaken
  unheld : h.Bounded → ∃ t, h.clock = some t ∧ ∀ u ∈ h.completions, u.asNanos + replyHoldoff.asNanos ≤ t.asNanos

/-- Announcing Ready and asking for send capacity take evidence. -/
structure Warranted (e : LogEvent m r) (h : Log m r) : Prop where
  ready : announcesReady e = true → ReadyShown h e.state
  asked : asksEvent e = true → AskShown h e.state

/-- What has been done since `h` was warranted. -/
def Earned (h h' : Log m r) : Prop := Always Warranted h → Always Warranted h'

theorem Unnoted.warranted {e : LogEvent m r} (hunnoted : Unnoted e) (h : Log m r) : Warranted e h where
  ready := by simp [hunnoted.ready]
  asked := by simp [hunnoted.asked]

theorem ReadyShown.warranted (hshown : ReadyShown h f) : Warranted (.emit f (.status (.setLifecycle .ready))) h where
  ready := fun _ => hshown
  asked := nofun

theorem AskShown.warranted (hshown : AskShown h f) (available : Bool) :
    Warranted (.call f Op.interruptSendCapacityAvailable available) h where
  ready := nofun
  asked := fun _ => hshown

theorem Earned.refl : Earned h h := id

theorem Earned.trans (hleft : Earned h h₁) (hright : Earned h₁ h') : Earned h h' := hright ∘ hleft

theorem Earned.cons {e : LogEvent m r} (hearned : Earned h h') (hwarranted : Warranted e h') : Earned h (e :: h') :=
  fun halways => And.intro hwarranted (hearned halways)

theorem Adds.earned (hadds : Adds Unnoted h h') : Earned h h' := by
  obtain ⟨added, rfl, hall⟩ := hadds
  induction added with
  | nil => exact .refl
  | cons e rest ih =>
    obtain ⟨hunnoted, hrest⟩ := List.forall_mem_cons.1 hall
    exact (ih hrest).cons (hunnoted.warranted _)

theorem ReadinessGate.before_deadline {gate : ReadinessGate} {t : Duration} {sessions : ConnectionSessions}
    (hactive : gate.ensureActive t sessions = .ok ()) : t < gate.operationDeadline := by
  unfold ensureActive ensureCurrent at hactive
  split at hactive
  · unfold ensureBeforeTimeout at hactive
    by_contra hlate
    rw [if_neg hlate] at hactive
    cases hactive
  · cases hactive

/-- A holdoff that covers the replies and has run out leaves them all behind. -/
theorem PeriodicPolicy.Covers.behind {policy : PeriodicPolicy} {t u : Duration} (hcovers : policy.Covers h)
    (hunheld : policy.heldOff t = none) (hmem : u ∈ h.completions) : u.asNanos + replyHoldoff.asNanos ≤ t.asNanos := by
  obtain ⟨until_, huntil, hle⟩ := hcovers u hmem
  unfold heldOff at hunheld
  rw [huntil, Option.filter_eq_none_iff] at hunheld
  have hpast := hunheld until_ rfl
  rw [decide_eq_true_eq, not_lt, Duration.le_def] at hpast
  exact hle.trans hpast

/-- A drive after its handshake's part. -/
structure Driven (work : ConnectionWork) (t : Duration) (h h' : Log m r) (s' : Frame m r) : Prop where
  evident : Evident h' s'
  shown : work.Shown h'
  clock : h'.clock = some t
  live : s'.sessions.current ≠ none
  unnoted : Adds Unnoted h h'

theorem HandshakeDriven.driven {work : ConnectionWork} {t : Duration} {a : Except WorkerCoreError Nat × ConnectionWork}
    (hd : HandshakeDriven work t (.call s Op.now t :: h) s.takeConnection h' s' a) (hs : s.Sound)
    (hevident : Evident h s) (hwork : s.connection = some work) :
    Driven a.2 t h h' s' ∧ a.2.readiness = work.readiness := by
  have hconnecting := hs.coherent.of_connection hwork
  obtain ⟨hcontrol, hreporting, -⟩ := hd.sameControl hconnecting.work
  have hnow : Evident (.call s Op.now t :: h) s := hevident.keep (.single (.of_offered rfl rfl)) .refl
  have hlive : s.sessions.current ≠ none := by
    rw [hconnecting.current]
    exact Option.some_ne_none _
  obtain ⟨hshown, hgate⟩ := hd.shown (hnow.work work hwork) (hnow.observed hlive) rfl
  refine ⟨⟨?_, hshown, Adds.clock hd.routine, ?_, ?_⟩, hgate⟩
  · refine hnow.take.keep (hd.routine.mono fun _ => Routine.unreplied) ?_
    exact ⟨hcontrol.sessions, hcontrol.connection, hcontrol.observed, congrArg Reporting.policy hreporting⟩
  · rw [hcontrol.sessions]
    exact hlive
  · exact (Adds.single ⟨rfl, rfl⟩).trans (hd.routine.mono fun _ => Routine.unnoted)

theorem Frame.complete_sameSession (s : Frame m r) (result : CommandResult) : SameSession s (s.complete result) := by
  obtain ⟨hreporting, -, -, hsessions, -, -, hobserved, hconnection⟩ := s.complete_keeps result
  exact ⟨hsessions, hconnection, hobserved, congrArg Reporting.policy hreporting⟩

/-- A worker that becomes ready has met every condition. -/
theorem Driven.ready {work : ConnectionWork} {t : Duration} {evaluation : Evaluation} {id : ConnectionSessionId}
    (hdriven : Driven work t h h₁ s₁) (he : Evaluated work.readiness t work.handshake h₁ s₁ h' s' evaluation)
    (hresult : evaluation.result = .ok (.ready id)) (hbefore : t < work.readiness.operationDeadline) :
    ReadyShown h' s'.markReady := by
  cases he with
  | uncollected hgate hcompletion => cases hresult
  | mismatched hgate hcompletion hne => cases hresult
  | overflow hcollect hstart => cases hresult
  | unready hcollect hstart hready => cases hresult
  | heldOff hcollect hstart hready hheld => cases hresult
  | ready hcollect hgate hstart hready hheld =>
    obtain ⟨hshaken, -⟩ := hdriven.shown.collect hcollect
    refine ⟨hdriven.live, hshaken, hready, Reporting.started_running hstart hready hheld, t, _, hdriven.clock,
      hdriven.shown.deadline, hbefore, ?_⟩
    intro hbounded hr u hmem
    subst hr
    have hpolicy := s₁.policy_eq
    have hunheld : s₁.periodic.policy.heldOff t = none := by
      rw [Reporting.heldOff, hpolicy] at hheld
      exact hheld
    exact (hdriven.evident.holdoff hbounded hdriven.live _ hpolicy).behind hunheld hmem

theorem DriveEffect.evident {t : Duration} {result : Except WorkerCoreError Nat}
    (he : DriveEffect t (.call s Op.now t :: h) s h' s' result) (hs : s.Sound) (hevident : Evident h s) :
    Evident h' s' ∧ Earned h h' := by
  have hnow : Evident (.call s Op.now t :: h) s := hevident.keep (.single (.of_offered rfl rfl)) .refl
  cases he with
  | idle hnone =>
    have hasked : Adds Unnoted h (.call s Op.now t :: h) := Adds.single ⟨rfl, rfl⟩
    exact ⟨hnow, Adds.earned hasked⟩
  | aborted hwork hinactive =>
    refine ⟨.of_open (Log.replyOpen_cons nofun hnow.completed) ?_, Adds.earned (Adds.cons (Adds.single ?_) ?_)⟩
    · exact abort_open (s := s.takeConnection) (hs.coherent.of_connection hwork).lifecycle rfl _
    · exact ⟨rfl, rfl⟩
    · exact ⟨rfl, rfl⟩
  | failed hwork hactive hhandshake =>
    obtain ⟨hdriven, -⟩ := hhandshake.driven hs hevident hwork
    exact ⟨hdriven.evident.put hdriven.shown, Adds.earned hdriven.unnoted⟩
  | pending hwork hactive hhandshake hevaluated hresult =>
    obtain ⟨hdriven, -⟩ := hhandshake.driven hs hevident hwork
    obtain ⟨hevaluation, hshown⟩ := hevaluated.evident hdriven.evident hdriven.shown
    refine ⟨hevaluation.put (hshown _ hresult), ?_⟩
    rw [hevaluated.log]
    exact Adds.earned hdriven.unnoted
  | ready hwork hactive hhandshake hevaluated hresult =>
    obtain ⟨hdriven, hgate⟩ := hhandshake.driven hs hevident hwork
    obtain ⟨hevaluation, -⟩ := hevaluated.evident hdriven.evident hdriven.shown
    have hbefore := ReadinessGate.before_deadline hactive
    rw [← hgate] at hbefore
    rename_i h₁ h₂ s₁ s₂
    have hmarked : SameSession s₂ s₂.markReady := ⟨rfl, rfl, rfl, rfl⟩
    refine ⟨hevaluation.keep (.single (.of_offered rfl rfl)) (hmarked.trans (s₂.markReady.complete_sameSession _)), ?_⟩
    refine Earned.cons ?_ (ReadyShown.warranted ?_)
    · rw [hevaluated.log]
      exact Adds.earned hdriven.unnoted
    · exact hdriven.ready hevaluated hresult hbefore
  | evaluationFailed hwork hactive hhandshake hevaluated hresult =>
    have hconnecting := hs.coherent.of_connection hwork
    obtain ⟨hdriven, -⟩ := hhandshake.driven hs hevident hwork
    obtain ⟨hevaluation, -⟩ := hevaluated.evident hdriven.evident hdriven.shown
    obtain ⟨hsame₁, -, hwork₁, -⟩ := hhandshake.sameControl hconnecting.work
    obtain ⟨hsame₂, -, -, -⟩ := hevaluated.sameControl hwork₁
    have hsame := hsame₁.trans hsame₂
    refine ⟨.of_open (Log.replyOpen_cons nofun hevaluation.completed) ?_, ?_⟩
    · exact abort_open (hsame.lifecycle.trans hconnecting.lifecycle) hsame.connection _
    · rw [hevaluated.log]
      refine Adds.earned (hdriven.unnoted.cons ?_)
      exact ⟨rfl, rfl⟩

/-! ## Due actions -/

theorem Released.sameSession {tap : Tap m} {t : Duration} {result : CommandResult}
    (hreleased : Released tap t h s h' s' result) : SameSession s s' := by
  cases hreleased with
  | periodic hr hsent => exact hsent.sameSession
  | direct hr hsent => exact hsent.sameSession

/-- The schedule moves on. -/
theorem Evident.ticked {policy : PeriodicPolicy} {t : Duration} {skipped : UInt64} {scheduler : ReportScheduler}
    (hevident : Evident h s) (hpolicy : s.reporting.policy = some policy) (hticks : Ticks policy t skipped scheduler) :
    Evident h (s.setPolicy { policy with scheduler := some scheduler }) := by
  have hset : (s.setPolicy { policy with scheduler := some scheduler }).reporting.policy =
      some { policy with scheduler := some scheduler } := Reporting.policy_withPolicy hpolicy _
  refine ⟨hevident.completed, hevident.observed, hevident.work, ?_, ?_⟩
  · intro policy' hpolicy' _
    obtain ⟨before, hbefore, -⟩ := hticks.step
    exact hevident.scheduler policy hpolicy (hbefore ▸ rfl)
  · intro hbounded hlive policy' hpolicy'
    rw [hset] at hpolicy'
    cases hpolicy'
    exact hevident.holdoff hbounded hlive policy hpolicy

theorem Frame.recordDue_sameSession (s : Frame m r) (due : ReportingDue) : SameSession s (s.recordDue due) := by
  have hcounted : SameSession s (s.countDue due) := ⟨rfl, rfl, rfl, rfl⟩
  unfold recordDue settleDue
  split
  · exact ⟨hcounted.sessions, hcounted.connection, hcounted.observed, hcounted.policy⟩
  · obtain ⟨hsessions, hconnection, hobserved, hpolicy⟩ := hcounted.trans ((s.countDue due).settle_sameSession _)
    exact ⟨hsessions, hconnection, hobserved, hpolicy⟩

theorem DueEffect.evident {t : Duration} {due : ReportingDue} (he : DueEffect t (.call s Op.now t :: h) s h' s' due)
    (hevident : Evident h s) : Evident h' (s'.recordDue due) := by
  have hread : Adds Unreplied h (.call s Op.now t :: h) := .single (.of_offered rfl rfl)
  have hrecord := s'.recordDue_sameSession due
  cases he with
  | quiet htap hpolicy => exact hevident.keep hread hrecord
  | failed hpolicy herror => exact hevident.keep hread hrecord
  | backpressured htap hpolicy hticks =>
    exact (hevident.ticked hpolicy hticks).keep (hread.cons (.of_offered rfl rfl)) hrecord
  | automatic hpolicy hticks hsent herrors =>
    have hcontrol := Sent.sameControl hsent
    have hsame := SameSession.mk hcontrol.sessions hcontrol.connection hcontrol.observed
      (congrArg Reporting.policy (Sent.reporting hsent))
    refine (hevident.ticked hpolicy hticks).keep ?_ (hsame.trans hrecord)
    exact (hread.cons (.of_offered rfl rfl)).trans (hsent.routine.mono fun _ => Routine.unreplied)
  | released htap hdue hreleased =>
    have hsame := (SameSession.refl (s := s)).setTap none
    refine hevident.keep ?_ ((hsame.trans hreleased.sameSession).trans hrecord)
    exact hread.trans (hreleased.routine.mono fun _ => Routine.unreplied)

/-! ## Moves -/

theorem Move.evident {terminal : Option WorkerCoreError} (hmove : Move h s terminal h' s') (hs : s.Sound)
    (hevident : Evident h s) : Evident h' s' := by
  cases hmove with
  | unrequested => exact hevident.keep (.single (.of_offered rfl rfl)) .refl
  | noCommand hcommand htap => exact hevident.keep (.single (.of_offered rfl rfl)) .refl
  | polled => exact hevident.keep (.single (.of_offered rfl rfl)) .refl
  | pollFailed => exact hevident.keep (.single (.of_offered rfl rfl)) .refl
  | untagged => exact hevident.keep (.single (.of_offered rfl rfl)) .refl
  | progress hresult => exact hevident.keep .refl ⟨rfl, rfl, rfl, rfl⟩
  | command hcommand htap hresult heffect =>
    have hcounted : Evident h s.countCommand := hevident.keep .refl ⟨rfl, rfl, rfl, rfl⟩
    exact (heffect.evident hcounted).keep .refl (Frame.settle_sameSession _ _)
  | event heffect => exact heffect.evident hs hevident
  | drive heffect => exact (heffect.evident hs hevident).1
  | due hallowed heffect => exact heffect.evident hevident

theorem Answered.unnoted {channel : HidChannel} {raw : List UInt8} {current : InputState m}
    {completion : Except OutputHandlingError OutputHandling} (ha : Answered channel raw current h s h' s' completion) :
    Adds Unnoted h h' := by
  have hnoticed : ∀ {channel : HidChannel} {output : OutputReport} {id : UInt8}, Adds Unnoted h
      (.emit (s.observe id) (.status (.recordSubcommand id)) :: .emit s (.observeOutput (observationOf channel output)) :: h) := by
    intro channel output id
    refine Adds.cons (Adds.single ?_) ?_
    · exact ⟨rfl, rfl⟩
    · exact ⟨rfl, rfl⟩
  cases ha with
  | malformed hparse => exact .refl
  | rumble hparse => exact Adds.single ⟨rfl, rfl⟩
  | unprepared hparse hprepare => exact hnoticed
  | replied hparse hprepare hsent =>
    cases hsent with
    | refused error => exact hnoticed.cons ⟨rfl, rfl⟩
    | accepted =>
      refine Adds.cons (hnoticed.cons ?_) ?_
      · exact ⟨rfl, rfl⟩
      · exact ⟨rfl, rfl⟩

theorem CommandEffect.unnoted {command : RuntimeCommand m r} {progress : WorkerCommandProgress}
    (he : CommandEffect h s command h' s' progress) : Adds Unnoted h h' := by
  refine he.events.mono ?_
  intro e hevent
  cases hevent with
  | started =>
    rename_i kind result
    cases kind with
    | pair => exact ⟨rfl, rfl⟩
    | reconnect => exact ⟨rfl, rfl⟩
  | read => exact ⟨rfl, rfl⟩
  | begun => exact ⟨rfl, rfl⟩
  | routine hroutine => exact hroutine.unnoted

theorem EventEffect.unnoted {event : SessionEvent} {result : Except WorkerCoreError Bool}
    (he : EventEffect event h s h' s' result) : Adds Unnoted h h' := by
  have hprocessed : Adds Unnoted h (.emit s (.processed (some event)) :: h) := Adds.single ⟨rfl, rfl⟩
  cases he with
  | dropped hstale => exact Adds.single ⟨rfl, rfl⟩
  | connected hcurrent hevent => exact hprocessed.cons ⟨rfl, rfl⟩
  | opened hcurrent hevent => exact hprocessed
  | answered hcurrent hevent hheld hanswered => exact (hprocessed.trans hanswered.unnoted).cons ⟨rfl, rfl⟩
  | disconnected hcurrent hevent => exact hprocessed.cons ⟨rfl, rfl⟩

/-- An automatic attempt is made with the schedule running and no holdoff. -/
theorem Evident.ask {policy : PeriodicPolicy} {t : Duration} {skipped : UInt64} {scheduler : ReportScheduler}
    (hevident : Evident h s) (hlive : s.sessions.current ≠ none) (hclock : h.clock = some t)
    (hpolicy : s.reporting.policy = some policy) (hticks : Ticks policy t skipped scheduler) :
    AskShown h (s.setPolicy { policy with scheduler := some scheduler }) := by
  refine ⟨hlive, ?_, ?_⟩
  · obtain ⟨before, hbefore, -⟩ := hticks.step
    exact hevident.scheduler policy hpolicy (hbefore ▸ rfl)
  · intro hbounded
    refine ⟨t, hclock, ?_⟩
    intro u hmem
    exact (hevident.holdoff hbounded hlive policy hpolicy).behind hticks.unheld hmem

theorem DueEffect.earned {t : Duration} {due : ReportingDue} (he : DueEffect t (.call s Op.now t :: h) s h' s' due)
    (hevident : Evident h s) (hlive : s.sessions.current ≠ none) : Earned h h' := by
  have hread : Earned h (.call s Op.now t :: h) := Adds.earned (.single ⟨rfl, rfl⟩)
  have hnow : Evident (.call s Op.now t :: h) s := hevident.keep (.single (.of_offered rfl rfl)) .refl
  cases he with
  | quiet htap hpolicy => exact hread
  | failed hpolicy herror => exact hread
  | backpressured htap hpolicy hticks =>
    refine Earned.cons hread ?_
    exact (hnow.ask hlive rfl hpolicy hticks).warranted _
  | automatic hpolicy hticks hsent herrors =>
    refine .trans (Earned.cons hread ?_) (Adds.earned (hsent.routine.mono fun _ => Routine.unnoted))
    exact (hnow.ask hlive rfl hpolicy hticks).warranted _
  | released htap hdue hreleased => exact hread.trans (Adds.earned (hreleased.routine.mono fun _ => Routine.unnoted))

/-- Only a drive announces Ready and only a due action asks for capacity. -/
theorem Move.earned {terminal : Option WorkerCoreError} (hmove : Move h s terminal h' s') (hs : s.Sound)
    (hevident : Evident h s) : Earned h h' := by
  have hsingle : ∀ {e : LogEvent m r}, Unnoted e → Earned h (e :: h) := fun hunnoted => Adds.earned (.single hunnoted)
  cases hmove with
  | unrequested => exact hsingle ⟨rfl, rfl⟩
  | noCommand hcommand htap => exact hsingle ⟨rfl, rfl⟩
  | polled => exact hsingle ⟨rfl, rfl⟩
  | pollFailed => exact hsingle ⟨rfl, rfl⟩
  | untagged => exact hsingle ⟨rfl, rfl⟩
  | progress hresult => exact .refl
  | command hcommand htap hresult heffect =>
    refine .trans (hsingle ?_) (Adds.earned heffect.unnoted)
    exact ⟨rfl, rfl⟩
  | event heffect => exact Adds.earned heffect.unnoted
  | drive heffect => exact (heffect.evident hs hevident).2
  | due hallowed heffect => exact heffect.earned hevident (hallowed.live hs.coherent)

theorem Path.evident (hpath : Path h s h' s') (hevident : Evident h s) : Evident h' s' ∧ Earned h h' := by
  induction hpath with
  | refl => exact ⟨hevident, .refl⟩
  | move hpath hsound hmove ih =>
    obtain ⟨hbefore, hearned⟩ := ih
    exact ⟨hmove.evident hsound hbefore, hearned.trans (hmove.earned hsound hbefore)⟩

/-! ## Runs -/

theorem Cleaned.unnoted {sequence : CleanupSequence} {connected publish : Bool} {nowNs : UInt64}
    {completion : CloseCompletion} (hc : Cleaned sequence connected nowNs publish h s h' s' completion) :
    Adds Unnoted h h' := by
  refine hc.events.mono ?_
  intro e hevent
  cases hevent <;> exact ⟨rfl, rfl⟩

theorem CloseEffect.unnoted {request : ShutdownRequest} {t : Duration} {step : WorkerStep}
    (hc : CloseEffect request t h s h' s' step) : Adds Unnoted h h' := by
  cases hc with
  | closed hcleaned => exact hcleaned.unnoted.cons ⟨rfl, rfl⟩

theorem AbandonEffect.unnoted {cause : WorkerFailureCause} {failure : Option CleanupFailure}
    (ha : AbandonEffect cause h s h' s' failure) : Adds Unnoted h h' := by
  cases ha with
  | cleaned hcleaned =>
    refine Adds.trans (Adds.cons (Adds.single ?_) ?_) hcleaned.unnoted
    · exact ⟨rfl, rfl⟩
    · exact ⟨rfl, rfl⟩

theorem StepEffect.earned {step : WorkerStep} (he : StepEffect h s h' s' step) (hevident : Evident h s.fresh) :
    Earned h h' := by
  have hended : ∀ {h₁ h₂ : Log m r} {e : LogEvent m r}, Adds Unnoted h₁ h₂ → Unnoted e → Earned h₁ (e :: h₂) :=
    fun hadds hunnoted => Adds.earned (hadds.cons hunnoted)
  cases he with
  | continued hpath hsound => exact (hpath.evident hevident).2
  | closed hpath hsound₁ hlast hsound hclose =>
    rename_i h₁ h₂ s₁ s₂ request t
    obtain ⟨hbefore, hearned⟩ := hpath.evident hevident
    have hclosed : Adds Unnoted h₂ h' := by
      refine Adds.trans (Adds.cons (Adds.single ?_) ?_) hclose.unnoted
      · exact ⟨rfl, rfl⟩
      · exact ⟨rfl, rfl⟩
    refine hearned.trans (.trans ?_ (Adds.earned hclosed))
    cases hlast with
    | none => exact .refl
    | terminal hmove => exact hmove.earned hsound₁ hbefore
  | failed hpath hsound₁ hmove hsound hfail =>
    obtain ⟨hbefore, hearned⟩ := hpath.evident hevident
    refine hearned.trans (.trans (hmove.earned hsound₁ hbefore) ?_)
    cases hfail
    refine hended (.single ?_) ?_
    · exact ⟨rfl, rfl⟩
    · exact ⟨rfl, rfl⟩

theorem Evident.fresh (hevident : Evident h s) : Evident h s.fresh := hevident.keep .refl ⟨rfl, rfl, rfl, rfl⟩

theorem Run.evident (hrun : Run h s) : Evident h s ∧ Earned [] h := by
  induction hrun with
  | opened hnew =>
    refine ⟨.of_open rfl hnew.isOpen, Adds.earned (.single ?_)⟩
    exact ⟨rfl, rfl⟩
  | step hrun hexec ih =>
    obtain ⟨hevident, hearned⟩ := ih
    have heffect := hexec.post (stepRuntime_spec _ _ hrun.coherent)
    refine ⟨?_, hearned.trans (heffect.earned hevident.fresh)⟩
    cases heffect with
    | continued hpath hsound => exact (hpath.evident hevident.fresh).1.keep .refl ⟨rfl, rfl, rfl, rfl⟩
    | closed hpath hsound₁ hlast hsound hclose => cases hclose
    | failed hpath hsound₁ hmove hsound hfail => cases hfail

theorem Trace.earned (htrace : Trace h s) : Earned [] h := by
  have hstepped : ∀ {h h' : Log m r} {s s' : Frame m r} {step : WorkerStep}, Run h s →
      Prog.Exec (stepRuntime s) h h' s' step → Earned [] h' := by
    intro h h' s s' step hrun hexec
    obtain ⟨hevident, hearned⟩ := hrun.evident
    exact hearned.trans ((hexec.post (stepRuntime_spec _ _ hrun.coherent)).earned hevident.fresh)
  cases htrace with
  | running hrun => exact hrun.evident.2
  | stepped hrun hexec => exact hstepped hrun hexec
  | abandoned hrun hexec =>
    exact hrun.evident.2.trans (Adds.earned (hexec.post (completeWorkerFailure_spec _ _ _)).unnoted)
  | failed hrun hstep hexec =>
    exact (hstepped hrun hstep).trans (Adds.earned (hexec.post (completeWorkerFailure_spec _ _ _)).unnoted)

end Swbt
