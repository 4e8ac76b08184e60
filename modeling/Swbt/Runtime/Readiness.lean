import Swbt.Runtime.Evidence
import Swbt.Runtime.Replay
import Swbt.Runtime.Terminal
/-!
# What Ready takes

A worker becomes ready, and answers a connection command with success, in a
drive before the deadline of the command and with everything in the log of the
session that the handshake and the readiness gate ask for.
-/

set_option autoImplicit false

open Effects

namespace Swbt

variable {m : ControllerKind} {r : ReportingKind} {h h₀ h₁ h' : Log m r} {s s₁ s' f : Frame m r}

/-! ## Successful connection commands -/

/-- The event that announces Ready. -/
abbrev readyEvent (f : Frame m r) : LogEvent m r := .emit f (.status (.setLifecycle .ready))

/-- The result of the command in flight stays, or becomes an error. -/
def Unsuccessful (s s' : Frame m r) : Prop :=
  s'.progress.commandResult = s.progress.commandResult ∨ ∃ error, s'.progress.commandResult = some (.error error)

theorem EndedFlight.unsuccessful (hended : EndedFlight s s') : Unsuccessful s s' := by
  by_cases hcut : s.reporting.tap ≠ none ∨ s.connectionCommandPending.isSome = true
  · exact .inr (hended.cut hcut)
  · obtain ⟨htap, hcommand⟩ := not_or.1 hcut
    rw [Bool.not_eq_true, Option.isSome_eq_false_iff, Option.isNone_iff_eq_none] at hcommand
    exact .inl (hended.uncut (not_not.1 htap) hcommand)

theorem EventEffect.unsuccessful {event : SessionEvent} {result : Except WorkerCoreError Bool}
    (he : EventEffect event h s h' s' result) (hs : s.Sound) : Unsuccessful s s' := by
  cases he with
  | dropped hstale => exact .inl rfl
  | connected hcurrent hevent => exact .inl rfl
  | opened hcurrent hevent => exact .inl rfl
  | answered hcurrent hevent hheld hanswered =>
    rename_i before s₁ completion t errors
    have hprogress : s₁.progress = s.progress := hanswered.keeps.2.2.2.2.2.2.2
    have hresult := congrArg StepProgress.commandResult hprogress
    exact .inl hresult
  | disconnected hcurrent hevent =>
    refine (Frame.disconnect_flight hs ?_ _).unsuccessful
    rw [hcurrent]
    exact Option.some_ne_none _

/-- A drive that succeeds announces Ready at its end. -/
theorem DriveEffect.unsuccessful {t : Duration} {result : Except WorkerCoreError Nat}
    (he : DriveEffect t (.call s Op.now t :: h) s h' s' result) (hs : s.Sound) :
    Unsuccessful s s' ∨ ∃ f h₁, h' = readyEvent f :: h₁ ∧ h <:+ h₁ := by
  cases he with
  | idle hnone => exact .inl (.inl rfl)
  | aborted hwork hinactive =>
    have htap : s.takeConnection.reporting.tap = none := (hs.coherent.of_connection hwork).tap
    exact .inl (Frame.abort_flight htap _).unsuccessful
  | failed hwork hactive hhandshake =>
    obtain ⟨hcontrol, -⟩ := hhandshake.sameControl (hs.coherent.of_connection hwork).work
    exact .inl (.inl hcontrol.result)
  | pending hwork hactive hhandshake hevaluated hresult =>
    obtain ⟨hcontrol, -, hwork', -⟩ := hhandshake.sameControl (hs.coherent.of_connection hwork).work
    obtain ⟨hsame, -⟩ := hevaluated.sameControl hwork'
    exact .inl (.inl (hcontrol.trans hsame).result)
  | ready hwork hactive hhandshake hevaluated hresult =>
    refine .inr ⟨_, _, rfl, ?_⟩
    rw [hevaluated.log]
    exact (List.suffix_cons _ _).trans hhandshake.routine.suffix
  | evaluationFailed hwork hactive hhandshake hevaluated hresult =>
    have hc := hs.coherent.of_connection hwork
    obtain ⟨hcontrol, -, hwork', -⟩ := hhandshake.sameControl hc.work
    obtain ⟨hsame, -⟩ := hevaluated.sameControl hwork'
    have hresult := (hcontrol.trans hsame).result
    refine .inl ?_
    rcases (Frame.abort_flight ((hcontrol.trans hsame).tap.trans hc.tap) _).unsuccessful with hkept | herror
    · exact .inl (hkept.trans hresult)
    · exact .inr herror

/-- A connection command does not succeed at once. -/
theorem CommandEffect.unsuccessful {command : RuntimeCommand m r} {progress : WorkerCommandProgress}
    (he : CommandEffect h s command h' s' progress) (hconnects : command.timeout.isSome = true) :
    Unsuccessful s (s'.settle (nonterminalCommandProgress progress).1) := by
  cases he with
  | unstarted => exact .inr ⟨_, rfl⟩
  | refused hopen => exact .inr ⟨_, rfl⟩
  | begun hopen => exact .inl rfl
  | ended hended => cases hconnects
  | input heffect => cases hconnects

theorem Reporting.tap_resetPolicy (reporting : Reporting m r) : reporting.resetPolicy.tap = reporting.tap := by
  cases reporting with
  | periodic runtime => rfl
  | direct runtime => rfl

/-- A tap is pending for an input command. -/
def TapTaken (h : Log m r) (s : Frame m r) : Prop :=
  s.reporting.tap ≠ none → ∃ taken, h.taken = some taken ∧ taken.2.timeout = none

theorem Undertaken.tapTaken (hmove : Undertaken h s h' s') : TapTaken h' s' := by
  cases hmove with
  | taken hcommand htap hnone heffect hsettled =>
    rename_i command s₁ progress
    have htaken : h'.taken = some (s, command) := heffect.taken
    have hidle : command.timeout.isSome = true → s'.reporting.tap = none := by
      intro hconnects
      rw [hsettled]
      cases heffect with
      | unstarted => exact htap
      | refused hopen => exact htap
      | begun hopen => exact (Reporting.tap_resetPolicy _).trans htap
      | ended hended => cases hconnects
      | input heffect => cases hconnects
    intro hpending
    refine ⟨_, htaken, ?_⟩
    by_contra hconnects
    exact hpending (hidle (Option.isSome_iff_ne_none.2 hconnects))

theorem Move.tapTaken {terminal : Option WorkerCoreError} (hmove : Move h s terminal h' s') (hs : s.Sound)
    (htaken : TapTaken h s) : TapTaken h' s' := by
  rcases hmove.transacted hs with hkept | hundertaken
  · cases hkept with
    | kept hunmarked hflight =>
      unfold TapTaken
      rw [hunmarked.taken]
      cases hflight with
      | same hsame =>
        rw [hsame.tap]
        exact htaken
      | answered htap hinput hpending hcommand hresult =>
        rw [htap]
        exact htaken
    | ended hmarks hsame hflight => exact fun htap => absurd hflight.tap htap
    | released htap hdue hmarks hsame hinput hgone hcommand hresult => exact fun htap => absurd hgone htap
  · exact hundertaken.tapTaken

/-- A connection command that has succeeded since `h₀` did so with Ready. -/
def Succeeds (h₀ h : Log m r) (s : Frame m r) : Prop :=
  ∀ taken, h.taken = some taken → taken.2.timeout.isSome = true → s.progress.commandResult = some (.ok ()) →
    ∃ f h₁, Within h₀ (readyEvent f) h₁ h

theorem Move.succeeds {terminal : Option WorkerCoreError} (hmove : Move h s terminal h' s') (hs : s.Sound)
    (htapTaken : TapTaken h s) (hsuffix : h₀ <:+ h) (hsucceeds : Succeeds h₀ h s) : Succeeds h₀ h' s' := by
  -- Ok is new only in a drive that emits Ready; every other move keeps the result or fails the command.
  have hkeep : h'.taken = h.taken → Unsuccessful s s' → Succeeds h₀ h' s' := by
    intro htaken hresult taken hsome hconnects hok
    rw [htaken] at hsome
    rcases hresult with hsame | ⟨error, herror⟩
    · obtain ⟨f, h₁, hwithin⟩ := hsucceeds taken hsome hconnects (hsame.symm.trans hok)
      exact ⟨f, h₁, hwithin.1.trans hmove.suffix, hwithin.2⟩
    · rw [herror] at hok
      cases hok
  cases hmove with
  | unrequested => exact hkeep rfl (.inl rfl)
  | noCommand hcommand htap => exact hkeep rfl (.inl rfl)
  | polled => exact hkeep rfl (.inl rfl)
  | pollFailed => exact hkeep rfl (.inl rfl)
  | untagged => exact hkeep rfl (.inl rfl)
  | progress hresult => exact hkeep rfl (.inl hresult)
  | command hcommand htap hresult heffect =>
    intro taken hsome hconnects hok
    rw [heffect.taken] at hsome
    cases hsome
    rcases heffect.unsuccessful hconnects with hsame | ⟨error, herror⟩
    · rw [hsame] at hok
      rw [show s.countCommand.progress.commandResult = none from hresult] at hok
      cases hok
    · rw [herror] at hok
      cases hok
  | event heffect =>
    refine hkeep ?_ (heffect.unsuccessful hs)
    rcases heffect.plain with hplain | ⟨hplain, -⟩
    · exact Adds.taken (Adds.untaken hplain)
    · exact Adds.taken ((Adds.processed s _).trans (Adds.untaken hplain))
  | drive heffect =>
    rcases heffect.unsuccessful hs with hresult | ⟨f, h₁, rfl, hbefore⟩
    · have htaken := Adds.taken (Adds.untaken heffect.plain)
      exact hkeep htaken hresult
    · exact fun _ _ _ _ => ⟨f, h₁, List.suffix_refl _, hsuffix.trans hbefore⟩
  | due hallowed heffect =>
    have htaken := Adds.taken (Adds.untaken heffect.plain)
    cases heffect with
    | quiet htap hpolicy => exact hkeep htaken (.inl rfl)
    | failed hpolicy herror => exact hkeep htaken (.inl rfl)
    | backpressured htap hpolicy hticks => exact hkeep htaken (.inl rfl)
    | automatic hpolicy hticks hsent herrors =>
      have hresult := (Sent.sameControl hsent).result
      exact hkeep htaken (.inl hresult)
    | released htap hdue hreleased =>
      intro taken hsome hconnects
      rw [htaken] at hsome
      obtain ⟨before, hbefore, hinput⟩ := htapTaken (by rw [htap]; exact Option.some_ne_none _)
      cases hsome.symm.trans hbefore
      rw [hinput] at hconnects
      cases hconnects

theorem Path.succeeds (hpath : Path h s h' s') (htapTaken : TapTaken h s) (hsucceeds : Succeeds h h s) :
    TapTaken h' s' ∧ Succeeds h h' s' := by
  induction hpath with
  | refl => exact ⟨htapTaken, hsucceeds⟩
  | move hpath hsound hmove ih =>
    obtain ⟨hbefore, hsucceeds⟩ := ih
    exact ⟨hmove.tapTaken hsound hbefore, hmove.succeeds hsound hbefore hpath.suffix hsucceeds⟩

theorem Run.tapTaken (hrun : Run h s) : TapTaken h s := by
  induction hrun with
  | opened hnew =>
    rename_i core
    have hidle : core.start.reporting.hasPending = false := Reporting.hasPending_of_idle hnew.isOpen.idle
    intro hpending
    rw [← Reporting.hasPending_iff_tap, hidle] at hpending
    cases hpending
  | step hrun hexec ih =>
    cases hexec.post (stepRuntime_spec _ _ hrun.coherent) with
    | continued hpath hsound =>
      exact hpath.inv (P := TapTaken) ih fun hsound hmove htaken => hmove.tapTaken hsound htaken
    | closed hpath hsound₁ hlast hsound hclose => cases hclose
    | failed hpath hsound₁ hmove hsound hfail => cases hfail

/-- A worker that closes or fails answers a pending connection command with an error. -/
theorem CloseEffect.unsuccessful {request : ShutdownRequest} {t : Duration} {step : WorkerStep}
    (hc : CloseEffect request t (.call s Op.now t :: .call s Op.takeShutdown (some request) :: h) s h' s' step)
    (hok : step.answer = some (.ok ())) : s.progress.commandResult = some (.ok ()) := by
  cases hcommand : s.connectionCommandPending with
  | none =>
    have hanswer := (hc.marked hcommand).2.2.2
    rw [hok] at hanswer
    cases hresult : s.progress.commandResult with
    | some result =>
      rw [hresult] at hanswer
      exact hanswer.symm
    | none =>
      rw [hresult] at hanswer
      cases htap : s.reporting.tap with
      | none =>
        rw [htap] at hanswer
        cases hanswer
      | some tap =>
        rw [htap] at hanswer
        cases hanswer
  | some kind =>
    have hshut : s.shut.progress.commandResult = some (.error .shutdown) := by
      unfold Frame.shut Frame.complete
      rw [hcommand]
      rfl
    cases hc with
    | closed hcleaned =>
      have hresult := (congrArg StepProgress.commandResult hcleaned.unmarked.2.2).trans hshut
      rename_i s₁ completion
      have hanswer : (s₁.progress.commandResult <|> (s.reporting.tap.map fun _ => cancelError r).map Except.error) =
          some (.ok ()) := hok
      rw [hresult] at hanswer
      cases hanswer

theorem FailEffect.unsuccessful {error : WorkerCoreError} {step : WorkerStep}
    (hf : FailEffect error (.call s Op.takeShutdown none :: h) s h' s' step) (hok : step.answer = some (.ok ())) :
    s.progress.commandResult = some (.ok ()) := by
  cases hcommand : s.connectionCommandPending with
  | none => exact (hf.unmarked hcommand).2.2.2.symm.trans hok
  | some kind =>
    cases hf with
    | failed =>
      have hresult : (s.completeFailure (failureOf error)).progress.commandResult = some (.ok ()) := hok
      unfold Frame.completeFailure Frame.complete at hresult
      rw [hcommand] at hresult
      cases hresult

theorem StepEffect.succeeds {step : WorkerStep} (he : StepEffect h s h' s' step) (htapTaken : TapTaken h s)
    {taken : Frame m r × RuntimeCommand m r} (htaken : h'.taken = some taken) (hconnects : taken.2.timeout.isSome = true)
    (hok : step.answer = some (.ok ())) : ∃ f h₁, Within h (readyEvent f) h₁ h' := by
  have hfresh : Succeeds h h s.fresh := fun _ _ _ hnone => nomatch hnone
  cases he with
  | continued hpath hsound => exact (hpath.succeeds htapTaken hfresh).2 taken htaken hconnects hok
  | closed hpath hsound₁ hlast hsound hclose =>
    rename_i h₁ h₂ s₁ s₂ request t
    obtain ⟨hbefore, hsucceeds⟩ := hpath.succeeds htapTaken hfresh
    have hmoved : Succeeds h h₂ s₂ := by
      cases hlast with
      | none => exact hsucceeds
      | terminal hmove => exact hmove.succeeds hsound₁ hbefore hpath.suffix hsucceeds
    have hasked : Adds Untaken h₂ (.call s₂ Op.now t :: .call s₂ Op.takeShutdown (some request) :: h₂) :=
      Adds.untaken ((Adds.single ⟨rfl, rfl⟩).cons ⟨rfl, rfl⟩)
    have hadds := hasked.trans (Adds.untaken hclose.plain)
    rw [Adds.taken hadds] at htaken
    obtain ⟨f, h₃, hwithin⟩ := hmoved taken htaken hconnects (hclose.unsuccessful hok)
    exact ⟨f, h₃, hwithin.1.trans hadds.suffix, hwithin.2⟩
  | failed hpath hsound₁ hmove hsound hfail =>
    rename_i h₁ h₂ s₁ s₂ error
    obtain ⟨hbefore, hsucceeds⟩ := hpath.succeeds htapTaken hfresh
    have hadds : Adds Untaken h₂ h' := by
      cases hfail
      exact Adds.untaken ((Adds.single ⟨rfl, rfl⟩).cons ⟨rfl, rfl⟩)
    rw [Adds.taken hadds] at htaken
    obtain ⟨f, h₃, hwithin⟩ := hmove.succeeds hsound₁ hbefore hpath.suffix hsucceeds taken htaken hconnects
      (hfail.unsuccessful hok)
    exact ⟨f, h₃, hwithin.1.trans hadds.suffix, hwithin.2⟩

/-! ## Announcements -/

/-- A ready worker has announced it in its session. -/
def Announced (h : Log m r) (s : Frame m r) : Prop :=
  s.lifecycle.state = .ready → h.since (fun _ e => announcesReady e) = true

theorem Announced.later (hannounced : Announced h s) (hadds : Adds Unbegun h h')
    (hready : s'.lifecycle.state = .ready → s.lifecycle.state = .ready) : Announced h' s' :=
  fun hstate => Adds.since hadds (hannounced (hready hstate))

theorem Sent.unbegun {bytes : List UInt8} {candidate : SenderCommit} {result : TransportResult Unit}
    (hsent : Sent bytes candidate h s h' s' result) : Adds Unbegun h h' := by
  cases hsent with
  | refused error => exact Adds.single rfl
  | accepted =>
    refine Adds.cons (Adds.single ?_) ?_
    · rfl
    · rfl

theorem Deed.announced (hdeed : Deed h s h' s') (hannounced : Announced h s) : Announced h' s' := by
  -- Ready is entered with its event, and every other deed leaves the lifecycle or the session.
  cases hdeed with
  | internal hsteady =>
    refine hannounced.later .refl ?_
    rw [hsteady.lifecycle]
    exact id
  | quiet hstate hquiet =>
    refine hannounced.later (.single ?_) id
    exact (quietEvent_silent hquiet).begun
  | taken hcommand htap hidle => exact hannounced.later (Adds.single rfl) id
  | begun hopen hclosed => exact nofun
  | linked hlive => exact hannounced.later (Adds.single rfl) id
  | noticed hlive => exact hannounced.later (Adds.single rfl) id
  | replied hlive hneutral hrequest hprepare hsent hsteady =>
    refine hannounced.later (hsent.unbegun.cons ?_) ?_
    · rfl
    · have hlifecycle := hsteady.lifecycle.trans (Sent.sameControl hsent).lifecycle
      intro hready
      rw [← hlifecycle]
      exact hready
  | reported hlive hneutral hsent =>
    refine hannounced.later (Sent.unbegun hsent) ?_
    rw [(Sent.sameControl hsent).lifecycle]
    exact id
  | delivered hr hlive hready hsent =>
    refine hannounced.later (Adds.unbegun (hsent.routine.mono fun _ => Routine.unreplied)) ?_
    rw [hsent.sameCommand.lifecycle]
    exact id
  | committed hr hidle => exact hannounced.later (Adds.single rfl) id
  | scheduled hlive hclock hstart => exact hannounced.later .refl id
  | skipped hlive hclock hpolicy hticks => exact hannounced.later (Adds.single rfl) id
  | automatic hlive hneutral hclock hpolicy hticks hsent =>
    refine hannounced.later (Adds.trans (Adds.single ?_) (Sent.unbegun hsent)) ?_
    · rfl
    · have hlifecycle := (Sent.sameControl hsent).lifecycle
      intro hready
      rw [hlifecycle] at hready
      exact hready
  | readied hlive hconnecting hneutral => exact fun _ => rfl
  | ended hlive hlifecycle =>
    intro hready
    rcases hlifecycle with hbefore | hbefore
    all_goals
      rw [show s.endSession.lifecycle = _ from congrArg LifecycleStateMachine.markConnectionEnded hbefore] at hready
      cases hready

theorem Ending.announced (hend : Ending h s h' s') (hannounced : Announced h s) : Announced h' s' := by
  cases hend with
  | internal hsettled =>
    refine hannounced.later .refl ?_
    rw [hsettled.lifecycle]
    exact id
  | call hstate hcall => exact hannounced.later (.single (endCall_silent hcall).begun) id
  | failed halive => exact nofun
  | abandoned => exact hannounced.later (Adds.single rfl) id
  | closing publish => exact nofun
  | neutral hlive hclosing hsent =>
    intro hready
    rw [(Sent.sameControl hsent).lifecycle, hclosing] at hready
    cases hready
  | closed => exact hannounced.later (Adds.single rfl) id
  | dropped => exact hannounced.later .refl id

theorem Trace.announced (htrace : Trace h s) : Announced h s := by
  obtain ⟨core, hnew, h₁, s₁, hdeeds, hends⟩ := htrace.split
  have hstart : Announced core.openLog core.start := by
    intro hready
    rw [show core.start.lifecycle = _ from hnew.isOpen.lifecycle] at hready
    cases hready
  have hdone : Announced h₁ s₁ := hdeeds.inv (P := Announced) hstart Deed.announced
  exact hends.inv (P := Announced) hdone Ending.announced

/-- What holds of an event since a session began does so of one in that session. -/
theorem Log.of_since {P : Log m r → LogEvent m r → Bool} (hsince : h.since P = true) :
    ∃ (e : LogEvent m r) (h₀ : Log m r), e :: h₀ <:+ h ∧ P h₀ e = true ∧ h₀.session = h.session := by
  induction h with
  | nil => cases hsince
  | cons first rest ih =>
    cases hbegun : begunSession first with
    | some id =>
      rw [Log.since, hbegun] at hsince
      cases hsince
    | none =>
      rw [Log.since, hbegun, Bool.or_eq_true] at hsince
      rw [Log.session_cons hbegun]
      rcases hsince with hfirst | hrest
      · exact ⟨first, rest, List.suffix_refl _, hfirst, rfl⟩
      · obtain ⟨e, h₀, hsuffix, hP, hsession⟩ := ih hrest
        exact ⟨e, h₀, hsuffix.trans (List.suffix_cons _ _), hP, hsession⟩

/-- The session at an event is the one that began last. -/
def SessionAt (e : LogEvent m r) (h : Log m r) : Prop :=
  begunSession e = none → e.state.sessions.current ≠ none → h.session = e.state.sessions.current

theorem Wire.sessionAt {e : LogEvent m r} (hwire : Wire h s (e :: h) s') (hcounts : TimerCounts h s) : SessionAt e h := by
  generalize hlog : e :: h = h₁ at hwire
  intro hbegun hlive
  cases hwire with
  | update hkeep => exact absurd hlog (List.cons_ne_self _ _)
  | event hstate hoffered hbegun =>
    cases hlog
    rw [hstate] at hlive ⊢
    exact (hcounts hlive).1
  | refused hlive hcandidate =>
    cases hlog
    exact (hcounts hlive).1
  | accepted hlive hcandidate =>
    cases hlog
    exact (hcounts hlive).1
  | begun hcurrent hsender =>
    cases hlog
    cases hbegun

theorem Trace.sessionAt (htrace : Trace h s) : TimerCounts h s ∧ Always SessionAt h := by
  obtain ⟨core, hnew, hwires⟩ := htrace.wires
  have hstart : TimerCounts core.openLog core.start := fun hlive => absurd hnew.isOpen.current hlive
  have hopened : Always SessionAt core.openLog := And.intro (fun _ hlive => absurd hnew.isOpen.current hlive) trivial
  exact hwires.inv Wire.timerCounts Wire.sessionAt hstart hopened

/-- Every bootstrap follows the link and both channels. -/
theorem Log.linked_of_bootstrapped (hbootstrapped : h.bootstrapped = true) : h.linked = true := by
  induction h with
  | nil => cases hbootstrapped
  | cons first rest ih =>
    cases hbegun : begunSession first with
    | some id =>
      unfold Log.bootstrapped at hbootstrapped
      rw [Log.since, hbegun] at hbootstrapped
      cases hbootstrapped
    | none =>
      have hlinked : Log.linked rest = true := by
        unfold Log.bootstrapped at hbootstrapped
        rw [Log.since, hbegun, Bool.or_eq_true, Bool.and_eq_true] at hbootstrapped
        rcases hbootstrapped with hfirst | hrest
        · exact hfirst.1
        · exact ih hrest
      have hkeep : ∀ event, Log.handled event rest = true → Log.handled event (first :: rest) = true :=
        fun event hhandled => Adds.since (.single hbegun) hhandled
      unfold Log.linked at hlinked ⊢
      rw [Bool.and_eq_true, Bool.and_eq_true] at hlinked ⊢
      exact ⟨⟨hkeep _ hlinked.1.1, hkeep _ hlinked.1.2⟩, hkeep _ hlinked.2⟩

/-! ## Soundness -/

/-- What the session of a ready worker has shown by the time of the announcement. -/
structure Readied (h : Log m r) (f : Frame m r) : Prop where
  session : h.session = f.sessions.current ∧ f.sessions.current.isSome = true
  linked : h.linked = true
  bootstrapped : h.bootstrapped = true
  mode : (h.lastReplied 0x03).bind (fun request => request.payload.head?) = some 0x30
  lights : ∃ lights, (h.lastReplied 0x30).bind (fun request => request.payload.head?) = some lights ∧ lights ≠ 0
  timely : ∃ t deadline, h.clock = some t ∧ h.operationDeadline = some deadline ∧ t < deadline ∧
    (r = .periodic → h.noticed = true ∧
      (∃ policy, f.reporting.policy = some policy ∧ policy.scheduler.isSome = true) ∧
      ∀ u ∈ h.completions, u.asNanos + replyHoldoff.asNanos ≤ t.asNanos)

theorem ReadyShown.readied (hshown : ReadyShown h f) (hsession : h.session = f.sessions.current) (hbounded : h.Bounded)
    (hreplayed : Replayed h f) : Readied h f := by
  have hmode : h.settings.reportMode = some 0x30 := by
    rw [← hreplayed.settings]
    exact ProtocolSession.reportMode_of_protocolReady hshown.protocol
  have hlights : ∃ lights, h.settings.playerLights = some lights ∧ lights ≠ 0 := by
    have hready := hshown.protocol
    unfold ProtocolSession.protocolReady at hready
    rw [Bool.and_eq_true] at hready
    rw [← hreplayed.settings]
    change ∃ lights, f.sender.committed.session.playerLights = some lights ∧ _
    cases hlights : f.sender.committed.session.playerLights with
    | none =>
      rw [hlights] at hready
      cases hready.2
    | some lights =>
      rw [hlights] at hready
      exact ⟨lights, rfl, by simpa using hready.2⟩
  rw [h.reportMode_settings] at hmode
  rw [h.playerLights_settings] at hlights
  obtain ⟨t, deadline, hclock, hdeadline, hbefore, hheld⟩ := hshown.timely
  refine ⟨⟨hsession, Option.isSome_iff_ne_none.2 hshown.live⟩, Log.linked_of_bootstrapped hshown.handshaken.1,
    hshown.handshaken.1, hmode, hlights, t, deadline, hclock, hdeadline, hbefore, ?_⟩
  intro hr
  refine ⟨hshown.handshaken.2 hr, ?_, hheld hbounded hr⟩
  subst hr
  exact ⟨_, f.policy_eq, hshown.running _ f.policy_eq⟩

theorem Trace.readied (htrace : Trace h s) (hbounded : h.Bounded) (hsuffix : readyEvent f :: h₀ <:+ h) : Readied h₀ f := by
  have hshown : ReadyShown h₀ f := (always_iff.1 (htrace.earned trivial) _ _ hsuffix).ready rfl
  have hsession := always_iff.1 htrace.sessionAt.2 _ _ hsuffix rfl hshown.live
  have hreplayed := (always_iff.1 htrace.replayed.2 _ _ hsuffix rfl hshown.live).1
  refine hshown.readied hsession ?_ hreplayed
  obtain ⟨after, rfl⟩ := hsuffix
  exact fun g t hmem => hbounded g t (List.mem_append_right _ (List.mem_cons_of_mem _ hmem))

/-- While the clock stays a holdoff away from its end, every Ready is
announced before the deadline of its command by a session that has shown all
that Ready takes, a worker is ready only once it has announced it, and a
connection command succeeds only in a step that announces it. -/
theorem readiness_sound :
    (∀ {h : Log m r} {s : Frame m r}, Trace h s → h.Bounded →
      (∀ f h₀, readyEvent f :: h₀ <:+ h → Readied h₀ f) ∧
      (s.lifecycle.state = .ready → ∃ (f : Frame m r) (h₀ : Log m r), readyEvent f :: h₀ <:+ h ∧ h₀.session = h.session)) ∧
    ∀ {h h' : Log m r} {s s' : Frame m r} {step : WorkerStep}, Run h s → Prog.Exec (stepRuntime s) h h' s' step →
      h'.Bounded → ∀ taken, h'.taken = some taken → taken.2.timeout.isSome = true → step.answer = some (.ok ()) →
        ∃ f h₀, Within h (readyEvent f) h₀ h' ∧ Readied h₀ f := by
  refine ⟨?_, ?_⟩
  · intro h s htrace hbounded
    refine ⟨fun f h₀ hsuffix => htrace.readied hbounded hsuffix, ?_⟩
    intro hready
    obtain ⟨e, h₀, hsuffix, hannounces, hsession⟩ := Log.of_since (htrace.announced hready)
    unfold announcesReady at hannounces
    split at hannounces
    · exact ⟨_, h₀, hsuffix, hsession⟩
    · cases hannounces
  · intro h h' s s' step hrun hexec hbounded taken htaken hconnects hok
    have heffect := hexec.post (stepRuntime_spec _ _ hrun.coherent)
    obtain ⟨f, h₀, hwithin⟩ := heffect.succeeds hrun.tapTaken htaken hconnects hok
    exact ⟨f, h₀, hwithin, (Trace.stepped hrun hexec).readied hbounded hwithin.1⟩

/-- Whether every reading of the clock leaves room for a holdoff. -/
def Log.inTime (h : Log m r) : Bool :=
  h.all fun
    | .call _ .now t => decide (t.asNanos + replyHoldoff.asNanos ≤ maxNanos)
    | _ => true

theorem Log.bounded_of_inTime (hinTime : h.inTime = true) : h.Bounded := by
  intro f t hmem
  have hread := List.all_eq_true.1 hinTime _ hmem
  simpa using hread

/-- The ready sample worker has shown all that Ready takes. -/
theorem readiness_sound_sample : ∃ (f : Frame .pro .direct) (h₀ : Log .pro .direct),
    readyEvent f :: h₀ <:+ sampleReady.1 ∧ Readied h₀ f := by
  have hbounded : sampleReady.1.Bounded := Log.bounded_of_inTime (by decide +kernel)
  have hready : sampleReady.2.lifecycle.state = .ready := by decide +kernel
  obtain ⟨hreadied, hannounced⟩ := readiness_sound.1 (.running sampleReady_run) hbounded
  obtain ⟨f, h₀, hsuffix, -⟩ := hannounced hready
  exact ⟨f, h₀, hsuffix, hreadied f h₀ hsuffix⟩

end Swbt
