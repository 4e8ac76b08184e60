import Swbt.Runtime.DeedEffect
/-!
# How a worker ends

A worker that closes or fails has done its deeds; what is left is taking the
shutdown, publishing the end and the cleanup of the transport.
-/

set_option autoImplicit false

open Effects

namespace Swbt

variable {m : ControllerKind} {r : ReportingKind} {h h' : Log m r} {s s' : Frame m r}

/-! ## Workers that live -/

/-- A call that takes a shutdown. -/
def takesShutdown : LogEvent m r → Bool
  | .call _ .takeShutdown (some _) => true
  | _ => false

/-- An event of a worker that neither closes nor has been asked to. -/
structure Living (e : LogEvent m r) : Prop where
  alive : e.state.lifecycle ≠ ⟨.closing⟩
  unasked : takesShutdown e = false

theorem alive_of_current {lifecycle : LifecycleStateMachine} {current : RuntimeState} (hcurrent : lifecycle = ⟨current⟩)
    (hother : current ≠ .closing) : lifecycle ≠ ⟨.closing⟩ := by
  rintro rfl
  cases hcurrent
  exact hother rfl

theorem Sent.living {bytes : List UInt8} {candidate : SenderCommit} {result : TransportResult Unit}
    (hsent : Sent bytes candidate h s h' s' result) (halive : s.lifecycle ≠ ⟨.closing⟩) :
    s'.lifecycle = s.lifecycle ∧ Adds Living h h' := by
  cases hsent with
  | refused error => exact ⟨rfl, .single ⟨halive, rfl⟩⟩
  | accepted => exact ⟨rfl, Adds.cons (.single ⟨halive, rfl⟩) ⟨halive, rfl⟩⟩

/-- A deed of a worker that lives leaves it alive. -/
theorem Deed.living (hdeed : Deed h s h' s') (halive : s.lifecycle ≠ ⟨.closing⟩) :
    s'.lifecycle ≠ ⟨.closing⟩ ∧ Adds Living h h' := by
  have hevent : ∀ {e : LogEvent m r} {s' : Frame m r}, e.state.lifecycle = s.lifecycle → takesShutdown e = false →
      s'.lifecycle = s.lifecycle → s'.lifecycle ≠ ⟨.closing⟩ ∧ Adds Living h (e :: h) := by
    intro e s' hstate hunasked hkept
    exact ⟨by rwa [hkept], .single ⟨by rwa [hstate], hunasked⟩⟩
  have hsends : ∀ {bytes : List UInt8} {candidate : SenderCommit} {result : TransportResult Unit} {h' : Log m r}
      {s' : Frame m r}, Sent bytes candidate h s h' s' result → s'.lifecycle ≠ ⟨.closing⟩ ∧ Adds Living h h' := by
    intro bytes candidate result h' s' hsent
    obtain ⟨hkept, hadds⟩ := hsent.living halive
    exact ⟨by rwa [hkept], hadds⟩
  cases hdeed with
  | internal hsteady =>
    rw [hsteady.lifecycle]
    exact ⟨halive, .refl⟩
  | quiet hstate hquiet =>
    refine hevent (by rw [hstate]) ?_ rfl
    rename_i e
    unfold takesShutdown
    split
    · cases hquiet
    · rfl
  | taken hcommand htap hidle => exact hevent rfl rfl rfl
  | begun hopen hclosed =>
    have hconnecting : ∀ {s : Frame m r}, s.lifecycle = ⟨.connecting⟩ → s.lifecycle ≠ ⟨.closing⟩ :=
      fun hcurrent => alive_of_current hcurrent (by decide)
    refine ⟨hconnecting rfl, Adds.cons (Adds.cons (.single ?_) ?_) ?_⟩
    · exact ⟨hconnecting rfl, rfl⟩
    · exact ⟨hconnecting rfl, rfl⟩
    · exact ⟨hconnecting rfl, rfl⟩
  | linked hlive => exact hevent rfl rfl rfl
  | noticed hlive => exact hevent rfl rfl rfl
  | replied hlive hneutral hrequest hprepare hsent hsteady =>
    obtain ⟨hkept, hadds⟩ := hsends hsent
    rw [← hsteady.lifecycle] at hkept
    exact ⟨hkept, hadds.cons ⟨hkept, rfl⟩⟩
  | reported hlive hneutral hsent => exact hsends hsent
  | delivered hr hlive hready hsent =>
    cases hsent with
    | refused hsent => exact hsends hsent
    | accepted hsent =>
      obtain ⟨hkept, hadds⟩ := hsends hsent
      exact ⟨hkept, hadds.cons ⟨hkept, rfl⟩⟩
  | committed hr hidle => exact hevent rfl rfl rfl
  | scheduled hlive hclock hstart => exact ⟨halive, .refl⟩
  | skipped hlive hclock hpolicy hticks => exact hevent rfl rfl rfl
  | automatic hlive hneutral hclock hpolicy hticks hsent =>
    obtain ⟨hkept, hadds⟩ := Sent.living hsent halive
    refine ⟨by rwa [hkept], .trans (.single ?_) hadds⟩
    exact ⟨halive, rfl⟩
  | readied hlive hconnecting hneutral =>
    have hcurrent : s.markReady.lifecycle = ⟨.ready⟩ := rfl
    have hready := alive_of_current hcurrent (by decide)
    exact ⟨hready, .single ⟨hready, rfl⟩⟩
  | ended hlive hlifecycle =>
    have hcurrent : s.endSession.lifecycle = ⟨.open⟩ := by
      change s.lifecycle.markConnectionEnded = ⟨.open⟩
      rcases hlifecycle with hbefore | hbefore <;> rw [hbefore] <;> rfl
    have hopen := alive_of_current hcurrent (by decide)
    exact ⟨hopen, .single ⟨hopen, rfl⟩⟩

theorem Deeds.living (hdeeds : Deeds h s h' s') (halive : s.lifecycle ≠ ⟨.closing⟩) :
    s'.lifecycle ≠ ⟨.closing⟩ ∧ Adds Living h h' := by
  refine Chain.inv (P := fun h₁ s₁ => s₁.lifecycle ≠ ⟨.closing⟩ ∧ Adds Living h h₁) hdeeds ⟨halive, .refl⟩ ?_
  rintro h₁ s₁ h₂ s₂ hdeed ⟨halive₁, hadds₁⟩
  obtain ⟨halive₂, hadds₂⟩ := hdeed.living halive₁
  exact ⟨halive₂, hadds₁.trans hadds₂⟩

theorem WorkerCore.IsNew.living {core : WorkerCore m r} (hnew : core.IsNew) :
    core.start.lifecycle ≠ ⟨.closing⟩ ∧ ∀ e ∈ core.openLog, Living e := by
  have hopen : core.start.lifecycle = ⟨.open⟩ := hnew.isOpen.lifecycle
  have halive := alive_of_current hopen (by decide)
  exact ⟨halive, List.forall_mem_singleton.2 ⟨halive, rfl⟩⟩

/-- Between two steps a worker lives, and has always lived. -/
theorem Run.living (hrun : Run h s) : s.lifecycle ≠ ⟨.closing⟩ ∧ ∀ e ∈ h, Living e := by
  obtain ⟨core, hnew, hdeeds⟩ := hrun.deeds
  obtain ⟨hstart, hall⟩ := hnew.living
  obtain ⟨halive, hadds⟩ := hdeeds.living hstart
  exact ⟨halive, hadds.all hall⟩

/-! ## Endings -/

/-- The calls of an end, the neutral report apart. -/
def endCall : LogEvent m r → Bool
  | .call _ .takeShutdown _ | .call _ .now _ | .call _ (.drainInterrupt _) _ | .call _ .disconnect _
  | .call _ .close _ => true
  | _ => false

theorem endCall_silent {e : LogEvent m r} (hcall : endCall e = true) : Silent e := by
  cases e with
  | emit s out => cases hcall
  | call s op ans => cases op <;> first | exact ⟨rfl, rfl, rfl⟩ | cases hcall

/-- The fields an end reads, the policy apart. -/
structure Settled (s s' : Frame m r) : Prop where
  lifecycle : s'.lifecycle = s.lifecycle
  sessions : s'.sessions = s.sessions
  connected : s'.connected = s.connected
  input : s'.input = s.input
  sender : s'.sender = s.sender

theorem Steady.settled (hsteady : Steady s s') : Settled s s' :=
  ⟨hsteady.lifecycle, hsteady.sessions, hsteady.connected, hsteady.input, hsteady.sender⟩

inductive Ending (h : Log m r) (s : Frame m r) : Log m r → Frame m r → Prop
  | internal {s' : Frame m r} (hsettled : Settled s s') : Ending h s h s'
  | call {e : LogEvent m r} (hstate : e.state = s) (hcall : endCall e = true) : Ending h s (e :: h) s
  | failed {message : String} {category : WorkerFailureCategory} (halive : s.lifecycle.state ≠ .closing) :
      Ending h s (.emit { s with lifecycle := ⟨.failed⟩, connected := false } (.status (.fail message category)) :: h)
        { s with lifecycle := ⟨.failed⟩, connected := false }
  | abandoned {message : String} {category : WorkerFailureCategory} :
      Ending h s (.emit s (.status (.fail message category)) :: h) s
  | closing (publish : Bool) :
      Ending h s (published publish { s with lifecycle := ⟨.closing⟩ } (.setLifecycle .closing) h)
        { s with lifecycle := ⟨.closing⟩ }
  | neutral {nowNs : UInt64} {result : TransportResult Unit} {h' : Log m r} {s' : Frame m r}
      (hlive : s.sessions.current ≠ none) (hclosing : s.lifecycle = ⟨.closing⟩)
      (hsent : InputSent .neutral nowNs h s h' s' result) : Ending h s h' s'
  | closed : Ending h s (.emit s (.status (.close .closed)) :: h) s
  | dropped : Ending h s h s.dropConnection

abbrev Endings : Log m r → Frame m r → Log m r → Frame m r → Prop := Chain Ending

theorem Endings.call {h₁ : Log m r} {s₁ : Frame m r} (hends : Endings h s h₁ s₁) (e : LogEvent m r)
    (hstate : e.state = s₁) (hcall : endCall e = true) : Endings h s (e :: h₁) s₁ := hends.tail (.call hstate hcall)

/-! ## The effects of closing and failing -/

theorem Cleaned.ends {sequence : CleanupSequence} {connected publish : Bool} {nowNs : UInt64}
    {completion : CloseCompletion} (hc : Cleaned sequence connected nowNs publish h s h' s' completion)
    (hlive : sequence.mode = .withNeutral → connected = true → s.sessions.current ≠ none) : Endings h s h' s' := by
  cases hc with
  | closing hclosing => exact .refl
  | performed hclosing hneutral hdrained =>
    rename_i h₁ h₂ failure₁ failure₂ disconnected closed
    have hsent : Endings h s h₁ s' := by
      refine (Chain.single (.closing publish)).trans ?_
      cases hneutral with
      | skipped hwanted => exact .refl
      | sent hwanted hsent =>
        rw [Bool.and_eq_true, decide_eq_true_eq] at hwanted
        exact .single (.neutral (hlive hwanted.1 hwanted.2) rfl hsent)
    have hdrain : Endings h s h₂ s' := by
      cases hdrained with
      | skipped hwanted => exact hsent
      | drained hwanted => exact hsent.call _ rfl rfl
    have hclosed := (hdrain.call (.call s' Op.disconnect disconnected) rfl rfl).call (.call s' Op.close closed) rfl rfl
    unfold published
    cases publish with
    | true => exact hclosed.tail .closed
    | false => exact hclosed

theorem Frame.shut_settled (s : Frame m r) : Settled s s.shut := by
  have hcomplete := (s.complete_steady (.error .shutdown)).settled
  exact ⟨hcomplete.lifecycle, hcomplete.sessions, hcomplete.connected, hcomplete.input, hcomplete.sender⟩

theorem CloseEffect.ends {request : ShutdownRequest} {t : Duration} {step : WorkerStep}
    (hc : CloseEffect request t h s h' s' step) (hs : s.Sound) : Endings h s h' s' := by
  cases hc with
  | closed hcleaned =>
    have hclean := (Chain.single (.internal s.shut_settled)).trans (hcleaned.ends fun _ hconnected => by
      rw [s.shut_settled.sessions, ← Option.isSome_iff_ne_none]
      exact hs.coherent.current_of_connected hconnected)
    exact (hclean.tail .dropped).tail .closed

theorem Frame.completeFailure_steady (s : Frame m r) (failure : ConnectionCommandFailure) :
    Steady s (s.completeFailure failure) := by
  unfold Frame.completeFailure
  split
  · exact .refl s
  · exact s.complete_steady _

theorem FailEffect.ends {error : WorkerCoreError} {step : WorkerStep} (hf : FailEffect error h s h' s' step)
    (hs : s.Sound) : Endings h s h' s' := by
  cases hf with
  | failed =>
    have hsteady := s.completeFailure_steady (failureOf error)
    refine (Chain.single (.internal hsteady.settled)).tail (.failed ?_)
    rw [hsteady.lifecycle]
    exact hs.coherent.not_closing

/-- The cleanup after a failure of the worker or of its thread. -/
inductive AbandonEffect (cause : WorkerFailureCause) (h : Log m r) (s : Frame m r) :
    Log m r → Frame m r → Option CleanupFailure → Prop
  | cleaned {t : Duration} {h' : Log m r} {s' : Frame m r} {completion : CloseCompletion}
      (hcleaned : Cleaned (.new .withoutNeutral explicitCloseDrainTimeout) s.connected (protocolTimestamp t) false
        (.call s Op.now t :: .emit s (.status (.fail (workerFailureStatus cause) (workerFailureCategory cause))) :: h)
        { s with reporting := s.reporting.stopSession } h' s' completion) :
      AbandonEffect cause h s h' s'.dropConnection (if completion.performed then completion.firstFailure else none)

theorem completeWorkerFailure_spec (cause : WorkerFailureCause) (h : Log m r) (s : Frame m r) :
    Act.wp (completeWorkerFailure cause) h s (AbandonEffect cause h s) := by
  unfold completeWorkerFailure cleanupAfterFailureWithoutNeutral
  simp only [Act.wp_bind, wp_status, wp_now, wp_update, wp_frame]
  intro t
  refine Act.wp_mono (cleanup_spec _ _ _ false _ _) ?_
  intro h' s' completion hcleaned
  exact wp_dropConnection _ (.cleaned hcleaned)

theorem AbandonEffect.ends {cause : WorkerFailureCause} {failure : Option CleanupFailure}
    (ha : AbandonEffect cause h s h' s' failure) : Endings h s h' s' := by
  cases ha with
  | cleaned hcleaned =>
    have hfailed : Endings h s
        (.emit s (.status (.fail (workerFailureStatus cause) (workerFailureCategory cause))) :: h) s :=
      .single .abandoned
    refine .tail (.trans ?_ (hcleaned.ends fun hmode => nomatch hmode)) .dropped
    exact (hfailed.call _ rfl rfl).tail (.internal ⟨rfl, rfl, rfl, rfl, rfl⟩)

/-! ## Traces -/

/-- A step is deeds, and endings if it ends the worker. -/
theorem StepEffect.split {step : WorkerStep} (he : StepEffect h s h' s' step) :
    ∃ h₁ s₁, Deeds h s h₁ s₁ ∧ Endings h₁ s₁ h' s' := by
  have hfresh : Deeds h s h s.fresh := Deeds.core .refl rfl
  cases he with
  | continued hpath hsound =>
    rename_i s₁
    have hfinish : Deeds h s h' s₁.finish := Deeds.core (hfresh.trans hpath.deeds) rfl
    exact ⟨_, _, hfinish, .refl⟩
  | closed hpath hsound₁ hlast hsound hclose =>
    refine ⟨_, _, (hfresh.trans hpath.deeds).trans (hlast.deeds hsound₁), .trans ?_ (hclose.ends hsound)⟩
    refine Endings.call ?_ _ rfl rfl
    exact Endings.call .refl _ rfl rfl
  | failed hpath hsound₁ hmove hsound hfail =>
    refine ⟨_, _, (hfresh.trans hpath.deeds).trans (hmove.deeds hsound₁), .trans ?_ (hfail.ends hsound)⟩
    exact Endings.call .refl _ rfl rfl

/-- A trace is the deeds of its worker, from its first step on, and how it ends. -/
theorem Trace.split (htrace : Trace h s) :
    ∃ core : WorkerCore m r, core.IsNew ∧ ∃ h₁ s₁, Deeds core.openLog core.start h₁ s₁ ∧ Endings h₁ s₁ h s := by
  cases htrace with
  | running hrun =>
    obtain ⟨core, hnew, hdeeds⟩ := hrun.deeds
    exact ⟨core, hnew, _, _, hdeeds, .refl⟩
  | stepped hrun hexec =>
    obtain ⟨core, hnew, hdeeds⟩ := hrun.deeds
    obtain ⟨h₁, s₁, hstep, hends⟩ := (hexec.post (stepRuntime_spec _ _ hrun.coherent)).split
    exact ⟨core, hnew, h₁, s₁, hdeeds.trans hstep, hends⟩
  | abandoned hrun hexec =>
    obtain ⟨core, hnew, hdeeds⟩ := hrun.deeds
    exact ⟨core, hnew, _, _, hdeeds, (hexec.post (completeWorkerFailure_spec _ _ _)).ends⟩
  | failed hrun hfailed hexec =>
    obtain ⟨core, hnew, hdeeds⟩ := hrun.deeds
    obtain ⟨h₁, s₁, hstep, hends⟩ := (hfailed.post (stepRuntime_spec _ _ hrun.coherent)).split
    exact ⟨core, hnew, h₁, s₁, hdeeds.trans hstep, hends.trans (hexec.post (completeWorkerFailure_spec _ _ _)).ends⟩

end Swbt
