import Swbt.Runtime.Handling
import Swbt.Runtime.Prompt
/-!
# What an input report is sent for

A worker sends an input report as a bootstrap, for a command, when a tap or an
automatic report falls due, or on its way out. Each of them shows in what the
log ends with when the report is offered.
-/

set_option autoImplicit false

open Effects

namespace Swbt

variable {m : ControllerKind} {r : ReportingKind} {h h₁ h' : Log m r} {s s₁ s' : Frame m r} {e : LogEvent m r}

/-- The payload that `e` offers is a report of `input`. -/
def Reports (e : LogEvent m r) (input : InputState m) : Prop :=
  ∃ nowNs, offeredPayload e = some (e.state.sender.inputCandidate input nowNs).1

/-- A report falls due at the end of `h`: send capacity was asked for and
found, or the clock read with a tap pending that is to be released by then. -/
inductive DueSend (e : LogEvent m r) : Log m r → Prop
  | automatic {h : Log m r} (hreports : Reports e e.state.input) :
      DueSend e (.call e.state Op.interruptSendCapacityAvailable true :: h)
  | releasedPeriodic {f g : Frame m r} {t : Duration} {tap : Tap m} {h : Log m r} (hr : r = .periodic)
      (hready : e.state.lifecycle = ⟨.ready⟩) (htap : g.reporting.tap = some tap) (hdue : tap.releaseAt ≤ t)
      (hreports : Reports e tap.released) :
      DueSend e (.emit f (.status (.setSnapshot tap.released)) :: .call g Op.now t :: h)
  | releasedDirect {g : Frame m r} {t : Duration} {tap : Tap m} {h : Log m r} (hr : r = .direct)
      (hready : e.state.lifecycle = ⟨.ready⟩) (htap : g.reporting.tap = some tap) (hdue : tap.releaseAt ≤ t)
      (hreports : Reports e tap.released) : DueSend e (.call g Op.now t :: h)

/-- What the input report that `e` offers is for, after `h`. In periodic mode
the handshake is not complete at a bootstrap, and a command that sends is a tap
whose press has just been committed. -/
inductive Occasion (e : LogEvent m r) : Log m r → Prop
  | bootstrap {g : Frame m r} {t : Duration} {h : Log m r} (hconnecting : e.state.lifecycle = ⟨.connecting⟩)
      (hhandshake : r = .periodic → ¬ Log.Handshaken (.call g Op.now t :: h)) (hreports : Reports e .neutral) :
      Occasion e (.call g Op.now t :: h)
  | pressed {f f' g : Frame m r} {t : Duration} {command : ReportingCommand m r} {plan : TapPlan m} {h : Log m r}
      (hr : r = .periodic) (hplan : command.tapPlan g.input = some plan) (hreports : Reports e plan.pressed) :
      Occasion e (.emit f (.status (.setSnapshot plan.pressed)) :: .call g Op.now t ::
        .call f' Op.nextCommand (some (.input command)) :: h)
  | delivered {f' g : Frame m r} {t : Duration} {command : ReportingCommand m r} {input : InputState m} {h : Log m r}
      (hr : r = .direct) (hreports : Reports e input) :
      Occasion e (.call g Op.now t :: .call f' Op.nextCommand (some (.input command)) :: h)
  | due {h : Log m r} (hdue : DueSend e h) : Occasion e h
  | closing {h : Log m r} (hclosing : e.state.lifecycle = ⟨.closing⟩) (hreports : Reports e .neutral) : Occasion e h

def Occasioned (e : LogEvent m r) (h : Log m r) : Prop := offersReport e = true → Occasion e h

/-! ## Sends -/

/-- The event offers at most a reply. -/
structure NoReport (e : LogEvent m r) : Prop where
  offers : offersReport e = false

theorem Adds.occasioned (hadds : Adds NoReport h h') (hall : Always Occasioned h) : Always Occasioned h' := by
  refine hadds.always ?_ hall
  intro e before hnone hoffers
  rw [hnone.offers] at hoffers
  cases hoffers

theorem InputSent.occasioned {state : InputState m} {nowNs : UInt64} {result : TransportResult Unit}
    (hsent : InputSent state nowNs h s h' s' result) (hall : Always Occasioned h)
    (hoccasion : ∀ e : LogEvent m r, e.state = s → Reports e state → Occasion e h) : Always Occasioned h' := by
  unfold InputSent at hsent
  cases hsent with
  | refused error => exact ⟨fun _ => hoccasion _ rfl ⟨nowNs, rfl⟩, hall⟩
  | accepted => exact ⟨nofun, fun _ => hoccasion _ rfl ⟨nowNs, rfl⟩, hall⟩

theorem DirectSent.occasioned {candidate : InputState m} {nowNs : UInt64} {result : TransportResult Unit}
    (hsent : DirectSent candidate nowNs h s h' s' result) (hall : Always Occasioned h)
    (hoccasion : ∀ e : LogEvent m r, e.state = s → Reports e candidate → Occasion e h) : Always Occasioned h' := by
  cases hsent with
  | refused hsent => exact hsent.occasioned hall hoccasion
  | accepted hsent => exact ⟨nofun, hsent.occasioned hall hoccasion⟩

theorem PeriodicSent.occasioned {candidate : InputState m} {nowNs : UInt64} {result : TransportResult Unit}
    (hsent : PeriodicSent candidate nowNs h s h' s' result) (hall : Always Occasioned h)
    (hoccasion : ∀ e : LogEvent m r, e.state = s.commit candidate → Reports e candidate →
      Occasion e (.emit (s.commit candidate) (.status (.setSnapshot candidate)) :: h)) : Always Occasioned h' := by
  unfold PeriodicSent at hsent
  exact hsent.occasioned ⟨nofun, hall⟩ hoccasion

/-! ## Effects -/

theorem CommandEffect.occasioned {command : RuntimeCommand m r} {progress : WorkerCommandProgress}
    (he : CommandEffect (.call s₁ Op.nextCommand (some command) :: h) s command h' s' progress)
    (hall : Always Occasioned h) : Always Occasioned h' := by
  have htaken : ∀ command : RuntimeCommand m r, Always Occasioned (.call s₁ Op.nextCommand (some command) :: h) :=
    fun command => ⟨nofun, hall⟩
  have hstarted : ∀ (kind : ConnectionCommandKind) (result : TransportResult Unit) (command : RuntimeCommand m r),
      Always Occasioned (startEvent kind s result :: .call s₁ Op.nextCommand (some command) :: h) := by
    intro kind result command
    cases kind with
    | pair => exact ⟨nofun, htaken command⟩
    | reconnect => exact ⟨nofun, htaken command⟩
  cases he with
  | unstarted => exact hstarted _ _ _
  | refused hopen => exact ⟨nofun, hstarted _ _ _⟩
  | begun hopen => exact ⟨nofun, nofun, nofun, nofun, hstarted _ _ _⟩
  | ended hended => exact htaken _
  | input heffect =>
    rename_i command t
    have hread : Always Occasioned (.call s Op.now t :: .call s₁ Op.nextCommand (some (.input command)) :: h) :=
      ⟨nofun, htaken _⟩
    cases heffect with
    | rejected herror hplan => exact hread
    | committed hr candidate hplan => exact ⟨nofun, hread⟩
    | sent hr hready hsent hplan => exact hsent.occasioned hread fun _ _ => .delivered hr
    | unsent hr hready hsent hplan => exact hsent.occasioned hread fun _ _ => .delivered hr
    | pressedDirect hr hready hsent hplan => exact hsent.occasioned hread fun _ _ => .delivered hr
    | pressedPeriodic hr hready hsent hresult hplan => exact hsent.occasioned hread fun _ _ => .pressed hr hplan
    | unpressed hr hready hsent hkind hplan => exact hsent.occasioned hread fun _ _ => .pressed hr hplan

theorem Answered.noReport {channel : HidChannel} {raw : List UInt8} {current : InputState m}
    {completion : Except OutputHandlingError OutputHandling} (ha : Answered channel raw current h s h' s' completion) :
    Adds NoReport h h' := by
  cases ha with
  | malformed hparse => exact .refl
  | rumble hparse => exact .single ⟨rfl⟩
  | unprepared hparse hprepare => exact (Adds.single ⟨rfl⟩).cons ⟨rfl⟩
  | replied hparse hprepare hsent =>
    have hhead := (prepareReply_spec hprepare).head
    cases hsent with
    | refused error => exact ((Adds.single ⟨rfl⟩).cons ⟨rfl⟩).cons ⟨by simp [offersReport, offeredPayload, hhead]⟩
    | accepted =>
      refine Adds.cons (((Adds.single ⟨rfl⟩).cons ⟨rfl⟩).cons ?_) ⟨rfl⟩
      exact ⟨by simp [offersReport, offeredPayload, hhead]⟩

theorem EventEffect.noReport {event : SessionEvent} {result : Except WorkerCoreError Bool}
    (he : EventEffect event h s h' s' result) : Adds NoReport h h' := by
  cases he with
  | dropped hstale => exact .single ⟨rfl⟩
  | connected hcurrent hevent => exact (Adds.single ⟨rfl⟩).cons ⟨rfl⟩
  | opened hcurrent hevent => exact .single ⟨rfl⟩
  | answered hcurrent hevent hheld hanswered => exact ((Adds.single ⟨rfl⟩).trans hanswered.noReport).cons ⟨rfl⟩
  | disconnected hcurrent hevent => exact (Adds.single ⟨rfl⟩).cons ⟨rfl⟩

/-- Both conditions of a periodic handshake are not met where it makes an attempt. -/
theorem Handshake.Attempting.unshaken {handshake : Handshake} (hattempting : handshake.Attempting s)
    (hshown : handshake.Shown r h) (haware : handshake.Aware r h)
    (hobserved : h.noticed = true → s.observed.isEmpty = false) (hr : r = .periodic) : ¬ h.Handshaken := by
  rintro ⟨hbootstrapped, hnoticed⟩
  have hunsatisfied := hattempting.unsatisfied
  unfold Handshake.satisfied at hunsatisfied
  rw [haware.accepted hbootstrapped, hshown.condition hr, HandshakeCompletionCondition.isSatisfied,
    hobserved (hnoticed hr)] at hunsatisfied
  cases hunsatisfied

theorem DriveEffect.occasioned {t : Duration} {result : Except WorkerCoreError Nat}
    (he : DriveEffect t (.call s Op.now t :: h) s h' s' result) (hs : s.Sound) (hinformed : Informed h s)
    (hall : Always Occasioned h) : Always Occasioned h' := by
  have hread : Always Occasioned (.call s Op.now t :: h) := ⟨nofun, hall⟩
  have hevident : Evident (.call s Op.now t :: h) s := hinformed.evident.keep (.single (.of_offered rfl rfl)) .refl
  have haware : Aware (.call s Op.now t :: h) s := hinformed.aware.log hinformed.evident.completed ⟨rfl, rfl⟩ rfl
  have hdriven : ∀ {work : ConnectionWork} {h₁ : Log m r} {s₁ : Frame m r}
      {a : Except WorkerCoreError Nat × ConnectionWork}, s.connection = some work →
        HandshakeDriven work t (.call s Op.now t :: h) s.takeConnection h₁ s₁ a → Always Occasioned h₁ := by
    intro work h₁ s₁ a hwork hd
    have hconnecting := hs.coherent.of_connection hwork
    have hlive : s.sessions.current ≠ none := by
      rw [hconnecting.current]
      exact Option.some_ne_none _
    -- The handshake makes the one report of a drive, while the session is connecting.
    cases hd with
    | collected hnone => exact hread
    | overflow hsome heffect =>
      cases heffect
      exact hread
    | stepped hsome heffect =>
      cases heffect with
      | attempted hattempting hscheduled hsent =>
        refine hsent.occasioned hread fun e hstate hreports => .bootstrap ?_ ?_ hreports
        · rw [hstate]
          exact hconnecting.lifecycle
        · exact hattempting.unshaken ((hevident.work work hwork).handshake _ hsome)
            ((haware.work work hwork).handshake _ hsome) (haware.observed hlive)
      | _ => exact hread
  cases he with
  | idle hnone => exact hread
  | aborted hwork hinactive => exact ⟨nofun, hread⟩
  | failed hwork hactive hhandshake => exact hdriven hwork hhandshake
  | pending hwork hactive hhandshake hevaluated hresult =>
    rw [hevaluated.log]
    exact hdriven hwork hhandshake
  | ready hwork hactive hhandshake hevaluated hresult =>
    rw [hevaluated.log]
    exact ⟨nofun, hdriven hwork hhandshake⟩
  | evaluationFailed hwork hactive hhandshake hevaluated hresult =>
    rw [hevaluated.log]
    exact ⟨nofun, hdriven hwork hhandshake⟩

theorem DueEffect.occasioned {t : Duration} {due : ReportingDue} (he : DueEffect t (.call s Op.now t :: h) s h' s' due)
    (hs : s.Sound) (hall : Always Occasioned h) : Always Occasioned h' := by
  have hread : Always Occasioned (.call s Op.now t :: h) := ⟨nofun, hall⟩
  cases he with
  | quiet htap hpolicy => exact hread
  | failed hpolicy herror => exact hread
  | backpressured htap hpolicy hticks => exact ⟨nofun, hread⟩
  | automatic hpolicy hticks hsent herrors =>
    refine InputSent.occasioned hsent ⟨nofun, hread⟩ ?_
    intro e hstate hreports
    rw [← hstate]
    refine .due (.automatic ?_)
    rw [hstate]
    exact hreports
  | released htap hdue hreleased =>
    have hpending : s.reporting.hasPending = true := by
      rw [Reporting.hasPending_eq, htap]
      rfl
    -- A tap is pending in a Ready session only.
    have hready := (hs.coherent.of_tap hpending).lifecycle
    cases hreleased with
    | periodic hr hsent =>
      refine hsent.occasioned hread ?_
      intro e hstate hreports
      exact .due (.releasedPeriodic hr (by rw [hstate]; exact hready) htap hdue hreports)
    | direct hr hsent =>
      refine hsent.occasioned hread ?_
      intro e hstate hreports
      exact .due (.releasedDirect hr (by rw [hstate]; exact hready) htap hdue hreports)

theorem Cleaned.occasioned {sequence : CleanupSequence} {connected publish : Bool} {nowNs : UInt64}
    {completion : CloseCompletion} (hc : Cleaned sequence connected nowNs publish h s h' s' completion)
    (hall : Always Occasioned h) : Always Occasioned h' := by
  refine hc.events.always ?_ hall
  intro e before hevent
  cases hevent with
  | report hmode hclosing => exact fun _ => .closing hclosing ⟨_, rfl⟩
  | _ => exact nofun

/-! ## Runs -/

theorem Move.occasioned {terminal : Option WorkerCoreError} (hmove : Move h s terminal h' s') (hs : s.Sound)
    (hinformed : Informed h s) (hall : Always Occasioned h) : Always Occasioned h' := by
  cases hmove with
  | unrequested => exact ⟨nofun, hall⟩
  | noCommand hcommand htap => exact ⟨nofun, hall⟩
  | polled => exact ⟨nofun, hall⟩
  | pollFailed => exact ⟨nofun, hall⟩
  | untagged => exact ⟨nofun, hall⟩
  | progress hresult => exact hall
  | command hcommand htap hresult heffect => exact heffect.occasioned hall
  | event heffect => exact Adds.occasioned heffect.noReport hall
  | drive heffect => exact heffect.occasioned hs hinformed hall
  | due hallowed heffect => exact heffect.occasioned hs hall

theorem Path.occasioned (hpath : Path h s h' s') (hinformed : Informed h s) (hall : Always Occasioned h) :
    Always Occasioned h' := by
  induction hpath with
  | refl => exact hall
  | move hpath hsound hmove ih => exact hmove.occasioned hsound (hpath.informed hinformed) ih

theorem StepEffect.occasioned {step : WorkerStep} (he : StepEffect h s h' s' step) (hinformed : Informed h s.fresh)
    (hall : Always Occasioned h) : Always Occasioned h' := by
  cases he with
  | continued hpath hsound => exact hpath.occasioned hinformed hall
  | closed hpath hsound₁ hlast hsound hclose =>
    rename_i h₁ h₂ s₁ s₂ request t
    have hmoved : Always Occasioned h₂ := by
      cases hlast with
      | none => exact hpath.occasioned hinformed hall
      | terminal hmove => exact hmove.occasioned hsound₁ (hpath.informed hinformed) (hpath.occasioned hinformed hall)
    cases hclose with
    | closed hcleaned => exact ⟨nofun, hcleaned.occasioned ⟨nofun, nofun, hmoved⟩⟩
  | failed hpath hsound₁ hmove hsound hfail =>
    have hmoved := hmove.occasioned hsound₁ (hpath.informed hinformed) (hpath.occasioned hinformed hall)
    cases hfail
    exact ⟨nofun, nofun, hmoved⟩

theorem AbandonEffect.occasioned {cause : WorkerFailureCause} {failure : Option CleanupFailure}
    (ha : AbandonEffect cause h s h' s' failure) (hall : Always Occasioned h) : Always Occasioned h' := by
  cases ha with
  | cleaned hcleaned => exact hcleaned.occasioned ⟨nofun, nofun, hall⟩

theorem Run.occasioned_step {step : WorkerStep} (hrun : Run h s) (hexec : Prog.Exec (stepRuntime s) h h' s' step)
    (hall : Always Occasioned h) : Always Occasioned h' :=
  (hexec.post (stepRuntime_spec _ _ hrun.coherent)).occasioned (hrun.informed.of_same ⟨rfl, rfl, rfl, rfl⟩) hall

theorem Run.occasioned (hrun : Run h s) : Always Occasioned h := by
  induction hrun with
  | opened hnew => exact ⟨nofun, trivial⟩
  | step hrun hexec ih => exact hrun.occasioned_step hexec ih

/-- Whatever a worker sends is a reply, or has an occasion. -/
theorem Trace.occasioned (htrace : Trace h s) : Always Occasioned h := by
  cases htrace with
  | running hrun => exact hrun.occasioned
  | stepped hrun hexec => exact hrun.occasioned_step hexec hrun.occasioned
  | abandoned hrun hexec => exact (hexec.post (completeWorkerFailure_spec _ _ _)).occasioned hrun.occasioned
  | failed hrun hstep hexec =>
    exact (hexec.post (completeWorkerFailure_spec _ _ _)).occasioned (hrun.occasioned_step hstep hrun.occasioned)

end Swbt
