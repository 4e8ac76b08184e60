import Swbt.Runtime.Engaged
import Swbt.Runtime.Tap
/-!
# The worker loop

`run_worker_loop` steps the worker, delivers what the step has for the command
in flight and waits. A worker of it is `Serving` between two steps; it ends by
closing, by a failure it cleans up after, or by a panic.

The response of the `n`-th command taken has the number `n`. What the owner of
the worker does in a step, with the responses it has so far, is a parameter.
-/

set_option autoImplicit false

open Effects

namespace Swbt

variable {m : ControllerKind} {r : ReportingKind}

/-- The commands taken so far, the latest first. -/
def Log.commands (h : Log m r) : List (RuntimeCommand m r) := h.filterMap takenCommand

/-- What a step takes out of the command channel. -/
inductive Fetched (h h' : Log m r) (receiver : CommandReceiver) : CommandReceiver → Prop
  | none (hsame : h'.commands = h.commands) : Fetched h h' receiver receiver
  | one {request : CommandRequest m r} {command : RuntimeCommand m r} {receiver' : CommandReceiver}
      (hnumber : request.completion = h.commands.length)
      (hnext : receiver.tryNext (some request) = (some command, receiver', Option.none))
      (htaken : h'.commands = command :: h.commands) : Fetched h h' receiver receiver'

section Loop

variable (owner : List Response → Log m r → Log m r → Prop)

/-- A step that goes on, and its delivery. -/
inductive Turn (h : Log m r) (s : Frame m r) (receiver : CommandReceiver) (sent : List Response) :
    Log m r → Frame m r → CommandReceiver → List Response → Prop
  | delivered {h' : Log m r} {s' : Frame m r} {progress : StepProgress} {receiver₁ receiver' : CommandReceiver}
      {more : List Response} (hexec : Prog.Exec (stepRuntime s) h h' s' (.continue progress)) (howner : owner sent h h')
      (hfetched : Fetched h h' receiver receiver₁)
      (hdelivered : receiver₁.deliverProgress progress = (.ok (), receiver', more)) :
      Turn h s receiver sent h' s' receiver' (sent ++ more)

/-- The worker between two steps, with the responses sent so far. -/
inductive Serving : Log m r → Frame m r → CommandReceiver → List Response → Prop
  | opened {core : WorkerCore m r} (hnew : core.IsNew) : Serving core.openLog core.start ⟨none⟩ []
  | turn {h h' : Log m r} {s s' : Frame m r} {receiver receiver' : CommandReceiver} {sent sent' : List Response}
      (hserving : Serving h s receiver sent) (hturn : Turn owner h s receiver sent h' s' receiver' sent') :
      Serving h' s' receiver' sent'

def deliveryError : Except CommandDeliveryError Unit → Option CommandDeliveryError
  | .ok () => none
  | .error error => some error

/-- The loop comes to `complete_worker_failure`, with its cause and the error of a delivery before it. -/
inductive Broken : Log m r → Frame m r → CommandReceiver → List Response → WorkerFailureCause →
    Option CommandDeliveryError → Prop
  | failed {h h' : Log m r} {s s' : Frame m r} {error : WorkerCoreError} {progress : StepProgress}
      {receiver receiver₁ receiver' : CommandReceiver} {sent more : List Response}
      {outcome : Except CommandDeliveryError Unit} (hserving : Serving owner h s receiver sent)
      (hexec : Prog.Exec (stepRuntime s) h h' s' (.failed error progress)) (howner : owner sent h h')
      (hfetched : Fetched h h' receiver receiver₁)
      (hdelivered : receiver₁.deliverProgress progress = (outcome, receiver', more)) :
      Broken h' s' receiver' (sent ++ more) (.core error) (deliveryError outcome)
  | undelivered {h h' : Log m r} {s s' : Frame m r} {error : CommandDeliveryError} {progress : StepProgress}
      {receiver receiver₁ receiver' : CommandReceiver} {sent more : List Response}
      (hserving : Serving owner h s receiver sent)
      (hexec : Prog.Exec (stepRuntime s) h h' s' (.continue progress)) (howner : owner sent h h')
      (hfetched : Fetched h h' receiver receiver₁)
      (hdelivered : receiver₁.deliverProgress progress = (.error error, receiver', more)) :
      Broken h' s' receiver' (sent ++ more) (.commandDelivery error) none
  | unwaited {h h' : Log m r} {s s' : Frame m r} {error : WorkerWaitError} {receiver receiver' : CommandReceiver}
      {sent sent' : List Response} (hserving : Serving owner h s receiver sent)
      (hturn : Turn owner h s receiver sent h' s' receiver' sent') : Broken h' s' receiver' sent' (.wait error) none

inductive WorkerTerminal
  | closed (completion : CloseCompletion)
  | failed (cause : WorkerFailureCause) (cleanupError : Option CleanupFailure)

structure WorkerCompletion where
  terminal : WorkerTerminal
  deliveryError : Option CommandDeliveryError

/-- The loop returns. -/
inductive LoopEnd : Log m r → CommandReceiver → List Response → WorkerCompletion → Prop
  | closed {h h' : Log m r} {s s' : Frame m r} {completion : CloseCompletion}
      {interrupted : Option WorkerCommandError} {progress : StepProgress}
      {receiver receiver₁ receiver' : CommandReceiver} {sent more : List Response}
      {delivery : Option CommandDeliveryError} (hserving : Serving owner h s receiver sent)
      (hexec : Prog.Exec (stepRuntime s) h h' s' (.closed completion interrupted progress)) (howner : owner sent h h')
      (hfetched : Fetched h h' receiver receiver₁)
      (hdelivered : receiver₁.deliverClosed interrupted progress = (delivery, receiver', more)) :
      LoopEnd h' receiver' (sent ++ more) ⟨.closed completion, delivery⟩
  | failed {h h' : Log m r} {s s' : Frame m r} {receiver : CommandReceiver} {sent : List Response}
      {cause : WorkerFailureCause} {delivery : Option CommandDeliveryError} {cleanupError : Option CleanupFailure}
      (hbroken : Broken owner h s receiver sent cause delivery)
      (hexec : Prog.Exec (completeWorkerFailure cause s) h h' s' cleanupError) :
      LoopEnd h' receiver sent ⟨.failed cause cleanupError, delivery⟩

/-- The loop panics in a step, in a wait or in the cleanup after a failure, of
which `broken` tells. -/
inductive LoopPanic : Log m r → Frame m r → CommandReceiver → List Response →
    Option (WorkerFailureCause × Option CommandDeliveryError) → Prop
  | stepping {h h' : Log m r} {s s' : Frame m r} {receiver receiver₁ : CommandReceiver} {sent : List Response}
      (hserving : Serving owner h s receiver sent) (habort : Prog.Abort (stepRuntime s) h h' s')
      (howner : owner sent h h') (hfetched : Fetched h h' receiver receiver₁) : LoopPanic h' s' receiver₁ sent none
  | waiting {h h' : Log m r} {s s' : Frame m r} {receiver receiver' : CommandReceiver} {sent sent' : List Response}
      (hserving : Serving owner h s receiver sent) (hturn : Turn owner h s receiver sent h' s' receiver' sent') :
      LoopPanic h' s' receiver' sent' none
  | cleaning {h h' : Log m r} {s s' : Frame m r} {receiver : CommandReceiver} {sent : List Response}
      {cause : WorkerFailureCause} {delivery : Option CommandDeliveryError}
      (hbroken : Broken owner h s receiver sent cause delivery)
      (habort : Prog.Abort (completeWorkerFailure cause s) h h' s') :
      LoopPanic h' s' receiver sent (some (cause, delivery))

/-- `run_started_worker` up to the teardown of the worker. The cleanup after a
panic tells nothing if it panics too. -/
inductive Caught : Log m r → CommandReceiver → List Response →
    Option (Option (WorkerFailureCause × Option CommandDeliveryError)) → WorkerCompletion → Prop
  | ended {h : Log m r} {receiver : CommandReceiver} {sent : List Response} {completion : WorkerCompletion}
      (hend : LoopEnd owner h receiver sent completion) : Caught h receiver sent none completion
  | panicked {h h' : Log m r} {s s' : Frame m r} {receiver : CommandReceiver} {sent : List Response}
      {broken : Option (WorkerFailureCause × Option CommandDeliveryError)} {cleanup : Option CleanupFailure}
      (hpanic : LoopPanic owner h s receiver sent broken)
      (hexec : Prog.Exec (completeWorkerFailure .panicked s) h h' s' cleanup) :
      Caught h' receiver sent (some broken) ⟨.failed .panicked cleanup, none⟩
  | panickedAgain {h h' : Log m r} {s s' : Frame m r} {receiver : CommandReceiver} {sent : List Response}
      {broken : Option (WorkerFailureCause × Option CommandDeliveryError)}
      (hpanic : LoopPanic owner h s receiver sent broken)
      (habort : Prog.Abort (completeWorkerFailure .panicked s) h h' s') :
      Caught h' receiver sent (some broken) ⟨.failed .panicked none, none⟩

end Loop

/-! ## Commands of a log -/

variable {h h₁ h₂ h' : Log m r} {s s₁ s' : Frame m r}

theorem Log.commands_append (added h : Log m r) :
    Log.commands (added ++ h) = Log.commands added ++ h.commands := List.filterMap_append

theorem Adds.commands (hadds : Adds Untaken h h') : h'.commands = h.commands := by
  obtain ⟨added, rfl, hall⟩ := hadds
  have hnil : Log.commands added = [] := List.filterMap_eq_nil_iff.2 hall
  rw [Log.commands_append, hnil, List.nil_append]

theorem Adds.of_commands (hsuffix : h <:+ h') (hsame : h'.commands = h.commands) : Adds Untaken h h' := by
  obtain ⟨added, rfl⟩ := hsuffix
  rw [Log.commands_append] at hsame
  exact ⟨added, rfl, List.filterMap_eq_nil_iff.1 (List.append_left_eq_self.1 hsame)⟩

/-! ## What is in flight -/

/-- The command in flight is the one the frame is engaged with, and every
other one taken has its response. -/
structure Owes (h : Log m r) (s : Frame m r) (receiver : CommandReceiver) (sent : List Response) : Prop where
  numbered : sent.map Response.completion = List.range sent.length
  busy : s.Engaged → receiver.inFlight = some sent.length ∧ h.commands.length = sent.length + 1
  idle : ¬ s.Engaged → receiver.inFlight = none ∧ h.commands.length = sent.length

variable {receiver receiver₁ receiver' : CommandReceiver} {sent sent' more : List Response}

theorem WorkerCore.IsNew.owes {core : WorkerCore m r} (hnew : core.IsNew) :
    Owes core.openLog core.start.fresh ⟨none⟩ [] := by
  have hopen := hnew.isOpen
  refine ⟨rfl, ?_, fun _ => ⟨rfl, rfl⟩⟩
  rintro (hpending | hpending | hpending)
  · rw [show core.start.fresh.connectionCommandPending = none from hopen.command] at hpending
    cases hpending
  · have hnone := Reporting.hasPending_of_idle hopen.idle
    rw [Reporting.hasPending_eq, Option.isSome_eq_false_iff, Option.isNone_iff_eq_none] at hnone
    exact absurd hnone hpending
  · exact absurd rfl hpending

/-- From the start of a step to a frame of it, with what the step takes. -/
theorem Fetched.owes (hfetched : Fetched h h' receiver receiver₁) (howes : Owes h s receiver sent)
    (hengages : Engages h s h₂ s') (hidle : Adds Untaken h h₂ → ¬ s.Engaged → ¬ s'.Engaged) (hbefore : h <:+ h₂)
    (hlater : Adds Untaken h₂ h') : Owes h' s' receiver₁ sent := by
  have hlast := Adds.commands hlater
  cases hfetched with
  | none hsame =>
    have huntaken : Adds Untaken h h₂ := Adds.of_commands hbefore (hlast.symm.trans hsame)
    refine ⟨howes.numbered, ?_, ?_⟩
    · intro hengaged
      rw [hsame]
      exact howes.busy (not_not.1 fun hnot => hidle huntaken hnot hengaged)
    · intro hnot
      rw [hsame]
      exact howes.idle fun hengaged => hnot (hengages.keeps hengaged)
  | one hnumber hnext htaken =>
    have htaken' : ¬ Adds Untaken h h₂ := by
      intro huntaken
      have hsame := htaken.symm.trans (hlast.trans (Adds.commands huntaken))
      exact absurd (congrArg List.length hsame) (Nat.succ_ne_self _)
    have hengaged : s'.Engaged := hengages.takes.resolve_left htaken'
    have hfree : ¬ s.Engaged := fun hengaged => htaken' (hengages.excludes hengaged)
    obtain ⟨hnone, hlength⟩ := howes.idle hfree
    unfold CommandReceiver.tryNext at hnext
    rw [hnone] at hnext
    cases hnext
    refine ⟨howes.numbered, ?_, fun hnot => absurd hengaged hnot⟩
    intro _
    rw [htaken, List.length_cons, hnumber, hlength]
    exact ⟨rfl, rfl⟩

/-- No response for a pending command has been found. -/
def Frame.Unanswered (s : Frame m r) : Prop :=
  s.connectionCommandPending.isSome = true ∨ s.reporting.hasPending = true → s.progress.commandResult = none

theorem Frame.Unanswered.fresh (hunanswered : s.Unanswered) (hsome : s.progress.commandResult ≠ none) :
    ¬ s.fresh.Engaged := by
  rintro (hpending | hpending | hpending)
  · exact hsome (hunanswered (.inl hpending))
  · refine hsome (hunanswered (.inr ?_))
    rw [Reporting.hasPending_eq, Option.isSome_iff_ne_none]
    exact hpending
  · exact absurd rfl hpending

theorem Frame.fresh_engaged_iff (hnone : s.progress.commandResult = none) : s.fresh.Engaged ↔ s.Engaged := by
  unfold Frame.Engaged
  rw [hnone]
  rfl

/-- The response of the command in flight comes after the others. -/
theorem numbered_append (hnumbered : sent.map Response.completion = List.range sent.length) (result : CommandResult) :
    (sent ++ [Response.mk sent.length result]).map Response.completion =
      List.range (sent ++ [Response.mk sent.length result]).length := by
  rw [List.map_append, hnumbered, List.length_append, List.length_singleton, List.range_succ]
  rfl

/-- The response in a frame is delivered to the command in flight. -/
theorem Owes.deliver (howes : Owes h s receiver sent) (hunanswered : s.Unanswered) {progress : StepProgress}
    (hprogress : progress.commandResult = s.progress.commandResult) {outcome : Except CommandDeliveryError Unit}
    (hdelivered : receiver.deliverProgress progress = (outcome, receiver', more)) :
    outcome = .ok () ∧ Owes h s.fresh receiver' (sent ++ more) ∧
      more.map Response.result = progress.commandResult.toList := by
  unfold CommandReceiver.deliverProgress at hdelivered
  rw [hprogress] at hdelivered ⊢
  cases hresult : s.progress.commandResult with
  | none =>
    rw [hresult] at hdelivered
    cases hdelivered
    refine ⟨rfl, ?_, rfl⟩
    rw [List.append_nil]
    have hiff := Frame.fresh_engaged_iff hresult
    exact ⟨howes.numbered, fun hengaged => howes.busy (hiff.1 hengaged), fun hnot => howes.idle (mt hiff.2 hnot)⟩
  | some result =>
    rw [hresult] at hdelivered
    have hsome : s.progress.commandResult ≠ none := by
      rw [hresult]
      exact Option.some_ne_none _
    obtain ⟨hflight, hlength⟩ := howes.busy (.inr (.inr hsome))
    unfold CommandReceiver.deliverCompletion CommandReceiver.deliver at hdelivered
    rw [hflight] at hdelivered
    cases hdelivered
    refine ⟨rfl, ⟨numbered_append howes.numbered _, fun hengaged => absurd hengaged (hunanswered.fresh hsome), ?_⟩, rfl⟩
    intro _
    rw [hlength, List.length_append]
    exact ⟨rfl, rfl⟩

/-! ## Steps -/

theorem StepEffect.of_continue {progress : StepProgress} (he : StepEffect h s h' s' (.continue progress)) :
    ∃ s₁, Path h s.fresh h' s₁ ∧ s₁.Sound ∧ s' = s₁.finish ∧ progress = s₁.finish.progress := by
  generalize hstep : WorkerStep.continue progress = step at he
  cases he with
  | continued hpath hsound =>
    cases hstep
    exact ⟨_, hpath, hsound, rfl, rfl⟩
  | closed hpath hsound₁ hlast hsound hclose =>
    cases hclose
    cases hstep
  | failed hpath hsound₁ hmove hsound hfail =>
    cases hfail
    cases hstep

theorem StepEffect.of_failed {error : WorkerCoreError} {progress : StepProgress}
    (he : StepEffect h s h' s' (.failed error progress)) :
    ∃ h₁ s₁ h₂ s₂, Path h s.fresh h₁ s₁ ∧ s₁.Sound ∧ Move h₁ s₁ (some error) h₂ s₂ ∧ s₂.Sound ∧
      h' = .emit (s₂.fail error) (.status (.fail error.statusMessage (failureCategory error))) ::
        .call s₂ Op.takeShutdown none :: h₂ ∧
      s' = s₂.fail error ∧ progress = (s₂.fail error).progress := by
  generalize hstep : WorkerStep.failed error progress = step at he
  cases he with
  | continued hpath hsound => cases hstep
  | closed hpath hsound₁ hlast hsound hclose =>
    cases hclose
    cases hstep
  | failed hpath hsound₁ hmove hsound hfail =>
    cases hfail
    cases hstep
    exact ⟨_, _, _, _, hpath, hsound₁, hmove, hsound, rfl, rfl, rfl⟩

theorem StepEffect.of_closed {completion : CloseCompletion} {interrupted : Option WorkerCommandError}
    {progress : StepProgress} (he : StepEffect h s h' s' (.closed completion interrupted progress)) :
    ∃ h₁ s₁ h₂ s₂ request t, Path h s.fresh h₁ s₁ ∧ s₁.Sound ∧ LastMove h₁ s₁ h₂ s₂ ∧ s₂.Sound ∧
      CloseEffect request t (.call s₂ Op.now t :: .call s₂ Op.takeShutdown (some request) :: h₂) s₂ h' s'
        (.closed completion interrupted progress) := by
  generalize hstep : WorkerStep.closed completion interrupted progress = step at he
  cases he with
  | continued hpath hsound => cases hstep
  | closed hpath hsound₁ hlast hsound hclose =>
    cases hstep
    exact ⟨_, _, _, _, _, _, hpath, hsound₁, hlast, hsound, hclose⟩
  | failed hpath hsound₁ hmove hsound hfail =>
    cases hfail
    cases hstep

/-- What a close leaves to deliver. -/
theorem CloseEffect.delivers {request : ShutdownRequest} {t : Duration} {completion : CloseCompletion}
    {interrupted : Option WorkerCommandError} {progress : StepProgress}
    (hc : CloseEffect request t h s h' s' (.closed completion interrupted progress)) :
    interrupted = s.reporting.tap.map (fun _ => cancelError r) ∧
      progress.commandResult = (s.complete (.error .shutdown)).progress.commandResult := by
  cases hc with
  | closed hcleaned =>
    have hprogress := congrArg StepProgress.commandResult hcleaned.unmarked.2.2
    exact ⟨rfl, hprogress⟩

/-- Up to the last move of a step, what it takes is what its frame is engaged with. -/
theorem Fetched.owes_last (hfetched : Fetched h h' receiver receiver₁) (howes : Owes h s receiver sent)
    (hpath : Path h s h₁ s₁) (hsound : s₁.Sound) (hlast : LastMove h₁ s₁ h₂ s') (hlater : Adds Untaken h₂ h') :
    Owes h' s' receiver₁ sent := by
  refine hfetched.owes howes (hpath.engages.trans (hlast.engages hsound)) ?_ (hpath.suffix.trans hlast.suffix) hlater
  intro huntaken hfree
  obtain ⟨hbefore, hafter⟩ := Adds.parts huntaken hpath.suffix hlast.suffix
  exact hlast.idle hsound hafter (hpath.idle hbefore hfree)

theorem Frame.complete_engaged (result : CommandResult) : (s.complete result).Engaged ↔ s.Engaged := by
  unfold Frame.complete
  cases hpending : s.connectionCommandPending with
  | none => rfl
  | some command =>
    have hbefore : s.Engaged := .inl (by rw [hpending]; rfl)
    exact ⟨fun _ => hbefore, fun _ => .inr (.inr (Option.some_ne_none _))⟩

theorem Frame.Sound.noTap (hs : s.Sound) (hpending : s.connectionCommandPending.isSome = true) :
    s.reporting.hasPending = false := by
  by_contra htap
  rw [Bool.not_eq_false] at htap
  rw [(hs.coherent.of_tap htap).command] at hpending
  cases hpending

theorem Frame.Sound.complete_unanswered (hs : s.Sound) (result : CommandResult) : (s.complete result).Unanswered := by
  intro hwaits
  cases hpending : s.connectionCommandPending with
  | none =>
    have hsame : s.complete result = s := by
      unfold Frame.complete
      rw [hpending]
    rw [hsame] at hwaits ⊢
    exact hs.unanswered hwaits
  | some command =>
    have hsame : s.complete result = ({ s with connectionCommandPending := none }.answer result).setImmediate := by
      unfold Frame.complete
      rw [hpending]
    rw [hsame] at hwaits
    rcases hwaits with hwaits | hwaits
    · cases hwaits
    · have htap := hs.noTap (by rw [hpending]; rfl)
      change s.reporting.hasPending = true at hwaits
      rw [htap] at hwaits
      cases hwaits

theorem Owes.congr {s' : Frame m r} (howes : Owes h s receiver sent) (hiff : s'.Engaged ↔ s.Engaged) :
    Owes h s' receiver sent :=
  ⟨howes.numbered, fun hengaged => howes.busy (hiff.1 hengaged), fun hnot => howes.idle (mt hiff.2 hnot)⟩

/-- A closed step delivers one result, of the step or of the command it interrupts. -/
theorem Owes.deliverClosed (howes : Owes h s receiver sent) (hs : s.Sound) {progress : StepProgress}
    (hprogress : progress.commandResult = (s.complete (.error .shutdown)).progress.commandResult)
    {delivery : Option CommandDeliveryError}
    (hdelivered : receiver.deliverClosed (s.reporting.tap.map fun _ => cancelError r) progress =
      (delivery, receiver', more)) :
    delivery = none ∧ (sent ++ more).map Response.completion = List.range (sent ++ more).length ∧
      receiver'.inFlight = none ∧ h.commands.length = (sent ++ more).length ∧
      (progress.commandResult = none ∨ s.reporting.tap = none) := by
  have hunanswered := hs.complete_unanswered (.error .shutdown)
  unfold CommandReceiver.deliverClosed at hdelivered
  rcases houtcome : receiver.deliverProgress progress with ⟨outcome, receiver₁, more₁⟩
  obtain ⟨rfl, howes₁, hmore⟩ :=
    (howes.congr (Frame.complete_engaged _)).deliver hunanswered hprogress houtcome
  rw [houtcome] at hdelivered
  obtain ⟨hreporting, -⟩ := s.complete_keeps (.error .shutdown)
  -- A pending tap keeps the step from having a result, so the receiver delivers one or the other.
  cases htap : s.reporting.tap with
  | none =>
    rw [htap] at hdelivered
    cases hdelivered
    have hfree : ¬ (s.complete (.error .shutdown)).fresh.Engaged := by
      rintro (hpending | hpending | hpending)
      · unfold Frame.complete at hpending
        cases hcommand : s.connectionCommandPending with
        | none =>
          rw [hcommand] at hpending
          exact absurd (hpending.symm.trans (congrArg Option.isSome hcommand)) (by decide)
        | some command =>
          rw [hcommand] at hpending
          cases hpending
      · exact hpending ((congrArg Reporting.tap hreporting).trans htap)
      · exact hpending rfl
    obtain ⟨hnone, hlength⟩ := howes₁.idle hfree
    exact ⟨rfl, howes₁.numbered, hnone, hlength, .inr rfl⟩
  | some tap =>
    rw [htap] at hdelivered
    have hpending : (s.complete (.error .shutdown)).reporting.hasPending = true := by
      rw [hreporting, Reporting.hasPending_eq, htap]
      rfl
    have hnone := hprogress.trans (hunanswered (.inr hpending))
    have hbusy : (s.complete (.error .shutdown)).fresh.Engaged := by
      refine .inr (.inl ?_)
      exact (Reporting.hasPending_iff_tap _).1 hpending
    obtain ⟨hflight, hlength⟩ := howes₁.busy hbusy
    dsimp only [Option.map_some] at hdelivered
    unfold CommandReceiver.deliverCompletion CommandReceiver.deliver at hdelivered
    rw [hflight] at hdelivered
    cases hdelivered
    refine ⟨rfl, ?_, rfl, ?_, .inl hnone⟩
    · rw [← List.append_assoc]
      exact numbered_append howes₁.numbered _
    · rw [hlength, ← List.append_assoc]
      exact (@List.length_append _ (sent ++ more₁) [_]).symm

/-! ## Runs of the loop -/

variable {owner : List Response → Log m r → Log m r → Prop}

theorem Turn.run (hturn : Turn owner h s receiver sent h' s' receiver' sent') (hrun : Run h s) : Run h' s' := by
  cases hturn with
  | delivered hexec howner hfetched hdelivered => exact .step hrun hexec

theorem Serving.run (hserving : Serving owner h s receiver sent) : Run h s := by
  induction hserving with
  | opened hnew => exact .opened hnew
  | turn hserving hturn ih => exact hturn.run ih

/-- A step that goes on, up to its delivery. -/
theorem Fetched.continued {progress : StepProgress} (hfetched : Fetched h h' receiver receiver₁)
    (howes : Owes h s.fresh receiver sent) (hrun : Run h s)
    (hexec : Prog.Exec (stepRuntime s) h h' s' (.continue progress)) :
    Owes h' s' receiver₁ sent ∧ s'.Unanswered ∧ progress.commandResult = s'.progress.commandResult := by
  obtain ⟨s₁, hpath, hsound, rfl, rfl⟩ := (hexec.post (stepRuntime_spec _ _ hrun.coherent)).of_continue
  have howes₁ := hfetched.owes_last howes hpath hsound .none .refl
  exact ⟨howes₁.congr Iff.rfl, hsound.unanswered, rfl⟩

theorem Turn.owes (hturn : Turn owner h s receiver sent h' s' receiver' sent') (hrun : Run h s)
    (howes : Owes h s.fresh receiver sent) : Owes h' s'.fresh receiver' sent' := by
  cases hturn with
  | delivered hexec howner hfetched hdelivered =>
    obtain ⟨howes₁, hunanswered, hprogress⟩ := hfetched.continued howes hrun hexec
    exact (howes₁.deliver hunanswered hprogress hdelivered).2.1

theorem Serving.owes (hserving : Serving owner h s receiver sent) : Owes h s.fresh receiver sent := by
  induction hserving with
  | opened hnew => exact hnew.owes
  | turn hserving hturn ih => exact hturn.owes hserving.run ih

/-- A failing step, up to its delivery. -/
theorem Fetched.failed {error : WorkerCoreError} {progress : StepProgress} (hfetched : Fetched h h' receiver receiver₁)
    (howes : Owes h s.fresh receiver sent) (hrun : Run h s)
    (hexec : Prog.Exec (stepRuntime s) h h' s' (.failed error progress)) :
    Owes h' s' receiver₁ sent ∧ s'.Unanswered ∧ progress.commandResult = s'.progress.commandResult := by
  obtain ⟨h₁, s₁, h₂, s₂, hpath, hsound₁, hmove, hsound, rfl, rfl, rfl⟩ :=
    (hexec.post (stepRuntime_spec _ _ hrun.coherent)).of_failed
  have hafter : Adds Plain h₂ (.emit (s₂.fail error) (.status (.fail error.statusMessage (failureCategory error))) ::
      .call s₂ Op.takeShutdown Option.none :: h₂) := (Adds.single ⟨rfl, rfl⟩).cons ⟨rfl, rfl⟩
  have howes₂ := hfetched.owes_last howes hpath hsound₁ (.terminal hmove) (Adds.untaken hafter)
  have hcompleted : (s₂.fail error).Unanswered ∧ ((s₂.fail error).Engaged ↔ s₂.Engaged) := by
    unfold Frame.fail Frame.completeFailure
    split
    · exact ⟨hsound.unanswered, Iff.rfl⟩
    · exact ⟨hsound.complete_unanswered _, Frame.complete_engaged _⟩
  exact ⟨howes₂.congr hcompleted.2, hcompleted.1, rfl⟩

end Swbt
