import Swbt.Runtime.Diagnostics
/-!
# Generations of workers

One controller opens workers one after the other on a projection that outlives
them. Between two of them the projection has no session and is not connected,
and this is all a worker needs to find there.
-/

set_option autoImplicit false

open Effects

namespace Swbt

variable {m : ControllerKind} {r : ReportingKind} {h h₁ h' : Log m r} {s s₁ s' : Frame m r} {p p₀ : StatusPublisher m r}

/-! ## What is told at a point of a run -/

/-- What the diagnostics have been told up to here. -/
structure Recorded (p₀ : StatusPublisher m r) (h : Log m r) : Prop where
  stream : Stream m r (h.published p₀).emitted (h.published p₀).sessionId
  calm : (h.published p₀).panicked = false
  told : ∀ kind, h.acceptedOf kind < 2 ^ 64 →
    (h.published p₀).counters kind = p₀.counters kind ++ numbers (h.acceptedOf kind)
  latched : (h.published p₀).workerFailure.isSome = true →
    (h.published p₀).sessionId = none ∧ (h.published p₀).connected = false

/-- The environment is only called when all has been told. -/
def Asked (p₀ : StatusPublisher m r) : LogEvent m r → Log m r → Prop
  | .call _ _ _, h => Recorded p₀ h
  | .emit _ _, _ => True

/-- A live worker and its projection. -/
structure Told (p₀ : StatusPublisher m r) (h : Log m r) (s : Frame m r) : Prop where
  agrees : Agrees (h.published p₀) s
  latched : Latched p₀ h s
  mirrored : Mirrored p₀ h s
  heard : Heard (h.published p₀) s
  numbered : Numbered p₀ h s
  stream : Stream m r (h.published p₀).emitted (h.published p₀).sessionId
  calm : (h.published p₀).panicked = false
  asked : Always (Asked p₀) h

theorem Told.recorded (htold : Told p₀ h s) : Recorded p₀ h where
  stream := htold.stream
  calm := htold.calm
  told := htold.numbered.told
  latched hfailure := by
    have hnone : h.session = none := by
      by_contra hsome
      rw [htold.latched.failure, if_neg hsome] at hfailure
      cases hfailure
    have hclosed : s.sessions.current = none := by
      by_contra hlive
      exact htold.latched.session hlive hnone
    exact ⟨htold.agrees.current.trans hclosed, htold.agrees.connected.trans (htold.agrees.disconnected hclosed)⟩

theorem Told.publish (htold : Told p₀ h s) (hpublish : Publish h s h' s') : Told p₀ h' s' where
  agrees := htold.agrees.publish hpublish
  latched := htold.latched.publish hpublish
  mirrored := htold.mirrored.publish hpublish
  heard := htold.heard.publish hpublish
  numbered := htold.numbered.publish htold.agrees htold.heard hpublish
  stream := (htold.stream.publish htold.calm htold.agrees htold.heard hpublish).1
  calm := (htold.stream.publish htold.calm htold.agrees htold.heard hpublish).2
  asked := by
    have hasked := htold.asked
    have hrecorded := htold.recorded
    cases hpublish with
    | keep hshown => exact hasked
    | silent hstatus haccepted =>
      rename_i e
      refine ⟨?_, hasked⟩
      cases e with
      | call f op ans => exact hrecorded
      | emit f out => trivial
    | accepted hlive hhead => exact ⟨trivial, hrecorded, hasked⟩
    | begun hclosed => exact ⟨trivial, trivial, trivial, hasked⟩
    | committed | linked hlive | noticed hlive | entered hlive hframe | ended hlive hlifecycle =>
      exact ⟨trivial, hasked⟩

theorem Told.publishes (htold : Told p₀ h s) (hpublishes : Publishes h s h' s') : Told p₀ h' s' :=
  hpublishes.inv htold fun hpublish htold => htold.publish hpublish

/-! ## Between two workers -/

/-- What every worker finds and leaves. -/
structure Idle (p : StatusPublisher m r) : Prop where
  stream : Stream m r p.emitted p.sessionId
  calm : p.panicked = false
  closed : p.sessionId = none
  disconnected : p.connected = false

theorem Idle.setLifecycle (hidle : Idle p) (lifecycle : LifecycleState) : Idle (p.setLifecycle lifecycle) where
  stream := (hidle.stream.setLifecycle lifecycle).1
  calm := (hidle.stream.setLifecycle lifecycle).2.trans hidle.calm
  closed := (StatusPublisher.sessionId_setLifecycle ..).trans hidle.closed
  disconnected := (StatusPublisher.connected_setLifecycle ..).trans hidle.disconnected

/-- A failure leaves no session, unless one is shown already. -/
theorem Recorded.fail (hrecorded : Recorded p₀ h) (message : String) (category : WorkerFailureCategory) :
    Idle ((h.published p₀).fail message category) := by
  obtain ⟨hstream, hcalm⟩ := hrecorded.stream.fail message category
  refine ⟨hstream, hcalm.trans hrecorded.calm, ?_, ?_⟩
  · unfold StatusPublisher.fail
    split
    · exact (hrecorded.latched ‹_›).1
    · rfl
  · unfold StatusPublisher.fail
    split
    · exact (hrecorded.latched ‹_›).2
    · rfl

theorem Idle.fail (hidle : Idle p) (message : String) (category : WorkerFailureCategory) :
    Idle (p.fail message category) := by
  obtain ⟨hstream, hcalm⟩ := hidle.stream.fail message category
  refine ⟨hstream, hcalm.trans hidle.calm, ?_, ?_⟩
  · unfold StatusPublisher.fail
    split
    · exact hidle.closed
    · rfl
  · unfold StatusPublisher.fail
    split
    · exact hidle.disconnected
    · rfl

theorem Idle.close (hstream : Stream m r p.emitted p.sessionId) (hcalm : p.panicked = false) :
    Idle (p.close .closed) :=
  ⟨hstream.inContext_ended _ _, hcalm, rfl, rfl⟩

/-- A new worker, its parameters apart. -/
theorem WorkerCore.IsNew.fresh {core : WorkerCore m r} (hnew : core.IsNew) :
    core.lifecycle = .new ∧ core.sender = .new ∧ core.input = .neutral := by
  cases hnew with
  | direct protocol budget => exact ⟨rfl, rfl, rfl⟩
  | periodic hnew =>
    unfold newPeriodic at hnew
    split at hnew
    · cases hnew
    · cases hnew
      exact ⟨rfl, rfl, rfl⟩

/-- A worker starts in agreement with whatever an earlier one has left. -/
theorem Idle.told {core : WorkerCore m r} (hidle : Idle p₀) (hnew : core.IsNew) :
    Told p₀ core.openLog core.start := by
  have hopen := hidle.setLifecycle .open
  obtain ⟨hlifecycle, hsender, hinput⟩ := hnew.fresh
  have hcurrent : core.sessions.current = none := hnew.isOpen.current
  have hcounter : ∀ kind, core.start.sender.counter kind = 0 := by
    intro kind
    change core.sender.counter kind = 0
    rw [hsender]
    cases kind <;> rfl
  have haccepted : ∀ kind, core.openLog.acceptedOf kind = 0 := fun _ => rfl
  refine ⟨⟨?_, ?_, ?_, fun _ => hnew.isOpen.disconnected⟩, ⟨?_, ?_⟩, ⟨?_, fun _ => hinput⟩, ⟨?_, ?_⟩, ⟨?_, ?_⟩,
    hopen.stream, hopen.calm, ⟨trivial, trivial⟩⟩
  · refine (StatusPublisher.lifecycle_setLifecycle ..).trans ?_
    change LifecycleState.open = core.lifecycle.state
    rw [hlifecycle]
    rfl
  · exact hopen.disconnected.trans hnew.isOpen.disconnected.symm
  · exact hopen.closed.trans hcurrent.symm
  · exact StatusPublisher.workerFailure_setLifecycle ..
  · intro hlive
    exact absurd hcurrent hlive
  · exact StatusPublisher.snapshot_setLifecycle ..
  · intro kind
    rw [hcounter]
    exact UInt64.zero_le
  · intro hlive
    exact absurd hcurrent hlive
  · intro kind hbound
    rw [hcounter, haccepted]
    rfl
  · intro kind hbound
    refine (StatusPublisher.counters_receive (by rintro _ _ _ _ ⟨⟩) kind).trans ?_
    exact (List.append_nil _).symm

/-! ## How a worker leaves the projection -/

/-- A worker that has ended. -/
structure Left (p₀ : StatusPublisher m r) (h : Log m r) : Prop where
  idle : Idle (h.published p₀)
  told : ∀ kind, h.acceptedOf kind < 2 ^ 64 →
    (h.published p₀).counters kind = p₀.counters kind ++ numbers (h.acceptedOf kind)
  asked : Always (Asked p₀) h

theorem Left.recorded (hleft : Left p₀ h) : Recorded p₀ h :=
  ⟨hleft.idle.stream, hleft.idle.calm, hleft.told, fun _ => ⟨hleft.idle.closed, hleft.idle.disconnected⟩⟩

/-- A close or a failure that comes when all has been told. -/
theorem Recorded.left (hrecorded : Recorded p₀ h) (hasked : Always (Asked p₀) h) {f : Frame m r} {call : StatusCall m}
    (hidle : Idle ((h.published p₀).receive call))
    (hcall : ∀ mode imu reports replies, call ≠ .setSenderState mode imu reports replies) :
    Left p₀ (.emit f (.status call) :: h) := by
  refine ⟨hidle, ?_, trivial, hasked⟩
  intro kind hbound
  rw [Log.acceptedOf_cons kind rfl] at hbound ⊢
  exact (StatusPublisher.counters_receive hcall kind).trans (hrecorded.told kind hbound)

theorem Recorded.closed (hrecorded : Recorded p₀ h) (hasked : Always (Asked p₀) h) (f : Frame m r) :
    Left p₀ (.emit f (.status (.close .closed)) :: h) :=
  hrecorded.left hasked (.close hrecorded.stream hrecorded.calm) (by rintro _ _ _ _ ⟨⟩)

theorem Recorded.failed (hrecorded : Recorded p₀ h) (hasked : Always (Asked p₀) h) (f : Frame m r) (message : String)
    (category : WorkerFailureCategory) : Left p₀ (.emit f (.status (.fail message category)) :: h) :=
  hrecorded.left hasked (hrecorded.fail message category) (by rintro _ _ _ _ ⟨⟩)

theorem Left.mute {added : Log m r} (hleft : Left p₀ h) (hmute : Mute added) : Left p₀ (added ++ h) := by
  induction added with
  | nil => exact hleft
  | cons e rest ih =>
    obtain ⟨⟨hstatus, haccepted⟩, hrest⟩ := List.forall_mem_cons.1 hmute
    have hleft := ih hrest
    rw [List.cons_append]
    refine ⟨?_, ?_, ?_, hleft.asked⟩
    · rw [Log.published_silent hstatus]
      exact hleft.idle
    · intro kind hbound
      rw [Log.acceptedOf_cons kind haccepted] at hbound ⊢
      rw [Log.published_silent hstatus]
      exact hleft.told kind hbound
    · cases e with
      | call f op ans => exact hleft.recorded
      | emit f out => trivial

theorem AbandonEffect.left {cause : WorkerFailureCause} {failure : Option CleanupFailure}
    (ha : AbandonEffect cause h s h' s' failure) (hrecorded : Recorded p₀ h) (hasked : Always (Asked p₀) h) :
    Left p₀ h' := by
  obtain ⟨added, hmute, rfl⟩ := ha.mute
  exact (hrecorded.failed hasked s _ _).mute hmute

/-! ## Steps -/

/-- What a step publishes, by how it ends. -/
inductive StepPublishes (h : Log m r) (s : Frame m r) : Log m r → Frame m r → WorkerStep → Prop
  | continued {h' : Log m r} {s' : Frame m r} {progress : StepProgress} (hpublishes : Publishes h s h' s') :
      StepPublishes h s h' s' (.continue progress)
  | closed {h₁ : Log m r} {s₁ f s' : Frame m r} {completion : CloseCompletion}
      {interrupted : Option WorkerCommandError} {progress : StepProgress} (hpublishes : Publishes h s h₁ s₁) :
      StepPublishes h s (.emit s' (.status (.close .closed)) :: .emit f (.status (.close .closed)) :: h₁) s'
        (.closed completion interrupted progress)
  | failed {h₁ : Log m r} {s₁ s' : Frame m r} {error : WorkerCoreError} {progress : StepProgress}
      (hpublishes : Publishes h s h₁ s₁) (hsound : s₁.Sound) :
      StepPublishes h s (.emit s' (.status (.fail error.statusMessage (failureCategory error))) :: h₁) s'
        (.failed error progress)

theorem StepEffect.publishes {step : WorkerStep} (he : StepEffect h s h' s' step) : StepPublishes h s h' s' step := by
  have hfresh : Deeds h s h s.fresh := Deeds.core .refl rfl
  cases he with
  | continued hpath hsound =>
    rename_i s₁
    have hfinish : Deeds h s h' s₁.finish := Deeds.core (hfresh.trans hpath.deeds) rfl
    exact .continued hfinish.publishes
  | closed hpath hsound₁ hlast hsound hclose =>
    have hbefore := Deeds.publishes ((hfresh.trans hpath.deeds).trans (hlast.deeds hsound₁))
    rename_i h₂ s₂ request t
    have hasked := (hbefore.silent (.call s₂ Op.takeShutdown (some request)) rfl rfl).silent (.call s₂ Op.now t) rfl rfl
    obtain ⟨h₃, s₃, hpublishes, rfl⟩ := hclose.publishes hsound
    cases hclose
    exact .closed (hasked.trans hpublishes)
  | failed hpath hsound₁ hmove hsound hfail =>
    have hbefore := Deeds.publishes ((hfresh.trans hpath.deeds).trans (hmove.deeds hsound₁))
    cases hfail
    exact .failed (hbefore.silent _ rfl rfl) hsound

theorem Run.told (hrun : Run h s) (hidle : Idle p₀) : Told p₀ h s := by
  induction hrun with
  | opened hnew => exact hidle.told hnew
  | step hrun hexec ih =>
    cases (hexec.post (stepRuntime_spec _ _ hrun.coherent)).publishes with
    | continued hpublishes => exact ih.publishes hpublishes

/-! ## Traces -/

theorem StepPublishes.left {step : WorkerStep} (hstep : StepPublishes h s h' s' step) (htold : Told p₀ h s)
    (hends : step.goesOn = false) : Left p₀ h' := by
  cases hstep with
  | continued hpublishes => cases hends
  | closed hpublishes =>
    have hbefore := htold.publishes hpublishes
    rename_i f completion interrupted progress
    have hleft := hbefore.recorded.closed hbefore.asked f
    exact hleft.recorded.closed hleft.asked s'
  | failed hpublishes hsound =>
    have hbefore := htold.publishes hpublishes
    exact hbefore.recorded.failed hbefore.asked _ _ _

theorem Trace.recorded (htrace : Trace h s) (hidle : Idle p₀) : Recorded p₀ h ∧ Always (Asked p₀) h := by
  cases htrace with
  | running hrun =>
    have htold := hrun.told hidle
    exact ⟨htold.recorded, htold.asked⟩
  | stepped hrun hexec =>
    have hstep := (hexec.post (stepRuntime_spec _ _ hrun.coherent)).publishes
    have htold := hrun.told hidle
    rename_i step
    cases hgoes : step.goesOn with
    | true =>
      cases hstep with
      | continued hpublishes =>
        have htold := htold.publishes hpublishes
        exact ⟨htold.recorded, htold.asked⟩
      | closed hpublishes => cases hgoes
      | failed hpublishes hsound => cases hgoes
    | false =>
      have hleft := hstep.left htold hgoes
      exact ⟨hleft.recorded, hleft.asked⟩
  | abandoned hrun hexec =>
    have htold := hrun.told hidle
    have hleft := (hexec.post (completeWorkerFailure_spec _ _ _)).left htold.recorded htold.asked
    exact ⟨hleft.recorded, hleft.asked⟩
  | failed hrun hfailed hexec =>
    have hstep := (hfailed.post (stepRuntime_spec _ _ hrun.coherent)).publishes
    have hleft := hstep.left (hrun.told hidle) rfl
    have hleft := (hexec.post (completeWorkerFailure_spec _ _ _)).left hleft.recorded hleft.asked
    exact ⟨hleft.recorded, hleft.asked⟩

/-! ## The projection a worker is opened on -/

namespace StatusPublisher

/-- The failure of a worker, as the thread publishes it. -/
def failFor (p : StatusPublisher m r) (cause : WorkerFailureCause) : StatusPublisher m r :=
  p.fail (workerFailureStatus cause) (workerFailureCategory cause)

/-- The end of `run_started_worker`, when the loop is left and the worker dropped. -/
def tornDown (p : StatusPublisher m r) (terminal : Option WorkerFailureCause) (teardownPanicked : Bool) :
    StatusPublisher m r :=
  if teardownPanicked then p.failFor .panicked
  else match terminal with
    | some cause => p.failFor cause
    | none => p

end StatusPublisher

/-- The loop of a worker is left, with the cause if it failed. -/
inductive LoopLeft : Log m r → Option WorkerFailureCause → Prop
  | closed {h h' : Log m r} {s s' : Frame m r} {completion : CloseCompletion}
      {interrupted : Option WorkerCommandError} {progress : StepProgress} (hrun : Run h s)
      (hexec : Prog.Exec (stepRuntime s) h h' s' (.closed completion interrupted progress)) : LoopLeft h' none
  | failed {h h₁ h' : Log m r} {s s₁ s' : Frame m r} {error : WorkerCoreError} {progress : StepProgress}
      {failure : Option CleanupFailure} (hrun : Run h s)
      (hstep : Prog.Exec (stepRuntime s) h h₁ s₁ (.failed error progress))
      (hexec : Prog.Exec (completeWorkerFailure (.core error) s₁) h₁ h' s' failure) : LoopLeft h' (some (.core error))
  | abandoned {h h' : Log m r} {s s' : Frame m r} {cause : WorkerFailureCause} {failure : Option CleanupFailure}
      (hrun : Run h s) (hexec : Prog.Exec (completeWorkerFailure cause s) h h' s' failure) : LoopLeft h' (some cause)

/-- Where the code around a worker may panic: between two steps or in a call. -/
inductive Interruptible : Log m r → Prop
  | waiting {h : Log m r} {s : Frame m r} (hrun : Run h s) : Interruptible h
  | called {h h₀ : Log m r} {s f : Frame m r} {op : Op} {ans : Op.Ans m r op} (htrace : Trace h s)
      (hsuffix : .call f op ans :: h₀ <:+ h) : Interruptible h₀

/-- A projection as a controller may open its next worker on it. -/
inductive Shared : StatusPublisher m r → Prop
  | configured : Shared .new
  | closed {p : StatusPublisher m r} (hshared : Shared p) : Shared (p.setLifecycle .closed)
  | unspawned {p : StatusPublisher m r} {core : WorkerCore m r} {t : Duration} {h : Log m r} {s : Frame m r}
      {step : WorkerStep} (hshared : Shared p) (hnew : core.IsNew)
      (hexec : Prog.Exec (close (.explicit .withoutNeutral) t core.start) core.openLog h s step) :
      Shared ((h.published p).fail "worker spawn failed" .internal)
  | stopped {p : StatusPublisher m r} {h : Log m r} {terminal : Option WorkerFailureCause} (hshared : Shared p)
      (hleft : LoopLeft h terminal) (teardownPanicked : Bool) :
      Shared ((h.published p).tornDown terminal teardownPanicked)
  | panicked {p : StatusPublisher m r} {h : Log m r} (hshared : Shared p) (hpanic : Interruptible h)
      (teardownPanicked : Bool) :
      Shared (((h.published p).failFor .panicked).tornDown (some .panicked) teardownPanicked)

theorem Idle.tornDown (hidle : Idle p) (terminal : Option WorkerFailureCause) (teardownPanicked : Bool) :
    Idle (p.tornDown terminal teardownPanicked) := by
  unfold StatusPublisher.tornDown
  split
  · exact hidle.fail _ _
  · cases terminal with
    | none => exact hidle
    | some cause => exact hidle.fail _ _

theorem LoopLeft.left {terminal : Option WorkerFailureCause} (hloop : LoopLeft h terminal) (hidle : Idle p₀) :
    Left p₀ h := by
  cases hloop with
  | closed hrun hexec =>
    exact ((hexec.post (stepRuntime_spec _ _ hrun.coherent)).publishes).left (hrun.told hidle) rfl
  | failed hrun hstep hexec =>
    have hleft := ((hstep.post (stepRuntime_spec _ _ hrun.coherent)).publishes).left (hrun.told hidle) rfl
    exact (hexec.post (completeWorkerFailure_spec _ _ _)).left hleft.recorded hleft.asked
  | abandoned hrun hexec =>
    have htold := hrun.told hidle
    exact (hexec.post (completeWorkerFailure_spec _ _ _)).left htold.recorded htold.asked

theorem Interruptible.recorded (hpanic : Interruptible h) (hidle : Idle p₀) : Recorded p₀ h := by
  cases hpanic with
  | waiting hrun => exact (hrun.told hidle).recorded
  | called htrace hsuffix => exact always_iff.1 (htrace.recorded hidle).2 _ _ hsuffix

/-- A controller only ever opens a worker on an idle projection. -/
theorem Shared.idle (hshared : Shared p) : Idle p := by
  induction hshared with
  | configured => exact ⟨.nil, rfl, rfl, rfl⟩
  | closed hshared ih => exact ih.setLifecycle .closed
  | unspawned hshared hnew hexec ih =>
    rename_i p core t h s step
    have hsound : core.start.Sound := ⟨.open hnew.isOpen, fun _ => rfl⟩
    obtain ⟨h₁, s₁, hpublishes, rfl⟩ := (hexec.post (close_spec _ _ _ _ fun _ => rfl)).publishes hsound
    have htold := (ih.told hnew).publishes hpublishes
    have hleft := htold.recorded.closed htold.asked s₁
    exact (hleft.recorded.closed hleft.asked s).idle.fail _ _
  | stopped hshared hleft teardownPanicked ih => exact (hleft.left ih).idle.tornDown _ _
  | panicked hshared hpanic teardownPanicked ih => exact ((hpanic.recorded ih).fail _ _).tornDown _ _

end Swbt
