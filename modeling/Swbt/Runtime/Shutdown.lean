import Swbt.Runtime.Ends
/-!
# How a worker shuts down

The calls a worker makes on its transport, from the moment it takes a shutdown
or has failed: a neutral report and a drain where they are asked for, then
disconnect and close, each once and whatever the others answered.
-/

set_option autoImplicit false

open Effects

namespace Swbt

variable {m : ControllerKind} {r : ReportingKind} {base h h' : Log m r} {s s' : Frame m r}

/-! ## Reading calls -/

/-- Operations of the transport, as against the clock, the latch and the queue. -/
def Op.isTransport : Op → Bool
  | .now | .takeShutdown | .nextCommand => false
  | _ => true

/-- Operations that only a cleanup calls. -/
def Op.isCleanup : Op → Bool
  | .drainInterrupt _ | .disconnect | .close => true
  | _ => false

def transportOp : LogEvent m r → Option Op
  | .call _ op _ => if op.isTransport then some op else none
  | .emit .. => none

/-- The calls on the transport, the earliest first. -/
def Log.calls (h : Log m r) : List Op := h.reverse.filterMap transportOp

/-- The phase of a cleanup that an event is. -/
def cleanupPhase : LogEvent m r → Option (CleanupPhase × TransportResult Unit)
  | .call _ (.sendInterrupt _) result => some (.neutral, result)
  | .call _ (.drainInterrupt _) result => some (.drainInterrupt, result)
  | .call _ .disconnect result => some (.disconnect, result)
  | .call _ .close result => some (.transportClose, result)
  | _ => none

/-- The phases of a cleanup with their results, the earliest first. -/
def Log.phases (h : Log m r) : List (CleanupPhase × TransportResult Unit) := h.reverse.filterMap cleanupPhase

def phaseFailure : CleanupPhase × TransportResult Unit → Option CleanupFailure
  | (phase, .error error) => some ⟨phase, error⟩
  | (_, .ok ()) => none

/-- The error of the first phase that failed. -/
def firstFailure (phases : List (CleanupPhase × TransportResult Unit)) : Option CleanupFailure :=
  phases.findSome? phaseFailure

theorem Log.calls_cons (e : LogEvent m r) (h : Log m r) : Log.calls (e :: h) = h.calls ++ (transportOp e).toList := by
  unfold calls
  rw [List.reverse_cons, List.filterMap_append]
  cases hop : transportOp e <;> simp [hop]

theorem Log.phases_cons (e : LogEvent m r) (h : Log m r) :
    Log.phases (e :: h) = h.phases ++ (cleanupPhase e).toList := by
  unfold phases
  rw [List.reverse_cons, List.filterMap_append]
  cases hphase : cleanupPhase e <;> simp [hphase]

theorem Log.calls_append (added h : Log m r) : Log.calls (added ++ h) = h.calls ++ added.calls := by
  unfold calls
  rw [List.reverse_append, List.filterMap_append]

theorem firstFailure_snoc (phases : List (CleanupPhase × TransportResult Unit)) (phase : CleanupPhase)
    (result : TransportResult Unit) :
    firstFailure (phases ++ [(phase, result)]) =
      CleanupSequence.recordFirstFailure (firstFailure phases) phase result := by
  unfold firstFailure CleanupSequence.recordFirstFailure
  rw [List.findSome?_append]
  cases phases.findSome? phaseFailure with
  | some failure => rfl
  | none => cases result <;> rfl

/-! ## A cleanup as it goes -/

/-- Since `base` these calls have been made, with this first failure, and no command was taken. -/
def Cleaning (base : Log m r) (calls : List Op) (failure : Option CleanupFailure) (h : Log m r) : Prop :=
  ∃ added : Log m r, h = added ++ base ∧ added.calls = calls ∧ firstFailure added.phases = failure ∧
    ∀ e ∈ added, takenCommand e = none

namespace Cleaning

variable {calls : List Op} {failure : Option CleanupFailure}

theorem start : Cleaning base [] none base := ⟨[], rfl, rfl, rfl, fun _ hmem => nomatch hmem⟩

/-- An event that is no call on the transport. -/
theorem silent (hcleaning : Cleaning base calls failure h) {e : LogEvent m r} (hop : transportOp e = none)
    (hphase : cleanupPhase e = none) (htaken : takenCommand e = none) : Cleaning base calls failure (e :: h) := by
  obtain ⟨added, rfl, hcalls, hfailure, hcommands⟩ := hcleaning
  refine ⟨e :: added, rfl, ?_, ?_, List.forall_mem_cons.2 ⟨htaken, hcommands⟩⟩
  · rw [Log.calls_cons, hop, hcalls, Option.toList_none, List.append_nil]
  · rw [Log.phases_cons, hphase, Option.toList_none, List.append_nil, hfailure]

/-- The next phase. -/
theorem phase (hcleaning : Cleaning base calls failure h) {e : LogEvent m r} {op : Op} {phase : CleanupPhase}
    {result : TransportResult Unit} (hop : transportOp e = some op) (hphase : cleanupPhase e = some (phase, result))
    (htaken : takenCommand e = none) :
    Cleaning base (calls ++ [op]) (CleanupSequence.recordFirstFailure failure phase result) (e :: h) := by
  obtain ⟨added, rfl, hcalls, hfailure, hcommands⟩ := hcleaning
  refine ⟨e :: added, rfl, ?_, ?_, List.forall_mem_cons.2 ⟨htaken, hcommands⟩⟩
  · rw [Log.calls_cons, hop, hcalls, Option.toList_some]
  · rw [Log.phases_cons, hphase, Option.toList_some, firstFailure_snoc, hfailure]

theorem publish (hcleaning : Cleaning base calls failure h) (publish : Bool) (call : StatusCall m) :
    Cleaning base calls failure (published publish s call h) := by
  cases publish with
  | false => exact hcleaning
  | true => exact hcleaning.silent rfl rfl rfl

end Cleaning

/-- One neutral 0x30 report, where it is wanted. -/
inductive NeutralCalls : Bool → List Op → Prop
  | sent {payload : List UInt8} (hid : payload.head? = some 0x30) (hcontrols : controlBytes payload = neutralControls) :
      NeutralCalls true [.sendInterrupt payload]
  | skipped : NeutralCalls false []

theorem NeutralSent.cleaning {wanted : Bool} {nowNs : UInt64} {failure : Option CleanupFailure}
    (hneutral : NeutralSent wanted nowNs h s h' s' failure) (hbase : Cleaning base [] none h) :
    s'.lifecycle = s.lifecycle ∧ ∃ neutral, NeutralCalls wanted neutral ∧ Cleaning base neutral failure h' := by
  cases hneutral with
  | skipped hwanted =>
    rw [hwanted]
    exact ⟨rfl, [], .skipped, hbase⟩
  | sent hwanted hsent =>
    have hid := s.sender.head_inputCandidate (InputState.neutral : InputState m) nowNs
    have hcontrols := s.sender.controls_inputCandidate (InputState.neutral : InputState m) nowNs
    rw [encodeControls_neutral] at hcontrols
    rw [hwanted]
    cases hsent with
    | refused error => exact ⟨rfl, _, .sent hid hcontrols, hbase.phase rfl rfl rfl⟩
    | accepted =>
      refine ⟨rfl, _, .sent hid hcontrols, ?_⟩
      exact Cleaning.silent (hbase.phase rfl rfl rfl) rfl rfl rfl

theorem Drained.cleaning {sequence : CleanupSequence} {calls : List Op} {failure failure' : Option CleanupFailure}
    (hdrained : Drained sequence s failure h h' failure') (hcleaning : Cleaning base calls failure h) :
    Cleaning base (calls ++ if sequence.drainInterrupt then [.drainInterrupt sequence.drainTimeout] else []) failure'
      h' := by
  cases hdrained with
  | skipped hwanted =>
    rw [hwanted]
    simpa using hcleaning
  | drained hwanted =>
    rw [hwanted]
    exact hcleaning.phase rfl rfl rfl

theorem Cleaned.cleaning {sequence : CleanupSequence} {connected publish : Bool} {nowNs : UInt64}
    {completion : CloseCompletion} (hc : Cleaned sequence connected nowNs publish h s h' s' completion)
    (halive : s.lifecycle.current ≠ .closing) (hbase : Cleaning base [] none h) :
    completion.performed = true ∧ s'.lifecycle = ⟨.closing⟩ ∧
      ∃ neutral, NeutralCalls (decide (sequence.mode = .withNeutral) && connected) neutral ∧
        Cleaning base (neutral ++ (if sequence.drainInterrupt then [.drainInterrupt sequence.drainTimeout] else []) ++
          [.disconnect] ++ [.close]) completion.firstFailure h' := by
  cases hc with
  | closing hclosing => exact absurd hclosing halive
  | performed hlive hneutral hdrained =>
    obtain ⟨hlifecycle, neutral, hcalls, hsent⟩ := hneutral.cleaning (hbase.publish publish (.setLifecycle .closing))
    refine ⟨rfl, hlifecycle, neutral, hcalls, ?_⟩
    refine Cleaning.publish (Cleaning.phase (Cleaning.phase ?_ rfl rfl rfl) rfl rfl rfl) _ _
    exact hdrained.cleaning hsent

/-- The calls of a close. -/
inductive ShutdownCalls (connected : Bool) : ShutdownRequest → List Op → Prop
  | explicit {mode : CloseMode} {neutral : List Op}
      (hneutral : NeutralCalls (decide (mode = .withNeutral) && connected) neutral) :
      ShutdownCalls connected (.explicit mode)
        (neutral ++ [.drainInterrupt explicitCloseDrainTimeout, .disconnect, .close])
  | dropped : ShutdownCalls connected .dropped [.disconnect, .close]

theorem CloseEffect.cleaning {request : ShutdownRequest} {t : Duration} {step : WorkerStep}
    (hc : CloseEffect request t h s h' s' step) (hs : s.Sound) (hbase : Cleaning base [] none h) :
    s'.lifecycle = ⟨.closing⟩ ∧ ∃ calls completion interrupted progress, ShutdownCalls s.connected request calls ∧
      Cleaning base calls completion.firstFailure h' ∧ completion.performed = true ∧
      step = .closed completion interrupted progress := by
  cases hc with
  | closed hcleaned =>
    have halive : s.shut.lifecycle.current ≠ .closing := by
      rw [s.shut_settled.lifecycle]
      intro hclosing
      exact hs.coherent.not_closing (by rw [LifecycleStateMachine.state, hclosing])
    obtain ⟨hperformed, hlifecycle, neutral, hcalls, hcleaning⟩ := hcleaned.cleaning halive hbase
    refine ⟨hlifecycle, _, _, _, _, ?_, hcleaning.silent rfl rfl rfl, hperformed, rfl⟩
    cases request with
    | explicit mode =>
      have hexplicit := ShutdownCalls.explicit hcalls
      simpa [closeSequence, CleanupSequence.new] using hexplicit
    | dropped =>
      cases hcalls
      exact .dropped

theorem AbandonEffect.cleaning {cause : WorkerFailureCause} {failure : Option CleanupFailure}
    (ha : AbandonEffect cause h s h' s' failure) (halive : s.lifecycle.current ≠ .closing) :
    s'.lifecycle = ⟨.closing⟩ ∧
      Cleaning h [.drainInterrupt explicitCloseDrainTimeout, .disconnect, .close] failure h' := by
  cases ha with
  | cleaned hcleaned =>
    have hstart : Cleaning h [] none h := .start
    have hfailed := hstart.silent
      (e := .emit s (.status (.fail (workerFailureStatus cause) (workerFailureCategory cause)))) rfl rfl rfl
    obtain ⟨hperformed, hlifecycle, neutral, hcalls, hcleaning⟩ :=
      hcleaned.cleaning halive (hfailed.silent rfl rfl rfl)
    refine ⟨hlifecycle, ?_⟩
    rw [if_pos hperformed]
    cases hcalls
    exact hcleaning

/-! ## Before the end -/

/-- No call so far belongs to a cleanup. -/
def Log.Uncleaned (h : Log m r) : Prop := ∀ op ∈ h.calls, op.isCleanup = false

theorem Log.Uncleaned.add (hclean : h.Uncleaned) {e : LogEvent m r}
    (hop : (transportOp e).toList.any Op.isCleanup = false) : Log.Uncleaned (e :: h) := by
  intro op hmem
  rw [Log.calls_cons, List.mem_append] at hmem
  rcases hmem with hmem | hmem
  · exact hclean op hmem
  · rw [List.any_eq_false] at hop
    simpa using hop op hmem

theorem Sent.uncleaned {bytes : List UInt8} {candidate : SenderCommit} {result : TransportResult Unit}
    (hsent : Sent bytes candidate h s h' s' result) (hclean : h.Uncleaned) : h'.Uncleaned := by
  cases hsent with
  | refused error => exact hclean.add rfl
  | accepted => exact Log.Uncleaned.add (hclean.add rfl) rfl

theorem Deed.uncleaned (hdeed : Deed h s h' s') (hclean : h.Uncleaned) : h'.Uncleaned := by
  cases hdeed with
  | internal hsteady => exact hclean
  | quiet hstate hquiet =>
    rename_i e
    refine hclean.add ?_
    cases e with
    | emit s out => rfl
    | call s op ans => cases op <;> first | rfl | cases hquiet
  | taken hcommand htap hidle => exact hclean.add rfl
  | begun hopen hclosed => exact Log.Uncleaned.add (Log.Uncleaned.add (hclean.add rfl) rfl) rfl
  | linked hlive => exact hclean.add rfl
  | noticed hlive => exact hclean.add rfl
  | replied hlive hneutral hrequest hprepare hsent hsteady => exact Log.Uncleaned.add (Sent.uncleaned hsent hclean) rfl
  | reported hlive hneutral hsent => exact Sent.uncleaned hsent hclean
  | delivered hr hlive hready hsent =>
    cases hsent with
    | refused hsent => exact Sent.uncleaned hsent hclean
    | accepted hsent => exact Log.Uncleaned.add (Sent.uncleaned hsent hclean) rfl
  | committed hr hidle => exact hclean.add rfl
  | scheduled hlive hclock hstart => exact hclean
  | skipped hlive hclock hpolicy hticks => exact hclean.add rfl
  | automatic hlive hneutral hclock hpolicy hticks hsent => exact Sent.uncleaned hsent (hclean.add rfl)
  | readied hlive hconnecting hneutral => exact hclean.add rfl
  | ended hlive hlifecycle => exact hclean.add rfl

theorem Run.uncleaned (hrun : Run h s) : h.Uncleaned := by
  obtain ⟨core, hnew, hdeeds⟩ := hrun.deeds
  refine Chain.inv (P := fun h _ => Log.Uncleaned h) hdeeds ?_ Deed.uncleaned
  rintro op ⟨⟩

/-! ## Whole runs -/

/-- Disconnect and close have been called last, and never before. -/
def Log.ClosedOnce (h : Log m r) : Prop :=
  ∃ before, h.calls = before ++ [.disconnect, .close] ∧ .disconnect ∉ before ∧ .close ∉ before

theorem Cleaning.closedOnce (before : List Op) {failure : Option CleanupFailure}
    (hcleaning : Cleaning base (before ++ [.disconnect, .close]) failure h) (hbase : base.Uncleaned)
    (hbefore : .disconnect ∉ before ∧ .close ∉ before) : h.ClosedOnce := by
  obtain ⟨added, rfl, hcalls, -⟩ := hcleaning
  refine ⟨base.calls ++ before, ?_, ?_, ?_⟩
  · rw [Log.calls_append, hcalls, List.append_assoc]
  · rw [List.mem_append, not_or]
    exact ⟨fun hmem => (by cases hbase _ hmem), hbefore.1⟩
  · rw [List.mem_append, not_or]
    exact ⟨fun hmem => (by cases hbase _ hmem), hbefore.2⟩

/-- How the transport of a worker ends: the calls since `base`, disconnect and
close only among these, and a worker that makes no more calls. -/
structure ShutDown (base : Log m r) (calls : List Op) (failure : Option CleanupFailure) (h : Log m r) (s : Frame m r) :
    Prop where
  cleaning : Cleaning base calls failure h
  once : h.ClosedOnce
  closing : s.lifecycle = ⟨.closing⟩

theorem NeutralCalls.before {wanted : Bool} {neutral : List Op} (hneutral : NeutralCalls wanted neutral) :
    .disconnect ∉ neutral ∧ .close ∉ neutral := by
  cases hneutral <;> simp

theorem AbandonEffect.shutDown {cause : WorkerFailureCause} {failure : Option CleanupFailure}
    (ha : AbandonEffect cause h s h' s' failure) (halive : s.lifecycle.current ≠ .closing) (hclean : h.Uncleaned) :
    ShutDown h [.drainInterrupt explicitCloseDrainTimeout, .disconnect, .close] failure h' s' := by
  obtain ⟨hlifecycle, hcleaning⟩ := ha.cleaning halive
  refine ⟨hcleaning, ?_, hlifecycle⟩
  exact Cleaning.closedOnce [.drainInterrupt explicitCloseDrainTimeout] hcleaning hclean (by simp)

theorem Deeds.uncleaned (hdeeds : Deeds h s h' s') (hclean : h.Uncleaned) : h'.Uncleaned :=
  Chain.inv (P := fun h _ => Log.Uncleaned h) hdeeds hclean Deed.uncleaned

theorem StepEffect.shutDown {completion : CloseCompletion} {interrupted : Option WorkerCommandError}
    {progress : StepProgress} (he : StepEffect h s h' s' (.closed completion interrupted progress))
    (hclean : h.Uncleaned) :
    ∃ (f : Frame m r) (request : ShutdownRequest) (h₀ : Log m r) (calls : List Op),
      ShutdownCalls f.connected request calls ∧ completion.performed = true ∧
        ShutDown (.call f Op.takeShutdown (some request) :: h₀) calls completion.firstFailure h' s' := by
  generalize hstep : WorkerStep.closed completion interrupted progress = step at he
  cases he with
  | continued hpath hsound => cases hstep
  | failed hpath hsound₁ hmove hsound hfail => cases hfail; cases hstep
  | closed hpath hsound₁ hlast hsound hclose =>
    rename_i h₁ h₂ s₁ s₂ request t
    have hbefore : Log.Uncleaned (.call s₂ Op.takeShutdown (some request) :: h₂) := by
      refine Log.Uncleaned.add ?_ rfl
      exact (hlast.deeds hsound₁).uncleaned (hpath.deeds.uncleaned hclean)
    have hstart : Cleaning (.call s₂ Op.takeShutdown (some request) :: h₂) [] none _ := .start
    obtain ⟨hlifecycle, calls, completion', interrupted', progress', hcalls, hcleaning, hperformed, rfl⟩ :=
      hclose.cleaning hsound (hstart.silent rfl rfl rfl)
    cases hstep
    refine ⟨s₂, request, h₂, calls, hcalls, hperformed, hcleaning, ?_, hlifecycle⟩
    cases hcalls with
    | dropped => exact Cleaning.closedOnce [] hcleaning hbefore (by simp)
    | explicit hneutral =>
      rename_i mode neutral
      have hsplit : neutral ++ [Op.drainInterrupt explicitCloseDrainTimeout, .disconnect, .close] =
          (neutral ++ [.drainInterrupt explicitCloseDrainTimeout]) ++ [.disconnect, .close] := by simp
      rw [hsplit] at hcleaning
      refine Cleaning.closedOnce _ hcleaning hbefore ?_
      have hfree := hneutral.before
      simpa using hfree

/-- A failed step leaves the cleanup to the thread. -/
theorem StepEffect.failed_live {error : WorkerCoreError} {progress : StepProgress}
    (he : StepEffect h s h' s' (.failed error progress)) (hclean : h.Uncleaned) :
    h'.Uncleaned ∧ s'.lifecycle.current ≠ .closing := by
  generalize hstep : WorkerStep.failed error progress = step at he
  cases he with
  | continued hpath hsound => cases hstep
  | closed hpath hsound₁ hlast hsound hclose => cases hclose; cases hstep
  | failed hpath hsound₁ hmove hsound hfail =>
    cases hfail
    refine ⟨?_, fun hclosing => nomatch hclosing⟩
    refine Log.Uncleaned.add (Log.Uncleaned.add ?_ rfl) rfl
    exact (hmove.deeds hsound₁).uncleaned (hpath.deeds.uncleaned hclean)

/-! ## A second cleanup -/

theorem cleanup_again (sequence : CleanupSequence) (connected publish : Bool) (nowNs : UInt64) (h : Log m r)
    (s : Frame m r) (hclosing : s.lifecycle.current = .closing) :
    Act.wp (sequence.run connected nowNs publish) h s fun h' s' completion =>
      h' = h ∧ s' = s ∧ completion = ⟨false, none⟩ := by
  refine Act.wp_mono (cleanup_spec sequence connected nowNs publish h s) ?_
  intro h' s' completion hcleaned
  cases hcleaned with
  | closing _ => exact ⟨rfl, rfl, rfl⟩
  | performed hlive => exact absurd hclosing hlive

theorem cleanupAfterFailure_again (t : Duration) (h : Log m r) (s : Frame m r)
    (hclosing : s.lifecycle.current = .closing) :
    Act.wp (cleanupAfterFailureWithoutNeutral t) h s fun h' _ failure => Log.calls h' = h.calls ∧ failure = none := by
  unfold cleanupAfterFailureWithoutNeutral
  simp only [Act.wp_bind, wp_update, wp_frame]
  refine Act.wp_mono (cleanup_again _ _ false _ h _ hclosing) ?_
  rintro h' s' completion ⟨rfl, rfl, rfl⟩
  exact wp_dropConnection _ ⟨rfl, rfl⟩

theorem completeConnectionCommand_calls (result : CommandResult) (h : Log m r) (s : Frame m r) :
    Act.wp (completeConnectionCommand result) h s fun h' s' _ =>
      Log.calls h' = h.calls ∧ s'.lifecycle = s.lifecycle := by
  unfold completeConnectionCommand recordCommandProgress modifyProgress
  rw [Act.wp_bind, wp_frame]
  split
  · exact ⟨rfl, rfl⟩
  · simp only [Act.wp_bind, wp_update, wp_frame]
    split
    · rw [wp_panicked, Log.calls_cons]
      exact ⟨List.append_nil _, rfl⟩
    · exact ⟨rfl, rfl⟩

theorem close_again (request : ShutdownRequest) (t : Duration) (h : Log m r) (s : Frame m r)
    (hclosing : s.lifecycle.current = .closing) :
    Act.wp (close request t) h s fun h' _ _ => Log.calls h' = h.calls := by
  unfold close
  rw [Act.wp_bind]
  refine Act.wp_mono (completeConnectionCommand_calls _ h s) ?_
  rintro h₁ s₁ - ⟨hcalls, hlifecycle⟩
  rw [Act.wp_bind]
  refine cancelForShutdown_spec _ _ _ ?_
  simp only [Act.wp_bind, wp_update, wp_frame]
  refine Act.wp_mono (cleanup_again _ _ true _ h₁ _ (by rw [← hlifecycle] at hclosing; exact hclosing)) ?_
  rintro h' s' completion ⟨rfl, rfl, rfl⟩
  refine wp_dropConnection _ ?_
  simp only [wp_status, Act.wp_pure]
  rw [Log.calls_cons, hcalls]
  simp [transportOp]

/-! ## The discipline -/

/-- However a worker ends, disconnect and close are its last calls and come
once. A close is preceded by what its request asks for, a failure by a drain
alone; the failure reported is that of the first phase that failed, and a
worker that has cleaned up makes no more calls. -/
theorem shutdown_discipline (hrun : Run h s) :
    (∀ (h' : Log m r) (s' : Frame m r) (completion : CloseCompletion) (interrupted : Option WorkerCommandError)
      (progress : StepProgress), Prog.Exec (stepRuntime s) h h' s' (.closed completion interrupted progress) →
      ∃ (f : Frame m r) (request : ShutdownRequest) (h₀ : Log m r) (calls : List Op),
        ShutdownCalls f.connected request calls ∧ completion.performed = true ∧
          ShutDown (.call f Op.takeShutdown (some request) :: h₀) calls completion.firstFailure h' s') ∧
    (∀ (h' : Log m r) (s' : Frame m r) (cause : WorkerFailureCause) (failure : Option CleanupFailure),
      Prog.Exec (completeWorkerFailure cause s) h h' s' failure →
        ShutDown h [.drainInterrupt explicitCloseDrainTimeout, .disconnect, .close] failure h' s') ∧
    (∀ (h₁ h' : Log m r) (s₁ s' : Frame m r) (error : WorkerCoreError) (progress : StepProgress)
      (cause : WorkerFailureCause) (failure : Option CleanupFailure),
      Prog.Exec (stepRuntime s) h h₁ s₁ (.failed error progress) →
      Prog.Exec (completeWorkerFailure cause s₁) h₁ h' s' failure →
        ShutDown h₁ [.drainInterrupt explicitCloseDrainTimeout, .disconnect, .close] failure h' s') ∧
    (∀ (h₀ h₁ : Log m r) (f s₁ : Frame m r), f.lifecycle = ⟨.closing⟩ →
      (∀ (request : ShutdownRequest) (t : Duration) (step : WorkerStep),
        Prog.Exec (close request t f) h₀ h₁ s₁ step → h₁.calls = h₀.calls) ∧
      (∀ (t : Duration) (failure : Option CleanupFailure),
        Prog.Exec (cleanupAfterFailureWithoutNeutral t f) h₀ h₁ s₁ failure →
          h₁.calls = h₀.calls ∧ failure = none)) := by
  have hclean := hrun.uncleaned
  refine ⟨?_, ?_, ?_, ?_⟩
  · intro h' s' completion interrupted progress hexec
    exact (hexec.post (stepRuntime_spec _ _ hrun.coherent)).shutDown hclean
  · intro h' s' cause failure hexec
    refine (hexec.post (completeWorkerFailure_spec _ _ _)).shutDown ?_ hclean
    intro hclosing
    exact hrun.coherent.not_closing (by rw [LifecycleStateMachine.state, hclosing])
  · intro h₁ h' s₁ s' error progress cause failure hstep hexec
    obtain ⟨hclean₁, halive⟩ := (hstep.post (stepRuntime_spec _ _ hrun.coherent)).failed_live hclean
    exact (hexec.post (completeWorkerFailure_spec _ _ _)).shutDown halive hclean₁
  · intro h₀ h₁ f s₁ hclosing
    have hcurrent : f.lifecycle.current = .closing := by rw [hclosing]
    constructor
    · intro request t step hexec
      exact hexec.post (close_again request t h₀ f hcurrent)
    · intro t failure hexec
      exact hexec.post (cleanupAfterFailure_again t h₀ f hcurrent)

/-- The environment of a scripted step in which a shutdown has been requested. -/
def requested (request : ShutdownRequest) : Nat → (op : Op) → Op.Ans m r op
  | _, .takeShutdown => some request
  | n, op => scripted .ZERO (fun _ => none) (fun _ => []) n op

/-- The sample worker, Ready and connected, is closed with a neutral report. -/
theorem shutdown_discipline_sample : ∃ (h' : Log .pro .direct) (s' : Frame .pro .direct) (step : WorkerStep),
    Prog.Exec (stepRuntime sampleReady.2) sampleReady.1 h' s' step ∧ h'.ClosedOnce := by
  have hexec := Prog.exec_run (requested (.explicit .withNeutral)) (stepRuntime sampleReady.2) 0 sampleReady.1
  have hends : (match ((stepRuntime sampleReady.2).run (requested (.explicit .withNeutral)) 0 sampleReady.1).2.2 with
    | .closed .. => true
    | _ => false) = true := by decide +kernel
  generalize (stepRuntime sampleReady.2).run (requested (.explicit .withNeutral)) 0 sampleReady.1 = ended at hexec hends
  obtain ⟨h', s', step⟩ := ended
  cases step with
  | «continue» progress => cases hends
  | failed error progress => cases hends
  | closed completion interrupted progress =>
    obtain ⟨f, request, h₀, calls, -, -, hshut⟩ := (shutdown_discipline sampleReady_run).1 _ _ _ _ _ hexec
    exact ⟨h', s', _, hexec, hshut.once⟩

end Swbt
