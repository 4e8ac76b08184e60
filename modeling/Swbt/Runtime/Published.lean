import Swbt.Runtime.Generations
import Swbt.Runtime.Shutdown
/-!
# What a controller publishes

The projection against the workers behind it, over every history of workers a
controller can have: its lifecycle, its input and its diagnostics.
-/

set_option autoImplicit false

open Effects

namespace Swbt

variable {m : ControllerKind} {r : ReportingKind} {h h₁ h' : Log m r} {s s₁ s' : Frame m r} {p p₀ : StatusPublisher m r}

/-! ## Failures -/

/-- The projection of a failed worker. -/
structure StatusPublisher.ShowsFailure (p : StatusPublisher m r) : Prop where
  lifecycle : p.lifecycle = .failed
  disconnected : p.connected = false

/-- From `h` on, where it is not shown yet, the failure of a worker is shown to the end of its thread. -/
def StaysFailed (p : StatusPublisher m r) (h h' : Log m r) (cause : WorkerFailureCause) : Prop :=
  (∀ h₂ : Log m r, h <:+ h₂ → h₂ ≠ h → h₂ <:+ h' → (h₂.published p).ShowsFailure) ∧
    ∀ teardownPanicked, ((h'.published p).tornDown (some cause) teardownPanicked).ShowsFailure

theorem StatusPublisher.fail_latched (hlatched : p.workerFailure.isSome = true) (message : String)
    (category : WorkerFailureCategory) : p.fail message category = p := by
  rw [fail, if_pos hlatched]

theorem StatusPublisher.fail_isSome (p : StatusPublisher m r) (message : String) (category : WorkerFailureCategory) :
    (p.fail message category).workerFailure.isSome = true := by
  unfold fail
  split
  · assumption
  · rfl

/-- A failure is shown unless an earlier one still is. -/
theorem StatusPublisher.showsFailure_fail (hlive : p.lifecycle ≠ .failed) (message : String)
    (category : WorkerFailureCategory) : (p.fail message category).ShowsFailure ↔ p.workerFailure = none := by
  unfold fail
  constructor
  · intro hshows
    by_contra hsome
    rw [if_pos (Option.isSome_iff_ne_none.2 hsome)] at hshows
    exact hlive hshows.lifecycle
  · intro hnone
    rw [hnone]
    exact ⟨rfl, rfl⟩

theorem StatusPublisher.tornDown_latched (hlatched : p.workerFailure.isSome = true) (cause : WorkerFailureCause)
    (teardownPanicked : Bool) : p.tornDown (some cause) teardownPanicked = p := by
  unfold tornDown
  split
  · exact fail_latched hlatched _ _
  · exact fail_latched hlatched _ _

theorem Log.published_mute {added : Log m r} (hmute : Mute added) (p : StatusPublisher m r) (h : Log m r) :
    Log.published p (added ++ h) = h.published p := by
  induction added with
  | nil => rfl
  | cons e rest ih =>
    obtain ⟨⟨hstatus, -⟩, hrest⟩ := List.forall_mem_cons.1 hmute
    rw [List.cons_append, Log.published_silent hstatus, ih hrest]

/-- A suffix between `h` and `added ++ h`. -/
theorem suffix_between {α : Type*} {added h h₂ : List α} (hleft : h <:+ h₂) (hright : h₂ <:+ added ++ h) :
    ∃ rest, rest <:+ added ∧ h₂ = rest ++ h := by
  obtain ⟨rest, rfl⟩ := hleft
  obtain ⟨front, hfront⟩ := hright
  rw [← List.append_assoc] at hfront
  exact ⟨rest, ⟨front, List.append_cancel_right hfront⟩, rfl⟩

/-- From the failure of a worker on the projection does not change. -/
theorem AbandonEffect.published {cause : WorkerFailureCause} {failure : Option CleanupFailure}
    (ha : AbandonEffect cause h s h' s' failure) (p : StatusPublisher m r) {h₂ : Log m r} (hafter : h <:+ h₂)
    (hproper : h₂ ≠ h) (hbefore : h₂ <:+ h') : h₂.published p = (h.published p).failFor cause := by
  obtain ⟨added, hmute, rfl⟩ := ha.mute
  rw [List.append_cons] at hbefore
  obtain ⟨rest, hrest, rfl⟩ := suffix_between hafter hbefore
  rcases List.suffix_concat_iff.1 hrest with rfl | ⟨front, rfl, hfront⟩
  · exact absurd rfl hproper
  · rw [← List.append_cons, Log.published_mute fun e he => hmute e (hfront.subset he)]
    rfl

/-- Its failure is shown to the end of a thread if it is shown at all. -/
theorem AbandonEffect.staysFailed_iff {cause : WorkerFailureCause} {failure : Option CleanupFailure}
    (ha : AbandonEffect cause h s h' s' failure) (p : StatusPublisher m r) :
    StaysFailed p h h' cause ↔ ((h.published p).failFor cause).ShowsFailure := by
  obtain ⟨added, hmute, hadded⟩ := ha.mute
  have hafter : h <:+ h' := by
    rw [hadded, List.append_cons]
    exact List.suffix_append _ _
  have hproper : h' ≠ h := by
    intro hequal
    have hlength := congrArg List.length (hequal.symm.trans hadded)
    rw [List.length_append, List.length_cons] at hlength
    omega
  have hend := ha.published p hafter hproper (List.suffix_refl _)
  constructor
  · intro hstays
    rw [← hend]
    exact hstays.1 h' hafter hproper (List.suffix_refl _)
  · intro hfailure
    refine ⟨?_, ?_⟩
    · intro h₂ hafter hproper hbefore
      rw [ha.published p hafter hproper hbefore]
      exact hfailure
    · intro teardownPanicked
      have hlatched : (h'.published p).workerFailure.isSome = true := by
        rw [hend]
        exact StatusPublisher.fail_isSome _ _ _
      rw [StatusPublisher.tornDown_latched hlatched, hend]
      exact hfailure

theorem Latched.none_iff (hlatched : Latched p h s) :
    (h.published p).workerFailure = none ↔ p.workerFailure = none ∨ h.session ≠ none := by
  rw [hlatched.failure]
  by_cases hsession : h.session = none
  · simp [hsession]
  · simp [hsession]

/-- A failure after all has been told is shown, and stays so, unless an earlier one still is. -/
theorem Told.staysFailed {cause : WorkerFailureCause} {failure : Option CleanupFailure} (htold : Told p h s)
    (hlive : s.lifecycle.state ≠ .failed) (ha : AbandonEffect cause h s₁ h' s' failure) :
    StaysFailed p h h' cause ↔ p.workerFailure = none ∨ h.session ≠ none := by
  rw [ha.staysFailed_iff, ← htold.latched.none_iff]
  exact StatusPublisher.showsFailure_fail (by rwa [htold.agrees.lifecycle]) _ _

/-- A step that fails shows the failure, and its cleanup keeps it. -/
theorem Told.stepFailed {error : WorkerCoreError} {progress : StepProgress} {failure : Option CleanupFailure}
    (htold : Told p h s) (hstep : StepPublishes h s h₁ s₁ (.failed error progress))
    (ha : AbandonEffect (.core error) h₁ s₁ h' s' failure) :
    (h₁.published p).ShowsFailure ∧ StaysFailed p h₁ h' (.core error) ↔
      p.workerFailure = none ∨ h₁.session ≠ none := by
  rw [ha.staysFailed_iff]
  cases hstep with
  | failed hpublishes hsound =>
    rename_i h₀ s₀
    have htold := htold.publishes hpublishes
    have hlive : s₀.lifecycle.state ≠ .failed := by
      rcases hsound.coherent.lifecycle_live with hstate | hstate | hstate
      all_goals simp [hstate, LifecycleStateMachine.state]
    have hshows := StatusPublisher.showsFailure_fail (p := h₀.published p) (by rwa [htold.agrees.lifecycle])
      error.statusMessage (failureCategory error)
    rw [Log.session_cons rfl, ← htold.latched.none_iff, ← hshows]
    -- The second failure finds the first one and changes nothing.
    have hlatched := StatusPublisher.fail_isSome (h₀.published p) error.statusMessage (failureCategory error)
    have hkept : ((h₀.published p).fail error.statusMessage (failureCategory error)).failFor (.core error) =
        (h₀.published p).fail error.statusMessage (failureCategory error) := StatusPublisher.fail_latched hlatched _ _
    refine ⟨And.left, fun hfailure => ⟨hfailure, ?_⟩⟩
    exact hkept.symm ▸ hfailure

/-! ## The lifecycle -/

theorem StepPublishes.closed_shown {completion : CloseCompletion} {interrupted : Option WorkerCommandError}
    {progress : StepProgress} (hstep : StepPublishes h s h' s' (.closed completion interrupted progress))
    (p : StatusPublisher m r) : (h'.published p).lifecycle = .closed ∧ (h'.published p).connected = false := by
  cases hstep with
  | closed hpublishes => exact ⟨rfl, rfl⟩

/-- The published lifecycle and connection are those of the worker, and those of
its end. A failure is only missed where an earlier worker's is shown still. -/
theorem published_lifecycle (hshared : Shared p) :
    (∀ {h : Log m r} {s : Frame m r}, Run h s →
      (h.published p).lifecycle = s.lifecycle.state ∧ (h.published p).connected = s.connected) ∧
    (∀ {h h' : Log m r} {s s' : Frame m r} {completion : CloseCompletion} {interrupted : Option WorkerCommandError}
      {progress : StepProgress}, Run h s →
        Prog.Exec (stepRuntime s) h h' s' (.closed completion interrupted progress) →
          (h'.published p).lifecycle = .closed ∧ (h'.published p).connected = false) ∧
    (∀ {h h₁ h' : Log m r} {s s₁ s' : Frame m r} {error : WorkerCoreError} {progress : StepProgress}
      {failure : Option CleanupFailure}, Run h s → Prog.Exec (stepRuntime s) h h₁ s₁ (.failed error progress) →
        Prog.Exec (completeWorkerFailure (.core error) s₁) h₁ h' s' failure →
          ((h₁.published p).ShowsFailure ∧ StaysFailed p h₁ h' (.core error) ↔
            p.workerFailure = none ∨ h₁.session ≠ none)) ∧
    (∀ {h h' : Log m r} {s s' : Frame m r} {cause : WorkerFailureCause} {failure : Option CleanupFailure}, Run h s →
      Prog.Exec (completeWorkerFailure cause s) h h' s' failure →
        (StaysFailed p h h' cause ↔ p.workerFailure = none ∨ h.session ≠ none)) := by
  have hidle := hshared.idle
  refine ⟨?_, ?_, ?_, ?_⟩
  · intro h s hrun
    have hagrees := (hrun.told hidle).agrees
    exact ⟨hagrees.lifecycle, hagrees.connected⟩
  · intro h h' s s' completion interrupted progress hrun hexec
    exact (hexec.post (stepRuntime_spec _ _ hrun.coherent)).publishes.closed_shown p
  · intro h h₁ h' s s₁ s' error progress failure hrun hstep hexec
    exact (hrun.told hidle).stepFailed (hstep.post (stepRuntime_spec _ _ hrun.coherent)).publishes
      (hexec.post (completeWorkerFailure_spec _ _ _))
  · intro h h' s s' cause failure hrun hexec
    refine (hrun.told hidle).staysFailed ?_ (hexec.post (completeWorkerFailure_spec _ _ _))
    rcases hrun.coherent.lifecycle_live with hstate | hstate | hstate
    all_goals simp [hstate, LifecycleStateMachine.state]

/-- A transport that has gone away: every poll fails. -/
def severed : Nat → (op : Op) → Op.Ans m r op
  | _, .poll _ => .error ⟨.sourceTerminated, none⟩
  | n, op => scripted .ZERO (fun _ => none) (fun _ => []) n op

/-- A step in a given environment, and the cleanup after it if it fails. -/
def playOut (env : Nat → (op : Op) → Op.Ans m r op) (point : Log m r × Frame m r) :
    Log m r × Option WorkerFailureCause :=
  let ended := (stepRuntime point.2).run env 0 point.1
  match ended.2.2 with
  | .failed error _ => (((completeWorkerFailure (.core error)) ended.2.1).run env 0 ended.1 |>.1, some (.core error))
  | .closed .. | .continue _ => (ended.1, none)

theorem LoopLeft.playOut {point : Log m r × Frame m r} (hrun : Run point.1 point.2)
    (env : Nat → (op : Op) → Op.Ans m r op) (hends : ((stepRuntime point.2).run env 0 point.1).2.2.goesOn = false) :
    LoopLeft (Swbt.playOut env point).1 (Swbt.playOut env point).2 := by
  have hexec := Prog.exec_run env (stepRuntime point.2) 0 point.1
  unfold Swbt.playOut
  generalize (stepRuntime point.2).run env 0 point.1 = ended at hexec hends
  obtain ⟨h', s', step⟩ := ended
  cases step with
  | «continue» progress => cases hends
  | closed completion interrupted progress => exact .closed hrun hexec
  | failed error progress =>
    have hcleanup := Prog.exec_run env (completeWorkerFailure (.core error) s') 0 h'
    exact .failed hrun hexec hcleanup

/-- The sample worker before its first step. -/
def sampleOpened : Log .pro .direct × Frame .pro .direct := (sampleDirect.openLog, sampleDirect.start)

theorem sampleOpened_run : Run sampleOpened.1 sampleOpened.2 := .opened (.direct _ _)

/-- The sample worker in its first step, with the transport gone. -/
theorem sampleSevered_fails : ∃ error progress,
    ((stepRuntime sampleOpened.2).run severed 0 sampleOpened.1).2.2 = .failed error progress := by
  have hfails : (match ((stepRuntime sampleOpened.2).run severed 0 sampleOpened.1).2.2 with
    | .failed .. => true
    | _ => false) = true := by decide +kernel
  split at hfails
  · exact ⟨_, _, ‹_›⟩
  · cases hfails

/-- The projection of a controller whose worker has lost its transport. -/
def sampleLost : StatusPublisher .pro .direct :=
  ((playOut severed sampleOpened).1.published .new).tornDown (playOut severed sampleOpened).2 false

theorem sampleLost_shared : Shared sampleLost := by
  obtain ⟨error, progress, hfails⟩ := sampleSevered_fails
  refine .stopped .configured (LoopLeft.playOut sampleOpened_run severed ?_) false
  rw [hfails]
  rfl

/-- The sample worker connects, and a first failure is shown. -/
theorem published_lifecycle_sample : (samplePairing.1.published .new).lifecycle = .connecting ∧
    ∃ (h₁ h' : Log .pro .direct) (error : WorkerCoreError),
      (h₁.published .new).ShowsFailure ∧ StaysFailed .new h₁ h' (.core error) := by
  obtain ⟨hlive, -, hfailed, -⟩ := published_lifecycle (.configured : Shared (.new : StatusPublisher .pro .direct))
  refine ⟨(hlive samplePairing_run).1, ?_⟩
  obtain ⟨error, progress, hfails⟩ := sampleSevered_fails
  have hexec := Prog.exec_run severed (stepRuntime sampleOpened.2) 0 sampleOpened.1
  rw [hfails] at hexec
  exact ⟨_, _, error, (hfailed sampleOpened_run hexec (Prog.exec_run severed _ 0 _)).2 (.inl rfl)⟩

/-- The next worker loses its transport too, and is shown as open. -/
theorem reopened_failure_missed : ∃ (p : StatusPublisher .pro .direct) (h h' : Log .pro .direct)
    (s s' : Frame .pro .direct) (error : WorkerCoreError) (progress : StepProgress),
      Shared p ∧ Run h s ∧ Prog.Exec (stepRuntime s) h h' s' (.failed error progress) ∧
        (h'.published p).lifecycle = .open := by
  obtain ⟨error, progress, hfails⟩ := sampleSevered_fails
  have hexec := Prog.exec_run severed (stepRuntime sampleOpened.2) 0 sampleOpened.1
  rw [hfails] at hexec
  exact ⟨sampleLost, _, _, _, _, error, progress, sampleLost_shared, sampleOpened_run, hexec, by decide +kernel⟩

/-! ## The input -/

/-- The published input is the committed one unless the worker has yet to
commit one and finds another worker's. -/
theorem published_snapshot (hshared : Shared p) (hrun : Run h s) :
    (h.published p).snapshot = s.input ↔ p.snapshot = .neutral ∨ h.snapped = true := by
  have hmirrored := (hrun.told hshared.idle).mirrored
  rw [hmirrored.snapshot]
  by_cases hsnapped : h.snapped = true
  · simp [hsnapped]
  · rw [if_neg hsnapped, hmirrored.neutral ((Bool.not_eq_true _).mp hsnapped)]
    exact ⟨.inl, fun hneutral => hneutral.resolve_right hsnapped⟩

/-- The projection of a controller that was closed with the button held. -/
def sampleReleased : StatusPublisher .pro .direct :=
  ((playOut (requested (.explicit .withNeutral)) sampleHeld).1.published .new).tornDown
    (playOut (requested (.explicit .withNeutral)) sampleHeld).2 false

theorem sampleReleased_shared : Shared sampleReleased :=
  .stopped .configured (LoopLeft.playOut sampleHeld_run _ (by decide +kernel)) false

/-- The button is shown while it is held; after that a reopened worker is shown once it has begun a session. -/
theorem published_snapshot_sample :
    (sampleHeld.1.published .new).snapshot = sampleHeld.2.input ∧ sampleHeld.2.input ≠ .neutral ∧
      (sampleReady.1.published sampleReleased).snapshot = sampleReady.2.input ∧ sampleReleased.snapshot ≠ .neutral := by
  refine ⟨(published_snapshot .configured sampleHeld_run).2 (.inl rfl), by decide +kernel, ?_, by decide +kernel⟩
  exact (published_snapshot sampleReleased_shared sampleReady_run).2 (.inr (by decide +kernel))

/-- A reopened worker starts with neutral input, and the button is shown still. -/
theorem reopened_snapshot_stale : ∃ (p : StatusPublisher .pro .direct) (h : Log .pro .direct) (s : Frame .pro .direct),
    Shared p ∧ Run h s ∧ s.input = .neutral ∧ (h.published p).snapshot ≠ s.input :=
  ⟨sampleReleased, _, _, sampleReleased_shared, sampleOpened_run, rfl, by decide +kernel⟩

/-! ## The diagnostics -/

theorem numbers_increase {n : Nat} (hn : n < 2 ^ 64) : (numbers n).Pairwise (· < ·) := by
  rw [numbers, List.pairwise_map]
  refine List.pairwise_lt_range.imp_of_mem ?_
  intro a b ha hb hlt
  rw [List.mem_range] at ha hb
  rw [UInt64.lt_iff_toNat_lt, UInt64.toNat_ofNat_of_lt' (Nat.lt_of_le_of_lt ha hn),
    UInt64.toNat_ofNat_of_lt' (Nat.lt_of_le_of_lt hb hn)]
  omega

/-- A point of a trace at which its environment is called, or its end. -/
def Observed (h₀ h : Log m r) : Prop :=
  h₀ = h ∨ ∃ (f : Frame m r) (op : Op) (ans : Op.Ans m r op), (.call f op ans :: h₀ : Log m r) <:+ h

theorem Trace.left (htrace : Trace h s) (hidle : Idle p) (hended : ¬ Run h s) : Left p h := by
  cases htrace with
  | running hrun => exact absurd hrun hended
  | stepped hrun hexec =>
    rename_i step
    refine (hexec.post (stepRuntime_spec _ _ hrun.coherent)).publishes.left (hrun.told hidle) ?_
    cases step with
    | «continue» progress => exact absurd (.step hrun hexec) hended
    | closed completion interrupted progress => rfl
    | failed error progress => rfl
  | abandoned hrun hexec =>
    have htold := hrun.told hidle
    exact (hexec.post (completeWorkerFailure_spec _ _ _)).left htold.recorded htold.asked
  | failed hrun hfailed hexec =>
    have hleft := (hfailed.post (stepRuntime_spec _ _ hrun.coherent)).publishes.left (hrun.told hidle) rfl
    exact (hexec.post (completeWorkerFailure_spec _ _ _)).left hleft.recorded hleft.asked

/-- The diagnostics of a controller at any point of any of its workers: sessions
start and end in turn with every other event inside its session, and each accepted
payload is told of once, by a counter that starts anew with each worker. -/
theorem diagnostic_stream (hshared : Shared p) :
    (Stream m r p.emitted none ∧ p.panicked = false) ∧
    (∀ {h h₀ : Log m r} {s : Frame m r}, Trace h s → Observed h₀ h →
      Stream m r (h₀.published p).emitted (h₀.published p).sessionId ∧ (h₀.published p).panicked = false ∧
        ∀ kind, h₀.acceptedOf kind < 2 ^ 64 →
          (h₀.published p).counters kind = p.counters kind ++ numbers (h₀.acceptedOf kind) ∧
            (numbers (h₀.acceptedOf kind)).Pairwise (· < ·)) ∧
    (∀ {h : Log m r} {s : Frame m r}, Run h s → (h.published p).sessionId = s.sessions.current) ∧
    (∀ {h : Log m r} {s : Frame m r}, Trace h s → ¬ Run h s → (h.published p).sessionId = none) := by
  have hidle := hshared.idle
  refine ⟨?_, ?_, ?_, ?_⟩
  · refine ⟨?_, hidle.calm⟩
    rw [← hidle.closed]
    exact hidle.stream
  · intro h h₀ s htrace hobserved
    have hrecorded : Recorded p h₀ := by
      rcases hobserved with rfl | ⟨f, op, ans, hsuffix⟩
      · exact (htrace.recorded hidle).1
      · exact always_iff.1 (htrace.recorded hidle).2 _ _ hsuffix
    refine ⟨hrecorded.stream, hrecorded.calm, ?_⟩
    intro kind hbound
    exact ⟨hrecorded.told kind hbound, numbers_increase hbound⟩
  · intro h s hrun
    exact (hrun.told hidle).agrees.current
  · intro h s htrace hended
    exact (htrace.left hidle hended).idle.closed

/-- Three replies of the sample session have been told of. -/
theorem diagnostic_stream_sample :
    Stream .pro .direct (sampleReady.1.published .new).emitted (sampleReady.1.published .new).sessionId ∧
      (sampleReady.1.published .new).counters .reply = [1, 2, 3] := by
  have hcount : sampleReady.1.acceptedOf .reply = 3 := by decide +kernel
  obtain ⟨hstream, hcalm, htold⟩ := (diagnostic_stream .configured).2.1 (.running sampleReady_run) (.inl rfl)
  refine ⟨hstream, ?_⟩
  rw [(htold .reply (by rw [hcount]; decide)).1, hcount]
  decide

end Swbt
