import Swbt.Runtime.Generations
import Swbt.Runtime.Pacing
import Swbt.Runtime.Readiness
/-!
# Automatic attempts

An automatic attempt asks for send capacity and sends its report only if there
is some. The slots of a run all have the length it was opened with.
-/

set_option autoImplicit false

open Effects

namespace Swbt

variable {m : ControllerKind} {r : ReportingKind} {h h₀ h₁ h' : Log m r} {s s₁ s' f : Frame m r} {e : LogEvent m r}

/-! ## Attempts and their reports -/

/-- The attempt at the head of the log found no capacity. -/
def Log.declined : Log m r → Bool
  | .call _ .interruptSendCapacityAvailable available :: _ => !available
  | _ => false

def findsCapacity : LogEvent m r → Bool
  | .call _ .interruptSendCapacityAvailable available => available
  | _ => false

/-- Nothing is sent right after an attempt without capacity, and the report
right after one that found some. -/
structure Attended (h : Log m r) : Prop where
  unsent : Always (fun e h => Log.declined h = true → offeredPayload e = none) h
  filled : ∀ (e : LogEvent m r) (h₀ : Log m r), e :: h₀ <:+ h → findsCapacity e = true → ∃ t result,
    h₀.clock = some t ∧
      .call e.state (Op.sendInterrupt (e.state.sender.inputCandidate e.state.input (protocolTimestamp t)).1) result ::
        e :: h₀ <:+ h

/-- The log goes on after an attempt that is attended to, or without one. -/
structure Settles (h : Log m r) : Prop where
  attended : Attended h
  undeclined : h.declined = false

theorem findsCapacity_of_asks (hasks : asksEvent e = false) : findsCapacity e = false := by
  cases e with
  | emit s out => rfl
  | call s op ans =>
    cases op with
    | interruptSendCapacityAvailable => cases hasks
    | _ => rfl

theorem Log.declined_of_asks (hasks : asksEvent e = false) : Log.declined (e :: h) = false := by
  cases e with
  | emit s out => rfl
  | call s op ans =>
    cases op with
    | interruptSendCapacityAvailable => cases hasks
    | _ => rfl

theorem Attended.cons (hattended : Attended h) (hoffered : h.declined = true → offeredPayload e = none)
    (hfinds : findsCapacity e = false) : Attended (e :: h) := by
  refine ⟨And.intro hoffered hattended.unsent, ?_⟩
  intro e' h₀ hsuffix hfound
  rcases List.suffix_cons_iff.1 hsuffix with heq | hsuffix
  · cases heq
    rw [hfinds] at hfound
    cases hfound
  · obtain ⟨t, result, hclock, hreport⟩ := hattended.filled e' h₀ hsuffix hfound
    exact ⟨t, result, hclock, hreport.trans (List.suffix_cons _ _)⟩

/-- An event that sends nothing settles the log. -/
theorem Attended.settle (hattended : Attended h) (hoffered : offeredPayload e = none) (hasks : asksEvent e = false) :
    Settles (e :: h) :=
  ⟨hattended.cons (fun _ => hoffered) (findsCapacity_of_asks hasks), Log.declined_of_asks hasks⟩

theorem Adds.settles (hadds : Adds (fun e => asksEvent e = false) h h') (hsettles : Settles h) : Settles h' := by
  obtain ⟨added, rfl, hall⟩ := hadds
  induction added with
  | nil => exact hsettles
  | cons e rest ih =>
    obtain ⟨hasks, hrest⟩ := List.forall_mem_cons.1 hall
    have hbefore := ih hrest
    refine ⟨hbefore.attended.cons ?_ (findsCapacity_of_asks hasks), Log.declined_of_asks hasks⟩
    rw [hbefore.undeclined]
    exact nofun

theorem Adds.unasked (hadds : Adds Unnoted h h') : Adds (fun e => asksEvent e = false) h h' :=
  hadds.mono fun _ he => he.asked

theorem DriveEffect.unasked {t : Duration} {result : Except WorkerCoreError Nat} (he : DriveEffect t h s h' s' result) :
    Adds (fun e => asksEvent e = false) h h' := by
  have hroutine : ∀ {h h' : Log m r}, Adds Routine h h' → Adds (fun e => asksEvent e = false) h h' :=
    fun hadds => hadds.mono fun _ hevent => (Routine.unnoted hevent).asked
  cases he with
  | idle hnone => exact .refl
  | aborted hwork hinactive => exact Adds.single rfl
  | failed hwork hactive hhandshake => exact hroutine hhandshake.routine
  | pending hwork hactive hhandshake hevaluated hresult =>
    rw [hevaluated.log]
    exact hroutine hhandshake.routine
  | ready hwork hactive hhandshake hevaluated hresult =>
    rw [hevaluated.log]
    refine (hroutine hhandshake.routine).cons ?_
    rfl
  | evaluationFailed hwork hactive hhandshake hevaluated hresult =>
    rw [hevaluated.log]
    refine (hroutine hhandshake.routine).cons ?_
    rfl

theorem EventEffect.settles {event : SessionEvent} {result : Except WorkerCoreError Bool}
    (he : EventEffect event h s h' s' result) (hattended : Attended h) : Settles h' := by
  have hcame : ∀ event : Option SessionEvent, Settles (.emit s (.processed event) :: h) :=
    fun event => hattended.settle rfl rfl
  cases he with
  | dropped hstale => exact hcame _
  | connected hcurrent hevent => exact (hcame _).attended.settle rfl rfl
  | opened hcurrent hevent => exact hcame _
  | answered hcurrent hevent hheld hanswered =>
    have hsettles := Adds.settles (Adds.unasked hanswered.unnoted) (hcame _)
    exact hsettles.attended.settle rfl rfl
  | disconnected hcurrent hevent => exact (hcame _).attended.settle rfl rfl

/-- An attempt that finds capacity is attended to once its report is sent. -/
theorem Settles.report {t : Duration} (hsettles : Settles h) (hclock : h.clock = some t) (result : TransportResult Unit) :
    Settles (.call s (Op.sendInterrupt (s.sender.inputCandidate s.input (protocolTimestamp t)).1) result ::
      .call s Op.interruptSendCapacityAvailable true :: h) := by
  refine ⟨⟨And.intro nofun (And.intro (fun _ => rfl) hsettles.attended.unsent), ?_⟩, rfl⟩
  intro e h₀ hsuffix hfound
  rcases List.suffix_cons_iff.1 hsuffix with heq | hsuffix
  · cases heq
    cases hfound
  · rcases List.suffix_cons_iff.1 hsuffix with heq | hsuffix
    · cases heq
      exact ⟨t, result, hclock, List.suffix_refl _⟩
    · obtain ⟨u, sent, hread, hreport⟩ := hsettles.attended.filled e h₀ hsuffix hfound
      exact ⟨u, sent, hread, (hreport.trans (List.suffix_cons _ _)).trans (List.suffix_cons _ _)⟩

theorem Settles.sent {t : Duration} {result : TransportResult Unit} (hsettles : Settles h) (hclock : h.clock = some t)
    (hsent : InputSent s.input (protocolTimestamp t) (.call s Op.interruptSendCapacityAvailable true :: h) s h' s' result) :
    Settles h' := by
  unfold InputSent at hsent
  cases hsent with
  | refused error => exact hsettles.report hclock _
  | accepted => exact (hsettles.report hclock (.ok ())).attended.settle rfl rfl

theorem DueEffect.attended {t : Duration} {due : ReportingDue} (he : DueEffect t (.call s Op.now t :: h) s h' s' due)
    (hattended : Attended h) : Attended h' := by
  have hread : Settles (.call s Op.now t :: h) := hattended.settle rfl rfl
  cases he with
  | quiet htap hpolicy => exact hread.attended
  | failed hpolicy herror => exact hread.attended
  | backpressured htap hpolicy hticks => exact hread.attended.cons (fun _ => rfl) rfl
  | automatic hpolicy hticks hsent herrors => exact (hread.sent rfl hsent).attended
  | released htap hdue hreleased =>
    exact (Adds.settles (hreleased.routine.mono fun _ hevent => (Routine.unnoted hevent).asked) hread).attended

theorem Move.attended {terminal : Option WorkerCoreError} (hmove : Move h s terminal h' s') (hattended : Attended h) :
    Attended h' := by
  cases hmove with
  | unrequested => exact (hattended.settle rfl rfl).attended
  | noCommand hcommand htap => exact (hattended.settle rfl rfl).attended
  | polled => exact (hattended.settle rfl rfl).attended
  | pollFailed => exact (hattended.settle rfl rfl).attended
  | untagged => exact (hattended.settle rfl rfl).attended
  | progress hresult => exact hattended
  | command hcommand htap hresult heffect =>
    refine (Adds.settles (Adds.unasked heffect.unnoted) ?_).attended
    exact hattended.settle rfl rfl
  | event heffect => exact (heffect.settles hattended).attended
  | drive heffect =>
    refine (Adds.settles heffect.unasked ?_).attended
    exact hattended.settle rfl rfl
  | due hallowed heffect => exact heffect.attended hattended

theorem Path.attended (hpath : Path h s h' s') (hattended : Attended h) : Attended h' :=
  hpath.inv (P := fun h _ => Attended h) hattended fun _ hmove => hmove.attended

theorem StepEffect.attended {step : WorkerStep} (he : StepEffect h s h' s' step) (hattended : Attended h) :
    Attended h' := by
  cases he with
  | continued hpath hsound => exact hpath.attended hattended
  | closed hpath hsound₁ hlast hsound hclose =>
    rename_i h₁ h₂ s₁ s₂ request t
    have hmoved : Attended h₂ := by
      cases hlast with
      | none => exact hpath.attended hattended
      | terminal hmove => exact hmove.attended (hpath.attended hattended)
    refine (Adds.settles (Adds.unasked hclose.unnoted) ?_).attended
    exact (hmoved.settle rfl rfl).attended.settle rfl rfl
  | failed hpath hsound₁ hmove hsound hfail =>
    have hmoved := hmove.attended (hpath.attended hattended)
    cases hfail
    exact ((hmoved.settle rfl rfl).attended.settle rfl rfl).attended

theorem AbandonEffect.attended {cause : WorkerFailureCause} {failure : Option CleanupFailure}
    (ha : AbandonEffect cause h s h' s' failure) (hattended : Attended h) : Attended h' := by
  cases ha with
  | cleaned hcleaned =>
    refine (Adds.settles (Adds.unasked hcleaned.unnoted) ?_).attended
    exact (hattended.settle rfl rfl).attended.settle rfl rfl

theorem Run.attended (hrun : Run h s) : Attended h := by
  induction hrun with
  | opened hnew =>
    refine ⟨And.intro nofun trivial, ?_⟩
    intro e h₀ hsuffix hfound
    rcases List.suffix_cons_iff.1 hsuffix with heq | hsuffix
    · cases heq
      cases hfound
    · cases List.suffix_nil.1 hsuffix
  | step hrun hexec ih => exact (hexec.post (stepRuntime_spec _ _ hrun.coherent)).attended ih

theorem Trace.attended (htrace : Trace h s) : Attended h := by
  cases htrace with
  | running hrun => exact hrun.attended
  | stepped hrun hexec => exact (hexec.post (stepRuntime_spec _ _ hrun.coherent)).attended hrun.attended
  | abandoned hrun hexec => exact (hexec.post (completeWorkerFailure_spec _ _ _)).attended hrun.attended
  | failed hrun hstep hexec =>
    have hstepped := (hstep.post (stepRuntime_spec _ _ hrun.coherent)).attended hrun.attended
    exact (hexec.post (completeWorkerFailure_spec _ _ _)).attended hstepped

/-! ## Runs -/

/-- The period that a worker was opened with. -/
def Log.configuredPeriod (h : Log m r) : Option Duration := h.getLast?.bind fun e => e.state.reporting.pace.map Prod.fst

theorem Adds.slots {p : Duration} (hadds : Adds (fun e => asksEvent e = false) h h') (hslots : Always (Slotted p) h) :
    Always (Slotted p) h' := by
  obtain ⟨added, rfl, hall⟩ := hadds
  induction added with
  | nil => exact hslots
  | cons e rest ih =>
    obtain ⟨hasks, hrest⟩ := List.forall_mem_cons.1 hall
    exact And.intro (.of_unasked hasks _) (ih hrest)

theorem Ending.unasked (hend : Ending h s h' s') : Adds (fun e => asksEvent e = false) h h' := by
  cases hend with
  | internal hsettled => exact .refl
  | call hstate hcall =>
    refine Adds.single ?_
    rename_i e
    cases e with
    | emit s out => rfl
    | call s op ans =>
      cases op with
      | interruptSendCapacityAvailable => cases hcall
      | _ => rfl
  | failed halive => exact Adds.single rfl
  | abandoned => exact Adds.single rfl
  | closing publish =>
    cases publish with
    | true => exact Adds.single rfl
    | false => exact .refl
  | neutral hlive hclosing hsent =>
    exact (InputSent.routine hsent).mono fun _ hevent => (Routine.unnoted hevent).asked
  | closed => exact Adds.single rfl
  | dropped => exact .refl

/-- What is true of a worker while it makes its deeds. -/
structure PacedRun (p : Duration) (h : Log m r) (s : Frame m r) : Prop where
  paced : Paced p h s
  committed : h.committed = s.input
  replayed : s.sessions.current ≠ none → Replayed h s
  always : Always ReplayedAt h

theorem Deed.pacedRun {p : Duration} (hdeed : Deed h s h' s') (hbefore : PacedRun p h s) : PacedRun p h' s' := by
  obtain ⟨hreplayed, halways⟩ := hdeed.wires.inv Wire.replayed Wire.replayedAt hbefore.replayed hbefore.always
  exact ⟨hdeed.paced hbefore.paced hbefore.committed hbefore.replayed, hdeed.committed_input hbefore.committed,
    hreplayed, halways⟩

/-- A new periodic worker has a period and no schedule. -/
theorem WorkerCore.IsNew.pace {core : WorkerCore m .periodic} (hnew : core.IsNew) :
    ∃ p, core.reporting.pace = some (p, none) := by
  cases hnew with
  | periodic hnew =>
    rename_i protocol period budget
    unfold WorkerCore.newPeriodic PeriodicPolicy.new at hnew
    split at hnew
    · cases hnew
    · rename_i policy hpolicy
      cases hnew
      split at hpolicy
      · cases hpolicy
      · cases hpolicy
        exact ⟨period, rfl⟩

theorem PacedRun.opened {core : WorkerCore m r} {p : Duration} (hnew : core.IsNew)
    (hpace : core.reporting.pace = some (p, none)) : PacedRun p core.openLog core.start := by
  have hclosed : core.start.sessions.current = none := hnew.isOpen.current
  have hnone : core.start.schedule = none := congrArg (·.bind Prod.snd) hpace
  refine ⟨⟨?_, fun hlive => absurd hclosed hlive, ?_, ?_, And.intro (Slotted.of_unasked rfl _) trivial⟩, ?_,
    fun hlive => absurd hclosed hlive, And.intro (fun _ hlive => absurd hclosed hlive) trivial⟩
  · intro pace hsome
    cases hpace.symm.trans hsome
    exact ⟨rfl, nofun⟩
  · rw [hnone]
    exact nofun
  · rw [hnone]
    exact fun hrunning => absurd rfl hrunning
  · exact hnew.fresh.2.2.symm

/-- The slots of a run have the length it was opened with. -/
theorem Trace.slots {h : Log m .periodic} {s : Frame m .periodic} (htrace : Trace h s) :
    ∃ p, h.configuredPeriod = some p ∧ Always (Slotted p) h := by
  obtain ⟨core, hnew, h₁, s₁, hdeeds, hends⟩ := htrace.split
  obtain ⟨p, hpace⟩ := hnew.pace
  have hpaced : PacedRun p h₁ s₁ := Chain.inv hdeeds (.opened hnew hpace) Deed.pacedRun
  refine ⟨p, ?_, ?_⟩
  · obtain ⟨added, hadded⟩ := (hdeeds.wires.trans hends.wires).suffix
    unfold Log.configuredPeriod
    rw [← hadded, List.getLast?_append]
    change core.start.reporting.pace.map Prod.fst = some p
    rw [show core.start.reporting.pace = _ from hpace]
    rfl
  · refine Chain.inv (P := fun h _ => Always (Slotted p) h) hends hpaced.paced.slots ?_
    exact fun hend hslots => Adds.slots hend.unasked hslots

/-! ## A sample -/

def samplePeriodic : WorkerCore .pro .periodic :=
  .fromOpenTransport sampleProtocol (.periodic ⟨⟨samplePeriod, none, none⟩, none⟩) sampleBudget

theorem samplePeriodic_isNew : samplePeriodic.IsNew := by
  have hnew : WorkerCore.newPeriodic sampleProtocol samplePeriod sampleBudget = .ok samplePeriodic := rfl
  exact .periodic hnew

/-- The periodic worker once its host has connected. -/
def samplePaired : Log .pro .periodic × Frame .pro .periodic :=
  play (scripted .ZERO (fun _ => none) fun n => if n = 1 then [.connected, .hidChannelOpened .control,
    .hidChannelOpened .interrupt, sampleSubcommand 0x03 0x30, sampleSubcommand 0x30 0x01] else [])
    (play (scripted .ZERO (fun _ => some (.pair sampleTimeout)) fun _ => [])
      (samplePeriodic.openLog, samplePeriodic.start))

/-- The periodic worker after its holdoff, which starts its schedule, and a period later. -/
def sampleTicked : Log .pro .periodic × Frame .pro .periodic :=
  play (scripted ⟨308000000, by decide⟩ (fun _ => none) fun _ => [])
    (play (scripted replyHoldoff (fun _ => none) fun _ => []) samplePaired)

theorem sampleTicked_run : Run sampleTicked.1 sampleTicked.2 := by
  have hopened : Run samplePeriodic.openLog samplePeriodic.start := .opened samplePeriodic_isNew
  have hpairing := @Run.play _ _ (samplePeriodic.openLog, samplePeriodic.start) hopened
    (scripted .ZERO (fun _ => some (.pair sampleTimeout)) fun _ => []) (by decide +kernel)
  have hpaired : Run samplePaired.1 samplePaired.2 := hpairing.play _ (by decide +kernel)
  exact (hpaired.play _ (by decide +kernel)).play _ (by decide +kernel)

end Swbt
