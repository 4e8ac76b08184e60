import Swbt.Runtime.Replay
/-!
# The pace of automatic reports

Once the schedule of a session runs, every automatic attempt of the session
lies in a slot of its own, a whole number of periods after the start. An
attempt moves the schedule past its slot before it asks for send capacity, so
a slot without capacity is gone.
-/

set_option autoImplicit false

open Effects

namespace Swbt

variable {m : ControllerKind} {r : ReportingKind} {h h₁ h' : Log m r} {s s₁ s' f : Frame m r} {e : LogEvent m r}
  {p : Duration}

/-! ## Reading a schedule -/

/-- The configured period, and the schedule if it runs. -/
def Reporting.pace (reporting : Reporting m r) : Option (Duration × Option ReportScheduler) :=
  reporting.policy.map fun policy => (policy.period, policy.scheduler)

/-- The schedule that runs. -/
def Frame.schedule (s : Frame m r) : Option ReportScheduler := s.reporting.pace.bind Prod.snd

namespace Log

/-- What the clock read when the schedule of the session started. -/
def scheduleStart : Log m r → Option Duration
  | [] => none
  | e :: h => match begunSession e with
    | some _ => none
    | none => (scheduleStart h).or (if e.state.schedule.isSome then clock h else none)

/-- The times of the automatic attempts of the session, the latest first. -/
def attempts : Log m r → List Duration
  | [] => []
  | e :: h => match begunSession e with
    | some _ => []
    | none => if asksEvent e then (clock h).toList ++ attempts h else attempts h

/-- The input committed last. -/
def committed : Log m r → InputState m
  | [] => .neutral
  | e :: h => match statusOf e with
    | some (.setSnapshot input) => input
    | _ => committed h

/-- When a schedule that runs now has started. -/
def startAt (h : Log m r) : Option Duration := h.scheduleStart.or h.clock

end Log

/-! ## Slots -/

/-- An attempt of `f` at a time in the slot `k` periods of `p` after the start,
which the schedule has now passed and no earlier attempt has reached. -/
structure InSlot (p : Duration) (h : Log m r) (f : Frame m r) (t start : Duration) (k : Nat) : Prop where
  read : h.clock = some t
  started : h.scheduleStart = some start
  first : 1 ≤ k
  reached : start.asNanos + k * p.asNanos ≤ t.asNanos
  before : t.asNanos < start.asNanos + (k + 1) * p.asNanos
  passed : ∃ scheduler, f.schedule = some scheduler ∧
    scheduler.nextDeadline.asNanos = start.asNanos + (k + 1) * p.asNanos
  earlier : ∀ u ∈ h.attempts, u.asNanos < start.asNanos + k * p.asNanos

/-- A reply that selects the standard input report was accepted in the session. -/
def Log.Selected (h : Log m r) : Prop :=
  ∃ request ∈ h.replied, request.id = 0x03 ∧ request.payload.head? = some 0x30

/-- Every attempt lies in a slot of a schedule that the host has asked for. -/
def Slotted (p : Duration) (e : LogEvent m r) (h : Log m r) : Prop :=
  asksEvent e = true → (∃ t start k, InSlot p h e.state t start k) ∧ e.state.input = h.committed ∧ h.Selected

/-- The schedule of a worker keeps the pace that the log shows. -/
structure Paced (p : Duration) (h : Log m r) (s : Frame m r) : Prop where
  periods : ∀ pace, s.reporting.pace = some pace → pace.1 = p ∧
    ∀ scheduler, pace.2 = some scheduler → scheduler.period = p
  idle : s.sessions.current ≠ none → s.schedule = none → h.scheduleStart = none ∧ h.attempts = []
  running : ∀ scheduler, s.schedule = some scheduler → ∃ start k, h.startAt = some start ∧ 1 ≤ k ∧
    scheduler.nextDeadline.asNanos = start.asNanos + k * p.asNanos ∧
    ∀ u ∈ h.attempts, u.asNanos < scheduler.nextDeadline.asNanos
  selected : s.schedule ≠ none → h.Selected
  slots : Always (Slotted p) h

theorem Log.Selected.cons (hbegun : begunSession e = none) (hselected : h.Selected) : Log.Selected (e :: h) := by
  obtain ⟨request, hmem, hrequest⟩ := hselected
  refine ⟨request, ?_, hrequest⟩
  rw [Log.replied, hbegun]
  dsimp only
  split
  · exact List.mem_append_left _ hmem
  · exact hmem

/-- A schedule that runs keeps its start. -/
theorem Log.startAt_cons {start : Duration} (hbegun : begunSession e = none) (hrunning : e.state.schedule.isSome = true)
    (hstart : h.startAt = some start) : Log.startAt (e :: h) = some start := by
  have hstarted : Log.scheduleStart (e :: h) = some start := by
    rw [Log.scheduleStart, hbegun]
    dsimp only
    rw [if_pos hrunning]
    exact hstart
  rw [Log.startAt, hstarted]
  rfl

/-! ## Deeds that keep the pace -/

/-- An event of `s` that begins no session and asks for nothing. -/
structure Unpaced (s : Frame m r) (e : LogEvent m r) : Prop where
  begun : begunSession e = none
  schedule : e.state.schedule = s.schedule
  asks : asksEvent e = false

theorem Paced.cons (hpaced : Paced p h s) (hunpaced : Unpaced s e) : Paced p (e :: h) s := by
  have hattempts : Log.attempts (e :: h) = h.attempts := by
    rw [Log.attempts, hunpaced.begun]
    simp [hunpaced.asks]
  refine ⟨hpaced.periods, ?_, ?_, ?_, ?_⟩
  · intro hlive hnone
    obtain ⟨hstart, hempty⟩ := hpaced.idle hlive hnone
    rw [hattempts, Log.scheduleStart, hunpaced.begun, hunpaced.schedule, hnone, hstart]
    exact ⟨rfl, hempty⟩
  · intro scheduler hscheduler
    obtain ⟨start, k, hstart, hk, hnext, hearlier⟩ := hpaced.running scheduler hscheduler
    rw [hattempts]
    refine ⟨start, k, ?_, hk, hnext, hearlier⟩
    have hrunning : e.state.schedule.isSome = true := by
      rw [hunpaced.schedule, hscheduler]
      rfl
    exact Log.startAt_cons hunpaced.begun hrunning hstart
  · exact fun hrunning => (hpaced.selected hrunning).cons hunpaced.begun
  · refine And.intro ?_ hpaced.slots
    intro hasks
    rw [hunpaced.asks] at hasks
    cases hasks

theorem Paced.congr (hpaced : Paced p h s) (s' : Frame m r) (hpace : s'.reporting.pace = s.reporting.pace)
    (hlive : s'.sessions.current ≠ none → s.sessions.current ≠ none) : Paced p h s' := by
  have hschedule : s'.schedule = s.schedule := congrArg (·.bind Prod.snd) hpace
  refine ⟨?_, ?_, ?_, ?_, hpaced.slots⟩
  · rw [hpace]
    exact hpaced.periods
  · rw [hschedule]
    exact fun hcurrent => hpaced.idle (hlive hcurrent)
  · rw [hschedule]
    exact hpaced.running
  · rw [hschedule]
    exact hpaced.selected

theorem Reporting.pace_congr {reporting reporting' : Reporting m r} (hpolicy : reporting'.policy = reporting.policy) :
    reporting'.pace = reporting.pace := congrArg (·.map fun policy => (policy.period, policy.scheduler)) hpolicy

theorem Steady.paced (hsteady : Steady s s') (hpaced : Paced p h s) : Paced p h s' := by
  refine hpaced.congr _ (Reporting.pace_congr hsteady.policy) ?_
  rw [hsteady.sessions]
  exact id

theorem Sent.paced {bytes : List UInt8} {candidate : SenderCommit} {result : TransportResult Unit}
    (hsent : Sent bytes candidate h s h' s' result) (hpaced : Paced p h s) : Paced p h' s' := by
  cases hsent with
  | refused error => exact hpaced.cons ⟨rfl, rfl, rfl⟩
  | accepted =>
    have hoffered : Paced p (.call s (Op.sendInterrupt bytes) (.ok ()) :: h) s := hpaced.cons ⟨rfl, rfl, rfl⟩
    have haccepted := hoffered.congr (s.accept bytes candidate) rfl id
    exact haccepted.cons ⟨rfl, rfl, rfl⟩

/-- Recording an output report moves the holdoff alone. -/
theorem Reporting.pace_recorded (reporting : Reporting m r) (t : Duration)
    (completion : Except OutputHandlingError OutputHandling) : (reporting.recorded t completion).pace = reporting.pace := by
  cases reporting with
  | direct runtime => rfl
  | periodic runtime =>
    unfold recorded PeriodicPolicy.recordOutputCompletion
    dsimp only
    split
    · rename_i policy hrecord
      split at hrecord
      · split at hrecord
        · cases hrecord
        · cases hrecord
          rfl
      · cases hrecord
        rfl
    · rfl

theorem Reporting.pace_resetPolicy (reporting : Reporting m r) :
    reporting.resetPolicy.pace = reporting.pace.map fun pace => (pace.1, none) := by
  cases reporting with
  | direct runtime => rfl
  | periodic runtime => rfl

theorem Reporting.pace_stopSession (reporting : Reporting m r) :
    reporting.stopSession.pace = reporting.pace.map fun pace => (pace.1, none) := by
  cases reporting with
  | direct runtime => rfl
  | periodic runtime => rfl

/-- The pace of a worker whose schedule was taken away. -/
theorem Paced.stop (hpaced : Paced p h s) (s' : Frame m r)
    (hpace : s'.reporting.pace = s.reporting.pace.map fun pace => (pace.1, none))
    (hidle : s'.sessions.current ≠ none → h'.scheduleStart = none ∧ h'.attempts = [])
    (hslots : Always (Slotted p) h') : Paced p h' s' := by
  have hnone : s'.schedule = none := by
    unfold Frame.schedule
    rw [hpace]
    cases s.reporting.pace with
    | none => rfl
    | some pace => rfl
  refine ⟨?_, fun hlive _ => hidle hlive, ?_, ?_, hslots⟩
  · intro pace hsome
    obtain ⟨before, hbefore, rfl⟩ := Option.map_eq_some_iff.1 (hpace.symm.trans hsome)
    exact ⟨(hpaced.periods before hbefore).1, nofun⟩
  · rw [hnone]
    exact nofun
  · rw [hnone]
    exact fun hrunning => absurd rfl hrunning

theorem Slotted.of_unasked (hasks : asksEvent e = false) (h : Log m r) : Slotted p e h := by
  intro hasked
  rw [hasks] at hasked
  cases hasked

/-! ## The schedule starts -/

/-- A schedule starts once the host has selected the standard input report. -/
theorem Reporting.pace_started {reporting reporting' : Reporting m r} {session : ProtocolSession} {t : Duration}
    (hstart : reporting.started session t = .ok reporting') :
    reporting'.pace = reporting.pace ∨ ∃ period scheduler, session.reportMode = some 0x30 ∧
      reporting.pace = some (period, none) ∧ ReportScheduler.start t period = .ok scheduler ∧
      reporting'.pace = some (period, some scheduler) := by
  unfold started at hstart
  cases reporting with
  | direct runtime =>
    cases hstart
    exact .inl rfl
  | periodic runtime =>
    dsimp only at hstart
    split at hstart
    · rename_i hmode
      split at hstart
      · cases hstart
      · rename_i outcome policy hunheld
        cases hstart
        unfold PeriodicPolicy.startWhenUnheld at hunheld
        split at hunheld
        · cases hunheld
          exact .inl rfl
        · split at hunheld
          · cases hunheld
            exact .inl rfl
          · rename_i hnone
            split at hunheld
            · cases hunheld
            · rename_i scheduler hscheduler
              cases hunheld
              refine .inr ⟨_, scheduler, hmode, ?_, hscheduler, rfl⟩
              unfold pace
              rw [policy, Option.map_some, hnone]
    · cases hstart
      exact .inl rfl

/-- The schedule starts one period before its first slot. -/
theorem Paced.start {reporting : Reporting m r} {t : Duration} (hpaced : Paced p h s) (hlive : s.sessions.current ≠ none)
    (hclock : h.clock = some t) (hreplayed : Replayed h s)
    (hstart : s.reporting.started s.sender.committed.session t = .ok reporting) : Paced p h { s with reporting } := by
  rcases Reporting.pace_started hstart with hsame | ⟨period, scheduler, hmode, hpace, hscheduler, hpace'⟩
  · exact hpaced.congr _ hsame id
  · obtain ⟨hperiod, -⟩ := hpaced.periods _ hpace
    dsimp only at hperiod
    subst hperiod
    have hnone : s.schedule = none := by
      unfold Frame.schedule
      rw [hpace]
      rfl
    have hsome : Frame.schedule { s with reporting } = some scheduler := by
      unfold Frame.schedule
      rw [hpace']
      rfl
    -- No attempt of this session lies before the start.
    obtain ⟨hunstarted, hempty⟩ := hpaced.idle hlive hnone
    obtain ⟨hsame, hahead⟩ := ReportScheduler.start_ahead hscheduler
    refine ⟨?_, ?_, ?_, ?_, hpaced.slots⟩
    · intro pace hpace
      cases hpace'.symm.trans hpace
      refine ⟨rfl, ?_⟩
      rintro _ ⟨⟩
      exact hsame
    · intro _ hidle
      rw [hsome] at hidle
      cases hidle
    · intro running hrunning
      cases hsome.symm.trans hrunning
      refine ⟨t, 1, ?_, le_rfl, ?_, ?_⟩
      · unfold Log.startAt
        rw [hunstarted, hclock]
        rfl
      · rw [hahead, Nat.one_mul]
      · rw [hempty]
        exact nofun
    · intro _
      have hreplayedMode : h.settings.reportMode = some 0x30 := by
        rw [← hreplayed.settings]
        exact hmode
      rw [h.reportMode_settings] at hreplayedMode
      obtain ⟨request, hlast, hhead⟩ := Option.bind_eq_some_iff.1 hreplayedMode
      have hmem := List.mem_of_getLast? hlast
      rw [List.mem_filter, decide_eq_true_eq] at hmem
      exact ⟨request, hmem.1, hmem.2, hhead⟩

/-! ## Attempts -/

/-- A due step passes a slot that the schedule had not passed before. -/
theorem Paced.slot {before scheduler : ReportScheduler} {t : Duration} {skipped : UInt64} (hpaced : Paced p h s)
    (hclock : h.clock = some t) (hbefore : s.schedule = some before) (hperiod : before.period = p)
    (hstep : before.step t = .ok (.due skipped, scheduler)) (hscheduler : f.schedule = some scheduler) :
    ∃ start k, InSlot p h f t start k := by
  obtain ⟨start, k, hstart, hk, hnext, hearlier⟩ := hpaced.running before hbefore
  obtain ⟨-, n, hreached, hahead, hpassed⟩ := ReportScheduler.step_due hstep
  have hpos := before.period_pos
  rw [hperiod] at hreached hahead hpassed hpos
  -- the first slot lies ahead of the start, so the schedule did not start at `t`
  have hstarted : h.scheduleStart = some start := by
    cases hcase : h.scheduleStart with
    | some first =>
      rw [Log.startAt, hcase] at hstart
      exact hstart
    | none =>
      rw [Log.startAt, hcase, hclock] at hstart
      cases hstart
      have hperiods := Nat.le_mul_of_pos_left p.asNanos hk
      omega
  have hslot : (k + n) * p.asNanos = k * p.asNanos + n * p.asNanos := Nat.add_mul _ _ _
  rw [Nat.succ_mul] at hahead hpassed
  refine ⟨start, k + n, hclock, hstarted, hk.trans (Nat.le_add_right _ _), ?_, ?_, ⟨scheduler, hscheduler, ?_⟩, ?_⟩
  · omega
  · rw [Nat.succ_mul]
    omega
  · rw [Nat.succ_mul]
    omega
  · intro u hmem
    have hbound := hearlier u hmem
    omega

/-- An attempt moves the schedule past its slot. -/
theorem Paced.attempt {policy : PeriodicPolicy} {t : Duration} {skipped : UInt64} {scheduler : ReportScheduler}
    (hpaced : Paced p h s) (hclock : h.clock = some t) (hcommitted : h.committed = s.input)
    (hpolicy : s.reporting.policy = some policy) (hticks : Ticks policy t skipped scheduler) (available : Bool) :
    Paced p
      (.call (s.setPolicy { policy with scheduler := some scheduler }) Op.interruptSendCapacityAvailable available :: h)
      (s.setPolicy { policy with scheduler := some scheduler }) := by
  obtain ⟨before, hbefore, hstep⟩ := hticks.step
  have hpace : s.reporting.pace = some (policy.period, some before) := by
    unfold Reporting.pace
    rw [hpolicy, Option.map_some, hbefore]
  have hpace' : (s.setPolicy { policy with scheduler := some scheduler }).reporting.pace =
      some (policy.period, some scheduler) :=
    congrArg (·.map fun policy => (policy.period, policy.scheduler)) (Reporting.policy_withPolicy hpolicy _)
  have hschedule : s.schedule = some before := congrArg (·.bind Prod.snd) hpace
  have hschedule' : (s.setPolicy { policy with scheduler := some scheduler }).schedule = some scheduler :=
    congrArg (·.bind Prod.snd) hpace'
  obtain ⟨hperiod, hsame⟩ := hpaced.periods _ hpace
  have hselected := hpaced.selected (by rw [hschedule]; exact Option.some_ne_none _)
  obtain ⟨start, k, hslot⟩ := hpaced.slot hclock hschedule (hsame before rfl) hstep hschedule'
  -- The slot just passed is the last: the running schedule aims at the next one.
  refine ⟨?_, ?_, ?_, ?_, ?_⟩
  · intro pace hsome
    cases hpace'.symm.trans hsome
    refine ⟨hperiod, ?_⟩
    rintro _ ⟨⟩
    exact (ReportScheduler.step_due hstep).1.trans (hsame before rfl)
  · intro _ hidle
    rw [hschedule'] at hidle
    cases hidle
  · intro running hrunning
    cases hschedule'.symm.trans hrunning
    obtain ⟨_, hsome, hpassed⟩ := hslot.passed
    cases hschedule'.symm.trans hsome
    refine ⟨start, k + 1, ?_, Nat.le_add_left _ _, hpassed, ?_⟩
    · have hstart : h.startAt = some start := by
        unfold Log.startAt
        rw [hslot.started]
        rfl
      have hrunning := congrArg Option.isSome hschedule'
      exact Log.startAt_cons rfl hrunning hstart
    · intro u hmem
      have hattempts : u ∈ t :: h.attempts := by
        rw [Log.attempts] at hmem
        change u ∈ h.clock.toList ++ h.attempts at hmem
        rw [hclock] at hmem
        exact hmem
      rcases List.mem_cons.1 hattempts with rfl | hmem
      · rw [hpassed]
        exact hslot.before
      · have hbefore := hslot.earlier u hmem
        rw [hpassed, Nat.succ_mul]
        omega
  · exact fun _ => hselected.cons rfl
  · refine And.intro ?_ hpaced.slots
    exact fun _ => ⟨⟨t, start, k, hslot⟩, hcommitted.symm, hselected⟩

/-! ## Deeds -/

/-- Beginning a session leaves no attempt. -/
theorem Paced.begin (hpaced : Paced p h s) (kind : ConnectionCommandKind) (deadline : Duration) :
    Paced p (s.beginLog deadline h) (s.begin kind deadline) := by
  refine hpaced.stop _ s.reporting.pace_resetPolicy (fun _ => ⟨rfl, rfl⟩) ?_
  refine And.intro ?_ (And.intro ?_ (And.intro ?_ hpaced.slots))
  · exact Slotted.of_unasked rfl _
  · exact Slotted.of_unasked rfl _
  · exact Slotted.of_unasked rfl _

theorem DirectSent.paced {candidate : InputState m} {nowNs : UInt64} {result : TransportResult Unit}
    (hsent : DirectSent candidate nowNs h s h' s' result) (hpaced : Paced p h s) : Paced p h' s' := by
  cases hsent with
  | refused hsent => exact Sent.paced hsent hpaced
  | accepted hsent =>
    rename_i h₁ s₁
    have hcommit := (Sent.paced hsent hpaced).congr (s₁.commit candidate) rfl id
    exact hcommit.cons ⟨rfl, rfl, rfl⟩

theorem quietEvent_unasked (hquiet : quietEvent e = true) : asksEvent e = false := by
  cases e with
  | emit s out => rfl
  | call s op ans =>
    cases op with
    | interruptSendCapacityAvailable => cases hquiet
    | _ => rfl

theorem Deed.paced (hdeed : Deed h s h' s') (hpaced : Paced p h s) (hcommitted : h.committed = s.input)
    (hreplayed : s.sessions.current ≠ none → Replayed h s) : Paced p h' s' := by
  cases hdeed with
  | internal hsteady => exact hsteady.paced hpaced
  | quiet hstate hquiet =>
    refine hpaced.cons ⟨(quietEvent_silent hquiet).begun, ?_, quietEvent_unasked hquiet⟩
    rw [hstate]
  | taken hcommand htap hidle => exact hpaced.cons ⟨rfl, rfl, rfl⟩
  | begun hopen hclosed => exact hpaced.begin _ _
  | linked hlive => exact (hpaced.congr s.connect rfl id).cons ⟨rfl, rfl, rfl⟩
  | noticed hlive =>
    rename_i id'
    exact (hpaced.congr (s.observe id') rfl id).cons ⟨rfl, rfl, rfl⟩
  | replied hlive hneutral hrequest hprepare hsent hsteady =>
    rename_i request action result h₁ s₁ s₂ t errors
    have hreplied : Paced p h₁ s₂ := hsteady.paced (hsent.paced hpaced)
    have hread : Paced p (.call s₂ Op.now t :: h₁) s₂ := hreplied.cons ⟨rfl, rfl, rfl⟩
    exact hread.congr _ (Reporting.pace_recorded _ _ _) id
  | reported hlive hneutral hsent => exact Sent.paced hsent hpaced
  | delivered hr hlive hready hsent => exact hsent.paced hpaced
  | committed hr hidle =>
    rename_i candidate
    exact (hpaced.congr (s.commit candidate) rfl id).cons ⟨rfl, rfl, rfl⟩
  | scheduled hlive hclock hstart => exact hpaced.start hlive hclock (hreplayed hlive) hstart
  | skipped hlive hclock hpolicy hticks => exact hpaced.attempt hclock hcommitted hpolicy hticks false
  | automatic hlive hneutral hclock hpolicy hticks hsent =>
    exact Sent.paced hsent (hpaced.attempt hclock hcommitted hpolicy hticks true)
  | readied hlive hconnecting hneutral => exact (hpaced.congr s.markReady rfl id).cons ⟨rfl, rfl, rfl⟩
  | ended hlive hlifecycle =>
    refine hpaced.stop s.endSession s.reporting.pace_stopSession ?_ (And.intro (Slotted.of_unasked rfl _) hpaced.slots)
    exact fun hcurrent => absurd rfl hcurrent

/-! ## The committed input -/

theorem Log.committed_cons (hstatus : ∀ input, statusOf e ≠ some (.setSnapshot input)) :
    Log.committed (e :: h) = h.committed := by
  rw [Log.committed]
  split
  · exact absurd ‹_› (hstatus _)
  · rfl

theorem Sent.committed {bytes : List UInt8} {candidate : SenderCommit} {result : TransportResult Unit}
    (hsent : Sent bytes candidate h s h' s' result) (hcommitted : h.committed = s.input) : h'.committed = s'.input := by
  cases hsent with
  | refused error => exact hcommitted
  | accepted => exact hcommitted

theorem Deed.committed_input (hdeed : Deed h s h' s') (hcommitted : h.committed = s.input) : h'.committed = s'.input := by
  cases hdeed with
  | internal hsteady => exact hcommitted.trans hsteady.input.symm
  | quiet hstate hquiet =>
    rw [Log.committed_cons, hcommitted]
    rw [(quietEvent_silent hquiet).status]
    exact nofun
  | taken hcommand htap hidle => exact hcommitted
  | begun hopen hclosed => rfl
  | linked hlive => exact hcommitted
  | noticed hlive => exact hcommitted
  | replied hlive hneutral hrequest hprepare hsent hsteady =>
    exact (hsent.committed hcommitted).trans hsteady.input.symm
  | reported hlive hneutral hsent => exact Sent.committed hsent hcommitted
  | delivered hr hlive hready hsent =>
    cases hsent with
    | refused hsent => exact Sent.committed hsent hcommitted
    | accepted hsent => rfl
  | committed hr hidle => rfl
  | scheduled hlive hclock hstart => exact hcommitted
  | skipped hlive hclock hpolicy hticks => exact hcommitted
  | automatic hlive hneutral hclock hpolicy hticks hsent => exact Sent.committed hsent hcommitted
  | readied hlive hconnecting hneutral => exact hcommitted
  | ended hlive hlifecycle => exact hcommitted

end Swbt
