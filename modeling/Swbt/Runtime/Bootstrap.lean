import Swbt.Runtime.Handling
import Swbt.Runtime.Slots
/-!
# The bootstrap of a handshake

A handshake by itself: whatever it is told of the link and the channels, and
whenever it is stepped, its bootstrap attempts wait for the topology, come at
most once a second from the first one on, and end with its completion.
-/

set_option autoImplicit false

open Effects

namespace Swbt

variable {m : ControllerKind} {r : ReportingKind}

/-! ## Calls -/

/-- A call of a handshake. A step is shown a frame of the worker, and leaves its
sends in a log. -/
inductive HandshakeCall (m : ControllerKind) (r : ReportingKind)
  | link (sessionId : ConnectionSessionId)
  | channel (sessionId : ConnectionSessionId) (channel : HidChannel)
  | step (sessionId : ConnectionSessionId) (now : Duration) (before : Frame m r) (log : Log m r) (after : Frame m r)

namespace HandshakeCall

def sessionId : HandshakeCall m r → ConnectionSessionId
  | .link id | .channel id _ | .step id _ _ _ _ => id

def now : HandshakeCall m r → Option Duration
  | .step _ now _ _ _ => some now
  | _ => none

/-- The payloads the call offers. -/
def sends : HandshakeCall m r → List (List UInt8)
  | .step _ _ _ log _ => Log.sends log
  | _ => []

/-- The time of the attempt the call makes, if it makes one. -/
def attempt : HandshakeCall m r → Option Duration
  | .step _ now _ log _ => if Log.sends log = [] then none else some now
  | _ => none

/-- The transport accepts a payload in the call. -/
def accepted : HandshakeCall m r → Bool
  | .step _ _ _ log _ => log.any fun e => (acceptedPayload e).isSome
  | _ => false

end HandshakeCall

/-- What a call makes of a handshake. -/
inductive Handshake.Called (handshake : Handshake) : HandshakeCall m r → Handshake → Prop
  | link (id : ConnectionSessionId) : Called handshake (.link id) (handshake.observeLink id)
  | channel (id : ConnectionSessionId) (channel : HidChannel) :
      Called handshake (.channel id channel) (handshake.observeChannel id channel)
  | step {id : ConnectionSessionId} {now : Duration} {f g : Frame m r} {log : Log m r}
      {result : Except HandshakeError HandshakeProgress} {after : Handshake}
      (hexec : Prog.Exec (handshake.step id now f) [] log g (result, after)) :
      Called handshake (.step id now f log g) after

/-- The calls come in the order of the clock, which has a second left. -/
def InTime (call : HandshakeCall m r) (calls : List (HandshakeCall m r)) : Prop :=
  ∀ now, call.now = some now → now.asNanos + bootstrapRetry.asNanos < maxNanos ∧
    ∀ earlier ∈ calls.filterMap HandshakeCall.now, earlier ≤ now

/-- A handshake of the session `id` after these calls, the latest first. -/
inductive Handshake.Run (id : ConnectionSessionId) (condition : HandshakeCompletionCondition) :
    List (HandshakeCall m r) → Handshake → Prop
  | start : Run id condition [] (.withCompletionCondition id condition)
  | call {calls : List (HandshakeCall m r)} {call : HandshakeCall m r} {handshake after : Handshake}
      (hrun : Run id condition calls handshake) (htime : InTime call calls) (hcalled : handshake.Called call after) :
      Run id condition (call :: calls) after

/-- The times of the attempts, the latest first. -/
def attempts (calls : List (HandshakeCall m r)) : List Duration := calls.filterMap HandshakeCall.attempt

/-- The whole seconds from the first attempt to this one. -/
def slotOf (first now : Duration) : Nat := (now.asNanos - first.asNanos) / bootstrapRetry.asNanos

/-! ## What a call can do -/

variable {id : ConnectionSessionId} {condition : HandshakeCompletionCondition} {calls : List (HandshakeCall m r)}
  {call : HandshakeCall m r} {handshake after : Handshake}

/-- What happens at the transport in an attempt. -/
theorem Sent.attempt {bytes : List UInt8} {candidate : SenderCommit} {log : Log m r} {s s' : Frame m r}
    {result : TransportResult Unit} (hsent : Sent bytes candidate [] s log s' result) :
    Log.sends log = [bytes] ∧ (log.any (fun e => (acceptedPayload e).isSome) = true ↔ result = .ok ()) := by
  cases hsent with
  | refused error => exact ⟨rfl, nofun, nofun⟩
  | accepted => exact ⟨rfl, fun _ => rfl, fun _ => rfl⟩

theorem handshakeStep_stale {id : ConnectionSessionId} {now : Duration} {h : Log m r} {s : Frame m r}
    (hstale : id ≠ handshake.sessionId) : Act.wp (handshake.step id now) h s fun h' s' a =>
      h' = h ∧ s' = s ∧ a.2 = handshake := by
  unfold Handshake.step
  rw [Act.wp_bind, wp_frame, if_pos hstale]
  exact ⟨rfl, rfl, rfl⟩

/-- A call for another session does nothing. -/
theorem Handshake.Called.stale (hcalled : handshake.Called call after) (hstale : call.sessionId ≠ handshake.sessionId) :
    after = handshake ∧ call.sends = [] ∧ call.attempt = none ∧ call.accepted = false := by
  cases hcalled with
  | link other => exact ⟨if_neg hstale, rfl, rfl, rfl⟩
  | channel other channel => exact ⟨if_pos hstale, rfl, rfl, rfl⟩
  | step hexec =>
    obtain ⟨rfl, -, rfl⟩ := hexec.post (handshakeStep_stale hstale)
    exact ⟨rfl, rfl, rfl, rfl⟩

/-- No schedule fails with a second of the clock left. -/
theorem Handshake.effect_inTime {now : Duration} {h h' : Log m r} {s s' : Frame m r}
    {a : Except HandshakeError HandshakeProgress × Handshake} (he : HandshakeEffect handshake now h s h' s' a)
    (hroom : now.asNanos + bootstrapRetry.asNanos < maxNanos)
    (hretry : ∀ scheduler, handshake.retry = some scheduler → scheduler.period = bootstrapRetry) (error : HandshakeError) :
    a.1 ≠ .error error := by
  cases he with
  | overflow hattempting herror =>
    rename_i cause
    rcases herror with ⟨-, hstart⟩ | ⟨before, hbefore, hstep⟩
    · obtain ⟨scheduler, hok⟩ := @ReportScheduler.start_ok now bootstrapRetry (by decide) hroom.le
      rw [hok] at hstart
      cases hstart
    · have hstepped := before.stepped now
      have hperiod := hretry before hbefore
      rw [ReportScheduler.stepMut, hstep] at hstepped
      cases hstepped with
      | overflow hlate hoverflow =>
        have hsecond : bootstrapRetry.asNanos = 1000000000 := rfl
        have hmax := now.le_max
        rw [ReportScheduler.Overflows, hperiod, hsecond] at hoverflow
        rw [hsecond] at hroom
        rcases hoverflow with hskips | hlarge
        · have hdiv : (now.asNanos - before.nextDeadline.asNanos) / 1000000000 ≤ maxNanos / 1000000000 :=
            Nat.div_le_div_right (by omega)
          have hseconds : maxNanos / 1000000000 < 2 ^ 64 := by decide
          omega
        · omega
  | _ => exact nofun

/-! ## The invariant of a handshake -/

/-- What a handshake keeps, with the calls so far. -/
structure Handshake.Kept (id : ConnectionSessionId) (condition : HandshakeCompletionCondition)
    (calls : List (HandshakeCall m r)) (handshake : Handshake) : Prop where
  session : handshake.sessionId = id
  condition_eq : handshake.completionCondition = condition
  link : handshake.linkObserved = true ↔ .link id ∈ calls
  control : handshake.controlObserved = true ↔ .channel id .control ∈ calls
  interrupt : handshake.interruptObserved = true ↔ .channel id .interrupt ∈ calls
  accepted : handshake.bootstrapAccepted = true → ∃ call ∈ calls, call.accepted = true
  stopped : handshake.bootstrapStopped = true → handshake.retry = none
  idle : attempts calls = [] → handshake.retry = none ∧ handshake.bootstrapAccepted = false ∧
    handshake.bootstrapStopped = false
  schedule : ∀ first last, (attempts calls).getLast? = some first → (attempts calls).head? = some last →
    handshake.bootstrapStopped = false → ∃ scheduler, handshake.retry = some scheduler ∧
      ReportScheduler.Counted first bootstrapRetry (slotOf first last) last.asNanos scheduler
  spaced : ∀ first, (attempts calls).getLast? = some first →
    (attempts calls).Pairwise fun later earlier => slotOf first earlier < slotOf first later

/-- The link and both channels of the session were observed. -/
def Topology (id : ConnectionSessionId) (calls : List (HandshakeCall m r)) : Prop :=
  .link id ∈ calls ∧ .channel id .control ∈ calls ∧ .channel id .interrupt ∈ calls

namespace Handshake

theorem Kept.topology (hkept : Kept id condition calls handshake) : handshake.topologyReady = true ↔ Topology id calls := by
  rw [topologyReady, Bool.and_eq_true, Bool.and_eq_true, hkept.link, hkept.control, hkept.interrupt, and_assoc]
  rfl

theorem kept_start : Kept id condition ([] : List (HandshakeCall m r)) (.withCompletionCondition id condition) where
  session := rfl
  condition_eq := rfl
  link := by simp [withCompletionCondition]
  control := by simp [withCompletionCondition]
  interrupt := by simp [withCompletionCondition]
  accepted := nofun
  stopped := nofun
  idle _ := ⟨rfl, rfl, rfl⟩
  schedule := nofun
  spaced := nofun

theorem attempts_cons (call : HandshakeCall m r) (calls : List (HandshakeCall m r)) :
    attempts (call :: calls) = call.attempt.toList ++ attempts calls := by
  unfold attempts
  cases hattempt : call.attempt with
  | none => rw [List.filterMap_cons_none hattempt]; rfl
  | some now => rw [List.filterMap_cons_some hattempt]; rfl

/-- What a handshake keeps of its schedule while no attempt is made. -/
structure SameSchedule (handshake after : Handshake) : Prop where
  session : after.sessionId = handshake.sessionId
  condition : after.completionCondition = handshake.completionCondition
  accepted : after.bootstrapAccepted = handshake.bootstrapAccepted
  stopped : after.bootstrapStopped = handshake.bootstrapStopped
  retry : after.retry = handshake.retry

theorem SameSchedule.refl (handshake : Handshake) : SameSchedule handshake handshake := ⟨rfl, rfl, rfl, rfl, rfl⟩

theorem observeLink_same (handshake : Handshake) (other : ConnectionSessionId) :
    SameSchedule handshake (handshake.observeLink other) := by
  unfold observeLink
  split
  · exact ⟨rfl, rfl, rfl, rfl, rfl⟩
  · exact .refl handshake

theorem observeChannel_same (handshake : Handshake) (other : ConnectionSessionId) (channel : HidChannel) :
    SameSchedule handshake (handshake.observeChannel other channel) := by
  unfold observeChannel
  split
  · exact .refl handshake
  · cases channel <;> exact ⟨rfl, rfl, rfl, rfl, rfl⟩

theorem SameSchedule.completion (hsame : SameSchedule handshake after) : after.completion = handshake.completion := by
  rw [Handshake.completion, Handshake.completion, hsame.stopped, hsame.session]

theorem SameSchedule.deadline (hsame : SameSchedule handshake after) : after.nextDeadline = handshake.nextDeadline := by
  rw [Handshake.nextDeadline, Handshake.nextDeadline, hsame.stopped, hsame.retry]

/-- A call that makes no attempt, once it is known what it observes. -/
theorem Kept.quiet (hkept : Kept id condition calls handshake) (hsame : SameSchedule handshake after)
    (hattempt : call.attempt = none) (hlink : after.linkObserved = true ↔ .link id ∈ call :: calls)
    (hcontrol : after.controlObserved = true ↔ .channel id .control ∈ call :: calls)
    (hinterrupt : after.interruptObserved = true ↔ .channel id .interrupt ∈ call :: calls) :
    Kept id condition (call :: calls) after := by
  have hattempts : attempts (call :: calls) = attempts calls := by
    rw [attempts_cons, hattempt]
    rfl
  refine ⟨hsame.session.trans hkept.session, hsame.condition.trans hkept.condition_eq, hlink, hcontrol, hinterrupt,
    ?_, ?_, ?_, ?_, ?_⟩
  · intro haccepted
    rw [hsame.accepted] at haccepted
    obtain ⟨earlier, hmem, hearlier⟩ := hkept.accepted haccepted
    exact ⟨earlier, List.mem_cons_of_mem _ hmem, hearlier⟩
  · intro hstopped
    rw [hsame.stopped] at hstopped
    exact hsame.retry.trans (hkept.stopped hstopped)
  · intro hnone
    rw [hattempts] at hnone
    rw [hsame.retry, hsame.accepted, hsame.stopped]
    exact hkept.idle hnone
  · rw [hattempts, hsame.retry, hsame.stopped]
    exact hkept.schedule
  · rw [hattempts]
    exact hkept.spaced

/-- What a step leaves of the observations. -/
theorem mem_step {other : ConnectionSessionId} {now : Duration} {f g : Frame m r} {log : Log m r}
    {observation : HandshakeCall m r} (hnow : observation.now = none) :
    observation ∈ .step other now f log g :: calls ↔ observation ∈ calls := by
  rw [List.mem_cons]
  refine or_iff_right ?_
  rintro rfl
  cases hnow

/-- What an attempt leaves of a running handshake. -/
theorem recordBootstrapAttempt_cases (handshake : Handshake) (observed : ObservedSubcommands) (protocolReady : Bool)
    (result : TransportResult Unit) :
    let after := handshake.recordBootstrapAttempt observed protocolReady result
    (after = handshake ∨ result = .ok () ∧ after = { handshake with bootstrapAccepted := true }) ∨
      result = .ok () ∧ handshake.completionCondition.isSatisfied observed protocolReady = true ∧
        after = { handshake with bootstrapAccepted := true }.stopBootstrap := by
  dsimp only
  cases result with
  | error error => exact .inl (.inl rfl)
  | ok accepted =>
    unfold recordBootstrapAttempt
    dsimp only
    split
    · rename_i hsatisfied
      exact .inr ⟨rfl, hsatisfied, rfl⟩
    · exact .inl (.inr ⟨rfl, rfl⟩)

/-- The schedule once an attempt is made, however it ends. -/
theorem Kept.scheduled {now : Duration} {skipped : UInt64} {scheduler : ReportScheduler}
    (hkept : Kept id condition calls handshake) (hrunning : handshake.bootstrapStopped = false)
    (hscheduled : handshake.Scheduled now skipped scheduler) :
    ∃ first, (now :: attempts calls).getLast? = some first ∧
      ReportScheduler.Counted first bootstrapRetry (slotOf first now) now.asNanos scheduler ∧
      (now :: attempts calls).Pairwise fun later earlier => slotOf first earlier < slotOf first later := by
  cases hattempts : attempts calls with
  | nil =>
    obtain ⟨hretry, -, -⟩ := hkept.idle hattempts
    -- The first attempt starts the schedule.
    rcases hscheduled with ⟨-, hstart⟩ | ⟨before, hbefore, -⟩
    · refine ⟨now, rfl, ?_, List.pairwise_singleton _ _⟩
      have hslot : slotOf now now = 0 := by
        rw [slotOf, Nat.sub_self, Nat.zero_div]
      rw [hslot]
      exact ReportScheduler.counted_start hstart _
    · rw [hretry] at hbefore
      cases hbefore
  | cons last earlier =>
    obtain ⟨first, hfirst⟩ : ∃ first, (attempts calls).getLast? = some first := by
      rw [hattempts]
      exact ⟨_, List.getLast?_eq_getLast_of_ne_nil (List.cons_ne_nil _ _)⟩
    obtain ⟨before, hbefore, hcounted⟩ := hkept.schedule first last hfirst (by rw [hattempts]; rfl) hrunning
    have hspaced := hkept.spaced first hfirst
    rw [hattempts] at hfirst hspaced
    rcases hscheduled with ⟨hretry, -⟩ | ⟨before', hbefore', hstep⟩
    · rw [hretry] at hbefore
      cases hbefore
    · rw [hbefore] at hbefore'
      cases hbefore'
      have hstepped := before.stepped now
      rw [ReportScheduler.stepMut, hstep] at hstepped
      obtain ⟨hnext, hslot⟩ := hcounted.due hstepped
      -- A due step lies in a later window than the attempt before it.
      have hlater : slotOf first last < slotOf first now := by
        change _ < (now.asNanos - first.asNanos) / bootstrapRetry.asNanos
        omega
      refine ⟨first, hfirst, ?_, List.pairwise_cons.2 ⟨?_, hspaced⟩⟩
      · rw [show slotOf first now = slotOf first last + (1 + skipped.toNat) from hslot]
        exact hnext
      · intro time hmem
        rcases List.mem_cons.1 hmem with rfl | hmem
        · exact hlater
        · exact ((List.pairwise_cons.1 hspaced).1 time hmem).trans hlater

/-- A step that sends is an attempt. -/
theorem attempt_of_sent {other : ConnectionSessionId} {now : Duration} {f g : Frame m r} {log : Log m r}
    {state : InputState m} {nowNs : UInt64} {result : TransportResult Unit}
    (hsent : InputSent state nowNs [] f log g result) : (HandshakeCall.step other now f log g).attempt = some now := by
  change (if Log.sends log = [] then none else some now) = some now
  rw [(Sent.attempt hsent).1]
  rfl

/-- An attempt of a running handshake. -/
theorem Kept.sending {now : Duration} {skipped : UInt64} {scheduler : ReportScheduler} {f g : Frame m r}
    {log : Log m r} {result : TransportResult Unit} (hkept : Kept id condition calls handshake)
    (hrunning : handshake.bootstrapStopped = false) (hscheduled : handshake.Scheduled now skipped scheduler)
    (hsent : InputSent .neutral (protocolTimestamp now) [] f log g result) :
    Kept id condition (.step id now f log g :: calls) ({ handshake with retry := some scheduler }.recordBootstrapAttempt
      g.observed g.sender.committed.session.protocolReady result) := by
  have hmem : ∀ {observation : HandshakeCall m r}, observation.now = none →
      (observation ∈ .step id now f log g :: calls ↔ observation ∈ calls) := fun hnow => mem_step hnow
  have hlink := hkept.link.trans (hmem rfl).symm
  have hcontrol := hkept.control.trans (hmem rfl).symm
  have hinterrupt := hkept.interrupt.trans (hmem rfl).symm
  obtain ⟨first, hfirst, hcounted, hspaced⟩ := hkept.scheduled hrunning hscheduled
  have hattempts : attempts (.step id now f log g :: calls) = now :: attempts calls := by
    rw [attempts_cons, attempt_of_sent hsent]
    rfl
  have hspaced : ∀ first', (attempts (.step id now f log g :: calls)).getLast? = some first' →
      (attempts (.step id now f log g :: calls)).Pairwise fun later earlier => slotOf first' earlier < slotOf first' later := by
    rw [hattempts]
    intro first' hfirst'
    rw [hfirst] at hfirst'
    cases hfirst'
    exact hspaced
  have hschedule : ∀ first' last, (attempts (.step id now f log g :: calls)).getLast? = some first' →
      (attempts (.step id now f log g :: calls)).head? = some last → ∃ scheduler', some scheduler = some scheduler' ∧
        ReportScheduler.Counted first' bootstrapRetry (slotOf first' last) last.asNanos scheduler' := by
    rw [hattempts]
    intro first' last hfirst' hlast
    rw [hfirst] at hfirst'
    cases hfirst'
    cases hlast
    exact ⟨scheduler, rfl, hcounted⟩
  have hbefore : handshake.bootstrapAccepted = true →
      ∃ call ∈ HandshakeCall.step id now f log g :: calls, call.accepted = true := by
    intro hearlier
    obtain ⟨earlier, hearlier, hsent⟩ := hkept.accepted hearlier
    exact ⟨earlier, List.mem_cons_of_mem _ hearlier, hsent⟩
  have hnow : result = .ok () → ∃ call ∈ HandshakeCall.step id now f log g :: calls, call.accepted = true :=
    fun hok => ⟨_, List.mem_cons_self, (Sent.attempt hsent).2.2 hok⟩
  have hidle : attempts (.step id now f log g :: calls) ≠ [] := by
    rw [hattempts]
    exact List.cons_ne_nil _ _
  rcases recordBootstrapAttempt_cases { handshake with retry := some scheduler } g.observed
    g.sender.committed.session.protocolReady result with (heq | ⟨hok, heq⟩) | ⟨hok, hsatisfied, heq⟩
  · -- The transport has refused the bootstrap.
    rw [heq]
    exact ⟨hkept.session, hkept.condition_eq, hlink, hcontrol, hinterrupt, hbefore,
      fun hstopped => absurd (hrunning.symm.trans hstopped) Bool.false_ne_true, fun hnone => absurd hnone hidle,
      fun first' last hfirst' hlast _ => hschedule first' last hfirst' hlast, hspaced⟩
  · -- It was accepted, and the host has not yet met the condition.
    rw [heq]
    exact ⟨hkept.session, hkept.condition_eq, hlink, hcontrol, hinterrupt, fun _ => hnow hok,
      fun hstopped => absurd (hrunning.symm.trans hstopped) Bool.false_ne_true, fun hnone => absurd hnone hidle,
      fun first' last hfirst' hlast _ => hschedule first' last hfirst' hlast, hspaced⟩
  · -- The handshake is complete, and no retry is left.
    rw [heq]
    exact ⟨hkept.session, hkept.condition_eq, hlink, hcontrol, hinterrupt, fun _ => hnow hok, fun _ => rfl,
      fun hnone => absurd hnone hidle, nofun, hspaced⟩

theorem Kept.step {now : Duration} {f g : Frame m r} {log : Log m r} {result : Except HandshakeError HandshakeProgress}
    (hkept : Kept id condition calls handshake) (he : HandshakeEffect handshake now [] f log g (result, after)) :
    Kept id condition (.step id now f log g :: calls) after := by
  have hmem : ∀ {observation : HandshakeCall m r}, observation.now = none →
      (observation ∈ .step id now f log g :: calls ↔ observation ∈ calls) := fun hnow => mem_step hnow
  have hlink := hkept.link.trans (hmem rfl).symm
  have hcontrol := hkept.control.trans (hmem rfl).symm
  have hinterrupt := hkept.interrupt.trans (hmem rfl).symm
  cases he with
  | stopped hstopped => exact hkept.quiet ⟨rfl, rfl, rfl, rfl, rfl⟩ rfl hlink hcontrol hinterrupt
  | waitingForTopology hrunning htopology => exact hkept.quiet ⟨rfl, rfl, rfl, rfl, rfl⟩ rfl hlink hcontrol hinterrupt
  | waiting hattempting hretry hlt => exact hkept.quiet ⟨rfl, rfl, rfl, rfl, rfl⟩ rfl hlink hcontrol hinterrupt
  | overflow hattempting herror => exact hkept.quiet ⟨rfl, rfl, rfl, rfl, rfl⟩ rfl hlink hcontrol hinterrupt
  | attempted hattempting hscheduled hsent => exact hkept.sending hattempting.running hscheduled hsent
  | observed hrunning htopology haccepted hsatisfied =>
    have hattempts : attempts (.step id now f [] f :: calls) = attempts calls := rfl
    refine ⟨hkept.session, hkept.condition_eq, hlink, hcontrol, hinterrupt, ?_, fun _ => rfl, ?_, nofun, ?_⟩
    · intro _
      obtain ⟨earlier, hbefore, hearlier⟩ := hkept.accepted haccepted
      exact ⟨earlier, List.mem_cons_of_mem _ hbefore, hearlier⟩
    · rw [hattempts]
      intro hnone
      rw [(hkept.idle hnone).2.1] at haccepted
      cases haccepted
    · rw [hattempts]
      exact hkept.spaced

theorem Kept.observeLink (hkept : Kept id condition calls handshake) (other : ConnectionSessionId) :
    Kept id condition (.link other :: calls : List (HandshakeCall m r)) (handshake.observeLink other) := by
  have hsame := handshake.observeLink_same other
  by_cases hid : other = id
  · subst hid
    have hown : handshake.observeLink other = { handshake with linkObserved := true } := if_pos hkept.session.symm
    rw [hown] at hsame ⊢
    refine hkept.quiet hsame rfl ?_ ?_ ?_
    · simp
    · simp [hkept.control]
    · simp [hkept.interrupt]
  · have hother : handshake.observeLink other = handshake := if_neg (by rw [hkept.session]; exact hid)
    rw [hother]
    refine hkept.quiet (.refl handshake) rfl ?_ ?_ ?_
    · simp [hkept.link, Ne.symm hid]
    · simp [hkept.control]
    · simp [hkept.interrupt]

theorem Kept.observeChannel (hkept : Kept id condition calls handshake) (other : ConnectionSessionId)
    (channel : HidChannel) : Kept id condition (.channel other channel :: calls : List (HandshakeCall m r))
      (handshake.observeChannel other channel) := by
  have hsame := handshake.observeChannel_same other channel
  by_cases hid : other = id
  · subst hid
    have hown : ¬ other ≠ handshake.sessionId := not_not.2 hkept.session.symm
    unfold Handshake.observeChannel at hsame ⊢
    rw [if_neg hown] at hsame ⊢
    cases channel with
    | control =>
      refine hkept.quiet hsame rfl ?_ ?_ ?_
      · simp [hkept.link]
      · simp
      · simp [hkept.interrupt]
    | interrupt =>
      refine hkept.quiet hsame rfl ?_ ?_ ?_
      · simp [hkept.link]
      · simp [hkept.control]
      · simp
  · have hother : handshake.observeChannel other channel = handshake := if_pos (by rw [hkept.session]; exact hid)
    rw [hother]
    refine hkept.quiet (.refl handshake) rfl ?_ ?_ ?_
    · simp [hkept.link]
    · simp [hkept.control, Ne.symm hid]
    · simp [hkept.interrupt, Ne.symm hid]

theorem Kept.called (hkept : Kept id condition calls handshake) (hcalled : handshake.Called call after) :
    Kept id condition (call :: calls) after := by
  cases hcalled with
  | link other => exact hkept.observeLink other
  | channel other channel => exact hkept.observeChannel other channel
  | step hexec =>
    rename_i other now f g log result
    by_cases hid : other = handshake.sessionId
    · have he := hexec.post (handshakeStep_spec handshake other now [] f hid)
      rw [hid, hkept.session]
      exact hkept.step he
    · obtain ⟨rfl, -, rfl⟩ := hexec.post (handshakeStep_stale hid)
      exact hkept.quiet ⟨rfl, rfl, rfl, rfl, rfl⟩ rfl (hkept.link.trans (mem_step rfl).symm)
        (hkept.control.trans (mem_step rfl).symm) (hkept.interrupt.trans (mem_step rfl).symm)

theorem Run.kept (hrun : Run id condition calls handshake) : Kept id condition calls handshake := by
  induction hrun with
  | start => exact kept_start
  | call hrun htime hcalled ih => exact ih.called hcalled

/-! ## Attempts and completion -/

/-- A step makes an attempt only with the topology observed, of the neutral state. -/
theorem Kept.attempted (hkept : Kept id condition calls handshake) (hcalled : handshake.Called call after)
    (hsends : call.sends ≠ []) :
    ∃ (now : Duration) (f : Frame m r) (log : Log m r) (g : Frame m r), call = .step id now f log g ∧ Topology id calls ∧
      call.sends = [(f.sender.inputCandidate (.neutral : InputState m) (protocolTimestamp now)).1] := by
  by_cases hid : call.sessionId = handshake.sessionId
  · cases hcalled with
    | link other => exact absurd rfl hsends
    | channel other channel => exact absurd rfl hsends
    | step hexec =>
      rename_i other now f g log result
      cases hexec.post (handshakeStep_spec handshake other now [] f hid) with
      | attempted hattempting hscheduled hsent =>
        refine ⟨now, f, log, g, ?_, hkept.topology.1 hattempting.topology, (Sent.attempt hsent).1⟩
        rw [show other = id from hid.trans hkept.session]
      | _ => exact absurd rfl hsends
  · exact absurd (hcalled.stale hid).2.1 hsends

/-- The first step with the topology observed makes an attempt at once. -/
theorem Kept.first {now : Duration} {f g : Frame m r} {log : Log m r} (hkept : Kept id condition calls handshake)
    (htopology : Topology id calls) (hfirst : attempts calls = [])
    (hroom : now.asNanos + bootstrapRetry.asNanos < maxNanos) (hcalled : handshake.Called (.step id now f log g) after) :
    (HandshakeCall.step id now f log g).attempt = some now := by
  obtain ⟨hretry, haccepted, hrunning⟩ := hkept.idle hfirst
  cases hcalled with
  | step hexec =>
    have he := hexec.post (handshakeStep_spec handshake id now [] f hkept.session.symm)
    have hintime := effect_inTime he hroom fun scheduler hscheduler => by
      rw [hretry] at hscheduler
      cases hscheduler
    cases he with
    | attempted hattempting hscheduled hsent => exact attempt_of_sent hsent
    | stopped hstopped => exact absurd (hrunning.symm.trans hstopped) Bool.false_ne_true
    | waitingForTopology _ hwaiting => exact absurd (hwaiting.symm.trans (hkept.topology.2 htopology)) Bool.false_ne_true
    | observed _ _ hsent _ => exact absurd (haccepted.symm.trans hsent) Bool.false_ne_true
    | waiting _ hscheduler _ =>
      rw [hretry] at hscheduler
      cases hscheduler
    | overflow _ _ => exact absurd rfl (hintime _)

theorem completion_eq {completion : HandshakeCompletion} (hcompletion : handshake.completion = some completion) :
    handshake.bootstrapStopped = true ∧ completion.sessionId = handshake.sessionId := by
  unfold Handshake.completion at hcompletion
  split at hcompletion
  · rename_i hstopped
    cases hcompletion
    exact ⟨hstopped, rfl⟩
  · cases hcompletion

/-- A handshake completes in a step that finds its condition satisfied after an accepted bootstrap. -/
theorem Kept.completes {completion : HandshakeCompletion} (hkept : Kept id condition calls handshake)
    (hcalled : handshake.Called call after) (hbefore : handshake.completion = none)
    (hcompletion : after.completion = some completion) :
    completion.sessionId = id ∧ (∃ earlier ∈ call :: calls, earlier.accepted = true) ∧
      ∃ now f log g, call = .step id now f log g ∧ ∃ s, (s = f ∨ s = g) ∧
        condition.isSatisfied s.observed s.sender.committed.session.protocolReady = true := by
  have hafter := hkept.called hcalled
  obtain ⟨hstopped, hsession⟩ := completion_eq hcompletion
  have hrunning : handshake.bootstrapStopped = false := by
    by_contra hdone
    rw [Handshake.completion, if_pos (by simpa using hdone)] at hbefore
    cases hbefore
  have hid : call.sessionId = handshake.sessionId := by
    by_contra hstale
    rw [(hcalled.stale hstale).1, hrunning] at hstopped
    cases hstopped
  refine ⟨hsession.trans hafter.session, ?_⟩
  -- Only a step of the session itself stops the bootstrap.
  cases hcalled with
  | link other =>
    rw [(handshake.observeLink_same other).stopped, hrunning] at hstopped
    cases hstopped
  | channel other channel =>
    rw [(handshake.observeChannel_same other channel).stopped, hrunning] at hstopped
    cases hstopped
  | step hexec =>
    rename_i other now f g log result
    have hother : other = id := hid.trans hkept.session
    subst hother
    cases hexec.post (handshakeStep_spec handshake other now [] f hid) with
    | observed _ _ haccepted hsatisfied =>
      obtain ⟨earlier, hmem, hearlier⟩ := hkept.accepted haccepted
      rw [Handshake.satisfied, hkept.condition_eq] at hsatisfied
      exact ⟨⟨earlier, List.mem_cons_of_mem _ hmem, hearlier⟩, now, f, _, f, rfl, f, .inl rfl, hsatisfied⟩
    | attempted hattempting hscheduled hsent =>
      rename_i skipped scheduler result
      rcases recordBootstrapAttempt_cases { handshake with retry := some scheduler } g.observed
        g.sender.committed.session.protocolReady result with (heq | ⟨hok, heq⟩) | ⟨hok, hsatisfied, heq⟩
      · rw [heq] at hstopped
        exact absurd (hrunning.symm.trans hstopped) Bool.false_ne_true
      · rw [heq] at hstopped
        exact absurd (hrunning.symm.trans hstopped) Bool.false_ne_true
      · rw [← hkept.condition_eq]
        exact ⟨⟨_, List.mem_cons_self, (Sent.attempt hsent).2.2 hok⟩, now, f, log, g, rfl, g, .inr rfl, hsatisfied⟩
    | stopped hdone => exact absurd (hrunning.symm.trans hdone) Bool.false_ne_true
    | _ => exact absurd (hrunning.symm.trans hstopped) Bool.false_ne_true

/-- A completed handshake stays as it is, without attempts or deadlines. -/
theorem Called.completed {completion : HandshakeCompletion} (hcalled : handshake.Called call after)
    (hcompletion : handshake.completion = some completion) :
    after.completion = some completion ∧ after.nextDeadline = none ∧ call.sends = [] := by
  have hstopped := (completion_eq hcompletion).1
  have hdeadline : handshake.nextDeadline = none := if_pos hstopped
  by_cases hid : call.sessionId = handshake.sessionId
  · cases hcalled with
    | link other =>
      have hsame := handshake.observeLink_same other
      exact ⟨hsame.completion.trans hcompletion, hsame.deadline.trans hdeadline, rfl⟩
    | channel other channel =>
      have hsame := handshake.observeChannel_same other channel
      exact ⟨hsame.completion.trans hcompletion, hsame.deadline.trans hdeadline, rfl⟩
    | step hexec =>
      rename_i other now f g log result
      cases hexec.post (handshakeStep_spec handshake other now [] f hid) with
      | stopped _ => exact ⟨hcompletion, hdeadline, rfl⟩
      | waitingForTopology hrunning _ => exact absurd (hrunning.symm.trans hstopped) Bool.false_ne_true
      | observed hrunning _ _ _ => exact absurd (hrunning.symm.trans hstopped) Bool.false_ne_true
      | waiting hattempting _ _ => exact absurd (hattempting.running.symm.trans hstopped) Bool.false_ne_true
      | overflow hattempting _ => exact absurd (hattempting.running.symm.trans hstopped) Bool.false_ne_true
      | attempted hattempting _ _ => exact absurd (hattempting.running.symm.trans hstopped) Bool.false_ne_true
  · obtain ⟨rfl, hsends, -⟩ := hcalled.stale hid
    exact ⟨hcompletion, hdeadline, hsends⟩

end Handshake

/-- In slots of its own, each later than the first, every attempt but the first falls in its window. -/
theorem windows {times : List Duration} {first : Duration} (hfirst : times.getLast? = some first)
    (hspaced : times.Pairwise fun later earlier => slotOf first earlier < slotOf first later) :
    ∀ now ∈ times.dropLast, 1 ≤ slotOf first now ∧
      first.asNanos + slotOf first now * bootstrapRetry.asNanos ≤ now.asNanos ∧
      now.asNanos < first.asNanos + (slotOf first now + 1) * bootstrapRetry.asNanos := by
  intro now hmem
  have hlast : times = times.dropLast ++ [first] := (List.dropLast_append_getLast? first hfirst).symm
  rw [hlast, List.pairwise_append] at hspaced
  have hlater : slotOf first first < slotOf first now := hspaced.2.2 now hmem first List.mem_cons_self
  have hdiv := Nat.div_add_mod' (now.asNanos - first.asNanos) bootstrapRetry.asNanos
  have hmod := Nat.mod_lt (now.asNanos - first.asNanos) (show 0 < bootstrapRetry.asNanos by decide)
  rw [show (now.asNanos - first.asNanos) / bootstrapRetry.asNanos = slotOf first now from rfl] at hdiv
  have hpos : bootstrapRetry.asNanos ≤ slotOf first now * bootstrapRetry.asNanos := Nat.le_mul_of_pos_left _ (by omega)
  have hsecond : 0 < bootstrapRetry.asNanos := by decide
  rw [Nat.succ_mul]
  omega

/-- Whatever a handshake is told and whenever it is stepped, it sends neutral
bootstraps only: the first at once with its topology, the others a window of a
second each, and none once a bootstrap is accepted and its condition holds. -/
theorem bootstrap_handshake (hrun : Handshake.Run id condition calls handshake) (htime : InTime call calls)
    (hcalled : handshake.Called call after) :
    (call.sends ≠ [] → ∃ (now : Duration) (f : Frame m r) (log : Log m r) (g : Frame m r),
      call = .step id now f log g ∧ Topology id calls ∧
        call.sends = [(f.sender.inputCandidate (.neutral : InputState m) (protocolTimestamp now)).1]) ∧
    (∀ now f log g, call = .step id now f log g → Topology id calls → attempts calls = [] → call.attempt = some now) ∧
    (∀ first, (attempts (call :: calls)).getLast? = some first →
      (attempts (call :: calls)).Pairwise (fun later earlier => slotOf first earlier < slotOf first later) ∧
      ∀ now ∈ (attempts (call :: calls)).dropLast, 1 ≤ slotOf first now ∧
        first.asNanos + slotOf first now * bootstrapRetry.asNanos ≤ now.asNanos ∧
        now.asNanos < first.asNanos + (slotOf first now + 1) * bootstrapRetry.asNanos) ∧
    (∀ first last, (attempts (call :: calls)).getLast? = some first → (attempts (call :: calls)).head? = some last →
      after.completion = none → after.nextDeadline.map Duration.asNanos =
        some (first.asNanos + (slotOf first last + 1) * bootstrapRetry.asNanos)) ∧
    (∀ completion, handshake.completion = none → after.completion = some completion →
      completion.sessionId = id ∧ (∃ earlier ∈ call :: calls, earlier.accepted = true) ∧
        ∃ now f log g, call = .step id now f log g ∧ ∃ s, (s = f ∨ s = g) ∧
          condition.isSatisfied s.observed s.sender.committed.session.protocolReady = true) ∧
    (∀ completion, handshake.completion = some completion →
      after.completion = some completion ∧ after.nextDeadline = none ∧ call.sends = []) ∧
    (call.sessionId ≠ id → after = handshake ∧ call.sends = []) := by
  have hkept := hrun.kept
  have hafter := hkept.called hcalled
  refine ⟨hkept.attempted hcalled, ?_, ?_, ?_, fun completion => hkept.completes hcalled, fun completion => hcalled.completed, ?_⟩
  · rintro now f log g rfl htopology hfirst
    exact hkept.first htopology hfirst (htime now rfl).1 hcalled
  · intro first hfirst
    have hspaced := hafter.spaced first hfirst
    exact ⟨hspaced, windows hfirst hspaced⟩
  · intro first last hfirst hlast hcompletion
    have hrunning : after.bootstrapStopped = false := by
      by_contra hdone
      rw [Handshake.completion, if_pos (by simpa using hdone)] at hcompletion
      cases hcompletion
    obtain ⟨scheduler, hretry, hcounted⟩ := hafter.schedule first last hfirst hlast hrunning
    rw [Handshake.nextDeadline, hrunning, hretry]
    exact congrArg some hcounted.next
  · intro hstale
    obtain ⟨hsame, hsends, -⟩ := hcalled.stale (by rw [hkept.session]; exact hstale)
    exact ⟨hsame, hsends⟩

theorem sampleSession_ne : (1 : UInt64) ≠ 0 := by decide

def sampleSession : ConnectionSessionId := ⟨1, sampleSession_ne⟩

/-- The calls that bring up the topology of a handshake, the latest first. -/
def sampleTopology : List (HandshakeCall .pro .direct) :=
  [.channel sampleSession .interrupt, .channel sampleSession .control, .link sampleSession]

/-- The handshake after them. -/
def sampleShaken : Handshake :=
  (((Handshake.withCompletionCondition sampleSession .firstSubcommand).observeLink sampleSession).observeChannel
    sampleSession .control).observeChannel sampleSession .interrupt

/-- A step of a handshake whose reports the transport refuses, with the handshake after it. -/
def sampleAttempt (now : Duration) (handshake : Handshake) : HandshakeCall .pro .direct × Handshake :=
  let ended := (handshake.step sampleSession now sampleDirect.start).run refusingSends 0 []
  (.step sampleSession now sampleDirect.start ended.1 ended.2.1, ended.2.2.2)

theorem sampleAttempt_called (now : Duration) (handshake : Handshake) :
    handshake.Called (sampleAttempt now handshake).1 (sampleAttempt now handshake).2 :=
  .step (Prog.exec_run refusingSends (handshake.step sampleSession now sampleDirect.start) 0 [])

theorem halfPast_le : 2500000000 ≤ maxNanos := by decide

/-- Two and a half seconds after the first attempt. -/
def halfPast : Duration := ⟨2500000000, halfPast_le⟩

/-- An attempt that is refused is made again, once in a second: one half past the second retry counts for it, and
the next is due with the third. -/
theorem bootstrap_handshake_retried :
    let first := sampleAttempt .ZERO sampleShaken
    let second := sampleAttempt halfPast first.2
    attempts (second.1 :: first.1 :: sampleTopology) = [halfPast, .ZERO] ∧ first.1.accepted = false ∧
      slotOf .ZERO halfPast = 2 ∧ second.2.nextDeadline.map Duration.asNanos = some (3 * bootstrapRetry.asNanos) := by
  intro first second
  have hquiet (call : HandshakeCall .pro .direct) (calls : List (HandshakeCall .pro .direct)) (hnow : call.now = none) :
      InTime call calls := by
    intro now hsome
    rw [hnow] at hsome
    cases hsome
  have hrun : Handshake.Run sampleSession .firstSubcommand sampleTopology sampleShaken :=
    .call (.call (.call .start (hquiet _ _ rfl) (.link _)) (hquiet _ _ rfl) (.channel _ .control)) (hquiet _ _ rfl)
      (.channel _ .interrupt)
  have htime₁ : InTime first.1 sampleTopology := by
    rintro now ⟨⟩
    exact ⟨by decide, nofun⟩
  have htime₂ : InTime second.1 (first.1 :: sampleTopology) := by
    rintro now ⟨⟩
    have hearlier : (first.1 :: sampleTopology).filterMap HandshakeCall.now = [.ZERO] := rfl
    rw [hearlier]
    exact ⟨by decide, List.forall_mem_singleton.2 (by decide)⟩
  have hattempts : attempts (second.1 :: first.1 :: sampleTopology) = [halfPast, .ZERO] := by decide +kernel
  have hnone : second.2.completion.isNone = true := by decide +kernel
  have hkept := hrun.call htime₁ (sampleAttempt_called .ZERO sampleShaken)
  obtain ⟨-, -, -, hdeadline, -⟩ := bootstrap_handshake hkept htime₂ (sampleAttempt_called halfPast first.2)
  refine ⟨hattempts, by decide +kernel, by decide, ?_⟩
  rw [hdeadline .ZERO halfPast (by rw [hattempts]; rfl) (by rw [hattempts]; rfl)
    (Option.isNone_iff_eq_none.1 hnone)]
  decide

end Swbt
