import Swbt.Runtime.Loop
import Swbt.Runtime.Shutdown
/-!
# Completed commands

Every command the loop takes is answered once, in the order of the commands,
and no result is without a command. Only a worker that fails may keep the last
one from its answer.
-/

set_option autoImplicit false

open Effects

namespace Swbt

variable {m : ControllerKind} {r : ReportingKind} {h h₁ h' : Log m r} {s s' : Frame m r}
  {receiver receiver' : CommandReceiver} {sent sent' : List Response}
  {owner : List Response → Log m r → Log m r → Prop}

/-- The commands taken have their responses, one each and in their order, but
for the last if it is dropped, and a client of it is told so. -/
structure Accounted (h : Log m r) (sent : List Response) (dropped : Bool) : Prop where
  ordered : sent.map Response.completion = List.range sent.length
  all : h.commands.length = sent.length + dropped.toNat
  heard : ∀ request : CommandRequest m r, request.completion < h.commands.length →
    (request.recv sent = .error .workerFailed ↔ dropped = true ∧ request.completion = sent.length)

theorem recv_eq (hordered : sent.map Response.completion = List.range sent.length) (request : CommandRequest m r) :
    request.recv sent = .error .workerFailed ↔ sent.length ≤ request.completion := by
  have hmem : request.completion ∈ sent.map Response.completion ↔ request.completion < sent.length := by
    rw [hordered, List.mem_range]
  unfold CommandRequest.recv
  cases hfind : sent.find? (·.completion = request.completion) with
  | none =>
    refine iff_of_true rfl (not_lt.1 fun hlt => ?_)
    obtain ⟨response, hresponse, hsame⟩ := List.mem_map.1 (hmem.2 hlt)
    exact absurd (decide_eq_true hsame) (List.find?_eq_none.1 hfind response hresponse)
  | some response =>
    have hsame : response.completion = request.completion := by simpa using List.find?_some hfind
    refine iff_of_false (fun heq => nomatch heq) (not_le.2 (hmem.1 ?_))
    rw [← hsame]
    exact List.mem_map_of_mem (List.mem_of_find?_eq_some hfind)

theorem Accounted.of_ordered {dropped : Bool} (hordered : sent.map Response.completion = List.range sent.length)
    (hall : h.commands.length = sent.length + dropped.toNat) : Accounted h sent dropped := by
  refine ⟨hordered, hall, ?_⟩
  intro request htaken
  rw [recv_eq hordered]
  rw [hall] at htaken
  cases dropped with
  | false => exact iff_of_false (not_le.2 htaken) fun hfalse => nomatch hfalse.1
  | true => exact ⟨fun hle => ⟨rfl, Nat.le_antisymm (Nat.le_of_lt_succ htaken) hle⟩, fun heq => heq.2.ge⟩

theorem Accounted.later {dropped : Bool} (hsettled : Accounted h sent dropped) (hadds : Adds Plain h h') :
    Accounted h' sent dropped := by
  refine .of_ordered hsettled.ordered ?_
  rw [Adds.commands (Adds.untaken hadds)]
  exact hsettled.all

/-- Between two steps the command in flight is the one a frame is engaged with. -/
def Frame.waits (s : Frame m r) : Bool := s.connectionCommandPending.isSome || s.reporting.hasPending

theorem Frame.waits_iff (s : Frame m r) : s.waits = true ↔ s.fresh.Engaged := by
  unfold Frame.waits Frame.Engaged
  rw [Bool.or_eq_true, Reporting.hasPending_eq, Option.isSome_iff_ne_none (o := s.reporting.tap)]
  constructor
  · rintro (hpending | hpending)
    · exact .inl hpending
    · exact .inr (.inl hpending)
  · rintro (hpending | hpending | hpending)
    · exact .inl hpending
    · exact .inr hpending
    · exact absurd rfl hpending

theorem Owes.settled (howes : Owes h s.fresh receiver sent) :
    Accounted h sent s.waits ∧ receiver.inFlight.isSome = s.waits := by
  cases hwaits : s.waits with
  | false =>
    obtain ⟨hnone, hall⟩ := howes.idle fun hengaged => by
      rw [s.waits_iff.2 hengaged] at hwaits
      cases hwaits
    exact ⟨.of_ordered howes.numbered hall, by rw [hnone]; rfl⟩
  | true =>
    obtain ⟨hsome, hall⟩ := howes.busy (s.waits_iff.1 hwaits)
    exact ⟨.of_ordered howes.numbered hall, by rw [hsome]; rfl⟩

/-! ## Ends of the loop -/

/-- Why a worker ends with a command that it does not answer. -/
inductive Forsaken (s : Frame m r) : WorkerFailureCause → Prop
  | tap {error : WorkerCoreError} (htap : s.reporting.hasPending = true) (hcommand : s.connectionCommandPending = none) :
      Forsaken s (.core error)
  | wait {error : WorkerWaitError} (hwaits : s.waits = true) : Forsaken s (.wait error)

theorem Frame.fail_command (s : Frame m r) (error : WorkerCoreError) : (s.fail error).connectionCommandPending = none := by
  unfold Frame.fail Frame.completeFailure Frame.complete
  cases hpending : s.connectionCommandPending with
  | none => exact hpending
  | some command => rfl

/-- A worker fails without an error of a delivery. -/
theorem Broken.settled {cause : WorkerFailureCause} {delivery : Option CommandDeliveryError}
    (hbroken : Broken owner h s receiver sent cause delivery) :
    delivery = none ∧ Accounted h sent s.waits ∧ (∀ error, cause ≠ .commandDelivery error) ∧
      (s.waits = true → Forsaken s cause) := by
  cases hbroken with
  | failed hserving hexec howner hfetched hdelivered =>
    obtain ⟨howes, hunanswered, hprogress⟩ := hfetched.failed hserving.owes hserving.run hexec
    obtain ⟨rfl, howes', -⟩ := howes.deliver hunanswered hprogress hdelivered
    refine ⟨rfl, howes'.settled.1, fun error => WorkerFailureCause.noConfusion, ?_⟩
    intro hwaits
    obtain ⟨h₁, s₁, h₂, s₂, hpath, hsound₁, hmove, hsound, rfl, rfl, rfl⟩ :=
      (hexec.post (stepRuntime_spec _ _ hserving.run.coherent)).of_failed
    unfold Frame.waits at hwaits
    rw [s₂.fail_command] at hwaits
    exact .tap hwaits (s₂.fail_command _)
  | undelivered hserving hexec howner hfetched hdelivered =>
    obtain ⟨howes, hunanswered, hprogress⟩ := hfetched.continued hserving.owes hserving.run hexec
    cases (howes.deliver hunanswered hprogress hdelivered).1
  | unwaited hserving hturn =>
    have howes := hturn.owes hserving.run hserving.owes
    exact ⟨rfl, howes.settled.1, fun error => WorkerFailureCause.noConfusion, .wait⟩

/-- A closed worker has answered every command. -/
theorem LoopEnd.closed_settled {close : CloseCompletion} {delivery : Option CommandDeliveryError}
    (hend : LoopEnd owner h receiver sent ⟨.closed close, delivery⟩) : delivery = none ∧ Accounted h sent false := by
  cases hend with
  | closed hserving hexec howner hfetched hdelivered =>
    obtain ⟨h₁, s₁, h₂, s₂, request, t, hpath, hsound₁, hlast, hsound, hclose⟩ :=
      (hexec.post (stepRuntime_spec _ _ hserving.run.coherent)).of_closed
    have hplain : Adds Plain h₂ _ := (Adds.cons (Adds.single ⟨rfl, rfl⟩) ⟨rfl, rfl⟩).trans hclose.plain
    have howes := hfetched.owes_last hserving.owes hpath hsound₁ hlast (Adds.untaken hplain)
    obtain ⟨rfl, hprogress⟩ := hclose.delivers
    obtain ⟨rfl, hordered, -, hall, -⟩ := howes.deliverClosed hsound hprogress hdelivered
    exact ⟨rfl, .of_ordered hordered hall⟩

/-- A closed step has a result of its own or interrupts a command, not both. -/
theorem Serving.closed_once {completion : CloseCompletion} {interrupted : Option WorkerCommandError}
    {progress : StepProgress} (hserving : Serving owner h s receiver sent)
    (hexec : Prog.Exec (stepRuntime s) h h' s' (.closed completion interrupted progress)) :
    progress.commandResult = none ∨ interrupted = none := by
  obtain ⟨h₁, s₁, h₂, s₂, request, t, hpath, hsound₁, hlast, hsound, hclose⟩ :=
    (hexec.post (stepRuntime_spec _ _ hserving.run.coherent)).of_closed
  obtain ⟨rfl, hprogress⟩ := hclose.delivers
  cases htap : s₂.reporting.tap with
  | none => exact .inr rfl
  | some tap =>
    refine .inl (hprogress.trans (hsound.complete_unanswered _ (.inr ?_)))
    rw [(s₂.complete_keeps _).1, Reporting.hasPending_eq, htap]
    rfl

/-! ## A client that waits -/

/-- What a step leaves in the command channel. -/
inductive Drawn (h h' : Log m r) (channel : Option (CommandRequest m r)) : Option (CommandRequest m r) → Prop
  | left (hsame : h'.commands = h.commands) : Drawn h h' channel channel
  | taken {request : CommandRequest m r} (hchannel : channel = some request)
      (htaken : h'.commands = request.command :: h.commands) : Drawn h h' channel none

/-- The loop and its one client, which has enqueued `count` requests and waits
for the response to each of them before the next. -/
inductive Conversing (owner : List Response → Log m r → Log m r → Prop) :
    Log m r → Frame m r → CommandReceiver → List Response → Option (CommandRequest m r) → Nat → Prop
  | opened {core : WorkerCore m r} (hnew : core.IsNew) : Conversing owner core.openLog core.start ⟨none⟩ [] none 0
  | enqueued {h : Log m r} {s : Frame m r} {receiver : CommandReceiver} {sent : List Response}
      {channel channel' : Option (CommandRequest m r)} {count : Nat} {request : CommandRequest m r}
      (hconversing : Conversing owner h s receiver sent channel count) (hheard : sent.length = count)
      (haccepted : request.tryEnqueue true channel = .ok channel') :
      Conversing owner h s receiver sent channel' (count + 1)
  | turn {h h' : Log m r} {s s' : Frame m r} {receiver receiver' : CommandReceiver} {sent sent' : List Response}
      {channel channel' : Option (CommandRequest m r)} {count : Nat}
      (hconversing : Conversing owner h s receiver sent channel count)
      (hturn : Turn owner h s receiver sent h' s' receiver' sent') (hdrawn : Drawn h h' channel channel') :
      Conversing owner h' s' receiver' sent' channel' count

variable {channel : Option (CommandRequest m r)} {count : Nat}

/-- Every request is in the channel or has been taken. -/
theorem Conversing.counted (hconversing : Conversing owner h s receiver sent channel count) :
    Serving owner h s receiver sent ∧ count = h.commands.length + channel.toList.length := by
  induction hconversing with
  | opened hnew => exact ⟨.opened hnew, rfl⟩
  | enqueued hconversing hheard haccepted ih =>
    obtain ⟨hserving, hcount⟩ := ih
    refine ⟨hserving, ?_⟩
    unfold CommandRequest.tryEnqueue at haccepted
    rw [if_pos rfl] at haccepted
    split at haccepted
    · cases haccepted
      rw [hcount]
      rfl
    · cases haccepted
  | turn hconversing hturn hdrawn ih =>
    obtain ⟨hserving, hcount⟩ := ih
    refine ⟨hserving.turn hturn, ?_⟩
    cases hdrawn with
    | left hsame => rw [hcount, hsame]
    | taken hchannel htaken =>
      rw [hcount, hchannel, htaken]
      rfl

theorem Conversing.accepted (hconversing : Conversing owner h s receiver sent channel count)
    (request : CommandRequest m r) {connected : Bool} (hheard : connected = true → sent.length = count) :
    request.tryEnqueue connected channel ≠ .error .invariantViolation := by
  unfold CommandRequest.tryEnqueue
  cases connected with
  | false =>
    rw [if_neg Bool.false_ne_true]
    exact fun heq => nomatch heq
  | true =>
    rw [if_pos rfl]
    obtain ⟨hserving, hcount⟩ := hconversing.counted
    have hall := hserving.owes.settled.1.all
    have hheard := hheard rfl
    cases channel with
    | none => exact fun heq => nomatch heq
    | some waiting =>
      rw [Option.toList_some, List.length_singleton] at hcount
      omega

/-! ## Every run -/

/-- Each command taken is answered once, in the order of the commands, but for
one that waits in a worker that fails: a tap, or any command if it fails in a
wait. Its client is told that the worker has failed. Results are delivered
without an error, and a client that waits finds room for its next command. -/
theorem commands_complete_once (owner : List Response → Log m r → Log m r → Prop) :
    (∀ {h s receiver sent}, Serving owner h s receiver sent →
      Accounted h sent receiver.inFlight.isSome ∧
        ∀ {h' s' completion interrupted progress},
          Prog.Exec (stepRuntime s) h h' s' (.closed completion interrupted progress) →
          progress.commandResult = none ∨ interrupted = none) ∧
    (∀ {h receiver sent close delivery}, LoopEnd owner h receiver sent ⟨.closed close, delivery⟩ →
      delivery = none ∧ Accounted h sent false) ∧
    (∀ {h s receiver sent cause delivery}, Broken owner h s receiver sent cause delivery →
      delivery = none ∧ (∀ error, cause ≠ .commandDelivery error) ∧ (s.waits = true → Forsaken s cause) ∧
        ∀ {h' s' failure}, Prog.Exec (completeWorkerFailure cause s) h h' s' failure → Accounted h' sent s.waits) ∧
    ∀ {h s receiver sent channel count}, Conversing owner h s receiver sent channel count →
      ∀ (request : CommandRequest m r) {connected : Bool}, (connected = true → sent.length = count) →
        request.tryEnqueue connected channel ≠ .error .invariantViolation := by
  refine ⟨?_, fun hend => hend.closed_settled, ?_, fun hconversing request _ hheard => hconversing.accepted request hheard⟩
  · intro h s receiver sent hserving
    obtain ⟨hsettled, hflight⟩ := hserving.owes.settled
    rw [hflight]
    exact ⟨hsettled, hserving.closed_once⟩
  · intro h s receiver sent cause delivery hbroken
    obtain ⟨hdelivery, hsettled, hcause, hforsaken⟩ := hbroken.settled
    refine ⟨hdelivery, hcause, hforsaken, ?_⟩
    intro h' s' failure hexec
    exact hsettled.later (hexec.post (completeWorkerFailure_spec _ _ _)).plain

/-! ## A sample close -/

/-- What a step has taken out of the channel, told by the number of commands. -/
theorem fetched_of_count (hsuffix : h <:+ h') (hcount : h'.commands.length = h.commands.length ∨
    receiver.inFlight = none ∧ h'.commands.length = h.commands.length + 1) :
    ∃ receiver₁, Fetched h h' receiver receiver₁ := by
  obtain ⟨added, rfl⟩ := hsuffix
  rw [Log.commands_append, List.length_append] at hcount
  rcases hcount with hsame | ⟨hidle, hone⟩
  · refine ⟨receiver, .none ?_⟩
    rw [Log.commands_append, List.length_eq_zero_iff.1 (Nat.add_eq_right.1 hsame)]
    rfl
  · obtain ⟨command, hcommand⟩ := List.length_eq_one_iff.1 (Nat.add_right_cancel (hone.trans (Nat.add_comm _ _)))
    have hnext : receiver.tryNext (some ⟨command, h.commands.length⟩) =
        (some command, ⟨some h.commands.length⟩, none) := by
      unfold CommandReceiver.tryNext
      rw [hidle]
      rfl
    refine ⟨_, .one rfl hnext ?_⟩
    rw [Log.commands_append, hcommand]
    rfl

/-- A step of a sample worker is a turn of its loop. -/
theorem Serving.plays {env : Nat → (op : Op) → Op.Ans m r op} {point : Log m r × Frame m r}
    (hserving : Serving owner point.1 point.2 receiver sent) (howner : owner sent point.1 (play env point).1)
    (hgoes : (playStep env point).2.2.goesOn = true)
    (hcount : (play env point).1.commands.length = point.1.commands.length ∨
      receiver.inFlight = none ∧ (play env point).1.commands.length = point.1.commands.length + 1) :
    ∃ receiver' more, Serving owner (play env point).1 (play env point).2 receiver' (sent ++ more) ∧
      receiver'.inFlight.isSome = (play env point).2.waits ∧
      more.map Response.result = (playStep env point).2.2.answer.toList := by
  have hexec : Prog.Exec (stepRuntime point.2) point.1 (play env point).1 (play env point).2 (playStep env point).2.2 :=
    playStep_exec env point
  obtain ⟨receiver₁, hfetched⟩ := fetched_of_count hexec.suffix hcount
  generalize (playStep env point).2.2 = step at hgoes hexec ⊢
  cases step with
  | closed completion interrupted progress => cases hgoes
  | failed error progress => cases hgoes
  | «continue» progress =>
    obtain ⟨howes, hunanswered, hprogress⟩ := hfetched.continued hserving.owes hserving.run hexec
    rcases hdelivered : receiver₁.deliverProgress progress with ⟨outcome, receiver', more⟩
    obtain ⟨rfl, howes', hmore⟩ := howes.deliver hunanswered hprogress hdelivered
    exact ⟨receiver', more, hserving.turn (.delivered hexec howner hfetched hdelivered), howes'.settled.2, hmore⟩

def WorkerStep.closes : WorkerStep → Bool
  | closed .. => true
  | «continue» _ | failed .. => false

/-- A step of a sample worker that closes it is the end of its loop. -/
theorem Serving.closes {env : Nat → (op : Op) → Op.Ans m r op} {point : Log m r × Frame m r}
    (hserving : Serving owner point.1 point.2 receiver sent) (howner : owner sent point.1 (playStep env point).1)
    (hcloses : (playStep env point).2.2.closes = true)
    (hcount : (playStep env point).1.commands.length = point.1.commands.length ∨
      receiver.inFlight = none ∧ (playStep env point).1.commands.length = point.1.commands.length + 1) :
    ∃ receiver' more close delivery,
      LoopEnd owner (playStep env point).1 receiver' (sent ++ more) ⟨.closed close, delivery⟩ := by
  have hexec := playStep_exec env point
  obtain ⟨receiver₁, hfetched⟩ := fetched_of_count hexec.suffix hcount
  generalize (playStep env point).2.2 = step at hcloses hexec
  cases step with
  | «continue» progress => cases hcloses
  | failed error progress => cases hcloses
  | closed completion interrupted progress =>
    rcases hdelivered : receiver₁.deliverClosed interrupted progress with ⟨delivery, receiver', more⟩
    exact ⟨receiver', more, completion, delivery, .closed hserving hexec howner hfetched hdelivered⟩

/-- A step that answers its command well. -/
theorem Serving.plays_ok {env : Nat → (op : Op) → Op.Ans m r op} {point : Log m r × Frame m r}
    (hserving : Serving owner point.1 point.2 receiver sent) (howner : owner sent point.1 (play env point).1)
    (hgoes : (playStep env point).2.2.goesOn = true)
    (hcount : (play env point).1.commands.length = point.1.commands.length ∨
      receiver.inFlight = none ∧ (play env point).1.commands.length = point.1.commands.length + 1)
    (hok : (playStep env point).2.2.answer.any Except.isOk = true) (hwaits : (play env point).2.waits = false) :
    ∃ receiver' response, Serving owner (play env point).1 (play env point).2 receiver' (sent ++ [response]) ∧
      receiver'.inFlight = none ∧ response.result = .ok () := by
  obtain ⟨receiver', more, hserving', hflight, hmore⟩ := hserving.plays howner hgoes hcount
  obtain ⟨result, hanswer, hok⟩ := (Option.any_eq_true _ _).1 hok
  rw [hanswer] at hmore
  obtain ⟨response, rfl, hresult⟩ := List.map_eq_singleton_iff.1 hmore
  rw [hwaits, Option.isSome_eq_false_iff, Option.isNone_iff_eq_none] at hflight
  refine ⟨receiver', response, hserving', hflight, hresult.trans ?_⟩
  rcases result with error | ⟨⟩
  · cases hok
  · rfl

variable {owner : List Response → Log .pro .direct → Log .pro .direct → Prop}

/-- The sample worker has its Pair command. -/
theorem samplePairing_serving (howner : owner [] sampleDirect.openLog samplePairing.1) :
    ∃ receiver, Serving owner samplePairing.1 samplePairing.2 receiver [] := by
  have hopened : Serving owner sampleDirect.openLog sampleDirect.start ⟨none⟩ [] := .opened (.direct _ _)
  have hcount : samplePairing.1.commands.length = sampleDirect.openLog.commands.length + 1 := by decide +kernel
  obtain ⟨receiver, more, hserving, -, hmore⟩ :=
    @Serving.plays _ _ _ _ _ _ (sampleDirect.openLog, sampleDirect.start) hopened howner (by decide +kernel)
      (.inr ⟨rfl, hcount⟩)
  have hnone : (playStep (scripted .ZERO (fun _ => some (.pair sampleTimeout)) fun _ => [])
      (sampleDirect.openLog, sampleDirect.start)).2.2.answer.isNone = true := by decide +kernel
  rw [Option.isNone_iff_eq_none.1 hnone] at hmore
  rw [List.map_eq_nil_iff.1 hmore] at hserving
  exact ⟨receiver, hserving⟩

/-- The sample worker is at rest once it is ready, with one answer given. -/
theorem sampleReady_serving (howner₁ : owner [] sampleDirect.openLog samplePairing.1)
    (howner₂ : owner [] samplePairing.1 sampleReady.1) :
    ∃ receiver response, Serving owner sampleReady.1 sampleReady.2 receiver [response] ∧ receiver.inFlight = none ∧
      response.result = .ok () := by
  obtain ⟨receiver, hserving⟩ := samplePairing_serving howner₁
  have hcount : sampleReady.1.commands.length = samplePairing.1.commands.length := by decide +kernel
  exact hserving.plays_ok howner₂ (by decide +kernel) (.inl hcount) (by decide +kernel) (by decide +kernel)

/-- Its Send command is answered too. -/
theorem sampleHeld_serving : ∃ receiver first second,
    Serving (fun _ _ _ => True) sampleHeld.1 sampleHeld.2 receiver [first, second] ∧ receiver.inFlight = none ∧
      first.result = .ok () ∧ second.result = .ok () := by
  obtain ⟨receiver, first, hserving, hidle, hfirst⟩ := @sampleReady_serving (fun _ _ _ => True) trivial trivial
  have hcount : sampleHeld.1.commands.length = sampleReady.1.commands.length + 1 := by decide +kernel
  obtain ⟨receiver', second, hserving', hidle', hsecond⟩ :=
    hserving.plays_ok trivial (by decide +kernel) (.inr ⟨hidle, hcount⟩) (by decide +kernel) (by decide +kernel)
  exact ⟨receiver', first, second, hserving', hidle', hfirst, hsecond⟩

/-- The sample worker has taken a tap with its button held. -/
def sampleTapped : Log .pro .direct × Frame .pro .direct :=
  play (scripted .ZERO (fun _ => some (.input (tapCommand .direct [sampleButton] samplePeriod))) fun _ => []) sampleHeld

theorem sampleTapped_serving : ∃ receiver first second,
    Serving (fun _ _ _ => True) sampleTapped.1 sampleTapped.2 receiver [first, second] ∧
      first.result = .ok () ∧ second.result = .ok () := by
  obtain ⟨receiver, first, second, hserving, hidle, hfirst, hsecond⟩ := sampleHeld_serving
  have hcount : sampleTapped.1.commands.length = sampleHeld.1.commands.length + 1 := by decide +kernel
  obtain ⟨receiver', more, hserving', -, hmore⟩ := hserving.plays trivial (by decide +kernel) (.inr ⟨hidle, hcount⟩)
  have hnone : (playStep (scripted .ZERO (fun _ => some (.input (tapCommand .direct [sampleButton] samplePeriod)))
      fun _ => []) sampleHeld).2.2.answer.isNone = true := by decide +kernel
  rw [Option.isNone_iff_eq_none.1 hnone] at hmore
  obtain rfl := List.map_eq_nil_iff.1 hmore
  exact ⟨receiver', first, second, hserving', hfirst, hsecond⟩

/-- The sample worker is closed with its tap in flight: two answers were given before, and a last one is. -/
theorem commands_complete_once_sample : ∃ (h : Log .pro .direct) (receiver : CommandReceiver)
    (first second last : Response) (close : CloseCompletion),
    LoopEnd (fun _ _ _ => True) h receiver [first, second, last] ⟨.closed close, none⟩ ∧
      Accounted h [first, second, last] false ∧ first.result = .ok () ∧ second.result = .ok () := by
  obtain ⟨receiver, first, second, hserving, hfirst, hsecond⟩ := sampleTapped_serving
  have hcount : (playStep (requested (.explicit .withNeutral)) sampleTapped).1.commands.length = 3 := by decide +kernel
  have hsame : sampleTapped.1.commands.length = 3 := by decide +kernel
  obtain ⟨receiver', more, close, delivery, hend⟩ :=
    hserving.closes trivial (by decide +kernel) (.inl (hcount.trans hsame.symm))
  obtain ⟨rfl, haccounted⟩ := (commands_complete_once fun _ _ _ => True).2.1 hend
  have hall : 3 = 2 + more.length := by
    have hall := haccounted.all
    rwa [hcount, List.length_append] at hall
  obtain ⟨last, rfl⟩ := List.length_eq_one_iff.1 (show more.length = 1 by omega)
  exact ⟨_, receiver', first, second, last, close, hend, haccounted, hfirst, hsecond⟩

end Swbt
