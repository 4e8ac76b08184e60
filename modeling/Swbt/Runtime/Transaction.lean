import Swbt.Runtime.Fatal
import Swbt.Runtime.Deed
/-!
# Transactions

What the command taken last has done: the inputs it committed and the reports
it sent, and whether its session has ended or a shutdown has come since. An
automatic report follows a question for send capacity and belongs to no
command, and neither does any report sent before Ready.
-/

set_option autoImplicit false

open Effects

namespace Swbt

variable {m : ControllerKind} {r : ReportingKind} {h h₁ h' : Log m r} {s s₁ s' : Frame m r}

/-! ## Reading a transaction -/

/-- What is noted of a command. A report is noted with its control bytes. -/
inductive Mark (m : ControllerKind)
  | committed (input : InputState m)
  | sent (t : Option Duration) (controls : List UInt8) (result : TransportResult Unit)
  | ended
  | shutdown

/-- The event before asked for send capacity. -/
def Log.asksCapacity : Log m r → Bool
  | .call _ .interruptSendCapacityAvailable _ :: _ => true
  | _ => false

/-- The mark of an event, after what was there before. -/
def markOf (h : Log m r) : LogEvent m r → Option (Mark m)
  | .emit _ (.status (.setSnapshot input)) => some (.committed input)
  | .emit _ (.status (.endSession _ _)) => some .ended
  | .call _ .takeShutdown (some _) => some .shutdown
  | .call s (.sendInterrupt payload) result =>
    if payload.head? = some 0x30 ∧ s.lifecycle.state = .ready ∧ h.asksCapacity = false then
      some (.sent h.clock (controlBytes payload) result)
    else none
  | _ => none

namespace Log

/-- The command taken last, with the worker that took it. -/
def taken : Log m r → Option (Frame m r × RuntimeCommand m r)
  | [] => none
  | e :: h => match takenCommand e with
    | some command => some (e.state, command)
    | none => taken h

/-- The marks since then, the latest first. -/
def marks : Log m r → List (Mark m)
  | [] => []
  | e :: h => match takenCommand e with
    | some _ => []
    | none => (markOf h e).toList ++ marks h

end Log

/-- Nothing was taken, and nothing noted. -/
structure Unmarked (h h' : Log m r) : Prop where
  marks : h'.marks = h.marks
  taken : h'.taken = h.taken

theorem Unmarked.refl : Unmarked h h := ⟨rfl, rfl⟩

theorem Unmarked.trans (hleft : Unmarked h h₁) (hright : Unmarked h₁ h') : Unmarked h h' :=
  ⟨hright.marks.trans hleft.marks, hright.taken.trans hleft.taken⟩

theorem Unmarked.cons (hunmarked : Unmarked h h') (e : LogEvent m r) (htaken : takenCommand e = none)
    (hmark : markOf h' e = none) : Unmarked h (e :: h') := by
  refine ⟨?_, ?_⟩
  · rw [Log.marks, htaken, hmark]
    exact hunmarked.marks
  · rw [Log.taken, htaken]
    exact hunmarked.taken

/-! ## Sends -/

/-- A report that is no command's. -/
theorem Sent.unmarked {bytes : List UInt8} {candidate : SenderCommit} {result : TransportResult Unit}
    (hsent : Sent bytes candidate h s h' s' result)
    (hother : bytes.head? ≠ some 0x30 ∨ s.lifecycle.state ≠ .ready ∨ h.asksCapacity = true) : Unmarked h h' := by
  have hmark : ∀ result : TransportResult Unit, markOf h (.call s (Op.sendInterrupt bytes) result) = none := by
    intro result
    refine if_neg ?_
    rintro ⟨hhead, hready, hcapacity⟩
    rcases hother with hne | hne | hne
    · exact hne hhead
    · exact hne hready
    · rw [hcapacity] at hne
      cases hne
  cases hsent with
  | refused error => exact Unmarked.refl.cons _ rfl (hmark _)
  | accepted => exact (Unmarked.refl.cons _ rfl (hmark _)).cons _ rfl rfl

/-- What a command notes of a report of `state` at `t`, with its commit. -/
def inputMarks (r : ReportingKind) (t : Duration) (state : InputState m) (result : TransportResult Unit) :
    List (Mark m) :=
  match r, result with
  | .periodic, result => [.sent (some t) (encodeControls state) result, .committed state]
  | .direct, .ok () => [.committed state, .sent (some t) (encodeControls state) (.ok ())]
  | .direct, .error error => [.sent (some t) (encodeControls state) (.error error)]

/-- The committed input after it. -/
def inputAfter (r : ReportingKind) (before state : InputState m) (result : TransportResult Unit) : InputState m :=
  match r, result with
  | .periodic, _ => state
  | .direct, .ok () => state
  | .direct, .error _ => before

theorem InputSent.marked {state : InputState m} {nowNs : UInt64} {result : TransportResult Unit} {t : Duration}
    (hsent : InputSent state nowNs h s h' s' result) (hready : s.lifecycle.state = .ready)
    (hcapacity : h.asksCapacity = false) (hclock : h.clock = some t) :
    h'.marks = .sent (some t) (encodeControls state) result :: h.marks ∧ h'.taken = h.taken ∧
      s'.input = s.input := by
  have hmark : ∀ result : TransportResult Unit,
      markOf h (.call s (Op.sendInterrupt (s.sender.inputCandidate state nowNs).1) result) =
        some (.sent (some t) (encodeControls state) result) := by
    intro result
    refine (if_pos ⟨s.sender.head_inputCandidate state nowNs, hready, hcapacity⟩).trans ?_
    rw [hclock, ReportSender.controls_inputCandidate]
  unfold InputSent at hsent
  cases hsent with
  | refused error =>
    refine ⟨?_, rfl, rfl⟩
    change (markOf h _).toList ++ _ = _
    rw [hmark]
    rfl
  | accepted =>
    refine ⟨?_, rfl, rfl⟩
    change (markOf h _).toList ++ _ = _
    rw [hmark]
    rfl

theorem DirectSent.marked {state : InputState m} {nowNs : UInt64} {result : TransportResult Unit} {t : Duration}
    (hsent : DirectSent state nowNs h s h' s' result) (hready : s.lifecycle.state = .ready)
    (hcapacity : h.asksCapacity = false) (hclock : h.clock = some t) :
    h'.marks = inputMarks .direct t state result ++ h.marks ∧ h'.taken = h.taken ∧
      s'.input = inputAfter .direct s.input state result := by
  cases hsent with
  | refused hsent => exact hsent.marked hready hcapacity hclock
  | accepted hsent =>
    obtain ⟨hmarks, htaken, -⟩ := hsent.marked hready hcapacity hclock
    refine ⟨?_, htaken, rfl⟩
    exact congrArg (Mark.committed state :: ·) hmarks

theorem PeriodicSent.marked {state : InputState m} {nowNs : UInt64} {result : TransportResult Unit} {t : Duration}
    (hsent : PeriodicSent state nowNs h s h' s' result) (hready : s.lifecycle.state = .ready)
    (hclock : h.clock = some t) :
    h'.marks = inputMarks .periodic t state result ++ h.marks ∧ h'.taken = h.taken ∧
      s'.input = inputAfter .periodic s.input state result := by
  unfold PeriodicSent at hsent
  exact hsent.marked hready rfl hclock

/-! ## What keeps a transaction -/

theorem Answered.unmarked {channel : HidChannel} {raw : List UInt8} {current : InputState m}
    {completion : Except OutputHandlingError OutputHandling}
    (ha : Answered channel raw current h s h' s' completion) : Unmarked h h' := by
  cases ha with
  | malformed hparse => exact .refl
  | rumble hparse => exact Unmarked.refl.cons _ rfl rfl
  | unprepared hparse hprepare => exact (Unmarked.refl.cons _ rfl rfl).cons _ rfl rfl
  | replied hparse hprepare hsent =>
    have hseen := hsent.unmarked (.inl (by rw [(prepareReply_spec hprepare).head]; decide))
    exact ⟨hseen.marks, hseen.taken⟩

theorem HandshakeDriven.unmarked {work : ConnectionWork} {t : Duration}
    {a : Except WorkerCoreError Nat × ConnectionWork} (hd : HandshakeDriven work t h s h' s' a)
    (hidle : s.lifecycle.state ≠ .ready) : Unmarked h h' := by
  rcases hd.sends with rfl | ⟨s₁, result, hsent⟩
  · exact .refl
  · exact Sent.unmarked hsent (.inr (.inl hidle))

/-! ## Commands in flight -/

/-- What a command in flight shows in. -/
structure SameFlight (s s' : Frame m r) : Prop where
  tap : s'.reporting.tap = s.reporting.tap
  input : s'.input = s.input
  command : s'.connectionCommandPending = s.connectionCommandPending
  result : s'.progress.commandResult = s.progress.commandResult

/-- A command in flight stays so, or the pending connection command is answered. -/
inductive Flight (s s' : Frame m r) : Prop
  | same (hsame : SameFlight s s')
  | answered (htap : s'.reporting.tap = s.reporting.tap) (hinput : s'.input = s.input)
      (hpending : s.connectionCommandPending.isSome = true) (hcommand : s'.connectionCommandPending = none)
      (hresult : s'.progress.commandResult.isSome = true)

/-- The session ends, and with it the command in flight. -/
structure EndedFlight (s s' : Frame m r) : Prop where
  tap : s'.reporting.tap = none
  input : s'.input = s.input
  command : s'.connectionCommandPending = none
  cut : s.reporting.tap ≠ none ∨ s.connectionCommandPending.isSome = true →
    ∃ error, s'.progress.commandResult = some (.error error)
  uncut : s.reporting.tap = none → s.connectionCommandPending = none →
    s'.progress.commandResult = s.progress.commandResult

theorem SameControl.flight (hsame : SameControl s s') : SameFlight s s' :=
  ⟨hsame.tap, hsame.input, hsame.command, hsame.result⟩

theorem SameFlight.trans (hleft : SameFlight s s₁) (hright : SameFlight s₁ s') : SameFlight s s' :=
  ⟨hright.tap.trans hleft.tap, hright.input.trans hleft.input, hright.command.trans hleft.command,
    hright.result.trans hleft.result⟩

theorem Reporting.tap_stopSession (reporting : Reporting m r) : reporting.stopSession.tap = none := by
  cases reporting with
  | periodic runtime => rfl
  | direct runtime => rfl

/-- The failure of the connection work, by whether its command is pending. -/
theorem Frame.failConnection_flight (s : Frame m r) (error : ReadinessError) :
    (s.failConnection error).reporting = s.reporting ∧ (s.failConnection error).input = s.input ∧
      (s.failConnection error).connectionCommandPending = none ∧
      (s.connectionCommandPending.isSome = true →
        ∃ failure, (s.failConnection error).progress.commandResult = some (.error failure)) ∧
      (s.connectionCommandPending = none →
        (s.failConnection error).progress.commandResult = s.progress.commandResult) := by
  unfold failConnection completeFailure complete
  cases hcommand : s.connectionCommandPending with
  | none => exact ⟨rfl, rfl, hcommand, by simp, fun _ => rfl⟩
  | some command => exact ⟨rfl, rfl, rfl, fun _ => ⟨_, rfl⟩, by simp⟩

theorem Frame.abort_flight {s : Frame m r} (htap : s.reporting.tap = none) (error : ReadinessError) :
    EndedFlight s (s.abort error) := by
  obtain ⟨-, hinput, hcommand, hpending, hidle⟩ := s.failConnection_flight error
  refine ⟨Reporting.tap_stopSession _, hinput, hcommand, ?_, fun _ => hidle⟩
  rintro (hcut | hcut)
  · exact absurd htap hcut
  · exact hpending hcut

theorem Frame.disconnect_flight {s : Frame m r} (hs : s.Sound) (hlive : s.sessions.current ≠ none)
    (reason : Option UInt8) : EndedFlight s (s.disconnect reason) := by
  unfold disconnect cutConnection
  -- A session that ends was either being made or Ready.
  cases hs.coherent with
  | «open» hopen => exact absurd hopen.current hlive
  | connecting hwork hc =>
    have htap : s.reporting.tap = none := by
      have hnone := hc.noTap
      rwa [Reporting.hasPending_eq, Option.isSome_eq_false_iff, Option.isNone_iff_eq_none] at hnone
    have hcut : s.cutTap reason = s := by
      unfold cutTap
      rw [htap]
    rw [hcut, hwork]
    obtain ⟨-, hinput, hcommand, hpending, hidle⟩ := s.takeConnection.failConnection_flight (.disconnected reason)
    refine ⟨Reporting.tap_stopSession _, hinput, hcommand, fun _ => hpending hc.command, ?_⟩
    intro _ hnone
    exact absurd hnone (Option.isSome_iff_ne_none.1 hc.command)
  | ready hready =>
    have hwork : (s.cutTap reason).connection = none := by
      unfold cutTap
      split
      · exact hready.connection
      · exact hready.connection
    rw [hwork]
    unfold cutTap
    cases htap : s.reporting.tap with
    | none =>
      refine ⟨Reporting.tap_stopSession _, rfl, hready.command, ?_, fun _ _ => rfl⟩
      rintro (hcut | hcut)
      · exact absurd htap hcut
      · rw [hready.command] at hcut
        cases hcut
    | some tap =>
      refine ⟨Reporting.tap_stopSession _, rfl, hready.command, fun _ => ⟨_, rfl⟩, ?_⟩
      intro hnone
      rw [htap] at hnone
      cases hnone

/-! ## Moves -/

/-- The result of a tap, by the first error of its press and the result of its release. -/
def releaseOutcome (r : ReportingKind) (firstError : Option TransportError) (result : TransportResult Unit) :
    CommandResult :=
  match r, firstError, result with
  | .direct, _, result => directOutcome result
  | .periodic, some error, _ | .periodic, none, .error error => .error (.periodic (.transport error none))
  | .periodic, none, .ok () => .ok ()

/-- What a move that takes no command does to the one taken before. -/
inductive Transacted (h : Log m r) (s : Frame m r) (h' : Log m r) (s' : Frame m r) : Prop
  | kept (hunmarked : Unmarked h h') (hflight : Flight s s')
  | ended (hmarks : h'.marks = .ended :: h.marks) (htaken : h'.taken = h.taken) (hflight : EndedFlight s s')
  | released {tap : Tap m} {t : Duration} {result : TransportResult Unit} (htap : s.reporting.tap = some tap)
      (hdue : tap.releaseAt ≤ t) (hmarks : h'.marks = inputMarks r t tap.released result ++ h.marks)
      (htaken : h'.taken = h.taken) (hinput : s'.input = inputAfter r s.input tap.released result)
      (hgone : s'.reporting.tap = none) (hcommand : s'.connectionCommandPending = s.connectionCommandPending)
      (hresult : s'.progress.commandResult = some (releaseOutcome r tap.firstError result))

/-- A move that takes a command. -/
inductive Undertaken (h : Log m r) (s : Frame m r) (h' : Log m r) (s' : Frame m r) : Prop
  | taken {command : RuntimeCommand m r} {s₁ : Frame m r} {progress : WorkerCommandProgress}
      (hcommand : s.connectionCommandPending = none) (htap : s.reporting.tap = none)
      (hnone : s.progress.commandResult = none)
      (heffect : CommandEffect (.call s Op.nextCommand (some command) :: h) s.countCommand command h' s₁ progress)
      (hsettled : s' = s₁.settle (nonterminalCommandProgress progress).1)

theorem Reporting.tap_withTap_tap (reporting before : Reporting m r) :
    (reporting.withTap before.tap).tap = before.tap := by
  cases before with
  | periodic runtime =>
    cases reporting
    obtain ⟨policy, _ | ⟨⟨released, firstError⟩, releaseAt⟩⟩ := runtime
    · rfl
    · rfl
  | direct runtime =>
    cases reporting
    obtain ⟨_ | ⟨released, releaseAt⟩⟩ := runtime
    · rfl
    · rfl

theorem Reporting.tap_withTap_none (reporting : Reporting m r) : (reporting.withTap none).tap = none := by
  cases reporting with
  | periodic runtime => rfl
  | direct runtime => rfl

theorem EndedFlight.of_same (hsame : SameFlight s s₁) (hended : EndedFlight s₁ s') : EndedFlight s s' := by
  refine ⟨hended.tap, hended.input.trans hsame.input, hended.command, ?_, ?_⟩
  · intro hcut
    rw [← hsame.tap, ← hsame.command] at hcut
    exact hended.cut hcut
  · intro htap hcommand
    rw [← hsame.tap] at htap
    rw [← hsame.command] at hcommand
    exact (hended.uncut htap hcommand).trans hsame.result

theorem IsConnecting.tap {work : ConnectionWork} {core : WorkerCore m r} (hc : IsConnecting work core) :
    core.reporting.tap = none := by
  have hnone := hc.noTap
  rwa [Reporting.hasPending_eq, Option.isSome_eq_false_iff, Option.isNone_iff_eq_none] at hnone

theorem EventEffect.transacted {event : SessionEvent} {result : Except WorkerCoreError Bool}
    (he : EventEffect event h s h' s' result) (hs : s.Sound) : Transacted h s h' s' := by
  have hrefl : SameFlight s s := ⟨rfl, rfl, rfl, rfl⟩
  cases he with
  | dropped hstale => exact .kept (Unmarked.refl.cons _ rfl rfl) (.same hrefl)
  | connected hcurrent hevent =>
    exact .kept ((Unmarked.refl.cons _ rfl rfl).cons _ rfl rfl) (.same ⟨rfl, rfl, rfl, rfl⟩)
  | opened hcurrent hevent => exact .kept (Unmarked.refl.cons _ rfl rfl) (.same ⟨rfl, rfl, rfl, rfl⟩)
  | answered hcurrent hevent hheld hanswered =>
    obtain ⟨-, -, -, hcommand, -, hinput, -, hprogress⟩ := hanswered.keeps
    obtain ⟨hmarks, htaken⟩ := hanswered.unmarked
    refine .kept (Unmarked.cons (h := h) ⟨hmarks, htaken⟩ _ rfl rfl) (.same ⟨?_, hinput, hcommand, ?_⟩)
    · exact (Reporting.tap_recorded ..).trans (Reporting.tap_withTap_tap _ _)
    · have hresult := congrArg StepProgress.commandResult hprogress
      exact hresult
  | disconnected hcurrent hevent =>
    refine .ended rfl rfl (Frame.disconnect_flight hs ?_ _)
    rw [hcurrent]
    exact Option.some_ne_none _

theorem DriveEffect.transacted {t : Duration} {result : Except WorkerCoreError Nat}
    (he : DriveEffect t (.call s Op.now t :: h) s h' s' result) (hs : s.Sound) : Transacted h s h' s' := by
  have hread : Unmarked h (.call s Op.now t :: h) := Unmarked.refl.cons _ rfl rfl
  have htake : SameFlight s s.takeConnection := ⟨rfl, rfl, rfl, rfl⟩
  cases he with
  | idle hnone => exact .kept hread (.same ⟨rfl, rfl, rfl, rfl⟩)
  | aborted hwork hinactive =>
    have htap : s.takeConnection.reporting.tap = none := (hs.coherent.of_connection hwork).tap
    exact .ended rfl rfl (.of_same htake (Frame.abort_flight htap _))
  | failed hwork hactive hhandshake =>
    have hc := hs.coherent.of_connection hwork
    obtain ⟨hcontrol, -⟩ := hhandshake.sameControl hc.work
    refine .kept (hread.trans (hhandshake.unmarked hc.notReady)) (.same ?_)
    exact ⟨hcontrol.tap, hcontrol.input, hcontrol.command, hcontrol.result⟩
  | pending hwork hactive hhandshake hevaluated hresult =>
    have hc := hs.coherent.of_connection hwork
    obtain ⟨hcontrol, -, hwork', -⟩ := hhandshake.sameControl hc.work
    obtain ⟨hsame, -, rfl, -⟩ := hevaluated.sameControl hwork'
    refine .kept (hread.trans (hhandshake.unmarked hc.notReady)) (.same ?_)
    have hflight := hcontrol.flight.trans hsame.flight
    exact ⟨hflight.tap, hflight.input, hflight.command, hflight.result⟩
  | ready hwork hactive hhandshake hevaluated hresult =>
    have hc := hs.coherent.of_connection hwork
    obtain ⟨hcontrol, -, hwork', -⟩ := hhandshake.sameControl hc.work
    obtain ⟨hsame, -, rfl, -⟩ := hevaluated.sameControl hwork'
    have hflight := hcontrol.flight.trans hsame.flight
    refine .kept ((hread.trans (hhandshake.unmarked hc.notReady)).cons _ rfl rfl) ?_
    rename_i s₂
    have hsome : s₂.markReady.connectionCommandPending.isSome = true := by
      rw [show s₂.markReady.connectionCommandPending = _ from hflight.command]
      exact hc.command
    obtain ⟨command, hcommand⟩ := Option.isSome_iff_exists.1 hsome
    unfold Frame.complete
    rw [hcommand]
    exact .answered hflight.tap hflight.input hc.command rfl rfl
  | evaluationFailed hwork hactive hhandshake hevaluated hresult =>
    have hc := hs.coherent.of_connection hwork
    obtain ⟨hcontrol, -, hwork', -⟩ := hhandshake.sameControl hc.work
    obtain ⟨hsame, -, rfl, -⟩ := hevaluated.sameControl hwork'
    have hflight := hcontrol.flight.trans hsame.flight
    obtain ⟨hmarks, htaken⟩ := hread.trans (hhandshake.unmarked hc.notReady)
    refine .ended (congrArg (Mark.ended :: ·) hmarks) htaken (.of_same (htake.trans hflight) ?_)
    exact Frame.abort_flight (hflight.tap.trans hc.tap) _

/-- A periodic transport error is reported without what came after it. -/
theorem settled_periodic (error : TransportError) (later : Option TransportError) :
    (nonterminalCommandProgress (.complete (.error (.periodic (.transport error later))))).1 =
      .complete (.error (.periodic (.transport error none))) := by
  unfold nonterminalCommandProgress classifyPeriodicError
  cases later with
  | some later => rfl
  | none =>
    by_cases hkind : error.kind = .sendRejected
    · simp [hkind]
    · simp [hkind]

theorem settled_direct (error : TransportError) :
    (nonterminalCommandProgress (.complete (.error (.direct (.transport error))))).1 =
      .complete (.error (.direct (.transport error))) := by
  unfold nonterminalCommandProgress
  by_cases hkind : error.kind = .sendRejected
  · simp [hkind]
  · simp [hkind]

/-- What a release notes, the tap taken out of the frame before it. -/
theorem Released.marked {tap : Tap m} {t : Duration} {result : CommandResult} (hreleased : Released tap t h s h' s' result)
    (hready : s.lifecycle.state = .ready) (hcapacity : h.asksCapacity = false) (hclock : h.clock = some t) :
    ∃ sent, h'.marks = inputMarks r t tap.released sent ++ h.marks ∧ h'.taken = h.taken ∧
      s'.input = inputAfter r s.input tap.released sent ∧ SameCommand s s' ∧
      (nonterminalCommandProgress (.complete result)).1 = .complete (releaseOutcome r tap.firstError sent) := by
  cases hreleased with
  | periodic hr hsent =>
    subst hr
    rename_i sent
    obtain ⟨hmarks, htaken, hinput⟩ := hsent.marked hready hclock
    refine ⟨sent, hmarks, htaken, hinput, hsent.sameCommand, ?_⟩
    rcases tap.firstError with _ | first
    · rcases sent with error | ⟨⟩
      · exact settled_periodic error none
      · rfl
    · rcases sent with error | ⟨⟩
      · exact settled_periodic first _
      · exact settled_periodic first none
  | direct hr hsent =>
    subst hr
    rename_i sent
    obtain ⟨hmarks, htaken, hinput⟩ := hsent.marked hready hcapacity hclock
    refine ⟨sent, hmarks, htaken, hinput, hsent.sameCommand, ?_⟩
    rcases sent with error | ⟨⟩
    · exact settled_direct error
    · rfl

theorem DueEffect.transacted {t : Duration} {due : ReportingDue} (he : DueEffect t (.call s Op.now t :: h) s h' s' due)
    (hs : s.Sound) : Transacted h s h' (s'.recordDue due) := by
  have hread : Unmarked h (.call s Op.now t :: h) := Unmarked.refl.cons _ rfl rfl
  cases he with
  | quiet htap hpolicy => exact .kept hread (.same ⟨rfl, rfl, rfl, rfl⟩)
  | failed hpolicy herror => exact .kept hread (.same ⟨rfl, rfl, rfl, rfl⟩)
  | backpressured htap hpolicy hticks =>
    exact .kept (hread.cons _ rfl rfl) (.same ⟨Reporting.tap_withPolicy _ _, rfl, rfl, rfl⟩)
  | automatic hpolicy hticks hsent herrors =>
    have hsame := Sent.sameControl hsent
    obtain ⟨hmarks, htaken⟩ := Sent.unmarked hsent (.inr (.inr rfl))
    refine .kept ⟨hmarks, htaken⟩ (.same ⟨?_, hsame.input, hsame.command, hsame.result⟩)
    exact hsame.tap.trans (Reporting.tap_withPolicy _ _)
  | released htap hdue hreleased =>
    have hpending : s.reporting.hasPending = true := by
      rw [Reporting.hasPending_eq, htap]
      rfl
    have hready : s.lifecycle.state = .ready := by
      rw [(hs.coherent.of_tap hpending).lifecycle]
      rfl
    obtain ⟨sent, hmarks, htaken, hinput, hsame, houtcome⟩ := hreleased.marked hready rfl rfl
    unfold Frame.recordDue Frame.settleDue
    dsimp only
    rw [houtcome]
    refine .released htap hdue hmarks htaken hinput ?_ hsame.command rfl
    exact (congrArg Reporting.tap hsame.reporting).trans (Reporting.tap_withTap_none _)

theorem Move.transacted {terminal : Option WorkerCoreError} (hmove : Move h s terminal h' s') (hs : s.Sound) :
    Transacted h s h' s' ∨ Undertaken h s h' s' := by
  cases hmove with
  | unrequested => exact .inl (.kept (Unmarked.refl.cons _ rfl rfl) (.same ⟨rfl, rfl, rfl, rfl⟩))
  | noCommand hcommand htap => exact .inl (.kept (Unmarked.refl.cons _ rfl rfl) (.same ⟨rfl, rfl, rfl, rfl⟩))
  | polled => exact .inl (.kept (Unmarked.refl.cons _ rfl rfl) (.same ⟨rfl, rfl, rfl, rfl⟩))
  | pollFailed => exact .inl (.kept (Unmarked.refl.cons _ rfl rfl) (.same ⟨rfl, rfl, rfl, rfl⟩))
  | untagged => exact .inl (.kept (Unmarked.refl.cons _ rfl rfl) (.same ⟨rfl, rfl, rfl, rfl⟩))
  | progress hresult => exact .inl (.kept .refl (.same ⟨rfl, rfl, rfl, hresult⟩))
  | command hcommand htap hresult heffect =>
    rw [Reporting.hasPending_eq, Option.isSome_eq_false_iff, Option.isNone_iff_eq_none] at htap
    exact .inr (.taken hcommand htap hresult heffect rfl)
  | event heffect => exact .inl (heffect.transacted hs)
  | drive heffect => exact .inl (heffect.transacted hs)
  | due hallowed heffect => exact .inl (heffect.transacted hs)

/-! ## Commands -/

theorem Sent.taken {bytes : List UInt8} {candidate : SenderCommit} {result : TransportResult Unit}
    (hsent : Sent bytes candidate h s h' s' result) : h'.taken = h.taken := by
  cases hsent with
  | refused error => rfl
  | accepted => rfl

theorem DirectSent.taken {candidate : InputState m} {nowNs : UInt64} {result : TransportResult Unit}
    (hsent : DirectSent candidate nowNs h s h' s' result) : h'.taken = h.taken := by
  cases hsent with
  | refused hsent => exact Sent.taken hsent
  | accepted hsent =>
    have htaken := Sent.taken hsent
    exact htaken

theorem PeriodicSent.taken {candidate : InputState m} {nowNs : UInt64} {result : TransportResult Unit}
    (hsent : PeriodicSent candidate nowNs h s h' s' result) : h'.taken = h.taken := by
  have htaken := Sent.taken hsent
  exact htaken

theorem InputEffect.taken {command : ReportingCommand m r} {t : Duration} {progress : WorkerCommandProgress}
    (he : InputEffect command t h s h' s' progress) : h'.taken = h.taken := by
  cases he with
  | rejected herror hplan => rfl
  | committed hr candidate hplan => rfl
  | sent hr hready hinput hplan => exact hinput.taken
  | unsent hr hready hinput hplan => exact hinput.taken
  | pressedDirect hr hready hinput hplan => exact hinput.taken
  | pressedPeriodic hr hready hinput hresult hplan => exact hinput.taken
  | unpressed hr hready hinput hkind hplan => exact hinput.taken

theorem CommandEffect.taken {command : RuntimeCommand m r} {progress : WorkerCommandProgress}
    (he : CommandEffect h s command h' s' progress) : h'.taken = h.taken := by
  have hstart : ∀ (kind : ConnectionCommandKind) (result : TransportResult Unit),
      Log.taken (startEvent kind s result :: h) = h.taken := by
    intro kind result
    cases kind with
    | pair => rfl
    | reconnect => rfl
  cases he with
  | unstarted => exact hstart _ _
  | refused hopen => exact hstart _ _
  | begun hopen => exact hstart _ _
  | ended hended => rfl
  | input heffect => exact heffect.taken

/-- An input command of a ready worker comes to its handler. -/
theorem CommandEffect.of_ready {command : ReportingCommand m r} {progress : WorkerCommandProgress}
    (he : CommandEffect h s (.input command) h' s' progress) (hready : s.lifecycle.state = .ready) :
    ∃ t, InputEffect command t (.call s Op.now t :: h) s h' s' progress := by
  generalize hinput : RuntimeCommand.input command = taken at he
  cases he with
  | input heffect =>
    cases hinput
    exact ⟨_, heffect⟩
  | ended hended =>
    have halive : s.lifecycle.ensureInputCommand = .ok () := by
      unfold LifecycleStateMachine.ensureInputCommand
      unfold LifecycleStateMachine.state at hready
      cases hcurrent : s.lifecycle.current with
      | ready => rfl
      | _ => simp [hcurrent] at hready
    rw [halive] at hended
    cases hended
  | unstarted => rename_i kind _ _; cases kind <;> cases hinput
  | refused hopen => rename_i kind _ _; cases kind <;> cases hinput
  | begun hopen => rename_i kind _ _; cases kind <;> cases hinput

end Swbt
