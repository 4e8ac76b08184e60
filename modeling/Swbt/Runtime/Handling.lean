import Swbt.Runtime.Fatal
import Swbt.Runtime.Points
import Swbt.Runtime.Run
/-!
# Handling an event

What the step loop does about an event it has polled: it drops the event, or
takes it for its session and handles it up to the next check for a shutdown.
An output report leads to one reply or one protocol error, or to nothing.
-/

set_option autoImplicit false

open Effects

namespace Swbt

variable {m : ControllerKind} {r : ReportingKind} {h h₁ h' : Log m r} {s s' f g : Frame m r} {e : LogEvent m r}

/-! ## Arrivals -/

/-- An event of the transport, with the session current when it was polled. -/
structure Arrival where
  event : TransportEvent
  session : Option ConnectionSessionId

/-- The event as the step loop hands it on. -/
def Arrival.tag (arrival : Arrival) : Option SessionEvent := arrival.session.map fun id => ⟨id, arrival.event⟩

/-- What the step loop made of an event it came to in the session `current`. -/
structure EventOutcome where
  current : Option ConnectionSessionId
  taken : Option SessionEvent

/-- An arrival is taken in the session it arrived in, and dropped in any other. -/
def Arrival.Becomes (arrival : Arrival) (outcome : EventOutcome) : Prop :=
  outcome.taken = arrival.tag.filter fun event => outcome.current = some event.sessionId

def pollEvent : LogEvent m r → Bool
  | .call _ (.poll _) _ => true
  | _ => false

/-- The events a poll returned. -/
def polledBy : LogEvent m r → List Arrival
  | .call s (.poll _) (.ok events) => events.map (Arrival.mk · s.sessions.current)
  | _ => []

/-- What the step loop makes of an event it has come to. -/
def outcomeOf : LogEvent m r → List EventOutcome
  | .emit s (.processed taken) => [⟨s.sessions.current, taken⟩]
  | _ => []

namespace Log

/-- All that the polls of a log returned, in the order of arrival. -/
def arrivals (h : Log m r) : List Arrival := h.reverse.flatMap polledBy

/-- What became of the events the step loop came to, in its order. -/
def outcomes (h : Log m r) : List EventOutcome := h.reverse.flatMap outcomeOf

theorem arrivals_append (after before : Log m r) : Log.arrivals (after ++ before) = before.arrivals ++ after.arrivals := by
  unfold arrivals
  rw [List.reverse_append, List.flatMap_append]

theorem outcomes_append (after before : Log m r) : Log.outcomes (after ++ before) = before.outcomes ++ after.outcomes := by
  unfold outcomes
  rw [List.reverse_append, List.flatMap_append]

end Log

/-! ## Other events -/

/-- The event neither polls nor handles what was polled. -/
structure Aside (e : LogEvent m r) : Prop where
  poll : pollEvent e = false
  outcome : outcomeOf e = []

theorem polledBy_of_poll (hpoll : pollEvent e = false) : polledBy e = [] := by
  unfold polledBy
  split
  · cases hpoll
  · rfl

theorem Log.arrivals_asides (hall : ∀ e ∈ h, Aside e) : h.arrivals = [] := by
  refine List.flatMap_eq_nil_iff.2 ?_
  intro e hmem
  exact polledBy_of_poll (hall e (List.mem_reverse.1 hmem)).poll

theorem Log.outcomes_asides (hall : ∀ e ∈ h, Aside e) : h.outcomes = [] := by
  refine List.flatMap_eq_nil_iff.2 ?_
  intro e hmem
  exact (hall e (List.mem_reverse.1 hmem)).outcome

/-- The payloads offered to the transport, in their order. -/
def Log.sends (h : Log m r) : List (List UInt8) := h.reverse.filterMap offeredPayload

/-- The payload of a send that answers a subcommand. -/
def replyOffered (e : LogEvent m r) : Option (List UInt8) := (offeredPayload e).filter fun payload => payload.head? = some 0x21

/-- The replies offered to the transport, in their order. -/
def Log.replies (h : Log m r) : List (List UInt8) := h.reverse.filterMap replyOffered

theorem Log.replies_append (after before : Log m r) : Log.replies (after ++ before) = before.replies ++ after.replies := by
  unfold Log.replies
  rw [List.reverse_append, List.filterMap_append]

theorem Log.replies_cons : Log.replies (e :: h) = h.replies ++ (replyOffered e).toList := by
  unfold Log.replies
  cases hreply : replyOffered e <;> simp [hreply]

/-- Besides, it offers no reply. -/
structure Unanswering (e : LogEvent m r) : Prop extends Aside e where
  reply : replyOffered e = none

theorem Log.replies_unanswering (hall : ∀ e ∈ h, Unanswering e) : h.replies = [] := by
  refine List.filterMap_eq_nil_iff.2 ?_
  intro e hmem
  exact (hall e (List.mem_reverse.1 hmem)).reply

/-- The event offers a payload that is no reply. -/
def offersReport (e : LogEvent m r) : Bool := (offeredPayload e).any fun payload => payload.head? ≠ some 0x21

/-- Such a payload is offered in a Ready session. -/
def readyReport (e : LogEvent m r) : Bool := offersReport e && e.state.lifecycle.state = .ready

/-- Besides, it is no automatic attempt and no report of a Ready session. -/
structure Interlude (e : LogEvent m r) : Prop extends Unanswering e where
  asks : asksEvent e = false
  report : readyReport e = false

/-- The worker reads the clock with a tap pending. -/
def readsTap : LogEvent m r → Bool
  | .call s .now _ => s.reporting.hasPending
  | _ => false

/-- Part of a command: no automatic attempt, and no reading with a tap pending. -/
structure Opening (e : LogEvent m r) : Prop extends Unanswering e where
  asks : asksEvent e = false
  unpressed : readsTap e = false

def checksShutdown : LogEvent m r → Bool
  | .call _ .takeShutdown _ => true
  | _ => false

/-! ## What effects add -/

theorem Routine.opening (hroutine : Routine e) : Opening e := by
  cases hroutine with
  | report hhead => exact ⟨⟨⟨rfl, rfl⟩, by simp [replyOffered, offeredPayload, hhead]⟩, rfl, rfl⟩
  | counted => exact ⟨⟨⟨rfl, rfl⟩, rfl⟩, rfl, rfl⟩
  | committed => exact ⟨⟨⟨rfl, rfl⟩, rfl⟩, rfl, rfl⟩

/-- What a command adds that was taken with no tap pending. -/
theorem CommandEffect.opening {command : RuntimeCommand m r} {progress : WorkerCommandProgress}
    (he : CommandEffect h s command h' s' progress) (htap : s.reporting.hasPending = false) : Adds Opening h h' := by
  refine he.events.mono ?_
  intro e hevent
  cases hevent with
  | started =>
    rename_i kind result
    cases kind with
    | pair => exact ⟨⟨⟨rfl, rfl⟩, rfl⟩, rfl, rfl⟩
    | reconnect => exact ⟨⟨⟨rfl, rfl⟩, rfl⟩, rfl, rfl⟩
  | read => exact ⟨⟨⟨rfl, rfl⟩, rfl⟩, rfl, htap⟩
  | begun => exact ⟨⟨⟨rfl, rfl⟩, rfl⟩, rfl, rfl⟩
  | routine hroutine => exact hroutine.opening

/-- A report of a session that is not Ready. -/
theorem InputSent.interlude {state : InputState m} {nowNs : UInt64} {result : TransportResult Unit}
    (hsent : InputSent state nowNs h s h' s' result) (hready : s.lifecycle.state ≠ .ready) : Adds Interlude h h' := by
  have hhead := s.sender.head_inputCandidate state nowNs
  have hreport : ∀ result : TransportResult Unit,
      Interlude (.call s (Op.sendInterrupt (s.sender.inputCandidate state nowNs).1) result : LogEvent m r) := by
    intro result
    refine ⟨⟨⟨rfl, rfl⟩, ?_⟩, rfl, Bool.and_eq_false_iff.2 (.inr (decide_eq_false hready))⟩
    simp [replyOffered, offeredPayload, hhead]
  unfold InputSent at hsent
  cases hsent with
  | refused error => exact .single (hreport _)
  | accepted => exact (Adds.single (hreport _)).cons ⟨⟨⟨rfl, rfl⟩, rfl⟩, rfl, rfl⟩

theorem HandshakeDriven.interlude {work : ConnectionWork} {t : Duration} {a : Except WorkerCoreError Nat × ConnectionWork}
    (hd : HandshakeDriven work t h s h' s' a) (hready : s.lifecycle.state ≠ .ready) : Adds Interlude h h' := by
  rcases hd.sends with rfl | ⟨s₁, result, hsent⟩
  · exact .refl
  · exact hsent.interlude hready

/-- Only a session that is still connecting is driven. -/
theorem DriveEffect.interlude {t : Duration} {result : Except WorkerCoreError Nat}
    (he : DriveEffect t h s h' s' result) (hs : s.Sound) : Adds Interlude h h' := by
  cases he with
  | idle hnone => exact .refl
  | aborted hwork hinactive => exact .single ⟨⟨⟨rfl, rfl⟩, rfl⟩, rfl, rfl⟩
  | failed hwork hactive hhandshake => exact hhandshake.interlude (hs.coherent.of_connection hwork).notReady
  | pending hwork hactive hhandshake hevaluated hresult =>
    rw [hevaluated.log]
    exact hhandshake.interlude (hs.coherent.of_connection hwork).notReady
  | ready hwork hactive hhandshake hevaluated hresult =>
    rw [hevaluated.log]
    exact (hhandshake.interlude (hs.coherent.of_connection hwork).notReady).cons ⟨⟨⟨rfl, rfl⟩, rfl⟩, rfl, rfl⟩
  | evaluationFailed hwork hactive hhandshake hevaluated hresult =>
    rw [hevaluated.log]
    exact (hhandshake.interlude (hs.coherent.of_connection hwork).notReady).cons ⟨⟨⟨rfl, rfl⟩, rfl⟩, rfl, rfl⟩

theorem DueEffect.unanswering {t : Duration} {due : ReportingDue} (he : DueEffect t h s h' s' due) :
    Adds Unanswering h h' := by
  refine he.events.mono ?_
  intro e hevent
  cases hevent with
  | asked => exact ⟨⟨rfl, rfl⟩, rfl⟩
  | routine hroutine => exact hroutine.opening.toUnanswering

theorem Cleaned.unanswering {sequence : CleanupSequence} {connected publish : Bool} {nowNs : UInt64}
    {completion : CloseCompletion} (hc : Cleaned sequence connected nowNs publish h s h' s' completion) :
    Adds Unanswering h h' := by
  refine hc.events.mono ?_
  intro e hevent
  cases hevent with
  | report hmode hclosing =>
    exact ⟨⟨rfl, rfl⟩, by simp [replyOffered, offeredPayload, ReportSender.head_inputCandidate]⟩
  | _ => exact ⟨⟨rfl, rfl⟩, rfl⟩

theorem CloseEffect.unanswering {request : ShutdownRequest} {t : Duration} {step : WorkerStep}
    (hc : CloseEffect request t h s h' s' step) : Adds Unanswering h h' := by
  cases hc with
  | closed hcleaned => exact hcleaned.unanswering.cons ⟨⟨rfl, rfl⟩, rfl⟩

theorem FailEffect.unanswering {error : WorkerCoreError} {step : WorkerStep} (hf : FailEffect error h s h' s' step) :
    Adds Unanswering h h' := by
  cases hf with
  | failed => exact .single ⟨⟨rfl, rfl⟩, rfl⟩

/-! ## Output reports -/

def protocolError : WorkerOperationError → Option ProtocolError
  | .output (.protocol error) => some error
  | _ => none

/-- The protocol errors a step has noted so far. -/
def Frame.protocolErrors (s : Frame m r) : List ProtocolError := s.progress.operationErrors.filterMap protocolError

/-- What the worker does about an event, from the frame `f` in which it comes to
it to the frame `g` in which it checks for a shutdown. -/
inductive Handled (f : Frame m r) : Option SessionEvent → Log m r → Frame m r → Prop
  | dropped : Handled f none [] f
  | replied {id : ConnectionSessionId} {channel : HidChannel} {raw bytes : List UInt8} {packetId : UInt8}
      {request : SubcommandRequest} {action : PreparedOutputAction} {during : Log m r} {g : Frame m r}
      (hparse : parseOutputReport raw = .ok (.subcommand packetId bytes request))
      (hprepare : f.sender.prepareReply f.protocol request f.input = .ok action) (hsends : during.sends = [action.bytes])
      (herrors : g.protocolErrors = f.protocolErrors) : Handled f (some ⟨id, .hidOutput channel raw⟩) during g
  | unprepared {id : ConnectionSessionId} {channel : HidChannel} {raw bytes : List UInt8} {packetId : UInt8}
      {request : SubcommandRequest} {error : ProtocolError} {during : Log m r} {g : Frame m r}
      (hparse : parseOutputReport raw = .ok (.subcommand packetId bytes request))
      (hprepare : f.sender.prepareReply f.protocol request f.input = .error error) (hsends : during.sends = [])
      (herrors : g.protocolErrors = f.protocolErrors ++ [error]) : Handled f (some ⟨id, .hidOutput channel raw⟩) during g
  | rumble {id : ConnectionSessionId} {channel : HidChannel} {raw bytes : List UInt8} {packetId : UInt8}
      {during : Log m r} {g : Frame m r} (hparse : parseOutputReport raw = .ok (.rumble packetId bytes))
      (hsends : during.sends = []) (herrors : g.protocolErrors = f.protocolErrors) :
      Handled f (some ⟨id, .hidOutput channel raw⟩) during g
  | malformed {id : ConnectionSessionId} {channel : HidChannel} {raw : List UInt8} {error : ProtocolError}
      {during : Log m r} {g : Frame m r} (hparse : parseOutputReport raw = .error error) (hsends : during.sends = [])
      (herrors : g.protocolErrors = f.protocolErrors ++ [error]) : Handled f (some ⟨id, .hidOutput channel raw⟩) during g
  | other {event : SessionEvent} {during : Log m r} {g : Frame m r}
      (hother : ∀ channel raw, event.event ≠ .hidOutput channel raw) (hsends : during.sends = []) :
      Handled f (some event) during g

def completionErrors : Except OutputHandlingError OutputHandling → List ProtocolError
  | .error (.protocol error) => [error]
  | _ => []

theorem protocolError_nonterminal (error : WorkerOperationError) :
    protocolError (nonterminalOperationError error).1 = protocolError error := by
  unfold nonterminalOperationError
  split
  · split
    · rfl
    · rfl
  · rfl
  · rfl

theorem Frame.protocolErrors_note (s : Frame m r) (error : WorkerOperationError) :
    (s.note error).protocolErrors = s.protocolErrors ++ (protocolError error).toList := by
  change List.filterMap protocolError (s.progress.operationErrors ++ [error]) = _
  rw [List.filterMap_append]
  congr 1

/-- Recording an output report notes its protocol error and no other. -/
theorem completeOutput_errors (completion : Except OutputHandlingError OutputHandling) (h : Log m r) (s : Frame m r) :
    Act.wp (completeOutput completion) h s fun _ s' _ =>
      s'.protocolErrors = s.protocolErrors ++ completionErrors completion := by
  have hnoted : ∀ (s₁ : Frame m r) (error : WorkerOperationError), s₁.progress = s.progress →
      (s₁.note (nonterminalOperationError error).1).protocolErrors =
        s.protocolErrors ++ (protocolError error).toList := by
    intro s₁ error hsame
    rw [Frame.protocolErrors_note, protocolError_nonterminal, Frame.protocolErrors, hsame]
    rfl
  unfold completeOutput recordOutput
  simp only [Act.wp_bind, wp_now]
  intro t
  refine reportingRecord_spec t completion _ s _ ?_ ?_
  · simp only [Act.wp_bind, Act.wp_pure]
    rcases completion with error | handling
    · refine recordOperationError_spec _ _ _ _ ?_
      have herrors := hnoted { s with reporting := s.reporting.recorded t (.error error) } (.output error) rfl
      cases error with
      | protocol error => exact herrors
      | transport error =>
        by_cases hkind : error.kind = .sendRejected
        · simp only [nonterminalOperationError, hkind, ne_eq, not_true_eq_false, if_false] at herrors ⊢
          exact herrors
        · simp only [nonterminalOperationError, hkind, ne_eq, not_false_eq_true, if_true] at herrors ⊢
          exact herrors
    · exact (List.append_nil _).symm
  · rintro rfl
    simp only [Act.wp_bind]
    exact recordOperationError_spec _ _ _ _ (hnoted _ _ rfl)

/-- The protocol errors an output report leads to. -/
def reportErrors (f : Frame m r) (raw : List UInt8) : List ProtocolError :=
  match parseOutputReport raw with
  | .error error => [error]
  | .ok (.rumble _ _) => []
  | .ok (.subcommand _ _ request) =>
    match f.sender.prepareReply f.protocol request f.input with
    | .error error => [error]
    | .ok _ => []

theorem Answered.errors {channel : HidChannel} {raw : List UInt8}
    {completion : Except OutputHandlingError OutputHandling} (ha : Answered channel raw s.input h s h' s' completion) :
    completionErrors completion = reportErrors s raw := by
  unfold reportErrors
  cases ha with
  | malformed hparse =>
    rw [hparse]
    rfl
  | rumble hparse =>
    rw [hparse]
    rfl
  | unprepared hparse hprepare =>
    rw [hparse]
    dsimp only
    rw [hprepare]
    rfl
  | replied hparse hprepare hsent =>
    rename_i result
    rw [hparse]
    dsimp only
    rw [hprepare]
    rcases result with error | ⟨⟩
    · rfl
    · rfl

theorem handleOutput_errors (channel : HidChannel) (raw : List UInt8) (h : Log m r) (s : Frame m r) :
    Act.wp (handleOutput channel raw s.input) h s fun _ s' completion =>
      s'.progress = s.progress ∧ completionErrors completion = reportErrors s raw := by
  refine Act.wp_mono (handleOutput_spec channel raw s.input h s) ?_
  intro h' s' completion hanswered
  exact ⟨hanswered.keeps.2.2.2.2.2.2.2, hanswered.errors⟩

theorem Frame.protocolErrors_congr (hprogress : s'.progress = s.progress) : s'.protocolErrors = s.protocolErrors :=
  congrArg (fun progress : StepProgress => progress.operationErrors.filterMap protocolError) hprogress

/-- An output report of the current session notes the protocol error it leads to. -/
theorem outputEvent_errors {id : ConnectionSessionId} {channel : HidChannel} {raw : List UInt8}
    (hcurrent : s.sessions.current = some id) :
    Act.wp (handleEvent ⟨id, .hidOutput channel raw⟩) h s fun _ s' _ =>
      s'.protocolErrors = s.protocolErrors ++ reportErrors s raw := by
  have hcomplete : ∀ (h₁ : Log m r) (s₁ : Frame m r) (completion : Except OutputHandlingError OutputHandling),
      s₁.progress = s.progress → completionErrors completion = reportErrors s raw →
        Act.wp (completeOutput completion) h₁ s₁ fun _ s' _ =>
          s'.protocolErrors = s.protocolErrors ++ reportErrors s raw := by
    intro h₁ s₁ completion hprogress herrors
    rw [← Frame.protocolErrors_congr hprogress, ← herrors]
    exact completeOutput_errors completion h₁ s₁
  have hpass : Act.wp (applyReported (.passthrough (.hidOutput channel raw)))
      (.emit s (.processed (some ⟨id, .hidOutput channel raw⟩)) :: h) s fun _ s' _ =>
        s'.protocolErrors = s.protocolErrors ++ reportErrors s raw := by
    unfold applyReported
    simp only [Act.wp_bind, wp_snapshot]
    refine Act.wp_mono (handleOutput_errors channel raw _ s) ?_
    rintro h₁ s₁ completion ⟨hprogress, herrors⟩
    exact hcomplete h₁ s₁ completion hprogress herrors
  have htake : s.sessions.takeCurrent ⟨id, .hidOutput channel raw⟩ = some (.hidOutput channel raw) := by
    unfold ConnectionSessions.takeCurrent
    rw [if_pos hcurrent.symm]
  unfold handleEvent
  rw [Act.wp_bind, wp_frame, htake]
  simp only [Act.wp_bind, wp_processed]
  unfold applyEvent
  rw [Act.wp_bind]
  cases r with
  | periodic => exact hpass
  | direct =>
    change Act.wp (Direct.handleEvent (.hidOutput channel raw)) _ _ _
    unfold Direct.handleEvent
    rw [Act.wp_bind, wp_frame]
    cases hpending : s.direct.pendingTap with
    | none => exact hpass
    | some tap =>
      -- The tap is out of the runtime while the report is answered.
      simp only [Act.wp_bind, wp_update, Frame.withDirect_noTap]
      unfold Direct.handleTapEvent
      simp only [Act.wp_bind, Direct.stepTap, wp_snapshot]
      refine Act.wp_mono (handleOutput_errors channel raw _ (s.setTap none)) ?_
      rintro h₁ s₁ completion ⟨hprogress, herrors⟩
      simp only [Act.wp_pure, Act.wp_bind, wp_update]
      exact hcomplete h₁ _ completion hprogress herrors

/-- Part of a handling: nothing automatic, and no check for a shutdown. -/
structure Handling (e : LogEvent m r) : Prop extends Aside e where
  asks : asksEvent e = false
  report : readyReport e = false
  check : checksShutdown e = false

theorem Sent.handling {bytes : List UInt8} {candidate : SenderCommit} {result : TransportResult Unit}
    (hsent : Sent bytes candidate h s h' s' result) (hhead : bytes.head? = some 0x21) :
    ∃ during, h' = during ++ h ∧ (∀ e ∈ during, Handling e) ∧ Log.sends during = [bytes] := by
  have hreport : ∀ result : TransportResult Unit,
      readyReport (.call s (Op.sendInterrupt bytes) result : LogEvent m r) = false := by
    intro result
    refine Bool.and_eq_false_iff.2 (.inl ?_)
    simp [offersReport, offeredPayload, hhead]
  cases hsent with
  | refused error =>
    refine ⟨[_], rfl, ?_, rfl⟩
    exact List.forall_mem_singleton.2 ⟨⟨rfl, rfl⟩, rfl, hreport _, rfl⟩
  | accepted =>
    refine ⟨[_, _], rfl, ?_, rfl⟩
    refine List.forall_mem_cons.2 ⟨⟨⟨rfl, rfl⟩, rfl, rfl, rfl⟩, ?_⟩
    exact List.forall_mem_singleton.2 ⟨⟨rfl, rfl⟩, rfl, hreport _, rfl⟩

theorem EventEffect.handled {event : SessionEvent} {result : Except WorkerCoreError Bool}
    (he : EventEffect event h s h' s' result)
    (herrors : ∀ id channel raw, event = ⟨id, .hidOutput channel raw⟩ → s.sessions.current = some id →
      s'.protocolErrors = s.protocolErrors ++ reportErrors s raw) :
    ∃ taken during, taken = (if s.sessions.current = some event.sessionId then some event else none) ∧
      h' = during ++ .emit s (.processed taken) :: h ∧ Handled s taken during s' ∧ ∀ e ∈ during, Handling e := by
  have hone : ∀ {e : LogEvent m r}, Handling e → ∀ e' ∈ [e], Handling e' := fun hhandling => List.forall_mem_singleton.2 hhandling
  cases he with
  | dropped hstale => exact ⟨none, [], (if_neg hstale).symm, rfl, .dropped, fun _ hmem => nomatch hmem⟩
  | connected hcurrent hevent =>
    refine ⟨some event, [_], (if_pos hcurrent).symm, rfl, .other (by simp [hevent]) rfl, hone ?_⟩
    exact ⟨⟨rfl, rfl⟩, rfl, rfl, rfl⟩
  | opened hcurrent hevent =>
    exact ⟨some event, [], (if_pos hcurrent).symm, rfl, .other (by simp [hevent]) rfl, fun _ hmem => nomatch hmem⟩
  | disconnected hcurrent hevent =>
    refine ⟨some event, [_], (if_pos hcurrent).symm, rfl, .other (by simp [hevent]) rfl, hone ?_⟩
    exact ⟨⟨rfl, rfl⟩, rfl, rfl, rfl⟩
  | answered hcurrent hevent hheld hanswered =>
    rename_i channel raw held h₁ s₁ completion t errors
    obtain ⟨id, transportEvent⟩ := event
    cases hevent
    have hnoted := herrors id channel raw rfl hcurrent
    have hread : Handling (.call (s₁.setTap s.reporting.tap) Op.now t : LogEvent m r) := ⟨⟨rfl, rfl⟩, rfl, rfl, rfl⟩
    unfold reportErrors at hnoted
    cases hanswered with
    | malformed hparse =>
      rw [hparse] at hnoted
      exact ⟨_, [_], (if_pos hcurrent).symm, rfl, .malformed hparse rfl hnoted, hone hread⟩
    | rumble hparse =>
      rw [hparse] at hnoted
      refine ⟨_, [_, _], (if_pos hcurrent).symm, rfl, .rumble hparse rfl (hnoted.trans (List.append_nil _)), ?_⟩
      exact List.forall_mem_cons.2 ⟨hread, hone ⟨⟨rfl, rfl⟩, rfl, rfl, rfl⟩⟩
    | unprepared hparse hprepare =>
      change s.sender.prepareReply s.protocol _ s.input = _ at hprepare
      rw [hparse] at hnoted
      dsimp only at hnoted
      rw [hprepare] at hnoted
      refine ⟨_, [_, _, _], (if_pos hcurrent).symm, rfl, .unprepared hparse hprepare rfl hnoted, ?_⟩
      refine List.forall_mem_cons.2 ⟨hread, List.forall_mem_cons.2 ⟨?_, hone ?_⟩⟩
      · exact ⟨⟨rfl, rfl⟩, rfl, rfl, rfl⟩
      · exact ⟨⟨rfl, rfl⟩, rfl, rfl, rfl⟩
    | replied hparse hprepare hsent =>
      change s.sender.prepareReply s.protocol _ s.input = _ at hprepare
      rw [hparse] at hnoted
      dsimp only at hnoted
      rw [hprepare] at hnoted
      rename_i packetId bytes request action result
      -- The reply is offered between the status of its subcommand and the reading of the clock.
      obtain ⟨sent, rfl, hhandling, hsends⟩ := Sent.handling hsent (prepareReply_spec hprepare).head
      refine ⟨_, .call (s₁.setTap s.reporting.tap) Op.now t ::
        (sent ++ [.emit ((s.setTap held).observe request.id) (.status (.recordSubcommand request.id)),
          .emit (s.setTap held) (.observeOutput (observationOf channel (.subcommand packetId bytes request)))]),
        (if_pos hcurrent).symm, ?_, .replied hparse hprepare ?_ (hnoted.trans (List.append_nil _)), ?_⟩
      · simp
      · unfold Log.sends at hsends ⊢
        rw [List.reverse_cons, List.reverse_append, List.filterMap_append, List.filterMap_append, hsends]
        rfl
      · refine List.forall_mem_cons.2 ⟨hread, List.forall_mem_append.2 ⟨hhandling, List.forall_mem_cons.2 ⟨?_, hone ?_⟩⟩⟩
        · exact ⟨⟨rfl, rfl⟩, rfl, rfl, rfl⟩
        · exact ⟨⟨rfl, rfl⟩, rfl, rfl, rfl⟩

theorem handleEvent_handled (event : SessionEvent) (h : Log m r) (s : Frame m r) (hs : s.Sound) :
    Act.wp (handleEvent event) h s fun h' s' result => EventEffect event h s h' s' result ∧
      ∃ taken during, taken = (if s.sessions.current = some event.sessionId then some event else none) ∧
        h' = during ++ .emit s (.processed taken) :: h ∧ Handled s taken during s' ∧ ∀ e ∈ during, Handling e := by
  have herrors : Act.wp (handleEvent event) h s fun _ s' _ => ∀ id channel raw, event = ⟨id, .hidOutput channel raw⟩ →
      s.sessions.current = some id → s'.protocolErrors = s.protocolErrors ++ reportErrors s raw := by
    by_cases houtput : ∃ id channel raw, event = ⟨id, .hidOutput channel raw⟩ ∧ s.sessions.current = some id
    · obtain ⟨id, channel, raw, rfl, hcurrent⟩ := houtput
      refine Act.wp_mono (outputEvent_errors hcurrent) ?_
      intro h' s' result hnoted id' channel' raw' hevent _
      cases hevent
      exact hnoted
    · refine Act.wp_mono (handleEvent_spec event h s hs) ?_
      intro h' s' result _ id channel raw hevent hcurrent
      exact absurd ⟨id, channel, raw, hevent, hcurrent⟩ houtput
  refine Act.wp_mono (Act.wp_and (handleEvent_spec event h s hs) herrors) ?_
  rintro h' s' result ⟨heffect, hnoted⟩
  exact ⟨heffect, heffect.handled hnoted⟩

end Swbt
