import Swbt.Runtime.Ends
/-!
# Direct input is what was delivered

In direct mode the committed input of a session is the input its last accepted
0x30 report carried. A send the transport refuses changes nothing, and a
worker that is not Ready sends nothing.
-/

set_option autoImplicit false

open Effects

namespace Swbt

variable {m : ControllerKind} {r : ReportingKind} {h h' : Log m r} {s s' : Frame m r}

/-- The last 0x30 report the session had accepted, with the frame it was sent from. -/
def Log.lastReport : Log m r → Option (Frame m r × List UInt8)
  | [] => none
  | e :: h => match begunSession e, acceptedPayload e with
    | some _, _ => none
    | none, none => lastReport h
    | none, some payload => if payload.head? = some 0x30 then some (e.state, payload) else lastReport h

/-- The session has shown the host `input`, or nothing yet and `input` is neutral. -/
inductive Log.Shows (h : Log m r) : InputState m → Prop
  | nothing (hnone : h.lastReport = none) : Shows h .neutral
  | report {sent : Frame m r} {input : InputState m} {nowNs : UInt64}
      (hlast : h.lastReport = some (sent, (sent.sender.inputCandidate input nowNs).1)) : Shows h input

/-- Events in the middle of a send or of a begin: the counters are published
before the input is committed, and the session before the log tells of it. -/
def midway (e : LogEvent m r) : Bool :=
  match statusOf e with
  | some (.setSenderState ..) | some (.beginSession ..) => true
  | _ => false

/-- Inside a session and before a close, the committed input is what the host was shown. -/
def Atomic (e : LogEvent m r) (h : Log m r) : Prop :=
  midway e = false → e.state.sessions.current ≠ none → e.state.lifecycle.state ≠ .closing → h.Shows e.state.input

/-- The log so far is atomic and the frame agrees with it. -/
def Delivered (h : Log m r) (s : Frame m r) : Prop :=
  (s.sessions.current ≠ none → h.Shows s.input) ∧ Always Atomic h

theorem Log.lastReport_cons {e : LogEvent m r} (hbegun : begunSession e = none)
    (hreport : (acceptedPayload e).bind List.head? ≠ some 0x30) : Log.lastReport (e :: h) = h.lastReport := by
  rw [lastReport]
  split
  · rename_i hsome
    rw [hbegun] at hsome
    cases hsome
  · rfl
  · rename_i payload _ haccepted
    rw [haccepted] at hreport
    exact if_neg hreport

theorem Log.lastReport_report {e : LogEvent m r} {payload : List UInt8} (hbegun : begunSession e = none)
    (haccepted : acceptedPayload e = some payload) (hhead : payload.head? = some 0x30) :
    Log.lastReport (e :: h) = some (e.state, payload) := by
  simp only [lastReport, hbegun, haccepted, hhead, if_true]

theorem Log.Shows.cons {input : InputState m} (hshows : h.Shows input) {e : LogEvent m r}
    (hbegun : begunSession e = none) (hreport : (acceptedPayload e).bind List.head? ≠ some 0x30) :
    Log.Shows (e :: h) input := by
  cases hshows with
  | nothing hnone => exact .nothing (by rw [lastReport_cons hbegun hreport, hnone])
  | report hlast => exact .report (by rw [lastReport_cons hbegun hreport, hlast])

namespace Delivered

theorem keep (hdelivered : Delivered h s) (hsessions : s'.sessions = s.sessions) (hinput : s'.input = s.input) :
    Delivered h s' := by
  refine ⟨?_, hdelivered.2⟩
  rw [hsessions, hinput]
  exact hdelivered.1

theorem leave (hdelivered : Delivered h s) (hclosed : s'.sessions.current = none) : Delivered h s' :=
  ⟨fun hlive => absurd hclosed hlive, hdelivered.2⟩

theorem event (hdelivered : Delivered h s) {e : LogEvent m r} (hstate : e.state = s) (hbegun : begunSession e = none)
    (haccepted : acceptedPayload e = none) : Delivered (e :: h) s := by
  refine ⟨?_, ?_, hdelivered.2⟩
  · intro hlive
    exact (hdelivered.1 hlive).cons hbegun (by simp [haccepted])
  · intro _ hlive _
    rw [hstate] at hlive ⊢
    exact hdelivered.1 hlive

end Delivered

/-! ## Sends -/

/-- A report that is accepted shows its input, and a refused one leaves what was shown. -/
theorem InputSent.delivered {state : InputState m} {nowNs : UInt64} {result : TransportResult Unit}
    (hsent : InputSent state nowNs h s h' s' result) (hdelivered : Delivered h s) :
    (result = .ok () → h'.Shows state ∧ Always Atomic h') ∧ (∀ error, result = .error error → Delivered h' s') := by
  cases hsent with
  | refused error =>
    constructor
    · rintro ⟨⟩
    · intro _ _
      exact hdelivered.event rfl rfl rfl
  | accepted =>
    refine ⟨fun _ => ⟨?_, ?_, ?_, hdelivered.2⟩, fun _ herror => nomatch herror⟩
    · refine Log.Shows.cons ?_ rfl (by simp [acceptedPayload])
      exact .report (Log.lastReport_report rfl rfl (s.sender.head_inputCandidate state nowNs))
    · rintro ⟨⟩
    · intro _ hlive _
      exact hdelivered.1 hlive

/-- A report of the committed input. -/
theorem InputSent.redelivered {nowNs : UInt64} {result : TransportResult Unit}
    (hsent : InputSent s.input nowNs h s h' s' result) (hdelivered : Delivered h s) : Delivered h' s' := by
  have hboth := hsent.delivered hdelivered
  cases result with
  | error error => exact hboth.2 error rfl
  | ok accepted =>
    refine ⟨fun _ => ?_, (hboth.1 rfl).2⟩
    cases hsent
    exact (hboth.1 rfl).1

theorem DirectSent.delivered {candidate : InputState m} {nowNs : UInt64} {result : TransportResult Unit}
    (hsent : DirectSent candidate nowNs h s h' s' result) (hdelivered : Delivered h s) : Delivered h' s' := by
  cases hsent with
  | refused hsent => exact (InputSent.delivered hsent hdelivered).2 _ rfl
  | accepted hsent =>
    obtain ⟨hshows, halways⟩ := (InputSent.delivered hsent hdelivered).1 rfl
    exact Delivered.event ⟨fun _ => hshows, halways⟩ rfl rfl rfl

/-- Bytes of another kind show no input. -/
theorem Sent.delivered {bytes : List UInt8} {candidate : SenderCommit} {result : TransportResult Unit}
    (hsent : Sent bytes candidate h s h' s' result) (hhead : bytes.head? ≠ some 0x30) (hdelivered : Delivered h s) :
    Delivered h' s' := by
  cases hsent with
  | refused error => exact hdelivered.event rfl rfl rfl
  | accepted =>
    have hsent : Delivered (.call s (Op.sendInterrupt bytes) (.ok ()) :: h) (s.accept bytes candidate) := by
      refine ⟨?_, ?_, hdelivered.2⟩
      · intro hlive
        exact (hdelivered.1 hlive).cons rfl hhead
      · intro _ hlive _
        exact hdelivered.1 hlive
    exact hsent.event rfl rfl rfl

/-! ## Deeds and endings -/

theorem Deed.shown (hr : r = .direct) (hdeed : Deed h s h' s') (hdelivered : Delivered h s) : Delivered h' s' := by
  cases hdeed with
  | internal hsteady => exact hdelivered.keep hsteady.sessions hsteady.input
  | quiet hstate hquiet =>
    exact hdelivered.event hstate (quietEvent_silent hquiet).begun (quietEvent_silent hquiet).accepted
  | taken hcommand htap hidle => exact hdelivered.event rfl rfl rfl
  | begun hopen hclosed =>
    have hreset : Delivered h s.resetSender := hdelivered.leave hclosed
    have hsender := hreset.event (e := .emit s.resetSender
      (.status (ReportSender.statusCall { s.sender with committed := .default }))) rfl rfl rfl
    have hleft : Delivered _ s.resetInput := hsender.leave hclosed
    have hinput := hleft.event (e := .emit s.resetInput (.status (.setSnapshot .neutral))) rfl rfl rfl
    refine ⟨fun _ => .nothing rfl, ?_, hinput.2⟩
    rintro ⟨⟩
  | linked hlive =>
    refine Delivered.event ?_ rfl rfl rfl
    exact hdelivered.keep rfl rfl
  | noticed hlive =>
    refine Delivered.event ?_ rfl rfl rfl
    exact hdelivered.keep rfl rfl
  | replied hlive hneutral hrequest hprepare hsent hsteady =>
    have hhead := (prepareReply_spec hprepare).head
    have hanswered := Sent.delivered hsent (by rw [hhead]; decide) hdelivered
    refine Delivered.keep (Delivered.event ?_ rfl rfl rfl) rfl rfl
    exact hanswered.keep hsteady.sessions hsteady.input
  | reported hlive hneutral hsent => exact hsent.redelivered hdelivered
  | delivered hr hlive hready hsent => exact hsent.delivered hdelivered
  -- Only periodic mode commits without a send.
  | committed hperiodic hidle =>
    rw [hr] at hperiodic
    cases hperiodic
  | scheduled hlive hclock hstart => exact hdelivered.keep rfl rfl
  | skipped hlive hclock hpolicy hticks =>
    refine Delivered.event ?_ rfl rfl rfl
    exact hdelivered.keep rfl rfl
  | automatic hlive hneutral hclock hpolicy hticks hsent =>
    refine InputSent.redelivered hsent (Delivered.event ?_ rfl rfl rfl)
    exact hdelivered.keep rfl rfl
  | readied hlive hconnecting hneutral =>
    refine Delivered.event ?_ rfl rfl rfl
    exact hdelivered.keep rfl rfl
  | ended hlive hlifecycle =>
    refine Delivered.event ?_ rfl rfl rfl
    exact hdelivered.leave rfl

/-- Until a close takes hold, a worker that ends keeps its input and its session. -/
theorem Ending.shown (hend : Ending h s h' s')
    (hdelivered : (s.lifecycle.state ≠ .closing → s.sessions.current ≠ none → h.Shows s.input) ∧ Always Atomic h) :
    (s'.lifecycle.state ≠ .closing → s'.sessions.current ≠ none → h'.Shows s'.input) ∧ Always Atomic h' := by
  obtain ⟨hshows, halways⟩ := hdelivered
  have hevent : ∀ {e : LogEvent m r} {s : Frame m r},
      (s.lifecycle.state ≠ .closing → s.sessions.current ≠ none → h.Shows s.input) → e.state = s →
      begunSession e = none → acceptedPayload e = none →
        (s.lifecycle.state ≠ .closing → s.sessions.current ≠ none → Log.Shows (e :: h) s.input) ∧
          Always Atomic (e :: h) := by
    intro e s hshows hstate hbegun haccepted
    refine ⟨?_, ?_, halways⟩
    · intro halive hlive
      exact (hshows halive hlive).cons hbegun (by simp [haccepted])
    · intro _ hlive halive
      rw [hstate] at hlive halive ⊢
      exact hshows halive hlive
  cases hend with
  | internal hsettled =>
    rw [hsettled.lifecycle, hsettled.sessions, hsettled.input]
    exact ⟨hshows, halways⟩
  | call hstate hcall => exact hevent hshows hstate (endCall_silent hcall).begun (endCall_silent hcall).accepted
  | failed halive => exact hevent (fun _ => hshows halive) rfl rfl rfl
  | abandoned => exact hevent hshows rfl rfl rfl
  | closing publish =>
    -- From here on nothing is claimed of the input.
    have hclosing : ∀ h : Log m r, ({ s with lifecycle := ⟨.closing⟩ } : Frame m r).lifecycle.state ≠ .closing →
        s.sessions.current ≠ none → h.Shows s.input := fun h halive => absurd rfl halive
    unfold published
    split
    · exact hevent (hclosing h) rfl rfl rfl
    · exact ⟨hclosing h, halways⟩
  | neutral hlive hclosing hsent =>
    have hclosed : s.lifecycle.state = .closing := by
      rw [hclosing]
      rfl
    cases hsent with
    | refused error => exact hevent hshows rfl rfl rfl
    | accepted =>
      refine ⟨fun halive => absurd hclosed halive, ?_, ?_, halways⟩
      · rintro ⟨⟩
      · intro _ _ halive
        exact absurd hclosed halive
  | closed => exact hevent hshows rfl rfl rfl
  | dropped => exact ⟨fun _ hlive => absurd rfl hlive, halways⟩

theorem Trace.shown (hr : r = .direct) (htrace : Trace h s) :
    (s.lifecycle.state ≠ .closing → s.sessions.current ≠ none → h.Shows s.input) ∧ Always Atomic h := by
  obtain ⟨core, hnew, h₁, s₁, hdeeds, hends⟩ := htrace.split
  have hstart : Delivered core.openLog core.start := by
    refine ⟨fun hlive => absurd hnew.isOpen.current hlive, ?_, trivial⟩
    intro _ hlive
    exact absurd hnew.isOpen.current hlive
  have hdelivered : Delivered h₁ s₁ := hdeeds.inv hstart (Deed.shown hr)
  exact hends.inv (P := fun (h : Log m r) s =>
    (s.lifecycle.state ≠ .closing → s.sessions.current ≠ none → h.Shows s.input) ∧ Always Atomic h)
    ⟨fun _ => hdelivered.1, hdelivered.2⟩ Ending.shown

/-! ## Refused sends -/

/-- A direct send that is refused has logged the refusal alone. -/
theorem DirectSent.refused_send {candidate : InputState m} {nowNs : UInt64} {result : TransportResult Unit}
    (hsent : DirectSent candidate nowNs h s h' s' result) {added : Log m r} (hadded : h' = added ++ h) {f : Frame m r}
    {payload : List UInt8} {error : TransportError}
    (hrefused : .call f (Op.sendInterrupt payload) (.error error) ∈ added) :
    s' = s ∧ result = .error error ∧ ∀ e ∈ added, statusOf e = none := by
  cases hsent with
  | refused hsent =>
    cases hsent
    rename_i refusal
    obtain rfl : [.call s (Op.sendInterrupt _) (.error refusal)] = added :=
      List.append_cancel_right hadded
    cases List.mem_singleton.1 hrefused
    exact ⟨rfl, rfl, by simp [statusOf]⟩
  | accepted hsent =>
    cases hsent
    obtain rfl := @List.append_cancel_right _ [_, _, _] h _ hadded
    simp at hrefused

/-- A direct send that follows a reading of the clock. -/
theorem DirectSent.refused_after {candidate : InputState m} {nowNs : UInt64} {result : TransportResult Unit}
    {e : LogEvent m r} (hsent : DirectSent candidate nowNs (e :: h) s h' s' result) (hoffered : offeredPayload e = none)
    (hstatus : statusOf e = none) {added : Log m r} (hadded : h' = added ++ h) {f : Frame m r} {payload : List UInt8}
    {error : TransportError} (hrefused : .call f (Op.sendInterrupt payload) (.error error) ∈ added) :
    s' = s ∧ result = .error error ∧ ∀ e ∈ added, statusOf e = none := by
  obtain ⟨sent, hnew⟩ : ∃ sent, h' = sent ++ e :: h := by
    cases hsent with
    | refused hsent => cases hsent; exact ⟨[_], rfl⟩
    | accepted hsent => cases hsent; exact ⟨[_, _, _], rfl⟩
  obtain rfl : sent ++ [e] = added := by
    apply @List.append_cancel_right _ _ h
    rw [← hadded, hnew, List.append_assoc]
    rfl
  rw [List.mem_append, List.mem_singleton] at hrefused
  rcases hrefused with hrefused | hrefused
  · obtain ⟨hframe, hresult, hquiet⟩ := hsent.refused_send hnew hrefused
    refine ⟨hframe, hresult, ?_⟩
    intro event hevent
    rcases List.mem_append.1 hevent with hevent | hevent
    · exact hquiet event hevent
    · rw [List.mem_singleton.1 hevent]
      exact hstatus
  · rw [← hrefused] at hoffered
    cases hoffered

/-- A command with a refused send has made that send and changed nothing. -/
theorem CommandEffect.refused_send {command : ReportingCommand m r} {progress : WorkerCommandProgress}
    (hr : r = .direct) (he : CommandEffect h s (.input command) h' s' progress) {added : Log m r}
    (hadded : h' = added ++ h) {f : Frame m r} {payload : List UInt8} {error : TransportError}
    (hrefused : .call f (Op.sendInterrupt payload) (.error error) ∈ added) :
    s' = s ∧ progress = .complete (.error (.direct (.transport error))) ∧ ∀ e ∈ added, statusOf e = none := by
  have hnone : h' = h ∨ (∃ t, h' = .call s Op.now t :: h) → False := by
    rintro (hsame | ⟨t, hsame⟩)
    · obtain rfl := List.self_eq_append_left.1 (hsame.symm.trans hadded)
      cases hrefused
    · obtain rfl := @List.append_cancel_right _ [_] h _ (hsame.symm.trans hadded)
      simp at hrefused
  generalize hinput : RuntimeCommand.input command = any at he
  cases he with
  | unstarted => rename_i kind _ _; cases kind <;> cases hinput
  | refused hopen => rename_i kind _ _; cases kind <;> cases hinput
  | begun hopen => rename_i kind _ _; cases kind <;> cases hinput
  | ended hended => exact (hnone (.inl rfl)).elim
  | input heffect =>
    rename_i t
    cases heffect with
    | rejected herror => exact (hnone (.inr ⟨t, rfl⟩)).elim
    | committed hperiodic => rw [hr] at hperiodic; cases hperiodic
    | pressedPeriodic hperiodic => rw [hr] at hperiodic; cases hperiodic
    | unpressed hperiodic => rw [hr] at hperiodic; cases hperiodic
    | sent _ hready hsent => cases (hsent.refused_after rfl rfl hadded hrefused).2.1
    | pressedDirect _ hready hsent => cases (hsent.refused_after rfl rfl hadded hrefused).2.1
    | unsent _ hready hsent =>
      obtain ⟨hframe, hresult, hquiet⟩ := hsent.refused_after rfl rfl hadded hrefused
      cases hresult
      exact ⟨hframe, rfl, hquiet⟩

/-- A release with a refused send has given up its tap and changed nothing else. -/
theorem DueEffect.refused_release (hr : r = .direct) {t : Duration} {due : ReportingDue}
    (he : DueEffect t h s h' s' due) {added : Log m r} (hadded : h' = added ++ h) {f : Frame m r}
    {payload : List UInt8} {error : TransportError}
    (hrefused : .call f (Op.sendInterrupt payload) (.error error) ∈ added) :
    s' = s.setTap none ∧ due.completion = some (.complete (.error (.direct (.transport error)))) ∧
      ∀ e ∈ added, statusOf e = none := by
  have hpolicy : ∀ policy, s.reporting.policy ≠ some policy := by
    intro policy hsome
    subst hr
    rw [Frame.policy_direct] at hsome
    cases hsome
  cases he with
  | quiet htap hnone =>
    obtain rfl := List.self_eq_append_left.1 hadded
    cases hrefused
  | failed hsome => exact absurd hsome (hpolicy _)
  | backpressured htap hsome => exact absurd hsome (hpolicy _)
  | automatic hsome => exact absurd hsome (hpolicy _)
  | released htap hat hreleased =>
    cases hreleased with
    | periodic hperiodic => rw [hr] at hperiodic; cases hperiodic
    | direct _ hsent =>
      obtain ⟨hframe, hresult, hquiet⟩ := hsent.refused_send hadded hrefused
      rw [hresult]
      exact ⟨hframe, rfl, hquiet⟩

/-- A direct worker that is not Ready makes no send for a command. -/
theorem CommandEffect.unready {command : ReportingCommand m r} {progress : WorkerCommandProgress}
    (hr : r = .direct) (hidle : s.lifecycle.state ≠ .ready)
    (he : CommandEffect h s (.input command) h' s' progress) :
    s' = s ∧ (h' = h ∨ ∃ t, h' = .call s Op.now t :: h) ∧ ∃ error, progress = .complete (.error error) := by
  generalize hinput : RuntimeCommand.input command = any at he
  cases he with
  | unstarted => rename_i kind _ _; cases kind <;> cases hinput
  | refused hopen => rename_i kind _ _; cases kind <;> cases hinput
  | begun hopen => rename_i kind _ _; cases kind <;> cases hinput
  | ended hended => exact ⟨rfl, .inl rfl, _, rfl⟩
  | input heffect =>
    rename_i t
    cases heffect with
    | rejected herror => exact ⟨rfl, .inr ⟨t, rfl⟩, _, rfl⟩
    | committed hperiodic => rw [hr] at hperiodic; cases hperiodic
    | sent _ hready => exact absurd hready hidle
    | unsent _ hready => exact absurd hready hidle
    | pressedDirect _ hready => exact absurd hready hidle
    | pressedPeriodic _ hready => exact absurd hready hidle
    | unpressed _ hready => exact absurd hready hidle

/-- Inside a session and before a close, direct mode has committed the input of
the last report the host accepted. A command or release with a refused send
keeps the worker as it was, its tap apart, and publishes nothing, and a command
to a worker that is not Ready sends nothing. -/
theorem direct_atomicity {h : Log m .direct} {s : Frame m .direct} (htrace : Trace h s) :
    (∀ (e : LogEvent m .direct) (h₀ : Log m .direct), e :: h₀ <:+ h → midway e = false →
      e.state.sessions.current ≠ none → e.state.lifecycle.state ≠ .closing → h₀.Shows e.state.input) ∧
    (s.sessions.current ≠ none → s.lifecycle.state ≠ .closing → h.Shows s.input) ∧
    (∀ (command : ReportingCommand m .direct) (h₀ h₁ added : Log m .direct) (s₀ s₁ f : Frame m .direct)
      (progress : WorkerCommandProgress) (payload : List UInt8) (error : TransportError),
      Prog.Exec (runCommand (.input command) s₀) h₀ h₁ s₁ progress → h₁ = added ++ h₀ →
      .call f (Op.sendInterrupt payload) (.error error) ∈ added →
        s₁ = s₀ ∧ progress = .complete (.error (.direct (.transport error))) ∧ ∀ e ∈ added, statusOf e = none) ∧
    (∀ (t : Duration) (h₀ h₁ added : Log m .direct) (s₀ s₁ f : Frame m .direct) (due : ReportingDue)
      (payload : List UInt8) (error : TransportError),
      Prog.Exec (Reporting.runDue t s₀) h₀ h₁ s₁ due → h₁ = added ++ h₀ →
      .call f (Op.sendInterrupt payload) (.error error) ∈ added →
        s₁ = s₀.setTap none ∧ due.completion = some (.complete (.error (.direct (.transport error)))) ∧
          ∀ e ∈ added, statusOf e = none) ∧
    (∀ (command : ReportingCommand m .direct) (h₀ h₁ : Log m .direct) (s₀ s₁ : Frame m .direct)
      (progress : WorkerCommandProgress), s₀.lifecycle.state ≠ .ready →
      Prog.Exec (runCommand (.input command) s₀) h₀ h₁ s₁ progress →
        s₁ = s₀ ∧ (h₁ = h₀ ∨ ∃ t, h₁ = .call s₀ Op.now t :: h₀) ∧ ∃ error, progress = .complete (.error error)) := by
  refine ⟨?_, ?_, ?_, ?_, ?_⟩
  · exact fun e h₀ hsuffix => always_iff.1 (htrace.shown rfl).2 e h₀ hsuffix
  · exact fun hlive halive => (htrace.shown rfl).1 halive hlive
  · intro command h₀ h₁ added s₀ s₁ f progress payload error hexec hadded hrefused
    exact (hexec.post (runCommand_spec _ _ _)).refused_send rfl hadded hrefused
  · intro t h₀ h₁ added s₀ s₁ f due payload error hexec hadded hrefused
    exact (hexec.post (runDue_spec _ _ _)).refused_release rfl hadded hrefused
  · intro command h₀ h₁ s₀ s₁ progress hidle hexec
    exact (hexec.post (runCommand_spec _ _ _)).unready rfl hidle

/-- One command in a given environment. -/
def playCommand (env : Nat → (op : Op) → Op.Ans m r op) (command : RuntimeCommand m r) (point : Log m r × Frame m r) :
    Log m r × Frame m r × WorkerCommandProgress := (runCommand command point.2).run env 0 point.1

theorem playCommand_exec (env : Nat → (op : Op) → Op.Ans m r op) (command : RuntimeCommand m r)
    (point : Log m r × Frame m r) : Prog.Exec (runCommand command point.2) point.1 (playCommand env command point).1
      (playCommand env command point).2.1 (playCommand env command point).2.2 := by
  unfold playCommand
  exact Prog.exec_run env (runCommand command point.2) 0 point.1

/-- The sample worker that holds a button is to send the neutral input, and the send is refused. -/
def sampleRefused : Log .pro .direct × Frame .pro .direct × WorkerCommandProgress :=
  playCommand refusingSends (.input (.direct (.send .neutral))) sampleHeld

theorem sampleRefused_exec : Prog.Exec (runCommand (.input (.direct (.send .neutral))) sampleHeld.2) sampleHeld.1
    sampleRefused.1 sampleRefused.2.1 sampleRefused.2.2 := by
  unfold sampleRefused
  exact playCommand_exec _ _ _

def refusedSend : LogEvent m r → Bool
  | .call _ (.sendInterrupt _) (.error _) => true
  | _ => false

/-- The sample worker has shown the host the button it holds, and keeps it when the next send is refused. -/
theorem direct_atomicity_sample :
    sampleHeld.1.Shows sampleHeld.2.input ∧ sampleHeld.2.input ≠ .neutral ∧ sampleRefused.2.1 = sampleHeld.2 ∧
      ∃ error, sampleRefused.2.2 = .complete (.error (.direct (.transport error))) := by
  have hlive : sampleHeld.2.sessions.current ≠ none := by decide +kernel
  have halive : sampleHeld.2.lifecycle.state ≠ .closing := by decide +kernel
  have hbefore : sampleHeld.1.any refusedSend = false := by decide +kernel
  have hany : sampleRefused.1.any refusedSend = true := by decide +kernel
  obtain ⟨-, hshows, hrefused, -⟩ := direct_atomicity (.running sampleHeld_run)
  obtain ⟨added, hadded⟩ := sampleRefused_exec.suffix
  rw [← hadded, List.any_append, hbefore, Bool.or_false, List.any_eq_true] at hany
  obtain ⟨e, hmem, hsend⟩ := hany
  unfold refusedSend at hsend
  split at hsend
  · obtain ⟨hkept, hresult, -⟩ := hrefused _ _ _ _ _ _ _ _ _ _ sampleRefused_exec hadded.symm hmem
    exact ⟨hshows hlive halive, by decide +kernel, hkept, _, hresult⟩
  · cases hsend

end Swbt
