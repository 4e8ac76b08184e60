import Swbt.Runtime.Agreement
/-!
# The diagnostic stream

Sessions start and end in turn, everything else lies inside one, and every
accepted payload is told of once with its number.
-/

set_option autoImplicit false

open Effects

namespace Swbt

variable {m : ControllerKind} {r : ReportingKind} {h h' : Log m r} {s s' : Frame m r} {p p₀ : StatusPublisher m r}

namespace DiagnosticEvent

def context : DiagnosticEvent → DiagnosticContext
  | sessionStarted context | lifecycleChanged context _ | subcommandObserved context _
  | reportTxAccepted context _ _ _ | replyTxAccepted context _ _ _ | sessionEnded context _ _
  | workerFailed context _ => context

/-- Neither the start nor the end of a session. -/
def inside : DiagnosticEvent → Bool
  | sessionStarted _ | sessionEnded .. => false
  | _ => true

end DiagnosticEvent

/-- A well-formed stream, with the session it has open. -/
inductive Stream (m : ControllerKind) (r : ReportingKind) : List DiagnosticEvent → Option ConnectionSessionId → Prop
  | nil : Stream m r [] none
  | started {events : List DiagnosticEvent} {id : ConnectionSessionId} (hstream : Stream m r events none) :
      Stream m r (events ++ [.sessionStarted ⟨m, r, id⟩]) (some id)
  | told {events : List DiagnosticEvent} {id : ConnectionSessionId} {event : DiagnosticEvent}
      (hstream : Stream m r events (some id)) (hcontext : event.context = ⟨m, r, id⟩) (hinside : event.inside = true) :
      Stream m r (events ++ [event]) (some id)
  | ended {events : List DiagnosticEvent} {id : ConnectionSessionId} {lifecycle : LifecycleState} {reason : Option UInt8}
      (hstream : Stream m r events (some id)) : Stream m r (events ++ [.sessionEnded ⟨m, r, id⟩ lifecycle reason]) none

theorem Stream.told_all {events added : List DiagnosticEvent} {id : ConnectionSessionId}
    (hstream : Stream m r events (some id))
    (hadded : ∀ event ∈ added, event.context = ⟨m, r, id⟩ ∧ event.inside = true) :
    Stream m r (events ++ added) (some id) := by
  induction added generalizing events with
  | nil => rwa [List.append_nil]
  | cons event rest ih =>
    obtain ⟨⟨hcontext, hinside⟩, hrest⟩ := List.forall_mem_cons.1 hadded
    rw [List.append_cons]
    exact ih (hstream.told hcontext hinside) hrest

/-! ## Counters -/

/-- The two kinds of payload a worker has accepted. -/
inductive TxKind
  | report | reply

def TxKind.reportId : TxKind → UInt8
  | report => 0x30
  | reply => 0x21

def ReportSender.counter (sender : ReportSender) : TxKind → UInt64
  | .report => sender.inputReportsAccepted
  | .reply => sender.repliesAccepted

def ProjectionState.counter (state : ProjectionState m) : TxKind → UInt64
  | .report => state.inputReportsAccepted
  | .reply => state.repliesAccepted

/-- The counter of an acceptance event of this kind. -/
def DiagnosticEvent.counter : TxKind → DiagnosticEvent → Option UInt64
  | .report, .reportTxAccepted _ _ _ count => some count
  | .reply, .replyTxAccepted _ _ _ count => some count
  | _, _ => none

/-- The counters told so far, in their order. -/
def StatusPublisher.counters (p : StatusPublisher m r) (kind : TxKind) : List UInt64 :=
  p.emitted.filterMap (DiagnosticEvent.counter kind)

/-- How many payloads of this kind were accepted. -/
def Log.acceptedOf (kind : TxKind) (h : Log m r) : Nat :=
  h.countP fun e => (acceptedPayload e).bind List.head? = some kind.reportId

theorem ReportSender.counter_accept (sender : ReportSender) (bytes : List UInt8) (candidate : SenderCommit)
    (kind : TxKind) : (sender.accept bytes candidate).counter kind =
      if bytes.head? = some kind.reportId then saturatingSucc (sender.counter kind) else sender.counter kind := by
  cases kind <;> rfl

theorem Log.acceptedOf_cons (kind : TxKind) {e : LogEvent m r} (haccepted : acceptedPayload e = none) (h : Log m r) :
    Log.acceptedOf kind (e :: h) = h.acceptedOf kind := by
  unfold acceptedOf
  rw [List.countP_cons_of_neg (by simp [haccepted])]

theorem Log.acceptedOf_send (kind : TxKind) (bytes : List UInt8) (s : Frame m r) (h : Log m r) :
    Log.acceptedOf kind (.call s (Op.sendInterrupt bytes) (.ok ()) :: h) =
      h.acceptedOf kind + if bytes.head? = some kind.reportId then 1 else 0 := by
  unfold acceptedOf
  rw [List.countP_cons]
  by_cases hhead : bytes.head? = some kind.reportId
  · simp [acceptedPayload, hhead]
  · simp [acceptedPayload, hhead]

/-! ## What a worker's calls do to the counters -/

/-- A projection that has yet to hear from its worker may be ahead of it, but never behind. -/
structure Heard (p : StatusPublisher m r) (s : Frame m r) : Prop where
  behind : ∀ kind, s.sender.counter kind ≤ p.counter kind
  even : s.sessions.current ≠ none → ∀ kind, p.counter kind = s.sender.counter kind

theorem Shown.counter (hshown : Shown s s') (kind : TxKind) : s'.sender.counter kind = s.sender.counter kind := by
  cases kind with
  | report => exact hshown.reports
  | reply => exact hshown.replies

/-- The projection after a worker has published its counters. -/
theorem StatusPublisher.counter_statusCall (p : StatusPublisher m r) (sender : ReportSender) (kind : TxKind) :
    (p.receive sender.statusCall).counter kind = sender.counter kind := by
  cases kind with
  | report => exact StatusPublisher.reports_setSenderState ..
  | reply => exact StatusPublisher.replies_setSenderState ..

theorem StatusPublisher.counter_setLifecycle (p : StatusPublisher m r) (lifecycle : LifecycleState) (kind : TxKind) :
    (p.setLifecycle lifecycle).counter kind = p.counter kind := by
  cases kind with
  | report => exact StatusPublisher.reports_setLifecycle ..
  | reply => exact StatusPublisher.replies_setLifecycle ..

theorem Heard.publish (hheard : Heard (h.published p₀) s) (hpublish : Publish h s h' s') :
    Heard (h'.published p₀) s' := by
  cases hpublish with
  | keep hshown =>
    refine ⟨?_, ?_⟩
    · intro kind
      rw [hshown.counter]
      exact hheard.behind kind
    · intro hlive kind
      rw [hshown.current] at hlive
      rw [hshown.counter]
      exact hheard.even hlive kind
  | silent hstatus haccepted =>
    rw [Log.published_silent hstatus]
    exact hheard
  | accepted hlive hhead =>
    rename_i bytes candidate
    -- The status call of an accepted send carries the counters of the sender.
    have hequal := StatusPublisher.counter_statusCall (h.published p₀) (s.sender.accept bytes candidate)
    refine ⟨?_, fun _ => hequal⟩
    intro kind
    exact UInt64.le_of_eq (hequal kind).symm
  | committed => exact ⟨hheard.behind, hheard.even⟩
  | begun hclosed =>
    have hequal : ∀ kind, ((h.published p₀).receive
        (ReportSender.statusCall { s.sender with committed := .default })).counter kind = s.sender.counter kind := by
      intro kind
      rw [StatusPublisher.counter_statusCall]
      cases kind <;> rfl
    rename_i command deadline
    have hkept : ∀ kind, (s.begin command deadline).sender.counter kind = s.sender.counter kind := by
      intro kind
      cases kind <;> rfl
    refine ⟨?_, ?_⟩
    · intro kind
      rw [hkept]
      exact UInt64.le_of_eq (hequal kind).symm
    · intro _ kind
      rw [hkept]
      exact hequal kind
  | linked hlive => exact ⟨hheard.behind, hheard.even⟩
  | noticed hlive => exact ⟨hheard.behind, hheard.even⟩
  | entered hlive hframe =>
    subst hframe
    refine ⟨?_, ?_⟩
    · intro kind
      exact UInt64.le_trans (hheard.behind kind) (UInt64.le_of_eq (StatusPublisher.counter_setLifecycle ..).symm)
    · intro hlive kind
      exact (StatusPublisher.counter_setLifecycle ..).trans (hheard.even hlive kind)
  | ended hlive hlifecycle => exact ⟨hheard.behind, fun hcurrent => absurd rfl hcurrent⟩

/-! ## What calls do to the stream -/

namespace StatusPublisher

theorem context_some {id : ConnectionSessionId} (hcurrent : p.sessionId = some id) : p.context = some ⟨m, r, id⟩ := by
  rw [context, hcurrent]
  rfl

theorem context_none (hcurrent : p.sessionId = none) : p.context = none := by
  rw [context, hcurrent]
  rfl

end StatusPublisher

/-- An event of the current session, if there is one. -/
theorem Stream.inContext (hstream : Stream m r p.emitted p.sessionId) {event : DiagnosticContext → DiagnosticEvent}
    (hevent : ∀ context, (event context).context = context ∧ (event context).inside = true) :
    Stream m r (p.emitted ++ p.inContext event) p.sessionId := by
  unfold StatusPublisher.inContext
  cases hcurrent : p.sessionId with
  | none =>
    rw [hcurrent] at hstream
    rw [StatusPublisher.context_none hcurrent]
    simpa using hstream
  | some id =>
    rw [hcurrent] at hstream
    rw [StatusPublisher.context_some hcurrent]
    exact hstream.told (hevent _).1 (hevent _).2

/-- The end of the current session, if there is one. -/
theorem Stream.inContext_ended (hstream : Stream m r p.emitted p.sessionId) (lifecycle : LifecycleState)
    (reason : Option UInt8) :
    Stream m r (p.emitted ++ p.inContext fun context => .sessionEnded context lifecycle reason) none := by
  unfold StatusPublisher.inContext
  cases hcurrent : p.sessionId with
  | none =>
    rw [hcurrent] at hstream
    rw [StatusPublisher.context_none hcurrent]
    simpa using hstream
  | some id =>
    rw [hcurrent] at hstream
    rw [StatusPublisher.context_some hcurrent]
    exact hstream.ended

theorem Stream.setLifecycle (hstream : Stream m r p.emitted p.sessionId) (lifecycle : LifecycleState) :
    Stream m r (p.setLifecycle lifecycle).emitted (p.setLifecycle lifecycle).sessionId ∧
      (p.setLifecycle lifecycle).panicked = p.panicked := by
  unfold StatusPublisher.setLifecycle
  split
  · exact ⟨hstream, rfl⟩
  · exact ⟨hstream.inContext fun _ => ⟨rfl, rfl⟩, rfl⟩

theorem Stream.senderState (hstream : Stream m r p.emitted p.sessionId) (hlive : p.sessionId ≠ none)
    (sender : ReportSender) :
    Stream m r (p.receive sender.statusCall).emitted (p.receive sender.statusCall).sessionId ∧
      (p.receive sender.statusCall).panicked = p.panicked := by
  obtain ⟨id, hcurrent⟩ := Option.ne_none_iff_exists'.1 hlive
  change Stream m r (p.setSenderState _ _ _ _).emitted (p.setSenderState _ _ _ _).sessionId ∧
    (p.setSenderState _ _ _ _).panicked = _
  rw [StatusPublisher.sessionId_setSenderState, hcurrent]
  rw [hcurrent] at hstream
  unfold StatusPublisher.setSenderState
  rw [StatusPublisher.context_some hcurrent]
  refine ⟨hstream.told_all ?_, rfl⟩
  intro event hevent
  unfold StatusPublisher.senderEvents at hevent
  rcases List.mem_append.1 hevent with hevent | hevent
  · split at hevent
    · rw [List.mem_singleton.1 hevent]
      exact ⟨rfl, rfl⟩
    · cases hevent
  · split at hevent
    · rw [List.mem_singleton.1 hevent]
      exact ⟨rfl, rfl⟩
    · cases hevent

/-- Outside a session the counters may be published again, as long as none has grown. -/
theorem StatusPublisher.senderState_closed (hclosed : p.sessionId = none) (sender : ReportSender)
    (hbehind : ∀ kind, sender.counter kind ≤ p.counter kind) :
    (p.receive sender.statusCall).emitted = p.emitted ∧ (p.receive sender.statusCall).panicked = p.panicked := by
  have hreports : ¬ p.inputReportsAccepted < sender.inputReportsAccepted := UInt64.not_lt.2 (hbehind .report)
  have hreplies : ¬ p.repliesAccepted < sender.repliesAccepted := UInt64.not_lt.2 (hbehind .reply)
  change (p.setSenderState _ _ _ _).emitted = _ ∧ (p.setSenderState _ _ _ _).panicked = _
  unfold StatusPublisher.setSenderState
  rw [StatusPublisher.context_none hclosed]
  simp [hreports, hreplies]

theorem Stream.fail (hstream : Stream m r p.emitted p.sessionId) (message : String)
    (category : WorkerFailureCategory) :
    Stream m r (p.fail message category).emitted (p.fail message category).sessionId ∧
      (p.fail message category).panicked = p.panicked := by
  unfold StatusPublisher.fail
  split
  · exact ⟨hstream, rfl⟩
  · refine ⟨?_, rfl⟩
    cases hcurrent : p.sessionId with
    | none =>
      rw [hcurrent] at hstream
      rw [StatusPublisher.context_none hcurrent]
      simpa [StatusPublisher.emit] using hstream
    | some id =>
      rw [hcurrent] at hstream
      rw [StatusPublisher.context_some hcurrent]
      have hfailed : Stream m r (p.emitted ++ [.workerFailed ⟨m, r, id⟩ category]) (some id) := hstream.told rfl rfl
      have htold : Stream m r (p.emitted ++ [.workerFailed ⟨m, r, id⟩ category] ++
          [.lifecycleChanged ⟨m, r, id⟩ .failed]) (some id) := hfailed.told rfl rfl
      have hended := @Stream.ended _ _ _ _ .failed none htold
      simpa [StatusPublisher.emit] using hended

theorem Stream.beginSession (hstream : Stream m r p.emitted none) (id : ConnectionSessionId)
    (lifecycle : LifecycleState) (snapshot : InputState m) :
    Stream m r (p.beginSession id lifecycle snapshot).emitted (some id) := by
  have hstarted : Stream m r (p.emitted ++ [.sessionStarted ⟨m, r, id⟩]) (some id) := hstream.started
  have htold : Stream m r (p.emitted ++ [.sessionStarted ⟨m, r, id⟩] ++ [.lifecycleChanged ⟨m, r, id⟩ lifecycle])
      (some id) := hstarted.told rfl rfl
  simpa [StatusPublisher.beginSession, StatusPublisher.emit] using htold

/-- The stream of a live worker goes on well-formed. -/
theorem Stream.publish (hstream : Stream m r (h.published p₀).emitted (h.published p₀).sessionId)
    (hcalm : (h.published p₀).panicked = false) (hagrees : Agrees (h.published p₀) s)
    (hheard : Heard (h.published p₀) s) (hpublish : Publish h s h' s') :
    Stream m r (h'.published p₀).emitted (h'.published p₀).sessionId ∧ (h'.published p₀).panicked = false := by
  cases hpublish with
  | keep hshown => exact ⟨hstream, hcalm⟩
  | silent hstatus haccepted =>
    rw [Log.published_silent hstatus]
    exact ⟨hstream, hcalm⟩
  | accepted hlive hhead =>
    rename_i bytes candidate
    rw [← hagrees.current] at hlive
    have htold := hstream.senderState hlive (s.sender.accept bytes candidate)
    exact ⟨htold.1, htold.2.trans hcalm⟩
  | committed => exact ⟨hstream, hcalm⟩
  | begun hclosed =>
    have hclosed : (h.published p₀).sessionId = none := hagrees.current.trans hclosed
    obtain ⟨hemitted, hpanicked⟩ := StatusPublisher.senderState_closed hclosed
      { s.sender with committed := .default } fun kind => by
        have hbehind := hheard.behind kind
        cases kind <;> exact hbehind
    refine ⟨Stream.beginSession ?_ _ _ _, hpanicked.trans hcalm⟩
    change Stream m r ((h.published p₀).receive _).emitted none
    rw [hemitted, ← hclosed]
    exact hstream
  | linked hlive => exact ⟨hstream, hcalm⟩
  | noticed hlive => exact ⟨hstream.inContext fun _ => ⟨rfl, rfl⟩, hcalm⟩
  | entered hlive hframe =>
    have hchanged := hstream.setLifecycle s'.lifecycle.state
    exact ⟨hchanged.1, hchanged.2.trans hcalm⟩
  | ended hlive hlifecycle => exact ⟨hstream.inContext_ended _ _, hcalm⟩

/-! ## Counting -/

/-- The numbers up to `n`, as counters. -/
def numbers (n : Nat) : List UInt64 := (List.range n).map fun i => UInt64.ofNat (i + 1)

theorem numbers_succ (n : Nat) : numbers (n + 1) = numbers n ++ [UInt64.ofNat (n + 1)] := by
  rw [numbers, List.range_succ, List.map_append]
  rfl

theorem saturatingSucc_ofNat {n : Nat} (hn : n + 1 < 2 ^ 64) :
    saturatingSucc (UInt64.ofNat n) = UInt64.ofNat (n + 1) := by
  have hnonzero : UInt64.ofNat n + 1 ≠ 0 := by
    intro hzero
    have hvalue := congrArg UInt64.toNat hzero
    rw [UInt64.toNat_add, UInt64.toNat_ofNat_of_lt' (Nat.lt_of_succ_lt hn)] at hvalue
    simp at hvalue
    omega
  rw [saturatingSucc, if_neg hnonzero, UInt64.ofNat_add]
  rfl

theorem ofNat_lt_succ {n : Nat} (hn : n + 1 < 2 ^ 64) : UInt64.ofNat n < UInt64.ofNat (n + 1) := by
  rw [UInt64.lt_iff_toNat_lt, UInt64.toNat_ofNat_of_lt' (Nat.lt_of_succ_lt hn), UInt64.toNat_ofNat_of_lt' hn]
  omega

/-- Every accepted payload has been told of once, under its number. -/
structure Numbered (p₀ : StatusPublisher m r) (h : Log m r) (s : Frame m r) : Prop where
  sender : ∀ kind, h.acceptedOf kind < 2 ^ 64 → s.sender.counter kind = UInt64.ofNat (h.acceptedOf kind)
  told : ∀ kind, h.acceptedOf kind < 2 ^ 64 →
    (h.published p₀).counters kind = p₀.counters kind ++ numbers (h.acceptedOf kind)

namespace StatusPublisher

theorem counters_of_emitted (p' : StatusPublisher m r) {added : List DiagnosticEvent}
    (hemitted : p'.emitted = p.emitted ++ added) (kind : TxKind) :
    p'.counters kind = p.counters kind ++ added.filterMap (DiagnosticEvent.counter kind) := by
  rw [counters, counters, hemitted, List.filterMap_append]

theorem counters_inContext {event : DiagnosticContext → DiagnosticEvent} {kind : TxKind}
    (hevent : ∀ context, (event context).counter kind = none) :
    (p.inContext event).filterMap (DiagnosticEvent.counter kind) = [] := by
  unfold inContext
  cases p.context with
  | none => rfl
  | some context => simp [hevent]

/-- Only a call with the sender's state tells of accepted payloads. -/
theorem counters_receive {call : StatusCall m}
    (hcall : ∀ mode imu reports replies, call ≠ .setSenderState mode imu reports replies) (kind : TxKind) :
    (p.receive call).counters kind = p.counters kind := by
  have hcontext : ∀ event : DiagnosticContext → DiagnosticEvent, (∀ context, (event context).counter kind = none) →
      ∀ p' : StatusPublisher m r, p'.emitted = p.emitted ++ p.inContext event →
        p'.counters kind = p.counters kind := by
    intro event hevent p' hemitted
    rw [counters_of_emitted _ hemitted, counters_inContext hevent, List.append_nil]
  cases call with
  | setLifecycle lifecycle =>
    change (p.setLifecycle lifecycle).counters kind = _
    unfold setLifecycle
    split
    · rfl
    · exact hcontext _ (fun _ => by cases kind <;> rfl) _ rfl
  | beginSession sessionId lifecycle snapshot =>
    rw [counters_of_emitted (p.receive (.beginSession sessionId lifecycle snapshot)) rfl]
    cases kind <;> exact List.append_nil _
  | setConnected connected => rfl
  | setSnapshot snapshot => rfl
  | setSenderState mode imu reports replies => exact absurd rfl (hcall mode imu reports replies)
  | recordSubcommand id => exact hcontext _ (fun _ => by cases kind <;> rfl) _ rfl
  | endSession lifecycle reason => exact hcontext _ (fun _ => by cases kind <;> rfl) _ rfl
  | close lifecycle => exact hcontext _ (fun _ => by cases kind <;> rfl) _ rfl
  | fail message category =>
    change (p.fail message category).counters kind = _
    unfold fail
    split
    · rfl
    · rw [counters_of_emitted (p := p) _ rfl]
      cases p.context with
      | none => exact List.append_nil _
      | some context => cases kind <;> exact List.append_nil _

/-- In a session, exactly the counters that have grown are told of. -/
theorem counters_senderState {id : ConnectionSessionId} (hcurrent : p.sessionId = some id) (sender : ReportSender)
    (kind : TxKind) : (p.receive sender.statusCall).counters kind =
      p.counters kind ++ if p.counter kind < sender.counter kind then [sender.counter kind] else [] := by
  have hemitted : (p.receive sender.statusCall).emitted = p.emitted ++ p.senderEvents ⟨m, r, id⟩
      sender.committed.session.reportMode
      sender.committed.session.imuMode.code sender.inputReportsAccepted sender.repliesAccepted := by
    change (p.setSenderState _ _ _ _).emitted = _
    unfold setSenderState
    rw [context_some hcurrent]
    rfl
  rw [counters_of_emitted _ hemitted, senderEvents, List.filterMap_append]
  congr 1
  cases kind with
  | report =>
    change _ = if p.inputReportsAccepted < sender.inputReportsAccepted then [sender.inputReportsAccepted] else []
    split_ifs <;> rfl
  | reply =>
    change _ = if p.repliesAccepted < sender.repliesAccepted then [sender.repliesAccepted] else []
    split_ifs <;> rfl

end StatusPublisher

/-- Calls that accept nothing and do not tell of the sender's state leave the count alone. -/
theorem Numbered.same (hnumbered : Numbered p₀ h s) (haccepted : ∀ kind, h'.acceptedOf kind = h.acceptedOf kind)
    (hcounters : ∀ kind, (h'.published p₀).counters kind = (h.published p₀).counters kind)
    (hsender : ∀ kind, s'.sender.counter kind = s.sender.counter kind) : Numbered p₀ h' s' := by
  refine ⟨?_, ?_⟩
  · intro kind hbound
    rw [haccepted] at hbound ⊢
    rw [hsender]
    exact hnumbered.sender kind hbound
  · intro kind hbound
    rw [haccepted] at hbound ⊢
    rw [hcounters]
    exact hnumbered.told kind hbound

theorem Numbered.publish (hnumbered : Numbered p₀ h s) (hagrees : Agrees (h.published p₀) s)
    (hheard : Heard (h.published p₀) s) (hpublish : Publish h s h' s') : Numbered p₀ h' s' := by
  cases hpublish with
  | keep hshown => exact hnumbered.same (fun _ => rfl) (fun _ => rfl) hshown.counter
  | silent hstatus haccepted =>
    refine hnumbered.same (fun kind => Log.acceptedOf_cons kind haccepted h) ?_ fun _ => rfl
    intro kind
    rw [Log.published_silent hstatus]
  | accepted hlive hhead =>
    rename_i bytes candidate
    have hcount : ∀ kind, Log.acceptedOf kind (.emit (s.accept bytes candidate)
        (.status (s.sender.accept bytes candidate).statusCall) :: .call s (Op.sendInterrupt bytes) (.ok ()) :: h) =
          h.acceptedOf kind + if bytes.head? = some kind.reportId then 1 else 0 := by
      intro kind
      rw [Log.acceptedOf_cons kind rfl, Log.acceptedOf_send]
    obtain ⟨id, hcurrent⟩ := Option.ne_none_iff_exists'.1 hlive
    have htold := fun kind => StatusPublisher.counters_senderState (p := h.published p₀)
      (hagrees.current.trans hcurrent) (s.sender.accept bytes candidate) kind
    -- The projection is told at once, so one accepted payload is one event.
    have hgrown : ∀ kind, (h.published p₀).counter kind = s.sender.counter kind := hheard.even hlive
    refine ⟨?_, ?_⟩
    · intro kind hbound
      rw [hcount] at hbound ⊢
      rw [show (s.accept bytes candidate).sender = s.sender.accept bytes candidate from rfl,
        ReportSender.counter_accept, hnumbered.sender kind (by omega)]
      split_ifs at hbound ⊢ with hkind
      · exact saturatingSucc_ofNat hbound
      · rfl
    · intro kind hbound
      rw [hcount] at hbound ⊢
      refine (htold kind).trans ?_
      rw [hgrown, ReportSender.counter_accept, hnumbered.sender kind (by omega), hnumbered.told kind (by omega)]
      split_ifs at hbound ⊢ with hkind hlt hlt
      · rw [saturatingSucc_ofNat hbound, numbers_succ, List.append_assoc]
      · rw [saturatingSucc_ofNat hbound] at hlt
        exact absurd (ofNat_lt_succ hbound) hlt
      · exact absurd hlt (UInt64.lt_irrefl _)
      · rw [List.append_nil]
        rfl
  | committed =>
    exact hnumbered.same (fun kind => Log.acceptedOf_cons kind rfl h) (fun _ => rfl) fun _ => rfl
  | begun hclosed =>
    refine hnumbered.same ?_ ?_ ?_
    · intro kind
      rw [Frame.beginLog, Log.acceptedOf_cons kind rfl, Log.acceptedOf_cons kind rfl, Log.acceptedOf_cons kind rfl]
    · intro kind
      refine (StatusPublisher.counters_receive (by rintro _ _ _ _ ⟨⟩) kind).trans ?_
      -- The sender goes on counting where it was, so its reset has nothing to tell.
      obtain ⟨hemitted, -⟩ := StatusPublisher.senderState_closed (hagrees.current.trans hclosed)
        { s.sender with committed := .default } fun kind => by
          have hbehind := hheard.behind kind
          cases kind <;> exact hbehind
      exact congrArg (List.filterMap (DiagnosticEvent.counter kind)) hemitted
    · intro kind
      cases kind <;> rfl
  | linked hlive =>
    exact hnumbered.same (fun kind => Log.acceptedOf_cons kind rfl h) (fun _ => rfl) fun _ => rfl
  | noticed hlive =>
    exact hnumbered.same (fun kind => Log.acceptedOf_cons kind rfl h)
      (StatusPublisher.counters_receive (by rintro _ _ _ _ ⟨⟩)) fun _ => rfl
  | entered hlive hframe =>
    subst hframe
    exact hnumbered.same (fun kind => Log.acceptedOf_cons kind rfl h)
      (StatusPublisher.counters_receive (by rintro _ _ _ _ ⟨⟩)) fun _ => rfl
  | ended hlive hlifecycle =>
    exact hnumbered.same (fun kind => Log.acceptedOf_cons kind rfl h)
      (StatusPublisher.counters_receive (by rintro _ _ _ _ ⟨⟩)) fun _ => rfl

end Swbt
