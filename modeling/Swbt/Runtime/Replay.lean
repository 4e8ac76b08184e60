import Mathlib.Data.List.Induction
import Swbt.Runtime.Timer
/-!
# The protocol session as a replay

The committed session is the fold of the requests whose replies were accepted,
and the IMU encoder's state is replayed from the accepted payloads.
-/

set_option autoImplicit false

open Effects

namespace Swbt

variable {m : ControllerKind} {r : ReportingKind} {h h' : Log m r} {s s' : Frame m r}

/-! ## Settings -/

/-- What a host negotiates in a session. -/
structure SessionSettings where
  reportMode : Option UInt8
  playerLights : Option UInt8
  imuMode : ImuMode
  vibrationEnabled : Bool
deriving DecidableEq

namespace SessionSettings

def default : SessionSettings := ⟨none, none, .disabled, false⟩

/-- The settings once the reply to `request` is accepted. -/
def apply (settings : SessionSettings) (request : SubcommandRequest) : SessionSettings :=
  match request.id with
  | 0x03 => { settings with reportMode := request.payload.head? }
  | 0x30 => { settings with playerLights := request.payload.head? }
  | 0x40 => { settings with imuMode := (request.payload.head?.bind ImuMode.fromWire).getD .disabled }
  | 0x48 => { settings with vibrationEnabled := request.payload.head? = some 0x01 }
  | _ => settings

end SessionSettings

def ProtocolSession.settings (session : ProtocolSession) : SessionSettings :=
  ⟨session.reportMode, session.playerLights, session.imuMode, session.vibrationEnabled⟩

/-- The four subcommands that change the session. -/
def SubcommandRequest.stateful (request : SubcommandRequest) : Bool :=
  request.id = 0x03 || request.id = 0x30 || request.id = 0x40 || request.id = 0x48

namespace Log

/-- The stateful requests answered in a session, replayed from the default. -/
def settings (h : Log m r) : SessionSettings :=
  (h.replied.filter SubcommandRequest.stateful).foldl SessionSettings.apply .default

/-- The mode of the last 0x40 request answered in a session. -/
def imuMode (h : Log m r) : ImuMode :=
  ((h.replied.filter (·.id = 0x40)).getLast?.bind fun request => request.payload.head?.bind ImuMode.fromWire).getD
    .disabled

theorem replied_cons {e : LogEvent m r} (hbegun : begunSession e = none)
    (hreply : (acceptedPayload e).bind List.head? ≠ some 0x21) (h : Log m r) : Log.replied (e :: h) = h.replied := by
  rw [Log.replied, hbegun]
  exact if_neg hreply

theorem replied_reply {e : LogEvent m r} (hbegun : begunSession e = none)
    (hreply : (acceptedPayload e).bind List.head? = some 0x21) {request : SubcommandRequest}
    (hrequest : h.request = some request) : Log.replied (e :: h) = h.replied ++ [request] := by
  rw [Log.replied, hbegun]
  simp only [hreply, if_true, hrequest, Option.toList_some]

end Log

theorem fromRequested_reportMode (requested : UInt8) (session : ProtocolSession) :
    (session.withReportMode requested).reportMode = some requested := by
  unfold ProtocolSession.withReportMode ProtocolSession.reportMode ReportModeSelection.fromRequested
  dsimp only
  by_cases h : requested = 0x30
  · rw [if_pos h, h]
  · rw [if_neg h]

/-- A stateful request changes the settings as its replay does. -/
theorem requestedSession_settings {request : SubcommandRequest} {requested : UInt8} {session next : ProtocolSession}
    (hid : request.id = 0x03 ∨ request.id = 0x30 ∨ request.id = 0x40 ∨ request.id = 0x48)
    (harg : request.payload.head? = some requested)
    (hsession : requestedSession m request.id requested session = .ok next) :
    next.settings = session.settings.apply request := by
  unfold requestedSession at hsession
  unfold SessionSettings.apply
  rcases hid with hid | hid | hid | hid
  · simp only [hid] at hsession ⊢
    cases hsession
    rw [harg, ProtocolSession.settings, fromRequested_reportMode]
    rfl
  · simp only [hid] at hsession ⊢
    cases hsession
    rw [harg]
    rfl
  · simp only [hid] at hsession ⊢
    rw [harg]
    split at hsession
    · rename_i mode hmode
      cases hsession
      split at hmode
      · rw [Option.bind_some, hmode]
        rfl
      · cases hmode
    · cases hsession
  · simp only [hid] at hsession ⊢
    rw [harg]
    split at hsession
    · rename_i heq
      exact absurd heq (by decide)
    · rename_i heq
      exact absurd heq (by decide)
    · rename_i heq
      exact absurd heq (by decide)
    · split at hsession
      · cases hsession
        rfl
      · cases hsession
        rfl
      · cases hsession

/-- Only a 0x40 request touches the encoder's state. -/
theorem requestedSession_imu {request : SubcommandRequest} {requested : UInt8} {session next : ProtocolSession}
    (hsession : requestedSession m request.id requested session = .ok next) :
    next.imuEncodingState = if request.id = 0x40 then .default else session.imuEncodingState := by
  unfold requestedSession at hsession
  split at hsession
  · rename_i hid
    cases hsession
    rw [hid]
    rfl
  · rename_i hid
    cases hsession
    rw [hid]
    rfl
  · rename_i hid
    rw [hid, if_pos rfl]
    dsimp only at hsession
    split at hsession
    · cases hsession
      rfl
    · cases hsession
  · rename_i h03 h30 h40
    rw [if_neg h40]
    split at hsession
    · cases hsession
      rfl
    · cases hsession
      rfl
    · cases hsession

/-- A field that the requests of `p` set and the others keep is the one the last of them set. -/
theorem foldl_last {S R A : Type} (apply : S → R → S) (field : S → A) (value : R → A) (p q : R → Bool)
    (himplies : ∀ request, p request = true → q request = true)
    (hset : ∀ state request, p request = true → field (apply state request) = value request)
    (hkeep : ∀ state request, p request = false → field (apply state request) = field state) (requests : List R)
    (state : S) :
    field ((requests.filter q).foldl apply state) = ((requests.filter p).getLast?.map value).getD (field state) := by
  induction requests using List.reverseRecOn with
  | nil => rfl
  | append_singleton requests request ih =>
    rw [List.filter_append, List.filter_append, List.foldl_append]
    cases hp : p request with
    | true =>
      rw [List.filter_cons_of_pos (himplies request hp), List.filter_cons_of_pos hp]
      simp [hset _ request hp]
    | false =>
      rw [List.filter_cons_of_neg (p := p) (by simp [hp]), List.filter_nil, List.append_nil, ← ih]
      cases hq : q request with
      | true =>
        rw [List.filter_cons_of_pos hq, List.filter_nil, List.foldl_cons, List.foldl_nil]
        exact hkeep _ request hp
      | false => simp [hq]

theorem stateful_of_id {id : UInt8} (hid : id = 0x03 ∨ id = 0x30 ∨ id = 0x40 ∨ id = 0x48) (request : SubcommandRequest)
    (hrequest : decide (request.id = id) = true) : request.stateful = true := by
  rw [decide_eq_true_eq] at hrequest
  subst hrequest
  simpa [SubcommandRequest.stateful, or_assoc] using hid

namespace Log

/-- The last request of a session with this id that was answered. -/
def lastReplied (id : UInt8) (h : Log m r) : Option SubcommandRequest := (h.replied.filter (·.id = id)).getLast?

/-- The replayed report mode is that of the last 0x03 request. -/
theorem reportMode_settings (h : Log m r) :
    h.settings.reportMode = (h.lastReplied 0x03).bind fun request => request.payload.head? := by
  refine (foldl_last SessionSettings.apply SessionSettings.reportMode (fun request => request.payload.head?)
    (fun request => decide (request.id = 0x03)) _ (stateful_of_id (by simp)) ?_ ?_ h.replied _).trans ?_
  · intro settings request hid
    rw [decide_eq_true_eq] at hid
    simp [SessionSettings.apply, hid]
  · intro settings request hid
    rw [decide_eq_false_iff_not] at hid
    unfold SessionSettings.apply
    split
    · contradiction
    · rfl
    · rfl
    · rfl
    · rfl
  · unfold Log.lastReplied
    cases (h.replied.filter fun request => decide (request.id = 0x03)).getLast? <;> rfl

theorem playerLights_settings (h : Log m r) :
    h.settings.playerLights = (h.lastReplied 0x30).bind fun request => request.payload.head? := by
  refine (foldl_last SessionSettings.apply SessionSettings.playerLights (fun request => request.payload.head?)
    (fun request => decide (request.id = 0x30)) _ (stateful_of_id (by simp)) ?_ ?_ h.replied _).trans ?_
  · intro settings request hid
    rw [decide_eq_true_eq] at hid
    simp [SessionSettings.apply, hid]
  · intro settings request hid
    rw [decide_eq_false_iff_not] at hid
    unfold SessionSettings.apply
    split
    · rfl
    · contradiction
    · rfl
    · rfl
    · rfl
  · unfold Log.lastReplied
    cases (h.replied.filter fun request => decide (request.id = 0x30)).getLast? <;> rfl

/-- The replayed IMU mode is the mode of the last 0x40 request. -/
theorem imuMode_settings (h : Log m r) : h.settings.imuMode = h.imuMode := by
  refine (foldl_last SessionSettings.apply SessionSettings.imuMode
    (fun request => (request.payload.head?.bind ImuMode.fromWire).getD .disabled)
    (fun request => decide (request.id = 0x40)) _ (stateful_of_id (by simp)) ?_ ?_ h.replied _).trans ?_
  · intro settings request hid
    rw [decide_eq_true_eq] at hid
    simp [SessionSettings.apply, hid]
  · intro settings request hid
    rw [decide_eq_false_iff_not] at hid
    unfold SessionSettings.apply
    split
    · rfl
    · rfl
    · contradiction
    · rfl
    · rfl
  · unfold Log.imuMode
    cases (h.replied.filter fun request => decide (request.id = 0x40)).getLast? <;> rfl

end Log

/-! ## The IMU encoder -/

/-- The encoder of an input report under the mode and state at hand. -/
def encodeUnder (m : ControllerKind) (state : ImuEncodingState) (mode : ImuMode) (frames : ImuFrames) (nowNs : UInt64) :
    ImuEncodingResult :=
  encodeImuBlock state mode frames m.spec.protocol.gyroscopeCalibration nowNs

/-- The encoder's state as the accepted payloads of a session leave it: a report
moves it on, the reply to a 0x40 request resets it, nothing else touches it. -/
inductive ImuReplay : Log m r → ImuEncodingState → Prop
  | begun {e : LogEvent m r} {h : Log m r} {sessionId : ConnectionSessionId} (hbegun : begunSession e = some sessionId) :
      ImuReplay (e :: h) .default
  | report {e : LogEvent m r} {h : Log m r} {state : ImuEncodingState} {payload : List UInt8} {frames : ImuFrames}
      {nowNs : UInt64} (hreplay : ImuReplay h state) (haccepted : acceptedPayload e = some payload)
      (hid : payload.head? = some 0x30) (hblock : payload.drop 13 = (encodeUnder m state h.imuMode frames nowNs).block) :
      ImuReplay (e :: h) (encodeUnder m state h.imuMode frames nowNs).nextState
  | reset {e : LogEvent m r} {h : Log m r} {payload : List UInt8} {request : SubcommandRequest}
      (haccepted : acceptedPayload e = some payload) (hid : payload.head? = some 0x21)
      (hrequest : h.request = some request) (h40 : request.id = 0x40) : ImuReplay (e :: h) .default
  | reply {e : LogEvent m r} {h : Log m r} {state : ImuEncodingState} {payload : List UInt8}
      {request : SubcommandRequest} (hreplay : ImuReplay h state) (haccepted : acceptedPayload e = some payload)
      (hid : payload.head? = some 0x21) (hrequest : h.request = some request) (h40 : request.id ≠ 0x40) :
      ImuReplay (e :: h) state
  | other {e : LogEvent m r} {h : Log m r} {state : ImuEncodingState} (hreplay : ImuReplay h state)
      (hbegun : begunSession e = none) (haccepted : acceptedPayload e = none) : ImuReplay (e :: h) state

theorem inputCandidate_block (sender : ReportSender) (state : InputState m) (nowNs : UInt64) :
    (sender.inputCandidate state nowNs).1.drop 13 =
      (encodeUnder m sender.committed.session.imuEncodingState sender.committed.session.imuMode state.imuFrames
        nowNs).block := imu_encode0x30 _ _ _ (length_encodeImuBlock _ _ _ _ _)

/-! ## The replay -/

/-- The committed session is the replay of the log. -/
structure Replayed (h : Log m r) (s : Frame m r) : Prop where
  settings : s.sender.committed.session.settings = h.settings
  imu : ImuReplay h s.sender.committed.session.imuEncodingState

theorem Replayed.mode (hreplayed : Replayed h s) : s.sender.committed.session.imuMode = h.imuMode := by
  rw [← Log.imuMode_settings, ← hreplayed.settings]
  rfl

/-- Accepting a candidate is what the replay of its payload says. -/
theorem Candidate.replayed {bytes : List UInt8} {candidate : SenderCommit} (hc : Candidate h s bytes candidate)
    (hreplayed : Replayed h s) :
    Replayed (.call s (Op.sendInterrupt bytes) (.ok ()) :: h) (s.accept bytes candidate) := by
  cases hc with
  | input state nowNs =>
    have hhead : (s.sender.inputCandidate state nowNs).1.head? = some 0x30 := s.sender.head_inputCandidate state nowNs
    have hblock := inputCandidate_block s.sender state nowNs
    rw [hreplayed.mode] at hblock
    refine ⟨?_, ?_⟩
    · rw [Log.settings, Log.replied_cons rfl (by
        change List.head? _ ≠ _
        rw [hhead]
        decide)]
      exact hreplayed.settings
    · have hreport := ImuReplay.report (e := .call s (Op.sendInterrupt _) (.ok ())) hreplayed.imu rfl hhead hblock
      rw [← hreplayed.mode] at hreport
      exact hreport
  | reply hrequest hprepare =>
    rename_i request current action
    have hprepared := prepareReply_spec hprepare
    have hhead : action.bytes.head? = some 0x21 := hprepared.head
    have hreplied : Log.replied (.call s (Op.sendInterrupt action.bytes) (.ok ()) :: h) = h.replied ++ [request] :=
      Log.replied_reply (e := .call s (Op.sendInterrupt action.bytes) (.ok ())) rfl hhead hrequest
    -- Only the replies to 0x03, 0x30, 0x40 and 0x48 change the session, and of these 0x40 resets the encoder.
    cases hprepared with
    | plain hid hbytes =>
      have hplain : request.stateful = false := by
        simp [SubcommandRequest.stateful, hid]
      refine ⟨?_, .reply hreplayed.imu rfl hhead hrequest hid.2.2.1⟩
      rw [Log.settings, hreplied, List.filter_append, List.filter_cons_of_neg (by simp [hplain]), List.filter_nil,
        List.append_nil]
      exact hreplayed.settings
    | stateful hid harg hsession hbytes =>
      rename_i reply requested
      have hstateful : request.stateful = true := by
        simpa [SubcommandRequest.stateful, or_assoc] using hid
      refine ⟨?_, ?_⟩
      · rw [Log.settings, hreplied, List.filter_append, List.filter_cons_of_pos hstateful, List.filter_nil,
          List.foldl_append, List.foldl_cons, List.foldl_nil]
        exact (requestedSession_settings hid harg hsession).trans (by rw [hreplayed.settings]; rfl)
      · have himu := requestedSession_imu hsession
        by_cases h40 : request.id = 0x40
        · change ImuReplay _ reply.nextSession.imuEncodingState
          rw [himu, if_pos h40]
          exact .reset rfl hhead hrequest h40
        · change ImuReplay _ reply.nextSession.imuEncodingState
          rw [himu, if_neg h40]
          exact .reply hreplayed.imu rfl hhead hrequest h40

theorem Wire.replayed (hwire : Wire h s h' s') (hreplayed : s.sessions.current ≠ none → Replayed h s) :
    s'.sessions.current ≠ none → Replayed h' s' := by
  intro hlive
  cases hwire with
  | update hkeep =>
    obtain ⟨hsender, hcurrent⟩ := hkeep hlive
    obtain ⟨hsettings, himu⟩ := hreplayed (by rwa [← hcurrent])
    exact ⟨by rw [hsender]; exact hsettings, by rw [hsender]; exact himu⟩
  | event hstate hoffered hbegun =>
    have haccepted := acceptedPayload_of_offered hoffered
    obtain ⟨hsettings, himu⟩ := hreplayed hlive
    refine ⟨?_, .other himu hbegun haccepted⟩
    rw [Log.settings, Log.replied_cons hbegun (by simp [haccepted])]
    exact hsettings
  | refused hlive hcandidate =>
    obtain ⟨hsettings, himu⟩ := hreplayed hlive
    exact ⟨hsettings, .other himu rfl rfl⟩
  | accepted hlive hcandidate => exact hcandidate.replayed (hreplayed hlive)
  | begun hcurrent hsender =>
    refine ⟨?_, ?_⟩
    · rw [hsender]
      rfl
    · rw [hsender]
      exact .begun rfl

/-- Between its `begin_session` call and its end, a session's state is the
replay, and every input report carries the IMU block of the replayed mode. -/
def ReplayedAt (e : LogEvent m r) (h : Log m r) : Prop :=
  begunSession e = none → e.state.sessions.current ≠ none →
    Replayed h e.state ∧ ∀ payload, acceptedPayload e = some payload → payload.head? = some 0x30 →
      ∃ frames nowNs, payload.drop 13 =
        (encodeUnder m e.state.sender.committed.session.imuEncodingState h.imuMode frames nowNs).block

theorem Wire.replayedAt {e : LogEvent m r} (hwire : Wire h s (e :: h) s')
    (hreplayed : s.sessions.current ≠ none → Replayed h s) : ReplayedAt e h := by
  generalize hlog : e :: h = h₁ at hwire
  intro hbegun hlive
  cases hwire with
  | update hkeep => exact absurd hlog (List.cons_ne_self _ _)
  | event hstate hoffered hbegun =>
    cases hlog
    rw [hstate] at hlive ⊢
    refine ⟨hreplayed hlive, ?_⟩
    intro payload haccepted
    rw [acceptedPayload_of_offered hoffered] at haccepted
    cases haccepted
  | refused hlive hcandidate =>
    cases hlog
    exact ⟨hreplayed hlive, fun payload haccepted => nomatch haccepted⟩
  | accepted hlive hcandidate =>
    cases hlog
    refine ⟨hreplayed hlive, ?_⟩
    rintro payload ⟨⟩ hhead
    cases hcandidate with
    | input state nowNs =>
      rw [← (hreplayed hlive).mode]
      exact ⟨_, _, inputCandidate_block s.sender state nowNs⟩
    | reply hrequest hprepare =>
      rw [List.head?_eq_getElem?] at hhead
      cases prepareReply_spec hprepare with
      | plain hid hbytes => exact absurd (hbytes.1.symm.trans hhead) (by decide)
      | stateful hid harg hsession hbytes => exact absurd (hbytes.1.symm.trans hhead) (by decide)
  | begun hcurrent hsender =>
    cases hlog
    cases hbegun

/-- The session of a trace is its replay, now and at every event. -/
theorem Trace.replayed (htrace : Trace h s) : (s.sessions.current ≠ none → Replayed h s) ∧ Always ReplayedAt h := by
  obtain ⟨core, hnew, hwires⟩ := htrace.wires
  have hstart : core.start.sessions.current ≠ none → Replayed core.openLog core.start := fun hlive =>
    absurd hnew.isOpen.current hlive
  have hopened : Always ReplayedAt core.openLog :=
    And.intro (fun _ hlive => absurd hnew.isOpen.current hlive) trivial
  exact hwires.inv Wire.replayed Wire.replayedAt hstart hopened

/-- At every point inside a session the committed protocol session is the fold
of the stateful requests answered in it, and so is the mode of every IMU block. -/
theorem session_replay (htrace : Trace h s) :
    (s.sessions.current ≠ none →
      s.sender.committed.session.settings =
        (h.replied.filter SubcommandRequest.stateful).foldl SessionSettings.apply .default ∧
      ImuReplay h s.sender.committed.session.imuEncodingState) ∧
    ∀ (e : LogEvent m r) (h₀ : Log m r), e :: h₀ <:+ h → begunSession e = none → e.state.sessions.current ≠ none →
      e.state.sender.committed.session.settings =
        (h₀.replied.filter SubcommandRequest.stateful).foldl SessionSettings.apply .default ∧
      ImuReplay h₀ e.state.sender.committed.session.imuEncodingState ∧
      ∀ payload, acceptedPayload e = some payload → payload.head? = some 0x30 → ∃ frames nowNs,
        payload.drop 13 =
          (encodeUnder m e.state.sender.committed.session.imuEncodingState h₀.imuMode frames nowNs).block := by
  obtain ⟨hend, halways⟩ := htrace.replayed
  refine ⟨fun hlive => ⟨(hend hlive).settings, (hend hlive).imu⟩, ?_⟩
  intro e h₀ hsuffix hbegun hlive
  obtain ⟨hreplayed, hblock⟩ := always_iff.1 halways e h₀ hsuffix hbegun hlive
  exact ⟨hreplayed.settings, hreplayed.imu, hblock⟩

/-- The sample session has negotiated mode 0x30, standard IMU data and lights 1. -/
theorem session_replay_sample : sampleReady.2.sender.committed.session.settings = ⟨some 0x30, some 0x01, .standard, false⟩ := by
  have hlive : sampleReady.2.sessions.current ≠ none := by decide +kernel
  have hfold : (sampleReady.1.replied.filter SubcommandRequest.stateful).foldl SessionSettings.apply .default =
      ⟨some 0x30, some 0x01, .standard, false⟩ := by decide +kernel
  exact ((session_replay (.running sampleReady_run)).1 hlive).1.trans hfold

end Swbt
