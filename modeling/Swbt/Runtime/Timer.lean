import Swbt.Runtime.WireEffect
/-!
# Timers

The `n`-th payload accepted in a session carries `n` modulo 256.
-/

set_option autoImplicit false

open Effects

namespace Swbt

variable {m : ControllerKind} {r : ReportingKind} {h h' : Log m r} {s s' : Frame m r}

/-! ## What a candidate carries -/

/-- Every candidate carries the committed timer and moves it on by one. -/
theorem Candidate.timer {bytes : List UInt8} {candidate : SenderCommit} (hc : Candidate h s bytes candidate) :
    bytes[1]? = some s.sender.committed.nextTimer ∧ candidate.nextTimer = s.sender.committed.nextTimer + 1 := by
  cases hc with
  | input state nowNs => exact ⟨timer_encode0x30 _ _ _, rfl⟩
  | reply hrequest hprepare =>
    cases prepareReply_spec hprepare with
    | plain hid hbytes => exact ⟨hbytes.2.1, hbytes.2.2⟩
    | stateful hid harg hsession hbytes => exact ⟨hbytes.2.1, hbytes.2.2⟩

/-! ## The count of accepted payloads -/

/-- The committed timer counts what the session has had accepted. -/
def TimerCounts (h : Log m r) (s : Frame m r) : Prop :=
  s.sessions.current ≠ none →
    h.session = s.sessions.current ∧ s.sender.committed.nextTimer = UInt8.ofNat h.accepted.length

theorem Wire.timerCounts (hwire : Wire h s h' s') (hcounts : TimerCounts h s) : TimerCounts h' s' := by
  intro hlive
  cases hwire with
  | update hkeep =>
    obtain ⟨hsender, hcurrent⟩ := hkeep hlive
    obtain ⟨hsession, htimer⟩ := hcounts (by rwa [← hcurrent])
    rw [hsender, hcurrent]
    exact ⟨hsession, htimer⟩
  | event hstate hoffered hbegun =>
    rw [Log.session_cons hbegun, Log.accepted_cons hbegun, acceptedPayload_of_offered hoffered]
    exact hcounts hlive
  | refused hlive hcandidate =>
    rw [Log.session_cons rfl, Log.accepted_cons rfl]
    exact hcounts hlive
  | accepted hlive hcandidate =>
    obtain ⟨hsession, htimer⟩ := hcounts hlive
    rw [Log.session_cons rfl, Log.accepted_cons rfl]
    refine ⟨hsession, ?_⟩
    have hnext := hcandidate.timer.2
    rw [htimer] at hnext
    refine hnext.trans ?_
    change _ = UInt8.ofNat (h.accepted.length + 1)
    rw [UInt8.ofNat_add]
    rfl
  | begun hcurrent hsender =>
    rw [hcurrent, hsender]
    exact ⟨rfl, rfl⟩

/-- A payload is offered in the session that began last, and byte 1 is the
number of payloads that session has had accepted. -/
def OnTime (e : LogEvent m r) (h : Log m r) : Prop :=
  ∀ payload, offeredPayload e = some payload →
    e.state.sessions.current.isSome = true ∧ h.session = e.state.sessions.current ∧
      payload[1]?.map UInt8.toNat = some (h.accepted.length % 256)

theorem Candidate.onTime {bytes : List UInt8} {candidate : SenderCommit} (hc : Candidate h s bytes candidate)
    (hlive : s.sessions.current ≠ none) (hcounts : TimerCounts h s) (result : TransportResult Unit) :
    OnTime (.call s (Op.sendInterrupt bytes) result) h := by
  intro payload hpayload
  cases hpayload
  obtain ⟨hsession, htimer⟩ := hcounts hlive
  refine ⟨Option.isSome_iff_ne_none.2 hlive, hsession, ?_⟩
  rw [hc.timer.1, htimer, Option.map_some, UInt8.toNat_ofNat']

theorem Wire.onTime {e : LogEvent m r} (hwire : Wire h s (e :: h) s') (hcounts : TimerCounts h s) : OnTime e h := by
  generalize hlog : e :: h = h₁ at hwire
  cases hwire with
  | update hkeep => exact absurd hlog (List.cons_ne_self _ _)
  | event hstate hoffered hbegun =>
    cases hlog
    intro payload hpayload
    rw [hoffered] at hpayload
    cases hpayload
  | refused hlive hcandidate =>
    cases hlog
    exact hcandidate.onTime hlive hcounts _
  | accepted hlive hcandidate =>
    cases hlog
    exact hcandidate.onTime hlive hcounts _
  | begun hcurrent hsender =>
    cases hlog
    rintro payload ⟨⟩

/-- Whatever is sent and whatever is refused, the `n`-th payload accepted in a
session has byte 1 equal to `n` modulo 256, and none is offered without a session. -/
theorem timer_continuity (htrace : Trace h s) {e : LogEvent m r} {h₀ : Log m r} (hsuffix : e :: h₀ <:+ h)
    {payload : List UInt8} (hoffered : offeredPayload e = some payload) :
    e.state.sessions.current.isSome = true ∧ h₀.session = e.state.sessions.current ∧
      payload[1]?.map UInt8.toNat = some (h₀.accepted.length % 256) := by
  obtain ⟨core, hnew, hwires⟩ := htrace.wires
  have hstart : TimerCounts core.openLog core.start := fun hlive => absurd hnew.isOpen.current hlive
  have hopened : Always OnTime core.openLog := And.intro (fun _ hpayload => nomatch hpayload) trivial
  obtain ⟨-, halways⟩ := hwires.inv Wire.timerCounts Wire.onTime hstart hopened
  exact always_iff.1 halways e h₀ hsuffix payload hoffered

/-- The third payload of a sample session. -/
theorem timer_continuity_sample : ∃ payload : List UInt8,
    (sampleReady.1[16]?.bind offeredPayload) = some payload ∧ payload[1]?.map UInt8.toNat = some 2 := by
  obtain ⟨e, he⟩ := Option.isSome_iff_exists.1 (show sampleReady.1[16]?.isSome = true by decide +kernel)
  obtain ⟨payload, hpayload⟩ := Option.isSome_iff_exists.1
    (show (sampleReady.1[16]?.bind offeredPayload).isSome = true by decide +kernel)
  refine ⟨payload, hpayload, ?_⟩
  rw [he] at hpayload
  have hcontinuity := (timer_continuity (.running sampleReady_run) (suffix_of_getElem? he) hpayload).2.2
  have hcount : (Log.accepted (sampleReady.1.drop (16 + 1))).length % 256 = 2 := by decide +kernel
  rw [hcount] at hcontinuity
  exact hcontinuity

end Swbt
