import Swbt.Runtime.Occasions
/-!
# Automatic reports

With the pace of the schedule and the evidence of the session, what an input
report is sent for says when a periodic worker reports by itself, and what:
once for each attempt that finds capacity, and never else.
-/

set_option autoImplicit false

open Effects

namespace Swbt

variable {m : ControllerKind} {h h₀ h₁ h' : Log m .periodic} {s f f₁ f₂ : Frame m .periodic} {e : LogEvent m .periodic}
  {available : Bool}

/-- What an attempt of `f` is, made when the log was `h₀` and seen from `h`. -/
structure AutomaticAttempt (h h₀ : Log m .periodic) (f : Frame m .periodic) (available : Bool) : Prop where
  slot : ∃ p t start k, h.configuredPeriod = some p ∧ InSlot p h₀ f t start k ∧
    (∀ u ∈ h₀.completions, u.asNanos + replyHoldoff.asNanos ≤ t.asNanos) ∧
    (available = true → ∃ result,
      .call f (Op.sendInterrupt (f.sender.inputCandidate h₀.committed (protocolTimestamp t)).1) result ::
        .call f Op.interruptSendCapacityAvailable true :: h₀ <:+ h)
  session : h₀.session = f.sessions.current ∧ f.sessions.current.isSome = true
  handshaken : h₀.Handshaken
  selected : h₀.Selected
  unsent : available = false → ∀ e : LogEvent m .periodic,
    e :: .call f Op.interruptSendCapacityAvailable false :: h₀ <:+ h → offeredPayload e = none

theorem Trace.attempt (htrace : Trace h s) (hbounded : h.Bounded)
    (hsuffix : .call f Op.interruptSendCapacityAvailable available :: h₀ <:+ h) :
    AutomaticAttempt h h₀ f available := by
  obtain ⟨p, hperiod, hslots⟩ := htrace.slots
  obtain ⟨⟨t, start, k, hslot⟩, hinput, hselected⟩ := always_iff.1 hslots _ _ hsuffix rfl
  have hshown : AskShown h₀ f := (always_iff.1 (htrace.earned trivial) _ _ hsuffix).asked rfl
  have hsession := always_iff.1 htrace.sessionAt.2 _ _ hsuffix rfl hshown.live
  have hattended := htrace.attended
  have hbefore : h₀.Bounded := by
    obtain ⟨after, rfl⟩ := hsuffix
    exact fun g u hmem => hbounded g u (List.mem_append_right _ (List.mem_cons_of_mem _ hmem))
  -- The clock stays clear of its end, so no holdoff has overflown.
  obtain ⟨_, hclock, hunheld⟩ := hshown.unheld hbefore
  cases hclock.symm.trans hslot.read
  refine ⟨⟨p, t, start, k, hperiod, hslot, hunheld, ?_⟩, ⟨hsession, Option.isSome_iff_ne_none.2 hshown.live⟩,
    hshown.handshaken, hselected, ?_⟩
  · rintro rfl
    obtain ⟨u, result, hread, hreport⟩ := hattended.filled _ _ hsuffix rfl
    cases hread.symm.trans hslot.read
    have hinput : f.input = h₀.committed := hinput
    rw [← hinput]
    exact ⟨result, hreport⟩
  · rintro rfl e hnext
    exact always_iff.1 hattended.unsent e _ hnext rfl

/-! ## Slots of their own -/

theorem Adds.scheduleStart {start : Duration} (hadds : Adds Unbegun h h') (hstart : h.scheduleStart = some start) :
    h'.scheduleStart = some start := by
  obtain ⟨added, rfl, hall⟩ := hadds
  induction added with
  | nil => exact hstart
  | cons e rest ih =>
    obtain ⟨hbegun, hrest⟩ := List.forall_mem_cons.1 hall
    rw [List.cons_append, Log.scheduleStart, show begunSession e = none from hbegun, ih hrest]
    rfl

theorem Adds.attempts {t : Duration} (hadds : Adds Unbegun h h') (hmem : t ∈ h.attempts) : t ∈ h'.attempts := by
  obtain ⟨added, rfl, hall⟩ := hadds
  induction added with
  | nil => exact hmem
  | cons e rest ih =>
    obtain ⟨hbegun, hrest⟩ := List.forall_mem_cons.1 hall
    rw [List.cons_append, Log.attempts, show begunSession e = none from hbegun]
    dsimp only
    split
    · exact List.mem_append_right _ (ih hrest)
    · exact ih hrest

/-- An attempt lies in a later slot than any of its session before it. -/
theorem InSlot.later {p t₁ t₂ start₁ start₂ : Duration} {k₁ k₂ : Nat} (hslot₁ : InSlot p h₁ f₁ t₁ start₁ k₁)
    (hadds : Adds Unbegun (.call f₁ Op.interruptSendCapacityAvailable available :: h₁) h₀)
    (hslot₂ : InSlot p h₀ f₂ t₂ start₂ k₂) : start₁ = start₂ ∧ k₁ < k₂ := by
  have hasked : Adds Unbegun h₁ (.call f₁ Op.interruptSendCapacityAvailable available :: h₁) := .single rfl
  have hstart := Adds.scheduleStart (hasked.trans hadds) hslot₁.started
  cases hstart.symm.trans hslot₂.started
  have hmem : t₁ ∈ h₀.attempts := by
    refine Adds.attempts hadds ?_
    rw [Log.attempts, show begunSession (.call f₁ Op.interruptSendCapacityAvailable available) = none from rfl]
    simp [asksEvent, hslot₁.read]
  have hreached := hslot₁.reached
  have hearlier := hslot₂.earlier t₁ hmem
  have hperiods : k₁ * p.asNanos < k₂ * p.asNanos := by omega
  exact ⟨rfl, Nat.lt_of_mul_lt_mul_right hperiods⟩

/-- Two attempts in one session: `f₁` made the first at the end of `h₁`, `f₂` the other at the end of `h₀`. -/
structure Apart (p : Duration) (h₁ : Log m .periodic) (f₁ : Frame m .periodic) (h₀ : Log m .periodic)
    (f₂ : Frame m .periodic) : Prop where
  slots : ∃ t₁ t₂ start k₁ k₂, InSlot p h₁ f₁ t₁ start k₁ ∧ InSlot p h₀ f₂ t₂ start k₂ ∧ k₁ < k₂

/-! ## Reports -/

/-- The reports of a periodic worker: every attempt is as it should be, no two
of one session share a slot, and a report that is no bootstrap, no tap's and
not the last of a worker that closes comes right after an attempt of its own,
which has found capacity. -/
structure AutomaticReports (h : Log m .periodic) : Prop where
  attempts : ∀ f available h₀, .call f Op.interruptSendCapacityAvailable available :: h₀ <:+ h →
    AutomaticAttempt h h₀ f available
  apart : ∀ f₁ f₂ available₁ available₂ between h₁,
    .call f₂ Op.interruptSendCapacityAvailable available₂ ::
      (between ++ .call f₁ Op.interruptSendCapacityAvailable available₁ :: h₁) <:+ h →
    (∀ e ∈ between, begunSession e = none) →
      ∃ p, h.configuredPeriod = some p ∧
        Apart p h₁ f₁ (between ++ .call f₁ Op.interruptSendCapacityAvailable available₁ :: h₁) f₂
  sends : ∀ e h₀, e :: h₀ <:+ h → offersReport e = true → Occasion e h₀

/-- While the clock stays a holdoff away from its end, every automatic attempt
of a periodic worker lies in a slot of its own, after every holdoff, in a
session whose handshake is complete and whose host has selected the report;
it sends the input committed last, or nothing where there is no capacity. All
that a worker sends besides is a reply, a bootstrap before the handshake is
complete, a press or a release of a tap, or its last report. -/
theorem automatic_reports (htrace : Trace h s) (hbounded : h.Bounded) : AutomaticReports h := by
  refine ⟨fun f available h₀ => htrace.attempt hbounded, ?_, always_iff.1 htrace.occasioned⟩
  intro f₁ f₂ available₁ available₂ between h₁ hsuffix hbetween
  obtain ⟨p, hperiod, hslots⟩ := htrace.slots
  obtain ⟨⟨t₂, start₂, k₂, hslot₂⟩, -, -⟩ := always_iff.1 hslots _ _ hsuffix rfl
  have hbefore := ((List.suffix_append between _).trans (List.suffix_cons _ _)).trans hsuffix
  obtain ⟨⟨t₁, start₁, k₁, hslot₁⟩, -, -⟩ := always_iff.1 hslots _ _ hbefore rfl
  -- No session has begun between the two, so both slots count from one start.
  obtain ⟨rfl, hlt⟩ := hslot₁.later ⟨between, rfl, hbetween⟩ hslot₂
  exact ⟨p, hperiod, t₁, t₂, start₁, k₁, k₂, hslot₁, hslot₂, hlt⟩

/-- The same environment without send capacity. -/
def congested {r : ReportingKind} (env : Nat → (op : Op) → Op.Ans m r op) : Nat → (op : Op) → Op.Ans m r op
  | _, .interruptSendCapacityAvailable => false
  | n, op => env n op

/-- The periodic worker presses a tap after its first report, releases it in
its second slot and has no capacity in its third. -/
def sampleCongested : Log .pro .periodic × Frame .pro .periodic :=
  let tap : ReportingCommand .pro .periodic := tapCommand .periodic [sampleButton] ⟨3000000, by decide⟩
  let pressed := play (scripted ⟨310000000, by decide⟩ (fun _ => some (.input tap)) fun _ => []) sampleTicked
  let released := play (scripted ⟨317000000, by decide⟩ (fun _ => none) fun _ => []) pressed
  play (congested (scripted ⟨326000000, by decide⟩ (fun _ => none) fun _ => [])) released

theorem sampleCongested_run : Run sampleCongested.1 sampleCongested.2 := by
  refine Run.play (Run.play (Run.play sampleTicked_run _ ?_) _ ?_) _ ?_
  · decide +kernel
  · decide +kernel
  · decide +kernel

/-- It has made two attempts and sent four reports: its bootstrap, one
automatic report, a press and a release. -/
theorem automatic_reports_sample : AutomaticReports sampleCongested.1 ∧
    (sampleCongested.1.filter asksEvent).length = 2 ∧ (sampleCongested.1.filter offersReport).length = 4 :=
  have hbounded : sampleCongested.1.Bounded := Log.bounded_of_inTime (by decide +kernel)
  ⟨automatic_reports (.running sampleCongested_run) hbounded, by decide +kernel, by decide +kernel⟩

end Swbt
