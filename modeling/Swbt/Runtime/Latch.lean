import Mathlib.Data.List.Basic
import Swbt.Runtime.Transport
/-!
# The priority shutdown latch

Any number of clients request a shutdown and the worker takes it once. Each
locks the latch for one step. A request that has changed it notifies the worker
after that, and then returns.
-/

set_option autoImplicit false

namespace Swbt

/-- What the mutex of the latch holds. -/
inductive ShutdownState
  | running
  | requested (request : ShutdownRequest)
  | taken
deriving DecidableEq

namespace ShutdownState

/-- `request` while it holds the lock, and whether it has changed the state. -/
def request (state : ShutdownState) (request : ShutdownRequest) : ShutdownState × Bool :=
  match state, request with
  | .running, _ => (.requested request, true)
  | .requested (.explicit _), .dropped => (.requested .dropped, true)
  | .requested .dropped, .explicit _ | .requested .dropped, .dropped | .requested (.explicit _), .explicit _
  | .taken, _ => (state, false)

def take (state : ShutdownState) : Option ShutdownRequest × ShutdownState :=
  match state with
  | .requested request => (some request, .taken)
  | .running | .taken => (none, state)

/-- A request says that it has changed the state if it has. -/
theorem request_changed (state : ShutdownState) (asked : ShutdownRequest) :
    (state.request asked).2 = true ↔ (state.request asked).1 ≠ state := by
  rcases state with _ | ⟨_ | _⟩ | _
  · simp [request]
  · cases asked <;> simp [request]
  · cases asked <;> simp [request]
  · simp [request]

/-- The request of a list that a take gets: a Dropped one, or else the first. -/
def expected (requests : List ShutdownRequest) : Option ShutdownRequest :=
  if .dropped ∈ requests then some .dropped else requests.head?

/-- The state of a latch that has not been taken after these requests. -/
def after (requests : List ShutdownRequest) : ShutdownState :=
  match expected requests with
  | none => .running
  | some request => .requested request

theorem request_after (requests : List ShutdownRequest) (asked : ShutdownRequest) :
    ((after requests).request asked).1 = after (requests ++ [asked]) := by
  unfold after expected
  cases requests with
  | nil => cases asked <;> simp [request]
  | cons first rest =>
    by_cases hdropped : ShutdownRequest.dropped ∈ first :: rest
    · have hlater : ShutdownRequest.dropped ∈ (first :: rest) ++ [asked] := List.mem_append_left _ hdropped
      rw [if_pos hdropped, if_pos hlater]
      cases asked <;> rfl
    · rw [if_neg hdropped]
      cases first with
      | dropped => exact absurd List.mem_cons_self hdropped
      | explicit mode =>
        cases asked with
        | dropped => simp [request]
        | explicit other =>
          have hlater : ShutdownRequest.dropped ∉ (.explicit mode :: rest) ++ [.explicit other] := by
            simpa using hdropped
          rw [if_neg hlater]
          rfl

end ShutdownState

/-! ## Clients and the worker -/

/-- Where a `request` call is, once it has given up the lock. -/
inductive RequestPhase
  | notifying
  | returning (changed : Bool)
deriving DecidableEq

/-- The latch, the token of the activity channel, and the calls past their lock. -/
structure LatchSystem where
  state : ShutdownState
  activity : Bool
  calls : Nat → Option RequestPhase

inductive LatchEvent
  | locked (call : Nat) (request : ShutdownRequest) (before after : ShutdownState)
  | notified (call : Nat)
  | returned (call : Nat) (changed : Bool)
  | took (answer : Option ShutdownRequest)
  | woken
deriving DecidableEq

namespace LatchSystem

def new : LatchSystem := ⟨.running, false, fun _ => none⟩

def setCall (s : LatchSystem) (call : Nat) (phase : Option RequestPhase) : LatchSystem :=
  { s with calls := Function.update s.calls call phase }

@[simp] theorem calls_setCall (s : LatchSystem) (call : Nat) (phase : Option RequestPhase) :
    (s.setCall call phase).calls call = phase := Function.update_self ..

theorem calls_setCall_of_ne (s : LatchSystem) {call other : Nat} (hne : call ≠ other) (phase : Option RequestPhase) :
    (s.setCall other phase).calls call = s.calls call := Function.update_of_ne hne ..

/-- One atomic step of a client or of the worker. -/
inductive Step (s : LatchSystem) : LatchEvent → LatchSystem → Prop
  | locked {call : Nat} {request : ShutdownRequest} (hfresh : s.calls call = none) :
      Step s (.locked call request s.state (s.state.request request).1)
        ({ s with state := (s.state.request request).1 }.setCall call
          (some (if (s.state.request request).2 then .notifying else .returning false)))
  | notified {call : Nat} (hcall : s.calls call = some .notifying) :
      Step s (.notified call) ({ s with activity := true }.setCall call (some (.returning true)))
  | returned {call : Nat} {changed : Bool} (hcall : s.calls call = some (.returning changed)) :
      Step s (.returned call changed) (s.setCall call none)
  | took : Step s (.took s.state.take.1) { s with state := s.state.take.2 }
  | woken (hactivity : s.activity = true) : Step s .woken { s with activity := false }

/-- The steps of any interleaving, the latest first. -/
inductive Run : List LatchEvent → LatchSystem → Prop
  | start : Run [] new
  | step {events : List LatchEvent} {e : LatchEvent} {s s' : LatchSystem} (hrun : Run events s) (hstep : Step s e s') :
      Run (e :: events) s'

end LatchSystem

/-! ## What the latch holds -/

def LatchEvent.request : LatchEvent → Option ShutdownRequest
  | .locked _ request _ _ => some request
  | _ => none

def LatchEvent.answer : LatchEvent → Option ShutdownRequest
  | .took answer => answer
  | _ => none

/-- The requests made so far, in their order. -/
def requestsOf (events : List LatchEvent) : List ShutdownRequest := events.reverse.filterMap LatchEvent.request

/-- A take has answered with a request. -/
def isTaken (events : List LatchEvent) : Bool := events.any fun e => e.answer.isSome

/-- What a take answers after these events. -/
def takeAnswer (events : List LatchEvent) : Option ShutdownRequest :=
  if isTaken events then none else ShutdownState.expected (requestsOf events)

/-- Its state once the latch has been taken, or else after the requests so far. -/
def stateAfter (events : List LatchEvent) : ShutdownState :=
  if isTaken events then .taken else .after (requestsOf events)

theorem requestsOf_cons (e : LatchEvent) (events : List LatchEvent) :
    requestsOf (e :: events) = requestsOf events ++ e.request.toList := by
  unfold requestsOf
  rw [List.reverse_cons, List.filterMap_append]
  cases e <;> rfl

theorem isTaken_cons (e : LatchEvent) (events : List LatchEvent) :
    isTaken (e :: events) = (e.answer.isSome || isTaken events) := List.any_cons

theorem stateAfter_cons {e : LatchEvent} {events : List LatchEvent} (hrequest : e.request = none) (hanswer : e.answer = none) :
    stateAfter (e :: events) = stateAfter events := by
  unfold stateAfter
  rw [isTaken_cons, requestsOf_cons, hanswer, hrequest, Option.toList_none, List.append_nil]
  rfl

theorem isTaken_of_answers {events : List LatchEvent} (hnone : events.filterMap LatchEvent.answer = []) :
    isTaken events = false := by
  rw [isTaken, List.any_eq_false]
  intro e hmem
  rw [List.filterMap_eq_nil_iff.1 hnone e hmem]
  exact Bool.false_ne_true

namespace LatchSystem

variable {events : List LatchEvent} {e : LatchEvent} {s s' : LatchSystem}

theorem take_stateAfter (events : List LatchEvent) :
    (stateAfter events).take.1 = takeAnswer events ∧
      (stateAfter events).take.2 = stateAfter (.took (takeAnswer events) :: events) := by
  unfold stateAfter takeAnswer ShutdownState.after
  rw [isTaken_cons, requestsOf_cons]
  cases isTaken events with
  | true => exact ⟨rfl, rfl⟩
  | false =>
    simp only [Bool.false_eq_true, if_false, Bool.or_false]
    cases hexpected : ShutdownState.expected (requestsOf events) with
    | none =>
      refine ⟨rfl, ?_⟩
      change ShutdownState.running = match ShutdownState.expected (requestsOf events ++ []) with
        | none => .running
        | some request => .requested request
      rw [List.append_nil, hexpected]
    | some request => exact ⟨rfl, rfl⟩

theorem Step.state_eq (hstep : Step s e s') (hstate : s.state = stateAfter events) : s'.state = stateAfter (e :: events) := by
  cases hstep with
  | notified hcall => exact hstate.trans (stateAfter_cons rfl rfl).symm
  | returned hcall => exact hstate.trans (stateAfter_cons rfl rfl).symm
  | woken hactivity => exact hstate.trans (stateAfter_cons rfl rfl).symm
  | took =>
    obtain ⟨hanswer, hafter⟩ := take_stateAfter events
    rw [hstate, hanswer]
    exact hafter
  | locked hfresh =>
    rename_i call request
    change (s.state.request request).1 = _
    rw [hstate]
    unfold stateAfter
    rw [requestsOf_cons, isTaken_cons]
    cases isTaken events with
    | true => cases request <;> rfl
    | false => exact ShutdownState.request_after _ request

theorem Run.state_eq (hrun : Run events s) : s.state = stateAfter events := by
  induction hrun with
  | start => rfl
  | step hrun hstep ih => exact hstep.state_eq ih

/-! ## Calls -/

/-- The call `call` locked the latch, and nothing else has begun under its name since. -/
structure Called (call : Nat) (events between : List LatchEvent) (before after : ShutdownState) : Prop where
  located : ∃ request earlier, events = between ++ .locked call request before after :: earlier
  latest : ∀ request before after, .locked call request before after ∉ between

/-- How far a call is: it notifies if it changed the state, and then says so. -/
def Reached (call : Nat) (events : List LatchEvent) (phase : RequestPhase) : Prop :=
  ∃ between before after, Called call events between before after ∧ match phase with
    | .notifying => after ≠ before ∧ .notified call ∉ between
    | .returning changed => (changed = true ↔ after ≠ before) ∧ (changed = true ↔ .notified call ∈ between)

/-- A step of another call, or of the worker, leaves a call where it is. -/
theorem Reached.later {call : Nat} {phase : RequestPhase} (hreached : Reached call events phase)
    (hother : ∀ request before after, e ≠ .locked call request before after) (hsilent : e ≠ .notified call) :
    Reached call (e :: events) phase := by
  obtain ⟨between, before, after, ⟨⟨request, earlier, hevents⟩, hlatest⟩, hphase⟩ := hreached
  refine ⟨e :: between, before, after, ⟨⟨request, earlier, ?_⟩, ?_⟩, ?_⟩
  · rw [hevents]
    rfl
  · intro request before after hmem
    rcases List.mem_cons.1 hmem with heq | hmem
    · exact hother request before after heq.symm
    · exact hlatest request before after hmem
  · have hmem : .notified call ∈ e :: between ↔ .notified call ∈ between := by
      rw [List.mem_cons]
      exact or_iff_right fun heq => hsilent heq.symm
    cases phase with
    | notifying => exact ⟨hphase.1, fun hnotified => hphase.2 (hmem.1 hnotified)⟩
    | returning changed => exact ⟨hphase.1, hphase.2.trans hmem.symm⟩

theorem Step.reached (hstep : Step s e s') (hcalls : ∀ call phase, s.calls call = some phase → Reached call events phase)
    (call : Nat) (phase : RequestPhase) (hphase : s'.calls call = some phase) : Reached call (e :: events) phase := by
  -- Only its own steps move a call on; those of the others leave it where it is.
  cases hstep with
  | took => exact (hcalls call phase hphase).later (fun _ _ _ => nofun) nofun
  | woken hactivity => exact (hcalls call phase hphase).later (fun _ _ _ => nofun) nofun
  | locked hfresh =>
    rename_i other request
    by_cases heq : call = other
    · subst heq
      rw [calls_setCall] at hphase
      cases hphase
      have hchanged := s.state.request_changed request
      refine ⟨[], s.state, _, ⟨⟨request, events, rfl⟩, fun _ _ _ => List.not_mem_nil⟩, ?_⟩
      cases hcase : (s.state.request request).2 with
      | true => exact ⟨hchanged.1 hcase, List.not_mem_nil⟩
      | false =>
        rw [hcase] at hchanged
        exact ⟨hchanged, ⟨nofun, fun hmem => absurd hmem List.not_mem_nil⟩⟩
    · rw [calls_setCall_of_ne _ heq] at hphase
      refine (hcalls call phase hphase).later ?_ nofun
      rintro request' before after hlocked
      cases hlocked
      exact heq rfl
  | notified hcall =>
    rename_i other
    by_cases heq : call = other
    · subst heq
      rw [calls_setCall] at hphase
      cases hphase
      obtain ⟨between, before, after, ⟨⟨request, earlier, hevents⟩, hlatest⟩, hchanged, hsilent⟩ := hcalls call _ hcall
      refine ⟨.notified call :: between, before, after, ⟨⟨request, earlier, ?_⟩, ?_⟩, ?_⟩
      · rw [hevents]
        rfl
      · intro request before after hmem
        rcases List.mem_cons.1 hmem with heq | hmem
        · cases heq
        · exact hlatest request before after hmem
      · exact ⟨⟨fun _ => hchanged, fun _ => rfl⟩, ⟨fun _ => List.mem_cons_self, fun _ => rfl⟩⟩
    · rw [calls_setCall_of_ne _ heq] at hphase
      refine (hcalls call phase hphase).later (fun _ _ _ => nofun) ?_
      intro hnotified
      cases hnotified
      exact heq rfl
  | returned hcall =>
    rename_i other changed
    by_cases heq : call = other
    · subst heq
      rw [calls_setCall] at hphase
      cases hphase
    · rw [calls_setCall_of_ne _ heq] at hphase
      exact (hcalls call phase hphase).later (fun _ _ _ => nofun) nofun

/-- Every call under way is where the events say. -/
theorem Run.reached (hrun : Run events s) (call : Nat) (phase : RequestPhase) (hphase : s.calls call = some phase) :
    Reached call events phase := by
  induction hrun generalizing call phase with
  | start => cases hphase
  | step hrun hstep ih => exact hstep.reached ih call phase hphase

/-- Each event of a run is a step of the system after the events before it. -/
theorem Run.before {later : List LatchEvent} (hrun : Run events s) (hsuffix : e :: later <:+ events) :
    ∃ s₁ s₂, Run later s₁ ∧ Step s₁ e s₂ := by
  induction hrun with
  | start => cases List.suffix_nil.1 hsuffix
  | step hrun hstep ih =>
    rcases List.suffix_cons_iff.1 hsuffix with heq | hsuffix
    · cases heq
      exact ⟨_, _, hrun, hstep⟩
    · exact ih hsuffix

theorem Run.answers (hrun : Run events s) :
    (events.filterMap LatchEvent.answer).length ≤ 1 ∧
      (isTaken events = false → events.filterMap LatchEvent.answer = []) := by
  induction hrun with
  | start => exact ⟨Nat.zero_le _, fun _ => rfl⟩
  | step hrun hstep ih =>
    rename_i events e s s'
    rw [isTaken_cons]
    cases hanswer : e.answer with
    | none =>
      rw [List.filterMap_cons_none hanswer]
      exact ih
    | some request =>
      rw [List.filterMap_cons_some hanswer]
      refine ⟨?_, nofun⟩
      have huntaken : isTaken events = false := by
        cases hstep with
        | took =>
          change s.state.take.1 = some request at hanswer
          rw [hrun.state_eq, (take_stateAfter events).1, takeAnswer] at hanswer
          by_contra htaken
          rw [if_pos (by simpa using htaken)] at hanswer
          cases hanswer
        | _ => cases hanswer
      rw [ih.2 huntaken]
      exact Nat.le_refl _

end LatchSystem

open LatchSystem in
/-- However the calls and the takes are interleaved: one take at most gets a
request, a Dropped one if there is any and else the first, no request changes
the latch after it, and a call notifies and returns true if it has changed it. -/
theorem shutdown_latch {events : List LatchEvent} {s : LatchSystem} (hrun : Run events s) :
    (events.filterMap LatchEvent.answer).length ≤ 1 ∧
    (∀ answer before, .took answer :: before <:+ events →
      answer = if before.filterMap LatchEvent.answer = [] then ShutdownState.expected (requestsOf before) else none) ∧
    (∀ call request state state' before, .locked call request state state' :: before <:+ events →
      before.filterMap LatchEvent.answer ≠ [] → state' = state) ∧
    ∀ call changed before, .returned call changed :: before <:+ events →
      ∃ between request state state' earlier, before = between ++ .locked call request state state' :: earlier ∧
        (∀ request state state', .locked call request state state' ∉ between) ∧
        (changed = true ↔ state' ≠ state) ∧ (changed = true ↔ .notified call ∈ between) := by
  have htaken : ∀ {before : List LatchEvent} {s₁ : LatchSystem}, Run before s₁ →
      (isTaken before = false ↔ before.filterMap LatchEvent.answer = []) := by
    intro before s₁ hrun
    exact ⟨hrun.answers.2, isTaken_of_answers⟩
  refine ⟨hrun.answers.1, ?_, ?_, ?_⟩
  · intro answer before hsuffix
    obtain ⟨s₁, s₂, hbefore, hstep⟩ := hrun.before hsuffix
    cases hstep with
    | took =>
      rw [hbefore.state_eq, (take_stateAfter before).1, takeAnswer]
      by_cases hanswers : before.filterMap LatchEvent.answer = []
      · rw [if_pos hanswers, (htaken hbefore).2 hanswers]
        rfl
      · have hsome := mt (htaken hbefore).1 hanswers
        rw [if_neg hanswers, if_pos (by simpa using hsome)]
  · intro call request state state' before hsuffix hanswers
    obtain ⟨s₁, s₂, hbefore, hstep⟩ := hrun.before hsuffix
    cases hstep with
    | locked hfresh =>
      have hsome := mt (htaken hbefore).1 hanswers
      rw [hbefore.state_eq, stateAfter, if_pos (by simpa using hsome)]
      cases request <;> rfl
  · intro call changed before hsuffix
    obtain ⟨s₁, s₂, hbefore, hstep⟩ := hrun.before hsuffix
    cases hstep with
    | returned hcall =>
      obtain ⟨between, state, state', ⟨⟨request, earlier, hevents⟩, hlatest⟩, hphase⟩ := hbefore.reached call _ hcall
      exact ⟨between, request, state, state', earlier, hevents, hlatest, hphase⟩

/-- A Drop overtakes a close. -/
def sampleOvertaken : List LatchEvent :=
  [.took (some .dropped), .locked 1 .dropped (.requested (.explicit .withNeutral)) (.requested .dropped),
    .locked 0 (.explicit .withNeutral) .running (.requested (.explicit .withNeutral))]

theorem sampleOvertaken_run : ∃ s, LatchSystem.Run sampleOvertaken s := by
  have hclosed := LatchSystem.Run.step .start (@LatchSystem.Step.locked .new 0 (.explicit .withNeutral) rfl)
  exact ⟨_, (hclosed.step (.locked rfl)).step .took⟩

theorem shutdown_latch_overtaken :
    ShutdownState.expected [.explicit .withNeutral, .dropped] = some .dropped ∧
      (sampleOvertaken.filterMap LatchEvent.answer).length ≤ 1 := by
  obtain ⟨s, hrun⟩ := sampleOvertaken_run
  obtain ⟨honce, hanswer, -⟩ := shutdown_latch hrun
  exact ⟨(hanswer _ _ (List.suffix_refl _)).symm, honce⟩

end Swbt
