import Swbt.Core.Buttons
import Swbt.Runtime.Generations
/-!
# The panics of the worker

The worker's own code can panic at a handful of places. None of them is ever
reached: no deed and no end of a worker logs a panic, the projection is given
new counters only inside a session, and the encoder finds a wire position for
every button a state can hold.
-/

set_option autoImplicit false

open Effects

namespace Swbt

variable {m : ControllerKind} {r : ReportingKind} {h h₀ h₁ h' : Log m r} {s s' : Frame m r} {p : StatusPublisher m r}

/-! ## Panics of a step -/

def panicEvent : LogEvent m r → Bool
  | .emit _ (.panicked _) => true
  | _ => false

/-- The event is no panic. -/
def Calm (e : LogEvent m r) : Prop := panicEvent e = false

theorem quietEvent_calm {e : LogEvent m r} (hquiet : quietEvent e = true) : Calm e := by
  rcases e with ⟨s, op, ans⟩ | ⟨s, out⟩
  · rfl
  · cases out with
    | panicked site => cases hquiet
    | _ => rfl

theorem endCall_calm {e : LogEvent m r} (hcall : endCall e = true) : Calm e := by
  rcases e with ⟨s, op, ans⟩ | ⟨s, out⟩
  · rfl
  · cases hcall

theorem Sent.calm {bytes : List UInt8} {candidate : SenderCommit} {result : TransportResult Unit}
    (hsent : Sent bytes candidate h s h' s' result) : Adds Calm h h' := by
  cases hsent with
  | refused error => exact .single rfl
  | accepted =>
    apply Adds.cons
    · exact .single rfl
    · rfl

theorem DirectSent.calm {candidate : InputState m} {nowNs : UInt64} {result : TransportResult Unit}
    (hsent : DirectSent candidate nowNs h s h' s' result) : Adds Calm h h' := by
  cases hsent with
  | refused hsent => exact Sent.calm hsent
  | accepted hsent => exact (Sent.calm hsent).cons rfl

theorem Deed.calm (hdeed : Deed h s h' s') : Adds Calm h h' := by
  cases hdeed with
  | quiet hstate hquiet => exact .single (quietEvent_calm hquiet)
  | begun hopen hclosed =>
    apply Adds.cons
    · apply Adds.cons
      · exact .single rfl
      · rfl
    · rfl
  | replied hlive hneutral hrequest hprepare hsent hsteady => exact (Sent.calm hsent).cons rfl
  | reported hlive hneutral hsent => exact Sent.calm hsent
  | delivered hr hlive hready hsent => exact hsent.calm
  | automatic hlive hneutral hclock hpolicy hticks hsent =>
    refine Adds.trans ?_ (Sent.calm hsent)
    exact .single rfl
  | internal hsteady => exact .refl
  | scheduled hlive hclock hstart => exact .refl
  | taken hcommand htap hidle => exact .single rfl
  | linked hlive => exact .single rfl
  | noticed hlive => exact .single rfl
  | committed hr hidle => exact .single rfl
  | skipped hlive hclock hpolicy hticks => exact .single rfl
  | readied hlive hconnecting hneutral => exact .single rfl
  | ended hlive hlifecycle => exact .single rfl

theorem Ending.calm (hending : Ending h s h' s') : Adds Calm h h' := by
  cases hending with
  | internal hsettled => exact .refl
  | call hstate hcall => exact .single (endCall_calm hcall)
  | failed halive => exact .single rfl
  | abandoned => exact .single rfl
  | closing publish =>
    cases publish with
    | false => exact .refl
    | true => exact .single rfl
  | neutral hlive hclosing hsent => exact Sent.calm hsent
  | closed => exact .single rfl
  | dropped => exact .refl

/-- No step and no cleanup of a worker logs a panic. -/
theorem Trace.calm (htrace : Trace h s) : ∀ e ∈ h, Calm e := by
  obtain ⟨core, hnew, h₁, s₁, hdeeds, hends⟩ := htrace.split
  have hopened : Adds Calm [] core.openLog := .single rfl
  obtain ⟨added, rfl, hall⟩ := (hopened.trans (hdeeds.adds Deed.calm)).trans (hends.adds Ending.calm)
  intro e hmem
  exact hall e (by simpa using hmem)

/-! ## The encoder -/

/-- One pressed button of `encode_0x30`: a button without a wire position panics. -/
def pressButton (m : ControllerKind) (bytes : List UInt8) (kind : ButtonKind) : Option (List UInt8) :=
  (buttonWirePosition m kind).map fun position => bytes.modify position.byteIndex (· ||| position.mask)

/-- The loop of `encode_0x30` over the pressed buttons. -/
def pressButtons (state : InputState m) (bytes : List UInt8) : Option (List UInt8) :=
  state.buttons.iter.foldlM (pressButton m) bytes

theorem pressButton_eq {kind : ButtonKind} (hkind : kind ∈ m.spec.supportedButtons) (bytes : List UInt8) :
    pressButton m bytes kind = some (setButton m bytes kind) := by
  obtain ⟨position, hposition⟩ := supported_wire_position m hkind
  unfold pressButton setButton
  rw [hposition]
  rfl

/-- A state holds only buttons of its model, so the loop never panics. -/
theorem pressButtons_eq (state : InputState m) (bytes : List UInt8) :
    pressButtons state bytes = some (state.buttons.iter.foldl (setButton m) bytes) := by
  unfold pressButtons
  have hall : ∀ kind ∈ state.buttons.iter, kind ∈ m.spec.supportedButtons :=
    fun kind hmem => ((ButtonSet.mem_iter state.buttons kind).1 hmem).1
  generalize state.buttons.iter = kinds at hall
  induction kinds generalizing bytes with
  | nil => rfl
  | cons kind rest ih =>
    obtain ⟨hkind, hrest⟩ := List.forall_mem_cons.1 hall
    rw [List.foldlM_cons, List.foldl_cons, pressButton_eq hkind]
    exact ih _ hrest

/-! ## No panic -/

/-- Whatever its environment does, a worker on the projection of its controller
never panics in its own code, has its counters published inside a session, and
finds a wire position for each button that it encodes. -/
theorem panics_unreachable (hshared : Shared p) (htrace : Trace h s) :
    (∀ f site, .emit f (.panicked site) ∉ h) ∧ (h.published p).panicked = false ∧
      ∀ (state : InputState m) (bytes : List UInt8), pressButtons state bytes ≠ none := by
  refine ⟨?_, ?_, ?_⟩
  · intro f site hmem
    have hcalm : panicEvent (.emit f (.panicked site) : LogEvent m r) = false := htrace.calm _ hmem
    cases hcalm
  · exact (htrace.recorded hshared.idle).1.calm
  · intro state bytes hnone
    rw [pressButtons_eq] at hnone
    cases hnone

/-- The sample worker, from its first step to Ready. -/
theorem panics_unreachable_sample :
    (∀ f site, .emit f (.panicked site) ∉ sampleReady.1) ∧ (sampleReady.1.published .new).panicked = false :=
  have hcalm := panics_unreachable .configured (.running sampleReady_run)
  ⟨hcalm.1, hcalm.2.1⟩

end Swbt
