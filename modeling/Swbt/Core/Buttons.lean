import Mathlib.Data.Nat.Bitwise
import Swbt.Core.Input
/-!
# Button sets as sets

The bits of a `ButtonSet` read as the kinds it contains, and what the plan of a
tap presses and releases in these terms.
-/

set_option autoImplicit false

namespace Swbt

variable {m : ControllerKind}

theorem toNat_buttonBit (kind : ButtonKind) : (buttonBit kind).toNat = 2 ^ kind.code.toNat := by
  cases kind <;> decide

theorem ButtonKind.eq_of_code {kind other : ButtonKind} (hcode : kind.code.toNat = other.code.toNat) :
    kind = other := by
  cases kind <;> cases other <;> first | rfl | exact absurd hcode (by decide)

namespace ButtonSet

theorem contains_eq_testBit (set : ButtonSet m) (kind : ButtonKind) :
    set.contains kind = set.bits.toNat.testBit kind.code.toNat := by
  unfold contains
  rw [Bool.eq_iff_iff, bne_iff_ne, ne_eq, ← UInt32.toNat_inj, UInt32.toNat_and, toNat_buttonBit, UInt32.toNat_zero,
    Nat.and_two_pow]
  cases set.bits.toNat.testBit kind.code.toNat <;> simp

@[simp] theorem contains_new (kind : ButtonKind) : (new : ButtonSet m).contains kind = false := by
  rw [contains_eq_testBit]
  exact Nat.zero_testBit _

@[simp] theorem contains_insert (set : ButtonSet m) (kind other : ButtonKind) :
    (set.insert kind).contains other = (set.contains other || decide (kind = other)) := by
  have hcode : kind.code.toNat = other.code.toNat ↔ kind = other := ⟨ButtonKind.eq_of_code, fun heq => heq ▸ rfl⟩
  rw [contains_eq_testBit, contains_eq_testBit, insert, UInt32.toNat_or, Nat.testBit_or, toNat_buttonBit,
    Nat.testBit_two_pow, decide_eq_decide.2 hcode]

theorem contains_foldl (set : ButtonSet m) (kinds : List ButtonKind) (kind : ButtonKind) :
    (kinds.foldl insert set).contains kind = (set.contains kind || decide (kind ∈ kinds)) := by
  induction kinds generalizing set with
  | nil => simp
  | cons first rest ih =>
    have hmem : decide (kind ∈ first :: rest) = (decide (first = kind) || decide (kind ∈ rest)) := by
      rw [Bool.eq_iff_iff, decide_eq_true_iff, List.mem_cons, Bool.or_eq_true, decide_eq_true_iff, decide_eq_true_iff,
        eq_comm]
    rw [List.foldl_cons, ih, contains_insert, Bool.or_assoc, hmem]

@[simp] theorem contains_collect (kinds : List ButtonKind) (kind : ButtonKind) :
    (collect kinds : ButtonSet m).contains kind = decide (kind ∈ kinds) := by
  rw [collect, contains_foldl, contains_new, Bool.false_or]

theorem mem_iter (set : ButtonSet m) (kind : ButtonKind) :
    kind ∈ set.iter ↔ kind ∈ m.spec.supportedButtons ∧ set.contains kind = true := List.mem_filter

/-- A set is empty only if it contains nothing. -/
theorem isEmpty_eq_false {set : ButtonSet m} {kind : ButtonKind} (hkind : set.contains kind = true) :
    set.isEmpty = false := by
  rw [isEmpty, beq_eq_false_iff_ne]
  intro hzero
  rw [contains_eq_testBit, hzero] at hkind
  have hbit : (0 : UInt32).toNat.testBit kind.code.toNat = false := Nat.zero_testBit _
  rw [hbit] at hkind
  cases hkind

theorem testBit_insert (set : ButtonSet m) (kind : ButtonKind) (i : Nat) :
    (set.insert kind).bits.toNat.testBit i = (set.bits.toNat.testBit i || decide (kind.code.toNat = i)) := by
  rw [insert, UInt32.toNat_or, Nat.testBit_or, toNat_buttonBit, Nat.testBit_two_pow]

/-- The bits of a collected set are the codes of what was collected. -/
theorem testBit_collect (kinds : List ButtonKind) (i : Nat) :
    (collect kinds : ButtonSet m).bits.toNat.testBit i = true ↔ ∃ kind ∈ kinds, kind.code.toNat = i := by
  suffices hall : ∀ set : ButtonSet m, (kinds.foldl insert set).bits.toNat.testBit i = true ↔
      set.bits.toNat.testBit i = true ∨ ∃ kind ∈ kinds, kind.code.toNat = i by
    have hzero : (new : ButtonSet m).bits.toNat.testBit i = false := Nat.zero_testBit i
    simp [collect, hall, hzero]
  induction kinds with
  | nil => simp
  | cons first rest ih =>
    intro set
    rw [List.foldl_cons, ih, testBit_insert]
    simp [or_assoc]

theorem ext_testBit {set other : ButtonSet m} (hbits : ∀ i, set.bits.toNat.testBit i = other.bits.toNat.testBit i) :
    set = other := by
  cases set
  cases other
  congr 1
  exact UInt32.toNat_inj.1 (Nat.eq_of_testBit_eq hbits)

/-- Collected sets are equal if the same buttons were collected. -/
theorem collect_eq_iff {kinds others : List ButtonKind} :
    (collect kinds : ButtonSet m) = collect others ↔ ∀ kind, kind ∈ kinds ↔ kind ∈ others := by
  constructor
  · intro hequal kind
    have hcontains := congrArg (fun set : ButtonSet m => set.contains kind) hequal
    simpa using hcontains
  · intro hsame
    refine ext_testBit fun i => ?_
    rw [Bool.eq_iff_iff, testBit_collect, testBit_collect]
    simp only [hsame]

end ButtonSet

/-! ## The buttons of a model -/

theorem supportsButton_iff (kind : ButtonKind) :
    ModelSpec.supportsButton m kind = true ↔ kind ∈ m.spec.supportedButtons := by
  cases m <;> cases kind <;> decide

/-- The table of a model is in code order. -/
theorem supportedButtons_sorted (m : ControllerKind) :
    m.spec.supportedButtons.Pairwise fun kind other => kind.code.toNat < other.code.toNat := by
  cases m <;> decide

/-- How a client comes by the button of a kind: it converts the kind, or names a constant of the model. -/
inductive Button.Obtained (m : ControllerKind) (kind : ButtonKind) : Prop
  | converted {button : Button m} (hbutton : Button.tryFrom m kind = .ok button)
  | constant (hlisted : kind ∈ m.spec.supportedButtons)

theorem Button.Obtained.supported {kind : ButtonKind} (hobtained : Button.Obtained m kind) :
    kind ∈ m.spec.supportedButtons := by
  cases hobtained with
  | constant hlisted => exact hlisted
  | converted hbutton =>
    unfold Button.tryFrom at hbutton
    split at hbutton
    · rename_i hsupported
      exact (supportsButton_iff kind).1 hsupported
    · cases hbutton

namespace ButtonSet

variable {kinds others : List ButtonKind}

theorem mem_iter_collect (hkinds : ∀ kind ∈ kinds, kind ∈ m.spec.supportedButtons) (kind : ButtonKind) :
    kind ∈ (collect kinds : ButtonSet m).iter ↔ kind ∈ kinds := by
  rw [mem_iter, contains_collect, decide_eq_true_iff]
  exact ⟨And.right, fun hmem => ⟨hkinds kind hmem, hmem⟩⟩

theorem iter_sorted (set : ButtonSet m) : set.iter.Pairwise fun kind other => kind.code.toNat < other.code.toNat :=
  (supportedButtons_sorted m).filter _

/-- As many bits are set as buttons are yielded. -/
theorem len_collect (hkinds : ∀ kind ∈ kinds, kind ∈ m.spec.supportedButtons) :
    (collect kinds : ButtonSet m).len = (collect kinds : ButtonSet m).iter.length := by
  have hcodes : (((collect kinds : ButtonSet m).iter.map fun kind => kind.code.toNat)).Nodup := by
    rw [List.Nodup, List.pairwise_map]
    exact (iter_sorted _).imp Nat.ne_of_lt
  have hbits : ((List.range 32).filter (collect kinds : ButtonSet m).bits.toNat.testBit).Nodup :=
    List.nodup_range.filter _
  have hperm := (List.perm_ext_iff_of_nodup hbits hcodes).2 (by
    intro i
    have hcode : ∀ kind : ButtonKind, kind.code.toNat < 32 := by
      intro kind
      cases kind <;> decide
    rw [List.mem_filter, List.mem_range, testBit_collect, List.mem_map]
    simp only [mem_iter_collect hkinds]
    constructor
    · exact And.right
    · rintro ⟨kind, hmem, rfl⟩
      exact ⟨hcode kind, kind, hmem, rfl⟩)
  rw [len, List.countP_eq_length_filter, hperm.length_eq, List.length_map]

theorem inserts_eq_not_contains (set : ButtonSet m) (kind : ButtonKind) : set.inserts kind = !set.contains kind := by
  unfold inserts contains
  rw [bne, Bool.not_not]

end ButtonSet

/-- A set of buttons that were obtained from the model is what its list of insertions says. -/
theorem buttonSet_representation {kinds others : List ButtonKind} (hkinds : ∀ kind ∈ kinds, Button.Obtained m kind)
    (hothers : ∀ kind ∈ others, Button.Obtained m kind) (set : ButtonSet m) (hset : set = .collect kinds) :
    (∀ i, set.bits.toNat.testBit i = true → ∃ kind, ModelSpec.supportsButton m kind = true ∧ kind.code.toNat = i) ∧
    set.iter.Pairwise (fun kind other => kind.code.toNat < other.code.toNat) ∧ (∀ kind, kind ∈ set.iter ↔ kind ∈ kinds) ∧
    set.len = set.iter.length ∧ (∀ kind, set.contains kind = true ↔ kind ∈ kinds) ∧
    (∀ kind, set.inserts kind = true ↔ kind ∉ kinds) ∧
    (set = .collect others ↔ ∀ button : Button m, set.contains button.kind =
      (ButtonSet.collect others : ButtonSet m).contains button.kind) ∧
    .collect set.iter = set := by
  subst hset
  have hlisted : ∀ kind ∈ kinds, kind ∈ m.spec.supportedButtons := fun kind hmem => (hkinds kind hmem).supported
  have hiter := ButtonSet.mem_iter_collect hlisted
  refine ⟨?_, ButtonSet.iter_sorted _, hiter, ButtonSet.len_collect hlisted, by simp, ?_, ?_, ?_⟩
  · intro i hbit
    obtain ⟨kind, hmem, hcode⟩ := (ButtonSet.testBit_collect kinds i).1 hbit
    exact ⟨kind, (supportsButton_iff kind).2 (hlisted kind hmem), hcode⟩
  · intro kind
    rw [ButtonSet.inserts_eq_not_contains, ButtonSet.contains_collect]
    simp
  · rw [ButtonSet.collect_eq_iff]
    simp only [ButtonSet.contains_collect, decide_eq_decide]
    refine ⟨fun hsame button => hsame button.kind, fun hsame kind => ?_⟩
    -- Neither list holds a kind that is no button of the model.
    by_cases hsupported : ModelSpec.supportsButton m kind = true
    · exact hsame ⟨kind, hsupported⟩
    · rw [supportsButton_iff] at hsupported
      exact ⟨fun hmem => absurd (hlisted kind hmem) hsupported, fun hmem => absurd (hothers kind hmem).supported hsupported⟩
  · exact ButtonSet.collect_eq_iff.2 hiter

theorem buttonSet_representation_joyCon :
    (ButtonSet.collect (ButtonSet.collect [.sr, .l, .sr] : ButtonSet .joyConL).iter : ButtonSet .joyConL) =
      .collect [.sr, .l, .sr] := by
  have hobtained : ∀ kind ∈ [ButtonKind.sr, .l, .sr], Button.Obtained .joyConL kind := by
    intro kind hmem
    refine .constant ?_
    revert kind
    decide
  exact (buttonSet_representation hobtained hobtained _ rfl).2.2.2.2.2.2.2

/-! ## Taps -/

theorem releaseValidated_iter (current : InputState m) (buttons : ButtonSet m) :
    (releaseValidated current buttons).buttons.iter =
      current.buttons.iter.filter fun kind => !buttons.contains kind := by
  unfold releaseValidated InputState.withButtons ButtonSet.iter
  rw [List.filter_filter]
  refine List.filter_congr ?_
  intro kind hkind
  rw [ButtonSet.contains_collect, Bool.eq_iff_iff]
  simp [List.mem_filter, hkind]

theorem pressValidated_iter (current : InputState m) (buttons : ButtonSet m) :
    (pressValidated current buttons).buttons.iter =
      m.spec.supportedButtons.filter fun kind => current.buttons.contains kind || buttons.contains kind := by
  unfold pressValidated InputState.withButtons ButtonSet.iter
  refine List.filter_congr ?_
  intro kind hkind
  rw [ButtonSet.contains_collect, Bool.eq_iff_iff]
  simp [List.mem_filter, hkind, ButtonSet.contains_foldl]

/-- A release after a press takes the tapped buttons off the buttons held before. -/
theorem release_press_iter (current : InputState m) (buttons : ButtonSet m) :
    (releaseValidated (pressValidated current buttons) buttons).buttons.iter =
      current.buttons.iter.filter fun kind => !buttons.contains kind := by
  rw [releaseValidated_iter, pressValidated_iter, ButtonSet.iter, List.filter_filter, List.filter_filter]
  refine List.filter_congr ?_
  intro kind hkind
  cases current.buttons.contains kind <;> cases buttons.contains kind <;> rfl

/-- What is left of `before` once the buttons `tapped` are up. -/
structure TappedOff (before : InputState m) (tapped : List (Button m)) (after : InputState m) : Prop where
  buttons : after.buttons.iter = before.buttons.iter.filter fun kind => decide (kind ∉ tapped.map Button.kind)
  leftStick : after.leftStick = before.leftStick
  rightStick : after.rightStick = before.rightStick
  imuFrames : after.imuFrames = before.imuFrames

/-- What is held of `before` while the buttons `tapped` are down. -/
structure TappedOn (before : InputState m) (tapped : List (Button m)) (after : InputState m) : Prop where
  buttons : after.buttons.iter =
    m.spec.supportedButtons.filter fun kind => before.buttons.contains kind || decide (kind ∈ tapped.map Button.kind)
  leftStick : after.leftStick = before.leftStick
  rightStick : after.rightStick = before.rightStick
  imuFrames : after.imuFrames = before.imuFrames

/-- The plan of a tap, its arguments not looked at. -/
def planOf (current : InputState m) (buttons : List (Button m)) (duration : Duration) : TapPlan m :=
  let set : ButtonSet m := .collect (buttons.map Button.kind)
  ⟨pressValidated current set, releaseValidated (pressValidated current set) set, duration⟩

/-- Some buttons make a set that is not empty. -/
theorem validatedButtons_ok {buttons : List (Button m)} (hbuttons : buttons ≠ []) :
    validatedButtons buttons = .ok (.collect (buttons.map Button.kind)) := by
  obtain ⟨first, rest, rfl⟩ := List.exists_cons_of_ne_nil hbuttons
  have hfirst : (ButtonSet.collect ((first :: rest).map Button.kind) : ButtonSet m).contains first.kind = true := by simp
  exact if_neg (by rw [ButtonSet.isEmpty_eq_false hfirst]; exact Bool.false_ne_true)

/-- Every tap of some buttons for at most a day has a plan. -/
theorem tapPlan_ok (current : InputState m) {buttons : List (Button m)} {duration : Duration}
    (hbuttons : buttons ≠ []) (hduration : duration ≤ maxTapDuration) :
    ∃ plan, tapPlan current buttons duration = .ok plan ∧ plan.duration = duration ∧
      TappedOn current buttons plan.pressed ∧ TappedOff current buttons plan.released := by
  have hheld : validatedTapDuration duration = .ok duration := if_pos hduration
  have hplan : tapPlan current buttons duration = .ok (planOf current buttons duration) := by
    unfold tapPlan
    rw [validatedButtons_ok hbuttons, hheld]
    rfl
  refine ⟨_, hplan, rfl, ⟨?_, rfl, rfl, rfl⟩, ⟨?_, rfl, rfl, rfl⟩⟩
  · refine (pressValidated_iter _ _).trans (List.filter_congr ?_)
    intro kind _
    rw [ButtonSet.contains_collect]
  · refine (release_press_iter _ _).trans (List.filter_congr ?_)
    intro kind _
    rw [ButtonSet.contains_collect, decide_not]

end Swbt
