import Mathlib.Data.List.Basic
import Mathlib.Tactic.Tauto
import Swbt.Core.Buttons
/-!
# Press, release and tap

A press is a union with the buttons given and a release a difference, and the
laws of the two are laws of sets.
-/

set_option autoImplicit false

namespace Swbt

variable {m : ControllerKind} {current : InputState m} {xs ys : List (Button m)} {duration : Duration}

/-! ## As sets -/

/-- `current` with the buttons `xs` down. -/
def InputState.union (current : InputState m) (xs : List (Button m)) : InputState m :=
  current.withButtons (current.buttons.iter ++ xs.map Button.kind)

/-- `current` with the buttons `xs` up. -/
def InputState.difference (current : InputState m) (xs : List (Button m)) : InputState m :=
  current.withButtons (current.buttons.iter.filter fun kind => decide (kind ∉ xs.map Button.kind))

theorem Button.mem_map_kind {button : Button m} : button.kind ∈ xs.map Button.kind ↔ button ∈ xs := by
  have hinjective : Function.Injective (Button.kind : Button m → ButtonKind) := by
    rintro ⟨kind, _⟩ ⟨other, _⟩ rfl
    rfl
  exact List.mem_map_of_injective hinjective

theorem Button.kinds_listed (xs : List (Button m)) : ∀ kind ∈ xs.map Button.kind, kind ∈ m.spec.supportedButtons := by
  intro kind hmem
  obtain ⟨button, -, rfl⟩ := List.mem_map.1 hmem
  exact (supportsButton_iff _).1 button.supported

/-- Only which buttons are held matters. -/
theorem InputState.withButtons_congr {kinds others : List ButtonKind} (hsame : ∀ kind, kind ∈ kinds ↔ kind ∈ others) :
    current.withButtons kinds = current.withButtons others := by
  unfold InputState.withButtons
  rw [ButtonSet.collect_eq_iff.2 hsame]

theorem InputState.mem_withButtons {kinds : List ButtonKind} (hlisted : ∀ kind ∈ kinds, kind ∈ m.spec.supportedButtons)
    (kind : ButtonKind) : kind ∈ (current.withButtons kinds).buttons.iter ↔ kind ∈ kinds :=
  ButtonSet.mem_iter_collect hlisted kind

theorem InputState.mem_union (kind : ButtonKind) :
    kind ∈ (current.union xs).buttons.iter ↔ kind ∈ current.buttons.iter ∨ kind ∈ xs.map Button.kind := by
  refine (InputState.mem_withButtons ?_ kind).trans List.mem_append
  intro kind hmem
  rcases List.mem_append.1 hmem with hheld | hgiven
  · exact ((ButtonSet.mem_iter _ kind).1 hheld).1
  · exact Button.kinds_listed xs kind hgiven

theorem InputState.mem_difference (kind : ButtonKind) :
    kind ∈ (current.difference xs).buttons.iter ↔ kind ∈ current.buttons.iter ∧ kind ∉ xs.map Button.kind := by
  refine (InputState.mem_withButtons ?_ kind).trans ?_
  · intro kind hmem
    exact ((ButtonSet.mem_iter _ kind).1 (List.mem_filter.1 hmem).1).1
  · simp [List.mem_filter]

/-! ## The candidates -/

theorem validatedButtons_nil : ∃ error, validatedButtons ([] : List (Button m)) = .error error := ⟨_, rfl⟩

theorem pressValidated_eq (current : InputState m) (xs : List (Button m)) :
    pressValidated current (.collect (xs.map Button.kind)) = current.union xs := by
  refine InputState.withButtons_congr fun kind => ?_
  rw [ButtonSet.mem_iter, ButtonSet.contains_foldl, ButtonSet.contains_collect, Bool.or_eq_true, decide_eq_true_iff,
    decide_eq_true_iff, ButtonSet.mem_iter_collect (Button.kinds_listed xs), List.mem_append]
  refine and_iff_right_of_imp ?_
  rintro (hheld | hgiven)
  · exact ((ButtonSet.mem_iter _ kind).1 hheld).1
  · exact Button.kinds_listed xs kind hgiven

theorem releaseValidated_eq (current : InputState m) (xs : List (Button m)) :
    releaseValidated current (.collect (xs.map Button.kind)) = current.difference xs := by
  refine InputState.withButtons_congr fun kind => ?_
  simp only [ButtonSet.contains_collect, ← decide_not]
  refine ButtonSet.mem_iter_collect ?_ kind
  intro kind hmem
  exact ((ButtonSet.mem_iter _ kind).1 (List.mem_filter.1 hmem).1).1

theorem pressCandidate_ok (hbuttons : xs ≠ []) : pressCandidate current xs = .ok (current.union xs) := by
  unfold pressCandidate
  rw [validatedButtons_ok hbuttons, ← pressValidated_eq]
  rfl

theorem releaseCandidate_ok (hbuttons : xs ≠ []) : releaseCandidate current xs = .ok (current.difference xs) := by
  unfold releaseCandidate
  rw [validatedButtons_ok hbuttons, ← releaseValidated_eq]
  rfl

theorem pressCandidate_error : (∃ error, pressCandidate current xs = .error error) ↔ xs = [] := by
  constructor
  · rintro ⟨error, herror⟩
    by_contra hbuttons
    rw [pressCandidate_ok hbuttons] at herror
    cases herror
  · rintro rfl
    exact ⟨_, rfl⟩

theorem releaseCandidate_error : (∃ error, releaseCandidate current xs = .error error) ↔ xs = [] := by
  constructor
  · rintro ⟨error, herror⟩
    by_contra hbuttons
    rw [releaseCandidate_ok hbuttons] at herror
    cases herror
  · rintro rfl
    exact ⟨_, rfl⟩

/-! ## Laws -/

/-- The state a candidate gives, if it gives one. -/
theorem pressCandidate_eq_ok {pressed : InputState m} (hpress : pressCandidate current xs = .ok pressed) :
    xs ≠ [] ∧ pressed = current.union xs := by
  have hbuttons : xs ≠ [] := by
    intro hnil
    obtain ⟨error, herror⟩ := pressCandidate_error.2 hnil
    rw [hpress] at herror
    cases herror
  rw [pressCandidate_ok hbuttons] at hpress
  cases hpress
  exact ⟨hbuttons, rfl⟩

theorem releaseCandidate_eq_ok {released : InputState m} (hrelease : releaseCandidate current xs = .ok released) :
    xs ≠ [] ∧ released = current.difference xs := by
  have hbuttons : xs ≠ [] := by
    intro hnil
    obtain ⟨error, herror⟩ := releaseCandidate_error.2 hnil
    rw [hrelease] at herror
    cases herror
  rw [releaseCandidate_ok hbuttons] at hrelease
  cases hrelease
  exact ⟨hbuttons, rfl⟩

namespace InputState

theorem union_union (current : InputState m) (xs ys : List (Button m)) :
    (current.union xs).union ys = current.union (xs ++ ys) := by
  refine @withButtons_congr _ current _ _ fun kind => ?_
  rw [List.mem_append, mem_union, List.map_append, List.mem_append, List.mem_append, or_assoc]

theorem difference_difference (current : InputState m) (xs ys : List (Button m)) :
    (current.difference xs).difference ys = current.difference (xs ++ ys) := by
  refine @withButtons_congr _ current _ _ fun kind => ?_
  simp only [List.mem_filter, mem_difference, decide_eq_true_iff, List.map_append, List.mem_append, not_or, and_assoc]

theorem difference_union (current : InputState m) (xs : List (Button m)) :
    (current.union xs).difference xs = current.difference xs := by
  refine @withButtons_congr _ current _ _ fun kind => ?_
  simp only [List.mem_filter, mem_union, decide_eq_true_iff]
  tauto

theorem union_congr (hsame : ∀ button, button ∈ xs ↔ button ∈ ys) : current.union xs = current.union ys := by
  refine withButtons_congr fun kind => ?_
  simp only [List.mem_append, List.mem_map, hsame]

theorem difference_congr (hsame : ∀ button, button ∈ xs ↔ button ∈ ys) :
    current.difference xs = current.difference ys := by
  refine withButtons_congr fun kind => ?_
  simp only [List.mem_filter, List.mem_map, hsame]

end InputState

theorem tapPlan_eq_ok {plan : TapPlan m} (hplan : tapPlan current xs duration = .ok plan) :
    xs ≠ [] ∧ duration ≤ maxTapDuration ∧ plan = ⟨current.union xs, (current.union xs).difference xs, duration⟩ := by
  unfold tapPlan validatedTapDuration at hplan
  by_cases hbuttons : xs = []
  · obtain ⟨error, herror⟩ := @validatedButtons_nil m
    rw [hbuttons, herror] at hplan
    cases hplan
  · rw [validatedButtons_ok hbuttons] at hplan
    by_cases hduration : duration ≤ maxTapDuration
    · rw [if_pos hduration] at hplan
      cases hplan
      rw [← pressValidated_eq, ← releaseValidated_eq]
      exact ⟨hbuttons, hduration, rfl⟩
    · rw [if_neg hduration] at hplan
      cases hplan

/-- A tap has a plan if it has some buttons and at most a day, and only then. -/
theorem tapPlan_error : (∃ error, tapPlan current xs duration = .error error) ↔ xs = [] ∨ maxTapDuration < duration := by
  constructor
  · rintro ⟨error, herror⟩
    by_contra hvalid
    rw [not_or, not_lt] at hvalid
    obtain ⟨plan, hplan, -⟩ := tapPlan_ok current hvalid.1 hvalid.2
    rw [herror] at hplan
    cases hplan
  · intro hinvalid
    cases hresult : tapPlan current xs duration with
    | error error => exact ⟨error, rfl⟩
    | ok plan =>
      obtain ⟨hbuttons, hduration, -⟩ := tapPlan_eq_ok hresult
      rcases hinvalid with hnil | hlong
      · exact absurd hnil hbuttons
      · exact absurd hduration (not_le.2 hlong)

/-- Press, release and tap are union, difference and both, on any state and any lists of buttons. -/
theorem press_release_algebra (current : InputState m) (xs ys : List (Button m)) (duration : Duration) :
    ((∃ error, pressCandidate current xs = .error error) ↔ xs = []) ∧
    ((∃ error, releaseCandidate current xs = .error error) ↔ xs = []) ∧
    (∀ pressed, pressCandidate current xs = .ok pressed →
      (∀ button : Button m, button.kind ∈ pressed.buttons.iter ↔ button.kind ∈ current.buttons.iter ∨ button ∈ xs) ∧
      pressed.leftStick = current.leftStick ∧ pressed.rightStick = current.rightStick ∧
      pressed.imuFrames = current.imuFrames ∧ pressCandidate pressed xs = .ok pressed ∧
      releaseCandidate pressed xs = releaseCandidate current xs ∧
      ∀ again, pressCandidate pressed ys = .ok again → pressCandidate current (xs ++ ys) = .ok again) ∧
    (∀ released, releaseCandidate current xs = .ok released →
      (∀ button : Button m, button.kind ∈ released.buttons.iter ↔ button.kind ∈ current.buttons.iter ∧ button ∉ xs) ∧
      released.leftStick = current.leftStick ∧ released.rightStick = current.rightStick ∧
      released.imuFrames = current.imuFrames ∧ releaseCandidate released xs = .ok released ∧
      ∀ again, releaseCandidate released ys = .ok again → releaseCandidate current (xs ++ ys) = .ok again) ∧
    ((∀ button, button ∈ xs ↔ button ∈ ys) →
      pressCandidate current xs = pressCandidate current ys ∧ releaseCandidate current xs = releaseCandidate current ys) ∧
    ((∃ error, tapPlan current xs duration = .error error) ↔ xs = [] ∨ maxTapDuration < duration) ∧
    ∀ plan, tapPlan current xs duration = .ok plan → pressCandidate current xs = .ok plan.pressed ∧
      releaseCandidate plan.pressed xs = .ok plan.released ∧ plan.duration = duration := by
  refine ⟨pressCandidate_error, releaseCandidate_error, ?_, ?_, ?_, tapPlan_error, ?_⟩
  · -- Press.
    intro pressed hpress
    obtain ⟨hbuttons, rfl⟩ := pressCandidate_eq_ok hpress
    refine ⟨?_, rfl, rfl, rfl, ?_, ?_, ?_⟩
    · intro button
      rw [InputState.mem_union, Button.mem_map_kind]
    · rw [pressCandidate_ok hbuttons, InputState.union_union]
      exact congrArg Except.ok (InputState.union_congr (by simp))
    · rw [releaseCandidate_ok hbuttons, releaseCandidate_ok hbuttons, InputState.difference_union]
    · intro again hagain
      obtain ⟨-, rfl⟩ := pressCandidate_eq_ok hagain
      rw [pressCandidate_ok (List.append_ne_nil_of_left_ne_nil hbuttons ys), InputState.union_union]
  · -- Release.
    intro released hrelease
    obtain ⟨hbuttons, rfl⟩ := releaseCandidate_eq_ok hrelease
    refine ⟨?_, rfl, rfl, rfl, ?_, ?_⟩
    · intro button
      rw [InputState.mem_difference, Button.mem_map_kind]
    · rw [releaseCandidate_ok hbuttons, InputState.difference_difference]
      exact congrArg Except.ok (InputState.difference_congr (by simp))
    · intro again hagain
      obtain ⟨-, rfl⟩ := releaseCandidate_eq_ok hagain
      rw [releaseCandidate_ok (List.append_ne_nil_of_left_ne_nil hbuttons ys), InputState.difference_difference]
  · -- Lists of the same buttons.
    intro hsame
    by_cases hbuttons : xs = []
    · have hother : ys = [] := by
        refine List.eq_nil_iff_forall_not_mem.2 fun button hmem => ?_
        rw [← hsame, hbuttons] at hmem
        exact List.not_mem_nil hmem
      rw [hbuttons, hother]
      exact ⟨rfl, rfl⟩
    · have hother : ys ≠ [] := by
        obtain ⟨first, rest, rfl⟩ := List.exists_cons_of_ne_nil hbuttons
        exact List.ne_nil_of_mem ((hsame first).1 List.mem_cons_self)
      rw [pressCandidate_ok hbuttons, pressCandidate_ok hother, releaseCandidate_ok hbuttons, releaseCandidate_ok hother,
        InputState.union_congr hsame, InputState.difference_congr hsame]
      exact ⟨rfl, rfl⟩
  · -- Tap.
    intro plan hplan
    obtain ⟨hbuttons, -, rfl⟩ := tapPlan_eq_ok hplan
    exact ⟨pressCandidate_ok hbuttons, releaseCandidate_ok hbuttons, rfl⟩

end Swbt
