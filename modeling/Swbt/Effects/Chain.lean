import Mathlib.Logic.Relation
import Swbt.Effects.Added
/-!
# Chains of steps over a history

A `Chain R` is any number of `R` steps, each of which takes a history and a
state to the next. Invariants are proved for one step and carried along.
-/

set_option autoImplicit false

namespace Effects

variable {E : Interface} {S : Type} {R : History E S → S → History E S → S → Prop} {h h₁ h' : History E S} {s s₁ s' : S}

/-- Steps of `R`, one after the other. -/
def Chain (R : History E S → S → History E S → S → Prop) (h : History E S) (s : S) (h' : History E S) (s' : S) : Prop :=
  Relation.ReflTransGen (fun a b : History E S × S => R a.1 a.2 b.1 b.2) (h, s) (h', s')

namespace Chain

theorem refl : Chain R h s h s := Relation.ReflTransGen.refl

theorem trans (hleft : Chain R h s h₁ s₁) (hright : Chain R h₁ s₁ h' s') : Chain R h s h' s' :=
  Relation.ReflTransGen.trans hleft hright

theorem tail (hleft : Chain R h s h₁ s₁) (hstep : R h₁ s₁ h' s') : Chain R h s h' s' :=
  Relation.ReflTransGen.tail hleft hstep

theorem single (hstep : R h s h' s') : Chain R h s h' s' := refl.tail hstep

/-- What every step keeps holds at the end of a chain. -/
theorem inv {P : History E S → S → Prop} (hchain : Chain R h s h' s') (hstart : P h s)
    (hkeep : ∀ {h s h' s'}, R h s h' s' → P h s → P h' s') : P h' s' := by
  suffices hall : ∀ point : History E S × S,
      Relation.ReflTransGen (fun a b : History E S × S => R a.1 a.2 b.1 b.2) (h, s) point → P point.1 point.2 from
    hall _ hchain
  intro point hpath
  induction hpath with
  | refl => exact hstart
  | tail hpath hstep ih => exact hkeep hstep ih

/-- A chain of `R` is a chain of whatever every `R` step is a chain of. -/
theorem lift {R' : History E S → S → History E S → S → Prop} (hchain : Chain R h s h' s')
    (hstep : ∀ {h s h' s'}, R h s h' s' → Chain R' h s h' s') : Chain R' h s h' s' := by
  refine inv (P := fun h₁ s₁ => Chain R' h s h₁ s₁) hchain refl ?_
  intro _ _ _ _ hR hleft
  exact hleft.trans (hstep hR)

/-- A chain adds what each of its steps adds. -/
theorem adds {P : Event E S → Prop} (hchain : Chain R h s h' s')
    (hstep : ∀ {h s h' s'}, R h s h' s' → Adds P h h') : Adds P h h' := by
  refine inv (P := fun h₁ _ => Adds P h h₁) hchain .refl ?_
  intro _ _ _ _ hR hleft
  exact hleft.trans (hstep hR)

end Chain

end Effects
