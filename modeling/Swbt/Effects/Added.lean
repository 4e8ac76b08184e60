import Swbt.Effects.Program
/-!
# What a history adds to another

`Adds P h h'` says that `h'` goes on from `h` with events of `P` only.
-/

set_option autoImplicit false

namespace Effects

variable {E : Interface} {S : Type} {P Q : Event E S → Prop} {h h₁ h' h₀ : History E S} {e : Event E S}

def Adds (P : Event E S → Prop) (h h' : History E S) : Prop := ∃ added, h' = added ++ h ∧ ∀ e ∈ added, P e

namespace Adds

theorem refl : Adds P h h := ⟨[], rfl, fun _ hmem => nomatch hmem⟩

theorem cons (hadds : Adds P h h') (he : P e) : Adds P h (e :: h') := by
  obtain ⟨added, rfl, hall⟩ := hadds
  exact ⟨e :: added, rfl, List.forall_mem_cons.2 ⟨he, hall⟩⟩

theorem single (he : P e) : Adds P h (e :: h) := refl.cons he

theorem trans (hleft : Adds P h h₁) (hright : Adds P h₁ h') : Adds P h h' := by
  obtain ⟨left, rfl, hleft⟩ := hleft
  obtain ⟨right, rfl, hright⟩ := hright
  refine ⟨right ++ left, (List.append_assoc _ _ _).symm, ?_⟩
  intro e hmem
  rcases List.mem_append.1 hmem with hmem | hmem
  · exact hright e hmem
  · exact hleft e hmem

theorem mono (hadds : Adds P h h') (hPQ : ∀ e, P e → Q e) : Adds Q h h' := by
  obtain ⟨added, rfl, hall⟩ := hadds
  exact ⟨added, rfl, fun e hmem => hPQ e (hall e hmem)⟩

theorem all (hadds : Adds P h h') (hall : ∀ e ∈ h, P e) : ∀ e ∈ h', P e := by
  obtain ⟨added, rfl, hadded⟩ := hadds
  exact List.forall_mem_append.2 ⟨hadded, hall⟩

theorem suffix (hadds : Adds P h h') : h <:+ h' := by
  obtain ⟨added, rfl, -⟩ := hadds
  exact List.suffix_append _ _

/-- An event that is not of `P` was there before. -/
theorem before (hadds : Adds P h h') (hsuffix : e :: h₀ <:+ h') (he : ¬ P e) : e :: h₀ <:+ h := by
  obtain ⟨added, rfl, hall⟩ := hadds
  induction added with
  | nil => exact hsuffix
  | cons first rest ih =>
    obtain ⟨hfirst, hrest⟩ := List.forall_mem_cons.1 hall
    rcases List.suffix_cons_iff.1 hsuffix with heq | hsuffix
    · cases heq
      exact absurd hfirst he
    · exact ih hrest hsuffix

/-- What holds at every event so far goes on to hold where each event that is added obeys it. -/
theorem always {R : Event E S → History E S → Prop} (hadds : Adds P h h') (hR : ∀ e before, P e → R e before)
    (hall : Always R h) : Always R h' := by
  obtain ⟨added, rfl, hadded⟩ := hadds
  induction added with
  | nil => exact hall
  | cons e rest ih =>
    obtain ⟨he, hrest⟩ := List.forall_mem_cons.1 hadded
    exact ⟨hR _ _ he, ih hrest⟩

end Adds

end Effects
