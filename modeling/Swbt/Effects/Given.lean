import Swbt.Effects.Added
/-!
# Programs in a given environment

What is known of an environment is a set `R` of the events it lets happen.
`given R` is the weakest precondition of the executions in which nothing else
happens, and a program always has one in an environment that answers within `R`.
-/

set_option autoImplicit false

namespace Effects

variable {E : Interface} {S α β : Type} {R : Event E S → Prop}

namespace Prog

/-- Every end of `p`, started after `h`, in which only events of `R` happen, satisfies `Q`. -/
def given (R : Event E S → Prop) : Prog E S α → History E S → (History E S → S → α → Prop) → Prop
  | .done s a, h, Q => Q h s a
  | .call s op k, h, Q => ∀ ans, R (.call s op ans) → (k ans).given R (.call s op ans :: h) Q
  | .emit s out next, h, Q => R (.emit s out) → next.given R (.emit s out :: h) Q

theorem given_bind (p : Prog E S α) (f : α → S → Prog E S β) (h : History E S) (Q : History E S → S → β → Prop) :
    (p.bind f).given R h Q ↔ p.given R h fun h s a => (f a s).given R h Q := by
  induction p generalizing h with
  | done => rfl
  | call s op k ih => exact forall_congr' fun ans => imp_congr_right fun _ => ih ans _
  | emit s out next ih => exact imp_congr_right fun _ => ih _

theorem given_mono {p : Prog E S α} {h : History E S} {Q Q' : History E S → S → α → Prop} (hp : p.given R h Q)
    (hQ : ∀ h s a, Q h s a → Q' h s a) : p.given R h Q' := by
  induction p generalizing h with
  | done => exact hQ _ _ _ hp
  | call s op k ih => exact fun ans hans => ih ans (hp ans hans)
  | emit s out next ih => exact fun hout => ih (hp hout)

theorem given_of_wp {p : Prog E S α} {h : History E S} {Q : History E S → S → α → Prop} (hp : p.wp h Q) :
    p.given R h Q := by
  induction p generalizing h with
  | done => exact hp
  | call s op k ih => exact fun ans _ => ih ans (hp ans)
  | emit s out next ih => exact fun _ => ih hp

/-- What an execution has come to after `h`, with the events in between. -/
theorem Exec.adds_of_cons {p : Prog E S α} {h h' : History E S} {s : S} {a : α} {e : Event E S}
    (he : Exec p (e :: h) h' s a) (hadds : Adds R h h') : R e ∧ Adds R (e :: h) h' := by
  obtain ⟨added, rfl, hall⟩ := hadds
  obtain ⟨between, hbetween⟩ := he.suffix
  -- The event is the oldest of those added.
  rw [show between ++ e :: h = (between ++ [e]) ++ h by simp] at hbetween
  have hadded := List.append_cancel_right hbetween
  subst hadded
  rw [List.forall_mem_append] at hall
  refine ⟨hall.2 e (List.mem_singleton_self e), between, by simp, hall.1⟩

/-- `given` is what every execution within the events ends in. -/
theorem Exec.given {p : Prog E S α} {h h' : History E S} {s : S} {a : α} {Q : History E S → S → α → Prop}
    (he : Exec p h h' s a) (hadds : Adds R h h') (hp : p.given R h Q) : Q h' s a := by
  induction he with
  | done => exact hp
  | call ans hrest ih =>
    obtain ⟨hans, hadds⟩ := hrest.adds_of_cons hadds
    exact ih hadds (hp ans hans)
  | emit hrest ih =>
    obtain ⟨hout, hadds⟩ := hrest.adds_of_cons hadds
    exact ih hadds (hp hout)

/-- An environment whose answers are within `R` adds nothing else. -/
theorem adds_run {env : Nat → (op : E.Op) → E.Ans op} (hcall : ∀ s n op, R (.call s op (env n op)))
    (hemit : ∀ s out, R (.emit s out)) (p : Prog E S α) (n : Nat) (h : History E S) : Adds R h (p.run env n h).1 := by
  induction p generalizing n h with
  | done => exact .refl
  | call s op k ih => exact (Adds.single (hcall s n op)).trans (ih _ _ _)
  | emit s out next ih => exact (Adds.single (hemit s out)).trans (ih _ _)

end Prog

namespace Act

/-- Every end of `x`, started in `s` after `h`, in which only events of `R` happen, satisfies `Q`. -/
def given (R : Event E S → Prop) (x : Act E S α) (h : History E S) (s : S) (Q : History E S → S → α → Prop) : Prop :=
  (x s).given R h Q

variable (h : History E S) (s : S)

@[simp] theorem given_pure (a : α) (Q : History E S → S → α → Prop) : given R (pure a) h s Q ↔ Q h s a := Iff.rfl

@[simp] theorem given_bind (x : Act E S α) (f : α → Act E S β) (Q : History E S → S → β → Prop) :
    given R (x >>= f) h s Q ↔ given R x h s fun h s a => given R (f a) h s Q := Prog.given_bind _ _ _ _

@[simp] theorem given_get (Q : History E S → S → S → Prop) : given R get h s Q ↔ Q h s s := Iff.rfl

@[simp] theorem given_modify (f : S → S) (Q : History E S → S → Unit → Prop) :
    given R (modify f) h s Q ↔ Q h (f s) () := Iff.rfl

@[simp] theorem given_perform (op : E.Op) (Q : History E S → S → E.Ans op → Prop) :
    given R (perform op) h s Q ↔ ∀ ans, R (.call s op ans) → Q (.call s op ans :: h) s ans := Iff.rfl

theorem given_mono {x : Act E S α} {h : History E S} {s : S} {Q Q' : History E S → S → α → Prop}
    (hx : given R x h s Q) (hQ : ∀ h s a, Q h s a → Q' h s a) : given R x h s Q' := Prog.given_mono hx hQ

theorem given_of_wp {x : Act E S α} {h : History E S} {s : S} {Q : History E S → S → α → Prop} (hx : wp x h s Q) :
    given R x h s Q := Prog.given_of_wp hx

end Act

end Effects
