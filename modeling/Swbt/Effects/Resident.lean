import Mathlib.Logic.Relation
import Swbt.Effects.Program
/-!
# Programs over an object

An environment may itself be an object: it is in a state, answers each call as
that state allows, and may move by itself between two calls. What a program
comes to is then known from every state such an object can be in.
-/

set_option autoImplicit false

namespace Effects

variable {E : Interface} {S σ α β : Type}

/-- How the object answers in each state and what that leaves, and how its state may drift by itself. -/
structure Resident (E : Interface) (σ : Type) where
  answers : σ → (op : E.Op) → E.Ans op → σ → Prop
  drifts : σ → σ → Prop

namespace Resident

variable (R : Resident E σ)

/-- From one state to another by itself. -/
abbrev Drifted : σ → σ → Prop := Relation.ReflTransGen R.drifts

/-- The object can have been through this history since `start`, and be here right after it. -/
inductive Lives (start : σ) : History E S → σ → Prop
  | start : Lives start [] start
  | answered {h : History E S} {s : S} {op : E.Op} {ans : E.Ans op} {x y z : σ} (hlives : Lives start h x)
      (hdrifted : R.Drifted x y) (hanswers : R.answers y op ans z) : Lives start (.call s op ans :: h) z
  | emitted {h : History E S} {s : S} {out : E.Out} {x : σ} (hlives : Lives start h x) :
    Lives start (.emit s out :: h) x

end Resident

/-! ## Weakest preconditions -/

variable {R : Resident E σ}

namespace Prog

/-- Every end of `p`, begun with the object in this state, satisfies `Q` with the state it leaves the object in. -/
def facing (R : Resident E σ) : Prog E S α → σ → (S → α → σ → Prop) → Prop
  | .done s a, x, Q => Q s a x
  | .call _ op k, x, Q => ∀ y ans z, R.Drifted x y → R.answers y op ans z → (k ans).facing R z Q
  | .emit _ _ next, x, Q => next.facing R x Q

theorem facing_bind (p : Prog E S α) (f : α → S → Prog E S β) (x : σ) (Q : S → β → σ → Prop) :
    (p.bind f).facing R x Q ↔ p.facing R x fun s a y => (f a s).facing R y Q := by
  induction p generalizing x with
  | done => rfl
  | call s op k ih =>
    refine forall_congr' fun y => forall_congr' fun ans => forall₃_congr fun z _ _ => ?_
    exact ih ans z
  | emit s out next ih => exact ih x

theorem facing_mono {p : Prog E S α} {x : σ} {Q Q' : S → α → σ → Prop} (hp : p.facing R x Q)
    (hQ : ∀ s a y, Q s a y → Q' s a y) : p.facing R x Q' := by
  induction p generalizing x with
  | done => exact hQ _ _ _ hp
  | call s op k ih => exact fun y ans z hdrifted hanswers => ih ans (hp y ans z hdrifted hanswers)
  | emit s out next ih => exact ih hp

/-- Of a run that the object has lived through, `facing` tells how it ended. -/
theorem Exec.facing {p : Prog E S α} {h h' : History E S} {s : S} {a : α} {start z : σ} (he : Exec p h h' s a)
    (hlives : R.Lives start h' z) : ∃ x, R.Lives start h x ∧ ∀ Q, p.facing R x Q → Q s a z := by
  induction he with
  | done => exact ⟨z, hlives, fun Q hp => hp⟩
  | call ans _ ih =>
    obtain ⟨z', hlives', hrest⟩ := ih hlives
    cases hlives' with
    | answered hbefore hdrifted hanswers =>
      refine ⟨_, hbefore, fun Q hp => hrest Q ?_⟩
      exact hp _ _ _ hdrifted hanswers
  | emit _ ih =>
    obtain ⟨x, hlives', hrest⟩ := ih hlives
    cases hlives' with
    | emitted hbefore => exact ⟨x, hbefore, hrest⟩

end Prog

namespace Act

/-- Every end of `act`, begun here with the object in this state, satisfies `Q`. -/
def facing (R : Resident E σ) (act : Act E S α) (s : S) (x : σ) (Q : S → α → σ → Prop) : Prop := (act s).facing R x Q

variable (s : S) (x : σ)

@[simp] theorem facing_pure (a : α) (Q : S → α → σ → Prop) : facing R (pure a) s x Q ↔ Q s a x := Iff.rfl

@[simp] theorem facing_bind (act : Act E S α) (f : α → Act E S β) (Q : S → β → σ → Prop) :
    facing R (act >>= f) s x Q ↔ facing R act s x fun s a y => facing R (f a) s y Q := Prog.facing_bind _ _ _ _

@[simp] theorem facing_map (act : Act E S α) (f : α → β) (Q : S → β → σ → Prop) :
    facing R (f <$> act) s x Q ↔ facing R act s x fun s a y => Q s (f a) y := Prog.facing_bind _ _ _ _

@[simp] theorem facing_get (Q : S → S → σ → Prop) : facing R get s x Q ↔ Q s s x := Iff.rfl

@[simp] theorem facing_modify (f : S → S) (Q : S → Unit → σ → Prop) :
    facing R (modify f) s x Q ↔ Q (f s) () x := Iff.rfl

@[simp] theorem facing_perform (op : E.Op) (Q : S → E.Ans op → σ → Prop) :
    facing R (perform op) s x Q ↔ ∀ y ans z, R.Drifted x y → R.answers y op ans z → Q s ans z := Iff.rfl

@[simp] theorem facing_emit (out : E.Out) (Q : S → Unit → σ → Prop) : facing R (emit out) s x Q ↔ Q s () x := Iff.rfl

theorem facing_mono {act : Act E S α} {s : S} {x : σ} {Q Q' : S → α → σ → Prop} (hact : facing R act s x Q)
    (hQ : ∀ s a y, Q s a y → Q' s a y) : facing R act s x Q' := Prog.facing_mono hact hQ

end Act

end Effects
