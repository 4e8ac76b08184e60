import Mathlib.Logic.Relation
/-!
# Sequential objects

An object answers one operation after the other, and may move by itself in
between. An implementation follows it when it rests at a state the object has
come to with the answers given so far, or serves one more operation from there.
-/

set_option autoImplicit false

namespace Effects

/-- What an operation may be answered in a state and what it leaves, and how the state may drift by itself. -/
structure Sequential (σ ω ρ : Type) where
  answers : σ → ω → ρ → σ → Prop
  drifts : σ → σ → Prop

namespace Sequential

variable {σ ω ρ S : Type} (O : Sequential σ ω ρ)

/-- From one state to another by itself. -/
abbrev Drifted : σ → σ → Prop := Relation.ReflTransGen O.drifts

/-- The object answers operations from `start` on, the latest first. -/
inductive Plays (start : σ) : List (ω × ρ) → σ → Prop
  | start : Plays start [] start
  | drifted {played : List (ω × ρ)} {x y : σ} (hplays : Plays start played x) (hdrifted : O.Drifted x y) :
      Plays start played y
  | answered {played : List (ω × ρ)} {x y : σ} {op : ω} {result : ρ} (hplays : Plays start played x)
      (hanswers : O.answers x op result y) : Plays start ((op, result) :: played) y

section Follows

variable (start : σ) (rests : σ → S → Prop) (serves : σ → ω → S → Prop)

/-- An implementation that has taken `ops` and given `results`, both the latest first, is where the object is with
them: at rest, or with the operation taken last still to be answered. -/
inductive Follows : List ω → List ρ → S → Prop
  | rests {ops : List ω} {results : List ρ} {x : σ} {s : S} (hlength : ops.length = results.length)
      (hplays : O.Plays start (ops.zip results) x) (hrests : rests x s) : Follows ops results s
  | serves {op : ω} {ops : List ω} {results : List ρ} {x : σ} {s : S} (hlength : ops.length = results.length)
      (hplays : O.Plays start (ops.zip results) x) (hserves : serves x op s) : Follows (op :: ops) results s

variable {O start rests serves}
variable {ops : List ω} {results : List ρ} {s s' : S}

namespace Follows

/-- A step of the implementation that neither takes an operation nor answers one. -/
theorem step (hfollows : O.Follows start rests serves ops results s)
    (hrests : ∀ x, rests x s → ∃ y, O.Drifted x y ∧ rests y s') (hserves : ∀ x op, serves x op s → serves x op s') :
    O.Follows start rests serves ops results s' := by
  cases hfollows with
  | rests hlength hplays hrest =>
    obtain ⟨y, hdrifted, hrest'⟩ := hrests _ hrest
    exact .rests hlength (.drifted hplays hdrifted) hrest'
  | serves hlength hplays hserve => exact .serves hlength hplays (hserves _ _ hserve)

/-- An operation is taken by an implementation that serves none. -/
theorem take {op : ω} (hfollows : O.Follows start rests serves ops results s) (hfree : ∀ x op, ¬ serves x op s)
    (htakes : ∀ x, rests x s → serves x op s') : O.Follows start rests serves (op :: ops) results s' := by
  cases hfollows with
  | rests hlength hplays hrest => exact .serves hlength hplays (htakes _ hrest)
  | serves hlength hplays hserve => exact absurd hserve (hfree _ _)

/-- The operation in service is answered. -/
theorem answer {result : ρ} (hfollows : O.Follows start rests serves ops results s) (hbusy : ∀ x, ¬ rests x s)
    (hanswers : ∀ x op, serves x op s → ∃ y z, O.answers x op result y ∧ O.Drifted y z ∧ rests z s') :
    O.Follows start rests serves ops (result :: results) s' := by
  cases hfollows with
  | rests hlength hplays hrest => exact absurd hrest (hbusy _)
  | serves hlength hplays hserve =>
    obtain ⟨y, z, hanswered, hdrifted, hrest⟩ := hanswers _ _ hserve
    refine .rests ?_ (.drifted (.answered hplays hanswered) hdrifted) hrest
    rw [List.length_cons, List.length_cons, hlength]

end Follows

end Follows

end Sequential

end Effects
