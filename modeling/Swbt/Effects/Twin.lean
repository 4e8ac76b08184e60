import Mathlib.Data.List.Forall2
import Swbt.Effects.Program
/-!
# Two programs in one environment

Two programs are twins if, whatever they are answered, they call the same
operations and their outputs are related. In one environment their executions
then differ in these outputs alone, and in the states they record.
-/

set_option autoImplicit false

namespace Effects

variable {E : Interface} {S T α β γ δ : Type} {O : E.Out → E.Out → Prop}

/-- The same interaction, up to the states it took place in and related outputs. -/
inductive Event.Twin (O : E.Out → E.Out → Prop) : Event E S → Event E T → Prop
  | call {s : S} {t : T} {op : E.Op} {ans : E.Ans op} : Twin O (.call s op ans) (.call t op ans)
  | emit {s : S} {t : T} {out out' : E.Out} (hout : O out out') : Twin O (.emit s out) (.emit t out')

namespace Prog

/-- The programs are twins, and end as `Q` says. -/
inductive Twin (O : E.Out → E.Out → Prop) (Q : S → α → T → β → Prop) : Prog E S α → Prog E T β → Prop
  | done {s : S} {a : α} {t : T} {b : β} (hend : Q s a t b) : Twin O Q (.done s a) (.done t b)
  | call {s : S} {t : T} {op : E.Op} {k : E.Ans op → Prog E S α} {k' : E.Ans op → Prog E T β}
      (hrest : ∀ ans, Twin O Q (k ans) (k' ans)) : Twin O Q (.call s op k) (.call t op k')
  | emit {s : S} {t : T} {out out' : E.Out} {next : Prog E S α} {next' : Prog E T β} (hout : O out out')
      (hrest : Twin O Q next next') : Twin O Q (.emit s out next) (.emit t out' next')

namespace Twin

variable {p : Prog E S α} {q : Prog E T β} {Q : S → α → T → β → Prop}

theorem bind {f : α → S → Prog E S γ} {g : β → T → Prog E T δ} {Q' : S → γ → T → δ → Prop} (htwin : Twin O Q p q)
    (hrest : ∀ s a t b, Q s a t b → Twin O Q' (f a s) (g b t)) : Twin O Q' (p.bind f) (q.bind g) := by
  induction htwin with
  | done hend => exact hrest _ _ _ _ hend
  | call _ ih => exact .call ih
  | emit hout _ ih => exact .emit hout ih

theorem mono {Q' : S → α → T → β → Prop} (htwin : Twin O Q p q) (hQ : ∀ s a t b, Q s a t b → Q' s a t b) :
    Twin O Q' p q := by
  induction htwin with
  | done hend => exact .done (hQ _ _ _ _ hend)
  | call _ ih => exact .call ih
  | emit hout _ ih => exact .emit hout ih

end Twin

/-- The programs are twins in `env`, which answers their next call as its `n`-th. -/
inductive TwinIn (env : Nat → (op : E.Op) → E.Ans op) (O : E.Out → E.Out → Prop) (Q : S → α → T → β → Prop) :
    Nat → Prog E S α → Prog E T β → Prop
  | done {n : Nat} {s : S} {a : α} {t : T} {b : β} (hend : Q s a t b) : TwinIn env O Q n (.done s a) (.done t b)
  | call {n : Nat} {s : S} {t : T} {op : E.Op} {k : E.Ans op → Prog E S α} {k' : E.Ans op → Prog E T β}
      (hrest : TwinIn env O Q (n + 1) (k (env n op)) (k' (env n op))) : TwinIn env O Q n (.call s op k) (.call t op k')
  | emit {n : Nat} {s : S} {t : T} {out out' : E.Out} {next : Prog E S α} {next' : Prog E T β} (hout : O out out')
      (hrest : TwinIn env O Q n next next') : TwinIn env O Q n (.emit s out next) (.emit t out' next')

variable {env : Nat → (op : E.Op) → E.Ans op} {p : Prog E S α} {q : Prog E T β} {Q : S → α → T → β → Prop}

theorem Twin.inside (htwin : Twin O Q p q) (n : Nat) : TwinIn env O Q n p q := by
  induction htwin generalizing n with
  | done hend => exact .done hend
  | call _ ih => exact .call (ih _ _)
  | emit hout _ ih => exact .emit hout (ih _)

/-- Twins add the same to their histories, up to related outputs. -/
theorem TwinIn.run {n : Nat} (htwin : TwinIn env O Q n p q) (h : History E S) (k : History E T) :
    ∃ added added', (p.run env n h).1 = added ++ h ∧ (q.run env n k).1 = added' ++ k ∧
      List.Forall₂ (Event.Twin O) added added' ∧
      Q (p.run env n h).2.1 (p.run env n h).2.2 (q.run env n k).2.1 (q.run env n k).2.2 := by
  induction htwin generalizing h k with
  | done hend => exact ⟨[], [], rfl, rfl, .nil, hend⟩
  | call hrest ih =>
    rename_i n s t op _ _
    obtain ⟨added, added', hadded, hadded', htwins, hend⟩ := ih (.call s op (env n op) :: h) (.call t op (env n op) :: k)
    refine ⟨added ++ [.call s op (env n op)], added' ++ [.call t op (env n op)], ?_, ?_, ?_, hend⟩
    · exact hadded.trans (List.append_cons _ _ _)
    · exact hadded'.trans (List.append_cons _ _ _)
    · exact List.rel_append htwins (.cons .call .nil)
  | emit hout hrest ih =>
    rename_i n s t out out' _ _
    obtain ⟨added, added', hadded, hadded', htwins, hend⟩ := ih (.emit s out :: h) (.emit t out' :: k)
    refine ⟨added ++ [.emit s out], added' ++ [.emit t out'], ?_, ?_, ?_, hend⟩
    · exact hadded.trans (List.append_cons _ _ _)
    · exact hadded'.trans (List.append_cons _ _ _)
    · exact List.rel_append htwins (.cons (.emit hout) .nil)

end Prog

namespace Act

/-- From states related by `R` the actions are twins, and lead to states related by `R`. -/
def Twin (R : S → T → Prop) (O : E.Out → E.Out → Prop) (rel : α → β → Prop) (x : Act E S α) (y : Act E T β) : Prop :=
  ∀ s t, R s t → Prog.Twin O (fun s a t b => R s t ∧ rel a b) (x s) (y t)

namespace Twin

variable {R : S → T → Prop} {rel : α → β → Prop} {rel' : γ → δ → Prop} {x : Act E S α} {y : Act E T β}

theorem pure {a : α} {b : β} (hrel : rel a b) : Twin (E := E) R O rel (Pure.pure a) (Pure.pure b) :=
  fun _ _ hR => .done ⟨hR, hrel⟩

theorem bind {f : α → Act E S γ} {g : β → Act E T δ} (htwin : Twin R O rel x y)
    (hrest : ∀ a b, rel a b → Twin R O rel' (f a) (g b)) : Twin R O rel' (x >>= f) (y >>= g) :=
  fun s t hR => (htwin s t hR).bind fun s a t b hend => hrest a b hend.2 s t hend.1

theorem map {f : α → γ} {g : β → δ} (htwin : Twin R O rel x y) (hrel : ∀ a b, rel a b → rel' (f a) (g b)) :
    Twin R O rel' (f <$> x) (g <$> y) :=
  fun s t hR => (htwin s t hR).bind fun _ a _ b hend => .done ⟨hend.1, hrel a b hend.2⟩

theorem ite {c c' : Prop} [Decidable c] [Decidable c'] {x' : Act E S α} {y' : Act E T β} (hc : c ↔ c')
    (hthen : c → Twin R O rel x y) (helse : ¬ c → Twin R O rel x' y') :
    Twin R O rel (if c then x else x') (if c' then y else y') := by
  by_cases hcase : c
  · rw [if_pos hcase, if_pos (hc.1 hcase)]
    exact hthen hcase
  · rw [if_neg hcase, if_neg (mt hc.2 hcase)]
    exact helse hcase

theorem get : Twin (E := E) R O R get get := fun _ _ hR => .done ⟨hR, hR⟩

theorem modify {f : S → S} {g : T → T} (hkeep : ∀ s t, R s t → R (f s) (g t)) :
    Twin (E := E) R O Eq (modify f) (modify g) := fun s t hR => .done ⟨hkeep s t hR, rfl⟩

theorem perform (op : E.Op) : Twin R O Eq (perform op) (perform op) := fun _ _ hR => .call fun _ => .done ⟨hR, rfl⟩

theorem emit {out out' : E.Out} (hout : O out out') : Twin R O Eq (emit out) (emit out') :=
  fun _ _ hR => .emit hout (.done ⟨hR, rfl⟩)

end Twin

end Act

end Effects
