import Mathlib.Logic.Basic
/-!
# Programs that talk to an environment

A `Prog` is a computation over a state that, between pure steps, calls
operations of its environment and emits outputs to it. Nothing is said about
what the environment answers, so a fact about every execution (`Exec`) holds
for every environment, whatever it does and whenever it does it.

A node records the state the program is in when it reaches it, so a property
can speak of every point of an execution and not only of its end.
-/

set_option autoImplicit false

namespace Effects

/-- What a program may ask of its environment: operations with their answers,
and outputs that expect none. -/
structure Interface where
  Op : Type
  Ans : Op → Type
  Out : Type

variable {E : Interface} {S α β : Type}

/-- A program in state `S` that ends with an `α`. -/
inductive Prog (E : Interface) (S α : Type) : Type
  | done (s : S) (a : α)
  | call (s : S) (op : E.Op) (k : E.Ans op → Prog E S α)
  | emit (s : S) (out : E.Out) (next : Prog E S α)

/-- One interaction, with the state in which it took place. -/
inductive Event (E : Interface) (S : Type) : Type
  | call (s : S) (op : E.Op) (ans : E.Ans op)
  | emit (s : S) (out : E.Out)

/-- What has happened so far, the latest event first. -/
abbrev History (E : Interface) (S : Type) := List (Event E S)

/-- The state in which an event took place. -/
def Event.state : Event E S → S
  | .call s _ _ => s
  | .emit s _ => s

/-- Every event, with what had happened before it, satisfies `P`. -/
def Always (P : Event E S → History E S → Prop) : History E S → Prop
  | [] => True
  | e :: h => P e h ∧ Always P h

theorem always_iff {P : Event E S → History E S → Prop} {h : History E S} :
    Always P h ↔ ∀ e h₀, e :: h₀ <:+ h → P e h₀ := by
  induction h with
  | nil => simp [Always]
  | cons e h ih =>
    rw [Always, ih]
    constructor
    · rintro ⟨he, hall⟩ e' h₀ hsuffix
      rcases List.suffix_cons_iff.1 hsuffix with heq | hrest
      · cases heq
        exact he
      · exact hall e' h₀ hrest
    · intro hall
      exact ⟨hall e h (List.suffix_refl _), fun e' h₀ hsuffix => hall e' h₀ (hsuffix.trans (List.suffix_cons _ _))⟩

/-- An event of the history, after the ones before it. -/
theorem suffix_of_getElem? {h : History E S} {n : Nat} {e : Event E S} (he : h[n]? = some e) : e :: h.drop (n + 1) <:+ h := by
  obtain ⟨hn, rfl⟩ := List.getElem?_eq_some_iff.1 he
  rw [← List.drop_eq_getElem_cons hn]
  exact List.drop_suffix _ _

/-- An event of the history, and not of its older part `h₀`, came after that part. -/
theorem suffix_of_append {e : Event E S} {h h₀ before : History E S} (hsuffix : e :: before <:+ h ++ h₀) (hnew : e ∉ h₀) :
    ∃ between, before = between ++ h₀ ∧ e :: between <:+ h := by
  induction h with
  | nil => exact absurd (hsuffix.subset List.mem_cons_self) hnew
  | cons e' h ih =>
    rcases List.suffix_cons_iff.1 hsuffix with heq | hbefore
    · cases heq
      exact ⟨h, rfl, List.suffix_refl _⟩
    · obtain ⟨between, hbetween, hbefore⟩ := ih hbefore
      exact ⟨between, hbetween, hbefore.trans (List.suffix_cons _ _)⟩

theorem Always.suffix {P : Event E S → History E S → Prop} {h h₀ : History E S} (hP : Always P h) (hsuffix : h₀ <:+ h) :
    Always P h₀ := by
  rw [always_iff] at hP ⊢
  exact fun e before hbefore => hP e before (hbefore.trans hsuffix)

theorem Always.mono {P Q : Event E S → History E S → Prop} {h : History E S} (hP : Always P h)
    (hPQ : ∀ e h₀, P e h₀ → Q e h₀) : Always Q h := by
  rw [always_iff] at hP ⊢
  exact fun e h₀ hsuffix => hPQ e h₀ (hP e h₀ hsuffix)

namespace Prog

def bind : Prog E S α → (α → S → Prog E S β) → Prog E S β
  | .done s a, f => f a s
  | .call s op k, f => .call s op fun ans => (k ans).bind f
  | .emit s out next, f => .emit s out (next.bind f)

/-- `Exec p h h' s a`: started after the history `h`, `p` can end in state `s`
with `a`, and by then the history is `h'`. -/
inductive Exec : Prog E S α → History E S → History E S → S → α → Prop
  | done {s : S} {a : α} {h : History E S} : Exec (.done s a) h h s a
  | call {s s' : S} {op : E.Op} {k : E.Ans op → Prog E S α} {a : α} {h h' : History E S} (ans : E.Ans op) :
      Exec (k ans) (.call s op ans :: h) h' s' a → Exec (.call s op k) h h' s' a
  | emit {s s' : S} {out : E.Out} {next : Prog E S α} {a : α} {h h' : History E S} :
      Exec next (.emit s out :: h) h' s' a → Exec (.emit s out next) h h' s' a

/-- `Abort p h h' s`: started after `h`, `p` can get as far as `h'`, where a call
or an output does not return. -/
inductive Abort : Prog E S α → History E S → History E S → S → Prop
  | call {s : S} {op : E.Op} {k : E.Ans op → Prog E S α} {h : History E S} : Abort (.call s op k) h h s
  | emit {s : S} {out : E.Out} {next : Prog E S α} {h : History E S} : Abort (.emit s out next) h h s
  | afterCall {s s' : S} {op : E.Op} {k : E.Ans op → Prog E S α} {h h' : History E S} (ans : E.Ans op) :
      Abort (k ans) (.call s op ans :: h) h' s' → Abort (.call s op k) h h' s'
  | afterEmit {s s' : S} {out : E.Out} {next : Prog E S α} {h h' : History E S} :
      Abort next (.emit s out :: h) h' s' → Abort (.emit s out next) h h' s'

/-- Every end of `p`, started after `h`, satisfies `Q`. -/
def wp : Prog E S α → History E S → (History E S → S → α → Prop) → Prop
  | .done s a, h, Q => Q h s a
  | .call s op k, h, Q => ∀ ans, (k ans).wp (.call s op ans :: h) Q
  | .emit s out next, h, Q => next.wp (.emit s out :: h) Q

theorem wp_bind (p : Prog E S α) (f : α → S → Prog E S β) (h : History E S) (Q : History E S → S → β → Prop) :
    (p.bind f).wp h Q ↔ p.wp h fun h s a => (f a s).wp h Q := by
  induction p generalizing h with
  | done => rfl
  | call s op k ih => exact forall_congr' fun ans => ih ans _
  | emit s out next ih => exact ih _

theorem wp_mono {p : Prog E S α} {h : History E S} {Q Q' : History E S → S → α → Prop}
    (hp : p.wp h Q) (hQ : ∀ h s a, Q h s a → Q' h s a) : p.wp h Q' := by
  induction p generalizing h with
  | done => exact hQ _ _ _ hp
  | call s op k ih => exact fun ans => ih ans (hp ans)
  | emit s out next ih => exact ih hp

/-- `wp` is what every execution ends in. -/
theorem wp_iff_exec (p : Prog E S α) (h : History E S) (Q : History E S → S → α → Prop) :
    p.wp h Q ↔ ∀ h' s a, Exec p h h' s a → Q h' s a := by
  constructor
  · intro hp h' s a he
    induction he with
    | done => exact hp
    | call ans _ ih => exact ih (hp ans)
    | emit _ ih => exact ih hp
  · intro hall
    induction p generalizing h with
    | done s a => exact hall _ _ _ .done
    | call s op k ih => exact fun ans => ih ans _ fun _ _ _ he => hall _ _ _ (.call ans he)
    | emit s out next ih => exact ih _ fun _ _ _ he => hall _ _ _ (.emit he)

theorem Exec.post {p : Prog E S α} {h h' : History E S} {s : S} {a : α} {Q : History E S → S → α → Prop}
    (he : Exec p h h' s a) (hp : p.wp h Q) : Q h' s a :=
  (wp_iff_exec p h Q).1 hp _ _ _ he

/-- An execution only adds to the history. -/
theorem Exec.suffix {p : Prog E S α} {h h' : History E S} {s : S} {a : α} (he : Exec p h h' s a) : h <:+ h' := by
  induction he with
  | done => exact List.suffix_refl _
  | call _ _ ih => exact (List.suffix_cons _ _).trans ih
  | emit _ ih => exact (List.suffix_cons _ _).trans ih

/-- The execution in which the environment answers its `n`-th call by `env n`. -/
def run (env : Nat → (op : E.Op) → E.Ans op) : Prog E S α → Nat → History E S → History E S × S × α
  | .done s a, _, h => (h, s, a)
  | .call s op k, n, h => (k (env n op)).run env (n + 1) (.call s op (env n op) :: h)
  | .emit s out next, n, h => next.run env n (.emit s out :: h)

theorem exec_run (env : Nat → (op : E.Op) → E.Ans op) (p : Prog E S α) (n : Nat) (h : History E S) :
    Exec p h (p.run env n h).1 (p.run env n h).2.1 (p.run env n h).2.2 := by
  induction p generalizing n h with
  | done => exact .done
  | call s op k ih => exact .call _ (ih _ _ _)
  | emit s out next ih => exact .emit (ih _ _)

theorem Abort.suffix {p : Prog E S α} {h h' : History E S} {s : S} (habort : Abort p h h' s) : h <:+ h' := by
  induction habort with
  | call => exact List.suffix_refl _
  | emit => exact List.suffix_refl _
  | afterCall _ _ ih => exact (List.suffix_cons _ _).trans ih
  | afterEmit _ ih => exact (List.suffix_cons _ _).trans ih

/-- Where the environment can answer, a run that has got so far can come to an end. -/
theorem Abort.extends (env : Nat → (op : E.Op) → E.Ans op) {p : Prog E S α} {h h' : History E S} {s : S}
    (habort : Abort p h h' s) : ∃ h'' s'' a, Exec p h h'' s'' a ∧ h' <:+ h'' := by
  have hrun : ∀ (p : Prog E S α) (h : History E S), ∃ h'' s'' a, Exec p h h'' s'' a ∧ h <:+ h'' := by
    intro p h
    have hexec := exec_run env p 0 h
    exact ⟨_, _, _, hexec, hexec.suffix⟩
  induction habort with
  | call => exact hrun _ _
  | emit => exact hrun _ _
  | afterCall ans _ ih =>
    obtain ⟨h'', s'', a, hexec, hsuffix⟩ := ih
    exact ⟨h'', s'', a, .call ans hexec, hsuffix⟩
  | afterEmit _ ih =>
    obtain ⟨h'', s'', a, hexec, hsuffix⟩ := ih
    exact ⟨h'', s'', a, .emit hexec, hsuffix⟩

end Prog

/-! ## Programs as stateful actions -/

/-- A program waiting for the state it starts in. -/
def Act (E : Interface) (S α : Type) := S → Prog E S α

namespace Act

instance : Monad (Act E S) where
  pure a := fun s => .done s a
  bind x f := fun s => (x s).bind fun a s => f a s

def get : Act E S S := fun s => .done s s

def modify (f : S → S) : Act E S Unit := fun s => .done (f s) ()

def perform (op : E.Op) : Act E S (E.Ans op) := fun s => .call s op fun ans => .done s ans

def emit (out : E.Out) : Act E S Unit := fun s => .emit s out (.done s ())

/-- Every end of `x`, started in `s` after `h`, satisfies `Q`. -/
def wp (x : Act E S α) (h : History E S) (s : S) (Q : History E S → S → α → Prop) : Prop := (x s).wp h Q

variable (h : History E S) (s : S)

@[simp] theorem wp_pure (a : α) (Q : History E S → S → α → Prop) : wp (pure a) h s Q ↔ Q h s a := Iff.rfl

@[simp] theorem wp_bind (x : Act E S α) (f : α → Act E S β) (Q : History E S → S → β → Prop) :
    wp (x >>= f) h s Q ↔ wp x h s fun h s a => wp (f a) h s Q := Prog.wp_bind _ _ _ _

@[simp] theorem wp_map (x : Act E S α) (f : α → β) (Q : History E S → S → β → Prop) :
    wp (f <$> x) h s Q ↔ wp x h s fun h s a => Q h s (f a) := Prog.wp_bind _ _ _ _

@[simp] theorem wp_get (Q : History E S → S → S → Prop) : wp get h s Q ↔ Q h s s := Iff.rfl

@[simp] theorem wp_modify (f : S → S) (Q : History E S → S → Unit → Prop) :
    wp (modify f) h s Q ↔ Q h (f s) () := Iff.rfl

@[simp] theorem wp_perform (op : E.Op) (Q : History E S → S → E.Ans op → Prop) :
    wp (perform op) h s Q ↔ ∀ ans, Q (.call s op ans :: h) s ans := Iff.rfl

@[simp] theorem wp_emit (out : E.Out) (Q : History E S → S → Unit → Prop) :
    wp (emit out) h s Q ↔ Q (.emit s out :: h) s () := Iff.rfl

theorem wp_mono {x : Act E S α} {h : History E S} {s : S} {Q Q' : History E S → S → α → Prop}
    (hx : wp x h s Q) (hQ : ∀ h s a, Q h s a → Q' h s a) : wp x h s Q' := Prog.wp_mono hx hQ

theorem wp_and {x : Act E S α} {h : History E S} {s : S} {P Q : History E S → S → α → Prop} (hP : wp x h s P)
    (hQ : wp x h s Q) : wp x h s fun h s a => P h s a ∧ Q h s a := by
  refine (Prog.wp_iff_exec _ _ _).2 ?_
  intro h' s' a hexec
  exact ⟨hexec.post hP, hexec.post hQ⟩

end Act

end Effects
