import Mathlib.Logic.Relation
import Swbt.Effects.Program
/-!
# Programs in a world they share

The calls of a program act on a world in which others act as well, between any
two calls and as often as they like. A program may also stop between any two
calls: what holds of a run holds of every part of one.
-/

set_option autoImplicit false

namespace Effects

variable {E : Interface} {W S α β : Type}

/-- What a call does to the world, with its answer, and what others do to it. -/
structure World (E : Interface) (W : Type) where
  does : W → (op : E.Op) → E.Ans op → W → Prop
  others : W → W → Prop

/-- A call of the program, with the worlds before and after it. -/
structure Turn (E : Interface) (W : Type) where
  before : W
  op : E.Op
  ans : E.Ans op
  after : W

namespace World

variable (world : World E W)

/-- What is left of the program `p` and of the world it was started in, after
these turns, the latest first. -/
inductive Run (p : Prog E S α) (start : W) : List (Turn E W) → W → Prog E S α → Prop
  | start : Run p start [] start p
  | others {turns : List (Turn E W)} {w w' : W} {rest : Prog E S α} (hrun : Run p start turns w rest)
      (hothers : world.others w w') : Run p start turns w' rest
  | call {turns : List (Turn E W)} {w w' : W} {s : S} {op : E.Op} {k : E.Ans op → Prog E S α} {ans : E.Ans op}
      (hrun : Run p start turns w (.call s op k)) (hdoes : world.does w op ans w') :
      Run p start (⟨w, op, ans, w'⟩ :: turns) w' (k ans)
  | emit {turns : List (Turn E W)} {w : W} {s : S} {out : E.Out} {next : Prog E S α}
      (hrun : Run p start turns w (.emit s out next)) : Run p start turns w next

variable {world} in
/-- A call, of a program that comes to one. -/
theorem Run.next {p rest : Prog E S α} {start w w' : W} {turns : List (Turn E W)} {s : S} {op : E.Op}
    {k : E.Ans op → Prog E S α} (hrun : world.Run p start turns w rest) (hrest : rest = .call s op k) {ans : E.Ans op}
    (hdoes : world.does w op ans w') : world.Run p start (⟨w, op, ans, w'⟩ :: turns) w' (k ans) := by
  subst hrest
  exact .call hrun hdoes

/-- Whatever others do meanwhile. -/
abbrev Meanwhile : W → W → Prop := Relation.ReflTransGen world.others

/-- `p`, started in the world after these turns, takes only turns that satisfy
`G`, and where it ends, `Q` holds. -/
def wp (G : Turn E W → Prop) :
    Prog E S α → List (Turn E W) → W → (List (Turn E W) → W → S → α → Prop) → Prop
  | .done s a, turns, w, Q => Q turns w s a
  | .call _ op k, turns, w, Q => ∀ w', world.Meanwhile w w' → ∀ ans w'', world.does w' op ans w'' →
      G ⟨w', op, ans, w''⟩ ∧ wp G (k ans) (⟨w', op, ans, w''⟩ :: turns) w'' Q
  | .emit _ _ next, turns, w, Q => wp G next turns w Q

variable {world} {G : Turn E W → Prop}

theorem wp_bind (p : Prog E S α) (f : α → S → Prog E S β) (turns : List (Turn E W)) (w : W)
    (Q : List (Turn E W) → W → S → β → Prop) :
    world.wp G (p.bind f) turns w Q ↔ world.wp G p turns w fun turns w s a => world.wp G (f a s) turns w Q := by
  induction p generalizing turns w with
  | done => rfl
  | call s op k ih =>
    refine forall₂_congr fun w' _ => forall₂_congr fun ans w'' => forall_congr' fun _ => and_congr_right fun _ => ?_
    exact ih ans _ _
  | emit s out next ih => exact ih _ _

theorem wp_mono {p : Prog E S α} {turns : List (Turn E W)} {w : W} {Q Q' : List (Turn E W) → W → S → α → Prop}
    (hp : world.wp G p turns w Q) (hQ : ∀ turns w s a, Q turns w s a → Q' turns w s a) : world.wp G p turns w Q' := by
  induction p generalizing turns w with
  | done => exact hQ _ _ _ _ hp
  | call s op k ih =>
    intro w' hw ans w'' hdoes
    obtain ⟨hturn, hrest⟩ := hp w' hw ans w'' hdoes
    exact ⟨hturn, ih ans hrest⟩
  | emit s out next ih => exact ih hp

/-- An assertion that others keep holds whatever they do. -/
theorem Stable.meanwhile {R : W → Prop} (hstable : ∀ w w', R w → world.others w w' → R w') {w w' : W} (hw : R w)
    (hmeanwhile : world.Meanwhile w w') : R w' := by
  induction hmeanwhile with
  | refl => exact hw
  | tail _ hothers ih => exact hstable _ _ ih hothers

/-- A call from an assertion that others keep. -/
theorem wp_call {s : S} {op : E.Op} {k : E.Ans op → Prog E S α} {turns : List (Turn E W)} {w : W}
    {Q : List (Turn E W) → W → S → α → Prop} {R : W → Prop} (hstable : ∀ w w', R w → world.others w w' → R w') (hw : R w)
    (hcall : ∀ w' ans w'', R w' → world.does w' op ans w'' →
      G ⟨w', op, ans, w''⟩ ∧ world.wp G (k ans) (⟨w', op, ans, w''⟩ :: turns) w'' Q) :
    world.wp G (.call s op k) turns w Q :=
  fun w' hmeanwhile ans w'' => hcall w' ans w'' (Stable.meanwhile hstable hw hmeanwhile)

/-- What others do before a program starts is done meanwhile. -/
theorem wp_others {p : Prog E S α} {turns : List (Turn E W)} {w w' : W} {Q : List (Turn E W) → W → S → α → Prop}
    (hstable : ∀ turns w w' s a, Q turns w s a → world.others w w' → Q turns w' s a)
    (hp : world.wp G p turns w Q) (hothers : world.others w w') : world.wp G p turns w' Q := by
  induction p with
  | done => exact hstable _ _ _ _ _ hp hothers
  | call s op k ih => exact fun w'' hmeanwhile => hp w'' (hmeanwhile.head hothers)
  | emit s out next ih => exact ih hp

/-- In every run, every turn satisfies what the program takes turns by, and its end satisfies `Q`. -/
theorem Run.sound {p rest : Prog E S α} {start w : W} {turns : List (Turn E W)}
    {Q : List (Turn E W) → W → S → α → Prop} (hstable : ∀ turns w w' s a, Q turns w s a → world.others w w' → Q turns w' s a)
    (hp : world.wp G p [] start Q) (hrun : world.Run p start turns w rest) :
    (∀ turn ∈ turns, G turn) ∧ world.wp G rest turns w Q := by
  induction hrun with
  | start => exact ⟨nofun, hp⟩
  | others hrun hothers ih => exact ⟨ih.1, wp_others hstable ih.2 hothers⟩
  | call hrun hdoes ih =>
    obtain ⟨hturn, hrest⟩ := ih.2 _ .refl _ _ hdoes
    exact ⟨List.forall_mem_cons.2 ⟨hturn, ih.1⟩, hrest⟩
  | emit hrun ih => exact ih

end World

end Effects
