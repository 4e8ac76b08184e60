import Swbt.Effects.Program
/-!
# How far a program has come

`Reach p h h' rest` says that `p`, started after `h`, has come to `rest` by the
history `h'`. What is proved of the ends of a program holds where it comes to
one, whatever was done between its calls.
-/

set_option autoImplicit false

namespace Effects

variable {E : Interface} {S α : Type}

namespace Prog

/-- Started after the history `h`, `p` has come to `rest`, and by then the history is `h'`. -/
inductive Reach (p : Prog E S α) (h : History E S) : History E S → Prog E S α → Prop
  | refl : Reach p h h p
  | call {h' : History E S} {s : S} {op : E.Op} {k : E.Ans op → Prog E S α} (hreach : Reach p h h' (.call s op k))
      (ans : E.Ans op) : Reach p h (.call s op ans :: h') (k ans)
  | emit {h' : History E S} {s : S} {out : E.Out} {next : Prog E S α} (hreach : Reach p h h' (.emit s out next)) :
      Reach p h (.emit s out :: h') next

namespace Reach

variable {p rest : Prog E S α} {h h' : History E S} {s : S} {a : α}

theorem exec {h'' : History E S} (hreach : Reach p h h' rest) (he : Exec rest h' h'' s a) : Exec p h h'' s a := by
  induction hreach with
  | refl => exact he
  | call hreach ans ih => exact ih (.call ans he)
  | emit hreach ih => exact ih (.emit he)

/-- A program that has come to an end has been executed. -/
theorem ended (hreach : Reach p h h' (.done s a)) : Exec p h h' s a := hreach.exec .done

theorem suffix (hreach : Reach p h h' rest) : h <:+ h' := by
  induction hreach with
  | refl => exact List.suffix_refl _
  | call hreach ans ih => exact ih.trans (List.suffix_cons _ _)
  | emit hreach ih => exact ih.trans (List.suffix_cons _ _)

end Reach

theorem wp_trivial (p : Prog E S α) (h : History E S) : p.wp h fun _ _ _ => True := by
  induction p generalizing h with
  | done => trivial
  | call s op k ih => exact fun ans => ih ans _
  | emit s out next ih => exact ih _

/-- A program only adds to its history. -/
theorem wp_suffix (p : Prog E S α) (h : History E S) : p.wp h fun h' _ _ => h <:+ h' := by
  induction p generalizing h with
  | done => exact List.suffix_refl _
  | call s op k ih => exact fun ans => wp_mono (ih ans _) fun _ _ _ hsuffix => (List.suffix_cons _ _).trans hsuffix
  | emit s out next ih => exact wp_mono (ih _) fun _ _ _ hsuffix => (List.suffix_cons _ _).trans hsuffix

end Prog

end Effects
