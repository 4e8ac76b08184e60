import Swbt.Runtime.Points
import Swbt.Runtime.Transaction
/-!
# One command at a time

A worker is engaged while a command of its is pending or the result of one
waits for the end of the step. An engaged worker stays engaged up to the end
of the step and takes no other command.
-/

set_option autoImplicit false

open Effects

namespace Swbt

variable {m : ControllerKind} {r : ReportingKind} {h h₁ h' : Log m r} {s s₁ s' : Frame m r}

/-- A command is pending or has its result. -/
def Frame.Engaged (s : Frame m r) : Prop :=
  s.connectionCommandPending.isSome = true ∨ s.reporting.tap ≠ none ∨ s.progress.commandResult ≠ none

def Untaken (e : LogEvent m r) : Prop := takenCommand e = none

theorem Adds.untaken (hadds : Adds Plain h h') : Adds Untaken h h' := hadds.mono fun _ hplain => hplain.taken

theorem Adds.processed (s : Frame m r) (event : SessionEvent) :
    Adds Untaken h (.emit s (.processed (some event)) :: h) := .single rfl

theorem Adds.taken (hadds : Adds Untaken h h') : h'.taken = h.taken := by
  obtain ⟨added, rfl, hall⟩ := hadds
  induction added with
  | nil => rfl
  | cons e rest ih =>
    obtain ⟨he, hrest⟩ := List.forall_mem_cons.1 hall
    have he : takenCommand e = none := he
    rw [List.cons_append, Log.taken, he]
    exact ih hrest

/-! ## Commands engage -/

theorem InputEffect.engaged {command : ReportingCommand m r} {t : Duration} {progress : WorkerCommandProgress}
    (he : InputEffect command t h s h' s' progress) :
    (s'.settle (nonterminalCommandProgress progress).1).Engaged := by
  cases he with
  | rejected herror hplan =>
    rename_i error
    refine .inr (.inr ?_)
    rcases herror' : (nonterminalCommandProgress (.complete (.error error))).1 with result | _
    · exact Option.some_ne_none _
    · cases error with
      | periodic error => cases herror'
      | direct error =>
        cases error with
        | transport error => cases herror
        | _ => cases herror'
      | _ => cases herror'
  | committed hr candidate hplan => exact .inr (.inr (Option.some_ne_none _))
  | sent hr hready hsent hplan => exact .inr (.inr (Option.some_ne_none _))
  | unsent hr hready hsent hplan =>
    rw [settled_direct]
    exact .inr (.inr (Option.some_ne_none _))
  | pressedDirect hr hready hsent hplan =>
    refine .inr (.inl ?_)
    exact (Reporting.hasPending_iff_tap _).1 (Reporting.hasPending_withTap _ _)
  | pressedPeriodic hr hready hsent hresult hplan =>
    refine .inr (.inl ?_)
    exact (Reporting.hasPending_iff_tap _).1 (Reporting.hasPending_withTap _ _)
  | unpressed hr hready hsent hkind hplan =>
    rw [settled_periodic]
    exact .inr (.inr (Option.some_ne_none _))

theorem CommandEffect.engaged {command : RuntimeCommand m r} {progress : WorkerCommandProgress}
    (he : CommandEffect h s command h' s' progress) :
    (s'.settle (nonterminalCommandProgress progress).1).Engaged := by
  cases he with
  | unstarted => exact .inr (.inr (Option.some_ne_none _))
  | refused hopen => exact .inr (.inr (Option.some_ne_none _))
  | begun hopen => exact .inl rfl
  | ended hended => exact .inr (.inr (Option.some_ne_none _))
  | input heffect => exact heffect.engaged

theorem Undertaken.engaged (hmove : Undertaken h s h' s') : s'.Engaged := by
  cases hmove with
  | taken hcommand htap hnone heffect hsettled =>
    subst hsettled
    exact heffect.engaged

/-! ## Engaged workers -/

theorem Transacted.engaged (hmove : Transacted h s h' s') (hengaged : s.Engaged) : s'.Engaged := by
  cases hmove with
  | kept hunmarked hflight =>
    cases hflight with
    | same hsame =>
      unfold Frame.Engaged
      rw [hsame.command, hsame.tap, hsame.result]
      exact hengaged
    | answered htap hinput hpending hcommand hresult => exact .inr (.inr (Option.isSome_iff_ne_none.1 hresult))
  | ended hmarks htaken hflight =>
    refine .inr (.inr ?_)
    by_cases hcut : s.reporting.tap ≠ none ∨ s.connectionCommandPending.isSome = true
    · obtain ⟨error, herror⟩ := hflight.cut hcut
      rw [herror]
      exact Option.some_ne_none _
    · obtain ⟨htap, hcommand⟩ := not_or.1 hcut
      rw [not_not] at htap
      rw [Bool.not_eq_true, Option.isSome_eq_false_iff, Option.isNone_iff_eq_none] at hcommand
      rw [hflight.uncut htap hcommand]
      rcases hengaged with hpending | hpending | hresult
      · rw [hcommand] at hpending
        cases hpending
      · exact absurd htap hpending
      · exact hresult
  | released htap hdue hmarks htaken hinput hgone hcommand hresult =>
    refine .inr (.inr ?_)
    rw [hresult]
    exact Option.some_ne_none _

/-- An engaged worker takes no command. -/
theorem Undertaken.idle (hmove : Undertaken h s h' s') : ¬ s.Engaged := by
  cases hmove with
  | taken hcommand htap hnone heffect hsettled =>
    rintro (hpending | hpending | hresult)
    · rw [hcommand] at hpending
      cases hpending
    · exact hpending htap
    · exact hresult hnone

/-- From `s` on an engaged worker stays so and takes nothing, and a worker that
takes a command is engaged at the end. -/
structure Engages (h : Log m r) (s : Frame m r) (h' : Log m r) (s' : Frame m r) : Prop where
  keeps : s.Engaged → s'.Engaged
  excludes : s.Engaged → Adds Untaken h h'
  takes : Adds Untaken h h' ∨ s'.Engaged

theorem Engages.refl : Engages h s h s := ⟨id, fun _ => .refl, .inl .refl⟩

theorem Engages.trans (hleft : Engages h s h₁ s₁) (hright : Engages h₁ s₁ h' s') : Engages h s h' s' := by
  refine ⟨fun hengaged => hright.keeps (hleft.keeps hengaged), ?_, ?_⟩
  · intro hengaged
    exact (hleft.excludes hengaged).trans (hright.excludes (hleft.keeps hengaged))
  · rcases hleft.takes with hbefore | hengaged
    · rcases hright.takes with hafter | hengaged
      · exact .inl (hbefore.trans hafter)
      · exact .inr hengaged
    · exact .inr (hright.keeps hengaged)

theorem Move.engages {terminal : Option WorkerCoreError} (hmove : Move h s terminal h' s') (hs : s.Sound) :
    Engages h s h' s' := by
  have hkeeps : s.Engaged → s'.Engaged := by
    intro hengaged
    rcases hmove.transacted hs with hkept | htaken
    · exact hkept.engaged hengaged
    · exact absurd hengaged htaken.idle
  rcases hmove.plain with hplain | ⟨command, s₁, progress, -, heffect, rfl, hcommand, htap, hresult⟩ |
    ⟨event, result, hplain, -⟩
  · exact ⟨hkeeps, fun _ => Adds.untaken hplain, .inl (Adds.untaken hplain)⟩
  · refine ⟨hkeeps, ?_, .inr heffect.engaged⟩
    rw [Reporting.hasPending_eq, Option.isSome_eq_false_iff, Option.isNone_iff_eq_none] at htap
    exact fun hengaged => absurd hengaged (Undertaken.taken hcommand htap hresult heffect rfl).idle
  · have hadds := (Adds.processed s event).trans (Adds.untaken hplain)
    exact ⟨hkeeps, fun _ => hadds, .inl hadds⟩

theorem Path.engages (hpath : Path h s h' s') : Engages h s h' s' := by
  induction hpath with
  | refl => exact .refl
  | move hpath hsound hmove ih => exact ih.trans (hmove.engages hsound)

theorem LastMove.engages (hlast : LastMove h s h' s') (hs : s.Sound) : Engages h s h' s' := by
  cases hlast with
  | none => exact .refl
  | terminal hmove => exact hmove.engages hs

/-! ## Idle workers -/

/-- What a worker that is not engaged does without a command leaves it so. -/
theorem Transacted.idle (hmove : Transacted h s h' s') (hidle : ¬ s.Engaged) : ¬ s'.Engaged := by
  obtain ⟨hcommand, hrest⟩ := not_or.1 hidle
  obtain ⟨htap, hresult⟩ := not_or.1 hrest
  rw [not_not] at htap hresult
  have hnone : s.connectionCommandPending = none := by
    rw [Bool.not_eq_true, Option.isSome_eq_false_iff, Option.isNone_iff_eq_none] at hcommand
    exact hcommand
  have hfree : ∀ {s' : Frame m r}, s'.connectionCommandPending = none → s'.reporting.tap = none →
      s'.progress.commandResult = none → ¬ s'.Engaged := by
    rintro s' hcommand htap hresult (hpending | hpending | hpending)
    · rw [hcommand] at hpending
      cases hpending
    · exact hpending htap
    · exact hpending hresult
  cases hmove with
  | kept hunmarked hflight =>
    cases hflight with
    | same hsame => exact hfree (hsame.command.trans hnone) (hsame.tap.trans htap) (hsame.result.trans hresult)
    | answered htap' hinput hpending hgone hanswer => exact absurd hpending hcommand
  | ended hmarks htaken hflight =>
    exact hfree hflight.command hflight.tap ((hflight.uncut htap hnone).trans hresult)
  | released hsome hdue hmarks htaken hinput hgone hkept hanswer => cases htap.symm.trans hsome

theorem Undertaken.takes (hmove : Undertaken h s h' s') : ¬ Adds Untaken h h' := by
  cases hmove with
  | taken hcommand htap hnone heffect hsettled =>
    intro hadds
    have hbefore := hadds.before heffect.plain.suffix fun huntaken => nomatch (show takenCommand _ = none from huntaken)
    have hlength := hbefore.length_le
    exact absurd hlength (Nat.not_succ_le_self _)

theorem Move.idle {terminal : Option WorkerCoreError} (hmove : Move h s terminal h' s') (hs : s.Sound)
    (huntaken : Adds Untaken h h') (hidle : ¬ s.Engaged) : ¬ s'.Engaged := by
  rcases hmove.transacted hs with hkept | htaken
  · exact hkept.idle hidle
  · exact absurd huntaken htaken.takes

/-- Two parts of a log that adds events of `P` add events of `P`. -/
theorem Adds.parts {P : LogEvent m r → Prop} (hadds : Adds P h h') (hleft : h <:+ h₁) (hright : h₁ <:+ h') :
    Adds P h h₁ ∧ Adds P h₁ h' := by
  obtain ⟨added, rfl, hall⟩ := hadds
  obtain ⟨later, hlater⟩ := hright
  obtain ⟨earlier, rfl⟩ := hleft
  rw [← List.append_assoc, List.append_left_inj] at hlater
  rw [← hlater, List.forall_mem_append] at hall
  refine ⟨⟨earlier, rfl, hall.2⟩, later, ?_, hall.1⟩
  rw [← hlater, List.append_assoc]

theorem Path.suffix (hpath : Path h s h' s') : h <:+ h' := by
  induction hpath with
  | refl => exact List.suffix_refl _
  | move hpath hsound hmove ih => exact ih.trans hmove.suffix

theorem LastMove.suffix (hlast : LastMove h s h' s') : h <:+ h' := by
  cases hlast with
  | none => exact List.suffix_refl _
  | terminal hmove => exact hmove.suffix

theorem Path.idle (hpath : Path h s h' s') (huntaken : Adds Untaken h h') (hidle : ¬ s.Engaged) : ¬ s'.Engaged := by
  induction hpath with
  | refl => exact hidle
  | move hpath hsound hmove ih =>
    obtain ⟨hbefore, hlast⟩ := Adds.parts huntaken hpath.suffix hmove.suffix
    exact hmove.idle hsound hlast (ih hbefore)

theorem LastMove.idle (hlast : LastMove h s h' s') (hs : s.Sound) (huntaken : Adds Untaken h h')
    (hidle : ¬ s.Engaged) : ¬ s'.Engaged := by
  cases hlast with
  | none => exact hidle
  | terminal hmove => exact hmove.idle hs huntaken hidle

end Swbt
