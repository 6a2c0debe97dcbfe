/-
The order of dates and of their instants.

Two dates of one zone are ordered by the wall clock. That is the order of their instants as well, with one exception: a new
date that lies no further behind an old one on the clock than the clock was put forward in between is not later in time
(`SetBack`, `earlierInstant_iff`). One of two such dates is one that the clock skips or shows twice
(`SetBack.atClockChange`), as time passes between all others.
-/
import Lending.Proofs.Time.ClockChange

namespace Lending.DateTime

/-- whether a date is one that its clock skips or shows twice: there the fold makes a difference -/
def AtClockChange (d : DateTime) : Prop :=
  ∃ z, d.zone = some z ∧ z.offsetTicks d.wall false ≠ z.offsetTicks d.wall true

/-- an old date and a new one of the same zone, no further apart on the clock than their offsets: what the clock shows has
gone on, but the time has not -/
structure SetBack (old due : DateTime) : Prop where
  zone_eq : old.zone = due.zone
  within : ∃ o p, old.offset? = some o ∧ due.offset? = some p ∧ (due.wall.ticks : Int) - old.wall.ticks ≤ p - o

variable {old due : DateTime}

/-- an instant is what the clock shows, less the offset -/
theorem instant?_eq {d : DateTime} {o : Int} (h : d.offset? = some o) : d.instant? = some (d.wall.ticks - o) := by
  rw [instant?, h, Option.map_some]

theorem exists_offset_of_isAware {d : DateTime} (h : d.isAware = true) : ∃ o, d.offset? = some o := by
  obtain ⟨z, hz⟩ := exists_zone_of_isAware h
  exact ⟨_, by rw [offset?, hz, Option.map_some]⟩

/-- dates of one zone are in the order of their instants exactly if the new one is not set back -/
theorem earlierInstant_iff_of_zone_eq (haware : old.isAware = true) (hz : old.zone = due.zone) :
    old.EarlierInstant due ↔ ¬ SetBack old due := by
  obtain ⟨o, ho⟩ := exists_offset_of_isAware haware
  obtain ⟨p, hp⟩ := exists_offset_of_isAware (d := due) (by rwa [isAware, ← hz])
  constructor
  · rintro ⟨i, j, hi, hj, hlt⟩ ⟨-, o', p', ho', hp', hwithin⟩
    cases (instant?_eq ho').symm.trans hi
    cases (instant?_eq hp').symm.trans hj
    omega
  · intro hback
    refine ⟨_, _, instant?_eq ho, instant?_eq hp, ?_⟩
    by_contra hlate
    exact hback ⟨hz, o, p, ho, hp, by omega⟩

/-- **Later on the clock and later in time.** A date with a zone that is before another is at an earlier instant exactly
if the other is not set back. -/
theorem earlierInstant_iff (haware : old.isAware = true) (h : old.Before due) :
    old.EarlierInstant due ↔ ¬ SetBack old due := by
  by_cases hz : old.zone = due.zone
  · exact earlierInstant_iff_of_zone_eq haware hz
  · exact iff_of_true ((before_of_zone_ne hz).1 h) fun hback => hz hback.zone_eq

/-- **Where a date is set back.** One of the two dates is one that the clock skips or shows twice. -/
theorem SetBack.atClockChange (h : SetBack old due) (hlater : old.Before due) :
    old.AtClockChange ∨ due.AtClockChange := by
  by_contra hoff
  rw [not_or] at hoff
  obtain ⟨o, p, ho, hp, hwithin⟩ := h.within
  have hwall := (before_of_zone_eq h.zone_eq).1 hlater
  obtain ⟨z, hold, rfl⟩ := Option.map_eq_some_iff.1 ho
  have hdue := h.zone_eq.symm.trans hold
  rw [offset?, hdue, Option.map_some, Option.some.injEq] at hp
  subst hp
  cases z with
  | fixed o =>
    simp only [Zone.offsetTicks] at hwithin
    omega
  | region r =>
    have honce : ∀ {d : DateTime}, d.zone = some (.region r) → ¬ d.AtClockChange →
        r.clock.offset d.wall false = r.clock.offset d.wall true := fun hd hnot =>
      by_contra fun hne => hnot ⟨_, hd, hne⟩
    have hforward := r.clock.offset_sub_lt hwall (honce hold hoff.1) (honce hdue hoff.2) old.fold due.fold
    simp only [Zone.offsetTicks] at hwithin
    omega

end Lending.DateTime
