/-
The order of dates around a clock change.

Dates of one zone are ordered by their wall clocks and dates of two zones by their instants. So the order need not carry
over from two dates to a third: a date that is not after a limit may be after another date at the same time as the limit.
`SlipsPast` lists the ways (`before_iff_slipsPast`). In each of them two of the dates share a zone whose clock was changed
between them (`SlipsPast.exists_between`).
-/
import Lending.Proofs.Time.Clock
import Lending.Proofs.Time.Order

namespace Lending.DateTime

/-- one date is at an earlier instant than another, whatever their wall clocks show -/
def EarlierInstant (a b : DateTime) : Prop := ∃ i j, a.instant? = some i ∧ b.instant? = some j ∧ i < j

/-- one date is at an earlier instant than another or at the same one -/
def NoLaterInstant (a b : DateTime) : Prop := ∃ i j, a.instant? = some i ∧ b.instant? = some j ∧ i ≤ j

/-- neither of two dates is after the other, and their order is known -/
def SameTime (a b : DateTime) : Prop := a.NotAfter b ∧ b.NotAfter a

instance (a b : DateTime) : Decidable (a.SameTime b) := by unfold SameTime; infer_instance

/-- how a due date that is not after the last one allowed is after an old due date at the same time as the last one: a
zone that two of the three share, but not the third, orders the two otherwise on the wall clock than by their instants -/
inductive SlipsPast (old due last : DateTime) : Prop
  | dueAndLast :
    due.zone = last.zone → old.zone ≠ last.zone → due.wall.ticks ≤ last.wall.ticks → last.EarlierInstant due →
    SlipsPast old due last
  | oldAndDue :
    old.zone = due.zone → last.zone ≠ due.zone → old.wall.ticks < due.wall.ticks → due.NoLaterInstant old →
    SlipsPast old due last
  | oldAndLast :
    old.zone = last.zone → due.zone ≠ last.zone → old.wall.ticks = last.wall.ticks → old.EarlierInstant due →
    due.NoLaterInstant last → SlipsPast old due last

variable {a b old due last : DateTime}

/-! ## The two orders -/

theorem before_of_zone_ne (h : a.zone ≠ b.zone) : a.Before b ↔ a.EarlierInstant b := by
  simp only [Before, before_eq_ok, keys_of_zone_ne h, EarlierInstant, true_eq_decide_iff, and_assoc]

theorem notAfter_of_zone_ne (h : a.zone ≠ b.zone) : a.NotAfter b ↔ a.NoLaterInstant b := by
  simp only [NotAfter, notAfter_eq_ok, keys_of_zone_ne h, NoLaterInstant, true_eq_decide_iff, and_assoc]

/-- two dates of different zones at the same time are at the same instant -/
theorem SameTime.instant?_eq (h : SameTime a b) (hz : a.zone ≠ b.zone) :
    ∃ i, a.instant? = some i ∧ b.instant? = some i := by
  obtain ⟨i, j, hi, hj, hle⟩ := (notAfter_of_zone_ne hz).1 h.1
  obtain ⟨j', i', hj', hi', hge⟩ := (notAfter_of_zone_ne hz.symm).1 h.2
  simp only [hi, hj, Option.some.injEq] at hi' hj'
  exact ⟨i, hi, by rw [hj, Option.some.injEq]; omega⟩

/-- two dates of one zone at the same time show the same on the wall clock -/
theorem SameTime.ticks_eq (h : SameTime a b) (hz : a.zone = b.zone) : a.wall.ticks = b.wall.ticks :=
  le_antisymm ((notAfter_of_zone_eq hz).1 h.1) ((notAfter_of_zone_eq hz.symm).1 h.2)

theorem NoLaterInstant.not_earlierInstant (h : a.NoLaterInstant b) : ¬ b.EarlierInstant a := by
  obtain ⟨i, j, hi, hj, hle⟩ := h
  rintro ⟨j', i', hj', hi', hlt⟩
  simp only [hi, hj, Option.some.injEq] at hi' hj'
  omega

/-! ## Slips -/

theorem slipsPast_of_before (hsame : SameTime old last) (hle : due.NotAfter last) (h : old.Before due) :
    SlipsPast old due last := by
  by_cases hdue : due.zone = last.zone
  · have hwall := (notAfter_of_zone_eq hdue).1 hle
    by_cases hold : old.zone = last.zone
    · -- within one zone the order carries over
      have hticks := hsame.ticks_eq hold
      have hlt := (before_of_zone_eq (hold.trans hdue.symm)).1 h
      omega
    · obtain ⟨i, hi, hj⟩ := hsame.instant?_eq hold
      obtain ⟨i', k, hi', hk, hlt⟩ := (before_of_zone_ne fun hz => hold (hz.trans hdue)).1 h
      rw [hi, Option.some.injEq] at hi'
      exact .dueAndLast hdue hold hwall ⟨i, k, hj, hk, hi' ▸ hlt⟩
  · have hinstant := (notAfter_of_zone_ne hdue).1 hle
    by_cases hold : old.zone = last.zone
    · have hearlier := (before_of_zone_ne fun hz => hdue (hz.symm.trans hold)).1 h
      exact .oldAndLast hold hdue (hsame.ticks_eq hold) hearlier hinstant
    · -- the old date may stand for the last one, as far as instants go
      obtain ⟨i, hi, hj⟩ := hsame.instant?_eq hold
      have hnoLater : due.NoLaterInstant old := by
        obtain ⟨k, j, hk, hj', hkj⟩ := hinstant
        rw [hj, Option.some.injEq] at hj'
        exact ⟨k, i, hk, hi, hj' ▸ hkj⟩
      by_cases hz : old.zone = due.zone
      · exact .oldAndDue hz (Ne.symm hdue) ((before_of_zone_eq hz).1 h) hnoLater
      · exact absurd ((before_of_zone_ne hz).1 h) hnoLater.not_earlierInstant

theorem SlipsPast.before (h : SlipsPast old due last) (hsame : SameTime old last) : old.Before due := by
  cases h with
  | dueAndLast hdue hold _ hearlier =>
    obtain ⟨i, hi, hj⟩ := hsame.instant?_eq hold
    obtain ⟨j, k, hj', hk, hlt⟩ := hearlier
    rw [hj, Option.some.injEq] at hj'
    exact (before_of_zone_ne fun hz => hold (hz.trans hdue)).2 ⟨i, k, hi, hk, hj' ▸ hlt⟩
  | oldAndDue hz _ hwall _ => exact (before_of_zone_eq hz).2 hwall
  | oldAndLast hold hdue _ hearlier _ => exact (before_of_zone_ne fun hz => hdue (hz.symm.trans hold)).2 hearlier

/-- **Past a limit that is kept.** An old due date is at the same time as the last one allowed, and a new one is not after
the last. Then the new one is after the old one exactly if it slips past. -/
theorem before_iff_slipsPast (hsame : SameTime old last) (hle : due.NotAfter last) :
    old.Before due ↔ SlipsPast old due last :=
  ⟨slipsPast_of_before hsame hle, fun h => h.before hsame⟩

/-! ## Zones in which dates slip past -/

/-- dates of a zone with different offsets are of a region whose clock was changed between them -/
theorem exists_between_of_offset_ne (hz : a.zone = b.zone) (hle : a.wall.ticks ≤ b.wall.ticks) {o p : Int}
    (ha : a.offset? = some o) (hb : b.offset? = some p) (hne : o ≠ p) :
    ∃ r c, a.zone = some (.region r) ∧ c ∈ r.clock.changes ∧ c.Between a.wall b.wall := by
  obtain ⟨z, hzone, rfl⟩ := Option.map_eq_some_iff.1 ha
  rw [offset?, ← hz, hzone, Option.map_some, Option.some.injEq] at hb
  subst hb
  cases z with
  | fixed o => exact absurd rfl hne
  | region r =>
    obtain ⟨c, hc, hbetween⟩ := r.clock.exists_between hle hne
    exact ⟨r, c, hzone, hc, hbetween⟩

/-- whether two dates are of a region whose clock was changed between them, whichever of them is earlier on it -/
def ChangedBetween (a b : DateTime) : Prop :=
  ∃ r c, a.zone = some (.region r) ∧ c ∈ r.clock.changes ∧ (c.Between a.wall b.wall ∨ c.Between b.wall a.wall)

/-- the instants of two dates of a zone lie otherwise apart than their wall clocks only if the clock was changed -/
theorem changedBetween_of_instant_ne (hz : a.zone = b.zone) {i j : Int} (hi : a.instant? = some i)
    (hj : b.instant? = some j) (hne : i - j ≠ a.wall.ticks - b.wall.ticks) : ChangedBetween a b := by
  obtain ⟨o, ho, rfl⟩ := Option.map_eq_some_iff.1 hi
  obtain ⟨p, hp, rfl⟩ := Option.map_eq_some_iff.1 hj
  have hoffset : o ≠ p := fun heq => hne (by omega)
  rcases Nat.le_total a.wall.ticks b.wall.ticks with hle | hle
  · obtain ⟨r, c, hr, hc, hbetween⟩ := exists_between_of_offset_ne hz hle ho hp hoffset
    exact ⟨r, c, hr, hc, .inl hbetween⟩
  · obtain ⟨r, c, hr, hc, hbetween⟩ := exists_between_of_offset_ne hz.symm hle hp ho hoffset.symm
    exact ⟨r, c, hz.trans hr, hc, .inr hbetween⟩

/-- **Only where clocks change.** Where a date slips past a limit, the zone that two of the dates share has a clock that was
changed between them. -/
theorem SlipsPast.exists_between (h : SlipsPast old due last) :
    ChangedBetween due last ∨ ChangedBetween old due ∨ ChangedBetween old last := by
  cases h with
  | dueAndLast hz _ hwall hearlier =>
    obtain ⟨j, k, hj, hk, hlt⟩ := hearlier
    exact .inl (changedBetween_of_instant_ne hz hk hj (by omega))
  | oldAndDue hz _ hwall hnoLater =>
    obtain ⟨k, i, hk, hi, hle⟩ := hnoLater
    exact .inr (.inl (changedBetween_of_instant_ne hz hi hk (by omega)))
  | oldAndLast hz _ hwall hearlier hnoLater =>
    obtain ⟨i, k, hi, hk, hlt⟩ := hearlier
    obtain ⟨k', j, hk', hj, hle⟩ := hnoLater
    rw [hk, Option.some.injEq] at hk'
    exact .inr (.inr (changedBetween_of_instant_ne hz hi hj (by omega)))

end Lending.DateTime
