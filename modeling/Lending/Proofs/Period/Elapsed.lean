/-
The time that passes in a period.

Minutes, hours, days and weeks are added on the wall clock, whatever the zone. So the time between a date and its sum with
such a period is the length of the period, less what the clock was put forward by in between (`Adds.elapsed`). `addTo_elapsed`
says so for minutes and hours, which are meant to be exact; `minutes_backwards_october` is a sum that comes before its date.
-/
import Mathlib.Tactic
import Lending.Proofs.Period.Order
import Lending.Proofs.Time.SetBack

namespace Lending

namespace Period

variable {p : Period} {i : Interval} {n : Nat} {base due : DateTime}

theorem Adds.fold_eq (h : p.Adds base due) : due.fold = false := by
  obtain ⟨i, n, span, -, -, hdue⟩ := h
  obtain ⟨w, m, -, -, -, hfold, -⟩ := Delta.addTo_eq_ok_iff.1 hdue
  exact hfold

/-- units of a fixed length are exact but for what the offset changes by -/
theorem Adds.elapsed (h : p.Adds base due) (hcheck : p.check = .ok (i, n)) (hi : i ≠ .months) (haware : base.isAware = true) :
    ∃ before after, base.offset? = some before ∧ due.offset? = some after ∧
      ∃ start stop, base.instant? = some start ∧ due.instant? = some stop ∧
        stop - start = n * i.ticks + before - after := by
  obtain ⟨before, hbefore⟩ := DateTime.exists_offset_of_isAware haware
  obtain ⟨after, hafter⟩ := DateTime.exists_offset_of_isAware (d := due) (by rwa [DateTime.isAware, h.zone_eq])
  have hticks := h.ticks_eq hcheck hi
  refine ⟨before, after, hbefore, hafter, _, _, DateTime.instant?_eq hbefore, DateTime.instant?_eq hafter, ?_⟩
  push_cast [hticks]
  ring

/-- **Minutes and hours are exact, unless the clock changes.** Added to a date with a zone, a period of minutes or hours
moves the wall clock by its length and clears the fold. The time that passes is that length, and what the offset of the date
is ahead of that of the sum. So it is exactly that length if the two have one offset; else the zone is a region whose clock
is changed between them. -/
theorem addTo_elapsed (hunit : p.unit? = some i) (hi : i = .minutes ∨ i = .hours) (hduration : p.duration? = some n)
    (haware : base.isAware = true) (errorFor : Text → Violation) (field : Option Text)
    (h : p.addTo (some base) errorFor field = .ok (.ok due)) :
    due.zone = base.zone ∧ due.wall.ticks = base.wall.ticks + n * i.ticks ∧ due.fold = false ∧
      ∃ before after, base.offset? = some before ∧ due.offset? = some after ∧
        ∃ start stop, base.instant? = some start ∧ due.instant? = some stop ∧
          (stop - start = n * i.ticks ↔ before = after) ∧
          stop - start = n * i.ticks + before - after ∧
          (before ≠ after →
            ∃ r c, base.zone = some (.region r) ∧ c ∈ r.clock.changes ∧ c.Between base.wall due.wall) := by
  have hcheck : p.check = .ok (i, n) := check_eq_ok_iff.2 ⟨hunit, hduration⟩
  have hmonths : i ≠ .months := by rcases hi with rfl | rfl <;> decide
  have hadds : p.Adds base due := (addTo_some_eq_ok errorFor field).1 h
  have hticks := hadds.ticks_eq hcheck hmonths
  obtain ⟨before, after, hbefore, hafter, start, stop, hstart, hstop, helapsed⟩ := hadds.elapsed hcheck hmonths haware
  refine ⟨hadds.zone_eq, hticks, hadds.fold_eq, before, after, hbefore, hafter, start, stop, hstart, hstop, ?_, helapsed,
    fun hne => ?_⟩
  · omega
  · exact DateTime.exists_between_of_offset_ne hadds.zone_eq.symm (by omega) hbefore hafter hne

/-- a time of the day in October 2023 on which the clock in Berlin is put back -/
def fallBackDay (time : TimeOfDay) (fold : Bool) : DateTime :=
  ⟨.of ⟨2023, 10, 29, by decide⟩ time, some (.region .berlin), fold⟩

/-- two hours after half past one: the clock shows half past three, when three hours have passed -/
theorem addTo_elapsed_october :
    let twoHours := Period.of .hours 2
    let base := fallBackDay ⟨90 * ticksPerMinute, by decide⟩ false
    let due := fallBackDay ⟨210 * ticksPerMinute, by decide⟩ false
    twoHours.unit? = some .hours ∧ twoHours.duration? = some 2 ∧ base.isAware = true ∧
      twoHours.addTo (some base) ({ message := · }) = .ok (.ok due) ∧
      ∃ start stop, base.instant? = some start ∧ due.instant? = some stop ∧ stop - start = 3 * ticksPerHour := by
  intro twoHours base due
  have hunit : twoHours.unit? = some .hours := by decide +kernel
  have hduration : twoHours.duration? = some 2 := by decide
  have hdue : twoHours.addTo (some base) ({ message := · }) = .ok (.ok due) := by decide +kernel
  obtain ⟨-, -, -, before, after, hbefore, hafter, start, stop, hstart, hstop, -, helapsed, -⟩ :=
    addTo_elapsed hunit (.inr rfl) hduration rfl _ none hdue
  have hsummer : base.offset? = some (2 * ticksPerHour : Int) := by decide +kernel
  have hstandard : due.offset? = some (ticksPerHour : Int) := by decide +kernel
  cases hsummer.symm.trans hbefore
  cases hstandard.symm.trans hafter
  exact ⟨hunit, hduration, rfl, hdue, start, stop, hstart, hstop, helapsed⟩

/-- **A few minutes later may be earlier.** The clock in Berlin shows ten past two for the second time. Ten minutes after
that it is twenty past two for the second time, but the sum is the first time that the clock shows it, which is past. -/
theorem minutes_backwards_october :
    let tenMinutes := Period.of .minutes 10
    let base := fallBackDay ⟨130 * ticksPerMinute, by decide⟩ true
    let due := fallBackDay ⟨140 * ticksPerMinute, by decide⟩ false
    tenMinutes.unit? = some .minutes ∧ tenMinutes.duration? = some 10 ∧ base.isAware = true ∧
      tenMinutes.addTo (some base) ({ message := · }) = .ok (.ok due) ∧
      ∃ start stop, base.instant? = some start ∧ due.instant? = some stop ∧
        stop - start ≠ 10 * ticksPerMinute ∧ stop < start := by
  exact ⟨by decide +kernel, by decide, rfl, by decide +kernel, _, _, rfl, rfl, by decide +kernel, by decide +kernel⟩

end Period

end Lending
