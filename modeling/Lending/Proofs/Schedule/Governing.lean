/-
Which range of a schedule governs a date.

It is the first one that contains the date (`governing?`). Unless the dates of a schedule have no order with a date, the
schedule gives the due date of that range (`dueFor_eq`), and truncates another due date to it (`truncate_eq`). No
truncated date is after the one that the schedule gives (`truncate_notAfter`).
-/
import Lending.Proofs.Arithmetic

namespace Lending

/-- whether a date is known to lie between the ends of a range -/
def ScheduleRange.Contains (r : ScheduleRange) (d : DateTime) : Prop := r.start.Before d ∧ d.Before r.stop

instance (r : ScheduleRange) (d : DateTime) : Decidable (r.Contains d) := by
  unfold ScheduleRange.Contains
  infer_instance

theorem ScheduleRange.contains_eq {r : ScheduleRange} {d : DateTime} {inside : Bool} (h : r.contains d = .ok inside) :
    inside = decide (r.Contains d) := by
  simp only [contains, bind_eq_ok] at h
  obtain ⟨begun, hbegun, h⟩ := h
  cases begun with
  | false =>
    cases h
    simp [Contains, DateTime.Before, hbegun]
  | true =>
    rw [if_pos rfl] at h
    simp [Contains, DateTime.Before, hbegun, h]

/-- the earlier of a date that limits another and the other -/
def earlierOf (limit due : DateTime) : DateTime := if limit.Before due then limit else due

/-- of two dates in UTC the earlier one -/
theorem DateTime.InUtc.earlierOf_ticks {limit due : DateTime} (hl : limit.InUtc) (hd : due.InUtc) :
    (earlierOf limit due).InUtc ∧ (earlierOf limit due).wall.ticks = min limit.wall.ticks due.wall.ticks := by
  unfold earlierOf
  by_cases h : limit.Before due
  · rw [if_pos h]
    have := (hl.before_iff hd).1 h
    exact ⟨hl, by omega⟩
  · rw [if_neg h]
    rw [hl.before_iff hd] at h
    exact ⟨hd, by omega⟩

namespace Schedule

/-- the first range, in the order of the schedule, that contains a date -/
def governing? (s : Schedule) (d : DateTime) : Option ScheduleRange := s.ranges.find? fun r => r.Contains d

variable {s : Schedule} {d due : DateTime} {reference : Option DateTime} {outside : Violation}

theorem governing?_eq_some {r : ScheduleRange} (h : s.governing? d = some r) : r ∈ s.ranges ∧ r.Contains d :=
  ⟨List.mem_of_find?_eq_some h, by simpa using List.find?_some h⟩

theorem governing?_unconfigured (hs : s.isConfigured = false) : s.governing? d = none := by
  cases s with
  | unconfigured => rfl
  | configured id name ranges => cases hs

theorem firstDue_eq {rs : List ScheduleRange} {found : Option DateTime} (h : firstDue rs d = .ok found) :
    found = (rs.find? fun r => r.Contains d).map (·.due) := by
  induction rs with
  | nil =>
    cases h
    rfl
  | cons r rs ih =>
    simp only [firstDue, bind_eq_ok] at h
    obtain ⟨inside, hinside, h⟩ := h
    rw [ScheduleRange.contains_eq hinside] at h
    by_cases hr : r.Contains d
    · simp only [hr, decide_true, if_true, pure_eq_ok] at h
      simp [hr, h]
    · simp only [hr, decide_false, Bool.false_eq_true, if_false] at h
      simp [hr, ih h]

/-- **The first range governs.** A schedule that can be asked about a date gives the due date of the first range that
contains the date. -/
theorem dueFor_eq {found : Option DateTime} (h : s.dueFor (some d) = .ok found) :
    found = (s.governing? d).map (·.due) :=
  firstDue_eq h

theorem dueFor_unconfigured (d : Option DateTime) : unconfigured.dueFor d = .ok none := by
  cases d <;> rfl

/-! ## Truncation -/

/-- without a schedule a due date stays as it is -/
theorem truncate_unconfigured (hs : s.isConfigured = false) : s.truncate due reference outside = .ok (.ok due) := by
  cases s with
  | unconfigured => rfl
  | configured id name ranges => cases hs

/-- a schedule truncates a due date to that of the range that governs the date of reference, if there is one -/
theorem truncate_eq {o : Outcome DateTime} (hs : s.isConfigured = true)
    (h : s.truncate due (some d) outside = .ok o) :
    o = match s.governing? d with
      | some r => .ok (earlierOf r.due due)
      | none => .violation outside := by
  cases s with
  | unconfigured => cases hs
  | configured id name ranges =>
    simp only [truncate, bind_eq_ok] at h
    obtain ⟨found, hfound, h⟩ := h
    rw [dueFor_eq hfound] at h
    cases hr : (configured id name ranges).governing? d with
    | none =>
      rw [hr] at h
      cases h
      rfl
    | some r =>
      rw [hr] at h
      simp only [Option.map_some, bind_eq_ok, pure_eq_ok] at h
      obtain ⟨earlier, hearlier, rfl⟩ := h
      cases earlier <;> simp [earlierOf, DateTime.Before, hearlier]

/-- **No later than the limit.** A truncated date is not after the one that the schedule gives; only without a schedule
there is none. Comparing the two has shown their order, so no zone is asked for. -/
theorem truncate_notAfter {due' : DateTime} (h : s.truncate due reference outside = .ok (.ok due')) :
    s = unconfigured ∨ ∃ limit, s.dueFor reference = .ok (some limit) ∧ due'.NotAfter limit := by
  cases s with
  | unconfigured => exact .inl rfl
  | configured id name ranges =>
    simp only [truncate, bind_eq_ok] at h
    obtain ⟨found, hfound, h⟩ := h
    cases found with
    | none => cases h
    | some limit =>
      simp only [bind_eq_ok, pure_eq_ok, Outcome.ok.injEq] at h
      obtain ⟨earlier, hearlier, rfl⟩ := h
      refine .inr ⟨limit, hfound, ?_⟩
      cases earlier with
      | true => exact DateTime.notAfter_refl limit
      | false => exact DateTime.before_eq_false_iff.1 hearlier

/-- what a date with a zone is truncated to has a zone, or the two could not be compared -/
theorem truncate_isAware {due' : DateTime} (hdue : due.isAware = true)
    (h : s.truncate due reference outside = .ok (.ok due')) : due'.isAware = true := by
  cases s with
  | unconfigured =>
    cases h
    exact hdue
  | configured id name ranges =>
    simp only [truncate, bind_eq_ok] at h
    obtain ⟨found, -, h⟩ := h
    cases found with
    | none => cases h
    | some limit =>
      simp only [bind_eq_ok, pure_eq_ok, Outcome.ok.injEq] at h
      obtain ⟨earlier, hearlier, rfl⟩ := h
      obtain ⟨i, j, hkeys, -⟩ := DateTime.before_eq_ok.1 hearlier
      cases earlier with
      | true => exact (DateTime.isAware_eq_of_keys hkeys).trans hdue
      | false => exact hdue

end Schedule

end Lending
