/-
What a schedule gives.

A due date that a schedule gives is that of one of its ranges (`dueFor_mem`), so it has a zone where all dates of the
schedule have one.
-/
import Lending.Schedule
import Lending.Proofs.Time.Order

namespace Lending.Schedule

/-- whether every date of a schedule has a zone -/
def Aware (s : Schedule) : Prop :=
  ∀ r ∈ s.ranges, r.start.isAware = true ∧ r.stop.isAware = true ∧ r.due.isAware = true

instance (s : Schedule) : Decidable s.Aware := by unfold Aware; infer_instance

/-- the schedule with its due dates bare of a zone -/
def withBareDueDates (s : Schedule) : Schedule :=
  s.withRanges (s.ranges.map fun r => { r with due := { r.due with zone := none } })

theorem firstDue_mem {rs : List ScheduleRange} {d due : DateTime} (h : firstDue rs d = .ok (some due)) :
    ∃ r ∈ rs, r.due = due := by
  induction rs with
  | nil => simp [firstDue] at h
  | cons r rs ih =>
    simp only [firstDue, bind_eq_ok] at h
    obtain ⟨inside, -, h⟩ := h
    split at h
    · exact ⟨r, List.mem_cons_self, by simpa [pure_eq_ok] using h⟩
    · obtain ⟨r', hr', hdue⟩ := ih h
      exact ⟨r', List.mem_cons_of_mem r hr', hdue⟩

theorem dueFor_mem {s : Schedule} {d : Option DateTime} {due : DateTime} (h : s.dueFor d = .ok (some due)) :
    ∃ r ∈ s.ranges, r.due = due := by
  cases d with
  | none =>
    simp only [dueFor] at h
    split at h <;> cases h
  | some d => exact firstDue_mem h

theorem Aware.dueFor {s : Schedule} (hs : s.Aware) {d : Option DateTime} {due : DateTime}
    (h : s.dueFor d = .ok (some due)) : due.isAware = true := by
  obtain ⟨r, hr, rfl⟩ := dueFor_mem h
  exact (hs r hr).2.2

/-- a truncated date is the date itself or one that the schedule gives -/
theorem truncate_eq_ok {s : Schedule} {due d : DateTime} {reference : Option DateTime} {outside : Violation}
    (h : s.truncate due reference outside = .ok (.ok d)) : d = due ∨ s.dueFor reference = .ok (some d) := by
  cases s with
  | unconfigured =>
    simp only [truncate, Except.ok.injEq, Outcome.ok.injEq] at h
    exact .inl h.symm
  | configured id name ranges =>
    simp only [truncate, bind_eq_ok] at h
    obtain ⟨limit, hlimit, h⟩ := h
    cases limit with
    | none => simp at h
    | some limit =>
      simp only [bind_eq_ok, pure_eq_ok, Outcome.ok.injEq] at h
      obtain ⟨earlier, -, rfl⟩ := h
      cases earlier
      · exact .inl rfl
      · exact .inr hlimit

theorem Aware.truncate {s : Schedule} (hs : s.Aware) {due d : DateTime} (hdue : due.isAware = true)
    {reference : Option DateTime} {outside : Violation} (h : s.truncate due reference outside = .ok (.ok d)) :
    d.isAware = true := by
  rcases truncate_eq_ok h with rfl | hd
  · exact hdue
  · exact hs.dueFor hd

/-- a date that the schedule does not truncate lies outside its ranges -/
theorem truncate_eq_failed {s : Schedule} {due : DateTime} {reference : Option DateTime} {outside : Violation}
    {c : Cause} (h : s.truncate due reference outside = .ok (.failed c)) : c = .violations [outside] := by
  cases s with
  | unconfigured => simp [Schedule.truncate] at h
  | configured id name ranges =>
    simp only [Schedule.truncate, bind_eq_ok] at h
    obtain ⟨limit, -, h⟩ := h
    cases limit with
    | none =>
      simp only [pure_eq_ok, Outcome.violation_eq_failed, Outcome.failed.injEq] at h
      exact h.symm
    | some limit =>
      simp only [bind_eq_ok, pure_eq_ok] at h
      obtain ⟨earlier, -, h⟩ := h
      cases h

/-! ## Documents -/

theorem aware_unconfigured : Aware unconfigured := List.forall_mem_nil _

/-- read in a zone, a schedule has no date without one -/
theorem aware_inZone (s : Schedule) (z : Zone) : (s.inZone z).Aware := by
  cases s with
  | unconfigured => exact aware_unconfigured
  | configured id name rs =>
    exact List.forall_mem_map.2 fun r _ =>
      ⟨r.start.isAware_ensureAware z, r.stop.isAware_ensureAware z, r.due.isAware_ensureAware z⟩

theorem ofDocument_aware {v : Value} {z : Zone} {s : Schedule} (h : ofDocument v z = .ok s) : s.Aware := by
  unfold ofDocument at h
  split at h
  · cases h
    exact aware_unconfigured
  · obtain ⟨raw, -, rfl⟩ := map_eq_ok.1 h
    exact raw.aware_inZone z

end Lending.Schedule
