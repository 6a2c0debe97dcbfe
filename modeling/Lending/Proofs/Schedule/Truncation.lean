/-
Truncation to the first range that contains a date.

What a schedule makes of a due date goes by the first range that contains the date of reference, and by no other: the
ranges after it play no part (`firstDue_append_congr`), nor do ranges that do not contain the date, wherever they stand
(`firstDue_append_of_not_contains`). The due date comes out no later than it went in and no later than that of the range
(`earlierOf_notAfter`). `truncate_first_match` puts these together for dates of any zones.
-/
import Lending.Proofs.Schedule.Governing

namespace Lending

variable {d : DateTime}

/-! ## Ranges -/

theorem ScheduleRange.contains_eq_true_iff {r : ScheduleRange} : r.contains d = .ok true ↔ r.Contains d := by
  constructor
  · intro h
    exact of_decide_eq_true (contains_eq h).symm
  · rintro ⟨hstart, hstop⟩
    rw [contains, hstart, ok_bind, if_pos rfl]
    exact hstop

/-- between dates with a zone, the earlier one is after neither -/
theorem earlierOf_notAfter {limit due : DateTime} (hlimit : limit.isAware = true) (hdue : due.isAware = true) :
    (earlierOf limit due).NotAfter limit ∧ (earlierOf limit due).NotAfter due := by
  unfold earlierOf
  by_cases h : limit.Before due
  · rw [if_pos h]
    exact ⟨limit.notAfter_refl, h.notAfter⟩
  · rw [if_neg h]
    refine ⟨DateTime.before_eq_false_iff.1 ?_, due.notAfter_refl⟩
    rw [DateTime.before_eq hlimit hdue, decide_eq_false h]

namespace Schedule

variable {id name : Option Text} {earlier later ranges ranges' : List ScheduleRange} {r : ScheduleRange}
  {due : DateTime} {outside : Violation}

/-! ## The first range -/

theorem firstDue_cons_of_contains (h : r.Contains d) (later : List ScheduleRange) :
    firstDue (r :: later) d = .ok (some r.due) := by
  rw [firstDue, ScheduleRange.contains_eq_true_iff.2 h]
  rfl

/-- ranges that do not contain a date leave the search to those after them -/
theorem firstDue_append_of_not_contains (h : ∀ e ∈ earlier, e.contains d = .ok false) (later : List ScheduleRange) :
    firstDue (earlier ++ later) d = firstDue later d := by
  induction earlier with
  | nil => rfl
  | cons e earlier ih =>
    obtain ⟨he, hrest⟩ := List.forall_mem_cons.1 h
    rw [List.cons_append, firstDue, he]
    exact ih hrest

/-- a search goes on alike where it goes on over ranges that are searched alike -/
theorem firstDue_append_congr (earlier : List ScheduleRange) (h : firstDue ranges d = firstDue ranges' d) :
    firstDue (earlier ++ ranges) d = firstDue (earlier ++ ranges') d := by
  induction earlier with
  | nil => exact h
  | cons e earlier ih => rw [List.cons_append, List.cons_append, firstDue, firstDue, ih]

/-- a range of a list that contains a date, with no range before it that does -/
structure FirstContains (ranges : List ScheduleRange) (d : DateTime) (earlier : List ScheduleRange) (r : ScheduleRange)
    (later : List ScheduleRange) : Prop where
  split : ranges = earlier ++ r :: later
  notEarlier : ∀ e ∈ earlier, ¬ e.Contains d
  contains : r.Contains d

theorem governing?_eq_some_iff :
    (configured id name ranges).governing? d = some r ↔ ∃ earlier later, FirstContains ranges d earlier r later := by
  simp only [governing?, Schedule.ranges, List.find?_eq_some_iff_append, decide_eq_true_eq, Bool.not_eq_true',
    decide_eq_false_iff_not]
  constructor
  · rintro ⟨hr, earlier, later, hsplit, hearlier⟩
    exact ⟨earlier, later, hsplit, hearlier, hr⟩
  · rintro ⟨earlier, later, hsplit, hearlier, hr⟩
    exact ⟨hr, earlier, later, hsplit, hearlier⟩

theorem governing?_eq_none_iff :
    (configured id name ranges).governing? d = none ↔ ∀ r ∈ ranges, ¬ r.Contains d := by
  simp [governing?, Schedule.ranges]

/-! ## Truncation -/

theorem truncate_congr (h : firstDue ranges d = firstDue ranges' d) :
    (configured id name ranges).truncate due (some d) outside =
      (configured id name ranges').truncate due (some d) outside := by
  simp only [truncate, dueFor, Schedule.ranges, h]

variable {s : Schedule}

/-- a date that a range governs becomes the earlier of the due dates -/
theorem Aware.truncate_of_governing (hs : s.Aware) (hdue : due.isAware = true) (hd : d.isAware = true)
    (h : s.governing? d = some r) : s.truncate due (some d) outside = .ok (.ok (earlierOf r.due due)) := by
  have hconfigured : s.isConfigured = true := by
    by_contra hnot
    rw [governing?_unconfigured (Bool.eq_false_iff.2 hnot)] at h
    cases h
  obtain ⟨o, ho⟩ := hs.exists_truncate hdue hd outside
  rw [ho, truncate_eq hconfigured ho, h]

/-- a date that no range governs is refused -/
theorem Aware.truncate_of_ungoverned (hs : s.Aware) (hconfigured : s.isConfigured = true) (hdue : due.isAware = true)
    (hd : d.isAware = true) (h : s.governing? d = none) :
    s.truncate due (some d) outside = .ok (.violation outside) := by
  obtain ⟨o, ho⟩ := hs.exists_truncate hdue hd outside
  rw [ho, truncate_eq hconfigured ho, h]

/-- **Truncation is a minimum with the first range that contains the date of reference.** The dates of a configured
schedule have a zone, which need not be the same for all. A due date is refused, with the one violation that is given,
exactly if no range contains the date of reference, both ends being outside. Otherwise the first such range decides: if it
is due earlier, its due date counts, and else the due date stays. The result is not after either. Ranges after the first
one change nothing, nor do ranges anywhere that do not contain the date. No schedule at all leaves a due date as it is. -/
theorem truncate_first_match (id name : Option Text) (ranges : List ScheduleRange)
    (hs : (configured id name ranges).Aware) (due d : DateTime) (hdue : due.isAware = true) (hd : d.isAware = true)
    (outside : Violation) :
    let truncated (ranges : List ScheduleRange) := (configured id name ranges).truncate due (some d) outside
    (truncated ranges = .ok (.violation outside) ↔ ∀ r ∈ ranges, ¬ (r.start.Before d ∧ d.Before r.stop)) ∧
    (truncated ranges = .ok (.violation outside) ∨ ∃ earlier r later, FirstContains ranges d earlier r later) ∧
    (∀ earlier r later, FirstContains ranges d earlier r later → ∃ result, truncated ranges = .ok (.ok result) ∧
      (r.due.Before due → result = r.due) ∧ (¬ r.due.Before due → result = due) ∧
      result.NotAfter r.due ∧ result.NotAfter due ∧
      ∀ later', truncated (earlier ++ r :: later') = truncated ranges) ∧
    (∀ earlier later, ranges = earlier ++ later → ∀ new : List ScheduleRange, (∀ r ∈ new, r.contains d = .ok false) →
      truncated (earlier ++ (new ++ later)) = truncated ranges) ∧
    ∀ reference, unconfigured.truncate due reference outside = .ok (.ok due) := by
  intro truncated
  have hfails : truncated ranges = .ok (.violation outside) ↔ (configured id name ranges).governing? d = none := by
    cases hr : (configured id name ranges).governing? d with
    | none => exact iff_of_true (hs.truncate_of_ungoverned rfl hdue hd hr) rfl
    | some r =>
      have hvalue : truncated ranges = .ok (.ok (earlierOf r.due due)) := hs.truncate_of_governing hdue hd hr
      simp [hvalue]
  refine ⟨hfails.trans governing?_eq_none_iff, ?_, ?_, ?_, fun reference => rfl⟩
  · rw [hfails]
    cases hr : (configured id name ranges).governing? d with
    | none => exact .inl rfl
    | some r =>
      obtain ⟨earlier, later, hfirst⟩ := governing?_eq_some_iff.1 hr
      exact .inr ⟨earlier, r, later, hfirst⟩
  · intro earlier r later hfirst
    have hr : (configured id name ranges).governing? d = some r := governing?_eq_some_iff.2 ⟨earlier, later, hfirst⟩
    have hlimit : r.due.isAware = true := (hs r (governing?_eq_some hr).1).2.2
    obtain ⟨hle, hle'⟩ := earlierOf_notAfter hlimit hdue
    refine ⟨earlierOf r.due due, hs.truncate_of_governing hdue hd hr, fun h => if_pos h, fun h => if_neg h, hle, hle',
      fun later' => ?_⟩
    rw [hfirst.split]
    apply truncate_congr
    apply firstDue_append_congr
    rw [firstDue_cons_of_contains hfirst.contains, firstDue_cons_of_contains hfirst.contains]
  · rintro earlier later rfl new hnew
    apply truncate_congr
    apply firstDue_append_congr
    exact firstDue_append_of_not_contains hnew later

/-- the midnight with which a day begins in a region -/
def midnightIn (region : Region) (year month day : Nat) (h : IsDay year month day := by decide) : DateTime :=
  { DateTime.utcDay year month day h with zone := some (.region region) }

/-- ranges of 2025: two that end or start at the midnight of March 10th, and two around it -/
def rangesOf2025 : List ScheduleRange :=
  [⟨.utcDay 2025 1 1, midnightIn .gmt 2025 3 10, .utcDay 2025 3 12⟩,
    ⟨midnightIn .universal 2025 3 10, .utcDay 2025 6 1, .utcDay 2025 3 12⟩,
    ⟨midnightIn .newYork 2025 1 1, midnightIn .sydney 2025 12 31, midnightIn .tokyo 2025 4 1⟩,
    ⟨.utcDay 2025 3 9, .utcDay 2025 3 11, .utcDay 2025 3 12⟩]

/-- a due date of April 1st comes out as the midnight of that day in Tokyo: the ranges that only touch the date of
reference do not count, nor does the one that would be due earliest -/
theorem truncate_first_match_march :
    (configured none none rangesOf2025).Aware ∧
      (configured none none rangesOf2025).truncate (.utcDay 2025 4 1) (some (.utcDay 2025 3 10)) { message := "closed" } =
        .ok (.ok (midnightIn .tokyo 2025 4 1)) := by
  have hs : (configured none none rangesOf2025).Aware := by decide +kernel
  obtain ⟨-, -, hmatch, -⟩ := truncate_first_match none none rangesOf2025 hs (.utcDay 2025 4 1) (.utcDay 2025 3 10) rfl
    rfl { message := "closed" }
  obtain ⟨result, hresult, hlimit, -⟩ := hmatch (rangesOf2025.take 2) _ (rangesOf2025.drop 3)
    ⟨rfl, by decide +kernel, by decide +kernel⟩
  rw [hlimit (by decide +kernel)] at hresult
  exact ⟨hs, hresult⟩

end Schedule

end Lending
