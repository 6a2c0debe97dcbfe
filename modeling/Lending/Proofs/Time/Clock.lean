/-
Readings of a clock and the changes between them.

The offsets of two readings differ only if the clock was changed between them (`Clock.exists_between`). From one reading to
a later one a clock is put forward by less than the two are apart, if it skips neither and shows neither twice
(`Clock.offset_sub_lt`): so time passes between them. The first holds of changes in any order, the second needs that none
begins before the one before it is over.
-/
import Mathlib.Tactic
import Lending.Time.Region

namespace Lending

namespace ClockChange

variable {c : ClockChange} {v w : Wall} {fold : Bool}

/-- whether a change has begun by the later of two readings and is not over by the earlier -/
def Between (c : ClockChange) (v w : Wall) : Prop := c.start ≤ w.ticks ∧ v.ticks < c.stop

theorem isPassed_of_stop_le (h : c.stop ≤ w.ticks) : c.isPassed w fold = true := by
  have hle := c.start_le_stop
  cases fold <;> simp [isPassed] <;> omega

theorem isPassed_of_lt_start (h : w.ticks < c.start) : c.isPassed w fold = false := by
  have hle := c.start_le_stop
  cases fold <;> simp [isPassed] <;> omega

/-- a change puts a clock forward by no more than the readings that it skips or shows twice -/
theorem forward_le (c : ClockChange) : c.forward ≤ c.stop - c.start := by
  simp only [start, stop]
  omega

end ClockChange

variable {a b : Int} {c : ClockChange} {cs : List ClockChange} {v w : Wall} {fold fold' : Bool}

theorem forwardAt_cons_of_passed (h : c.isPassed w fold = true) :
    forwardAt (c :: cs) w fold = c.forward + forwardAt cs w fold := by
  simp only [forwardAt, List.takeWhile_cons, h, if_true, List.foldr_cons]

theorem forwardAt_cons_of_not_passed (h : c.isPassed w fold = false) : forwardAt (c :: cs) w fold = 0 := by
  simp only [forwardAt, List.takeWhile_cons, h, Bool.false_eq_true, if_false, List.foldr_nil]

theorem forwardAt_eq_zero (h : InOrder a cs b) (hw : w.ticks < a) : forwardAt cs w fold = 0 := by
  cases cs with
  | nil => rfl
  | cons c cs => exact forwardAt_cons_of_not_passed (c.isPassed_of_lt_start (hw.trans_le h.1))

/-! ## Changes between two readings -/

theorem forwardAt_congr (hle : v.ticks ≤ w.ticks) (h : ∀ c ∈ cs, ¬ c.Between v w) :
    forwardAt cs v fold = forwardAt cs w fold' := by
  induction cs with
  | nil => rfl
  | cons c cs ih =>
    have hc : ¬ (c.start ≤ w.ticks ∧ v.ticks < c.stop) := h c List.mem_cons_self
    by_cases hw : w.ticks < c.start
    · rw [forwardAt_cons_of_not_passed (c.isPassed_of_lt_start (by omega)),
        forwardAt_cons_of_not_passed (c.isPassed_of_lt_start hw)]
    · rw [forwardAt_cons_of_passed (c.isPassed_of_stop_le (by omega)),
        forwardAt_cons_of_passed (c.isPassed_of_stop_le (by omega)), ih fun c hc => h c (List.mem_cons_of_mem _ hc)]

/-- **Where offsets differ, the clock was changed.** -/
theorem Clock.exists_between (clock : Clock) (hle : v.ticks ≤ w.ticks) (hne : clock.offset v fold ≠ clock.offset w fold') :
    ∃ c ∈ clock.changes, c.Between v w := by
  by_contra hnone
  have hsame : forwardAt clock.changes v fold = forwardAt clock.changes w fold' :=
    forwardAt_congr hle fun c hc hbetween => hnone ⟨c, hc, hbetween⟩
  exact hne (congrArg (clock.first + ·) hsame)

/-! ## Readings that are shown once -/

/-- whether a clock shows a reading once, as far as some changes go: the fold makes no difference -/
def ShownOnce (cs : List ClockChange) (w : Wall) : Prop := forwardAt cs w false = forwardAt cs w true

/-- a reading that a clock shows once comes before its first change, or after it and is shown once among the others -/
theorem ShownOnce.cons (horder : InOrder c.stop cs b) (h : ShownOnce (c :: cs) w) :
    w.ticks < c.start ∨ c.stop ≤ w.ticks ∧ ShownOnce cs w := by
  by_cases hstart : w.ticks < c.start
  · exact .inl hstart
  · refine .inr ?_
    by_cases hstop : c.stop ≤ w.ticks
    · refine ⟨hstop, ?_⟩
      unfold ShownOnce at h
      rw [forwardAt_cons_of_passed (c.isPassed_of_stop_le hstop),
        forwardAt_cons_of_passed (c.isPassed_of_stop_le hstop)] at h
      exact Int.add_left_cancel h
    · -- within the change, only the fold is past it
      have hbefore : c.isPassed w false = false := by simpa [ClockChange.isPassed] using hstop
      have hafter : c.isPassed w true = true := by simpa [ClockChange.isPassed] using hstart
      rw [ShownOnce, forwardAt_cons_of_not_passed hbefore, forwardAt_cons_of_passed hafter,
        forwardAt_eq_zero horder (not_le.1 hstop)] at h
      simp only [ClockChange.start, ClockChange.stop] at hstart hstop
      omega

/-- a clock is put forward by no more than it has gone on since its changes began -/
theorem forwardAt_le (horder : InOrder a cs b) (ha : a ≤ w.ticks) (h : ShownOnce cs w) (fold : Bool) :
    forwardAt cs w fold ≤ w.ticks - a := by
  induction cs generalizing a with
  | nil => simpa [forwardAt] using ha
  | cons c cs ih =>
    obtain ⟨hfirst, hrest⟩ := horder
    rcases h.cons hrest with hbefore | ⟨hpast, honce⟩
    · rw [forwardAt_cons_of_not_passed (c.isPassed_of_lt_start hbefore)]
      omega
    · have hlater := ih hrest hpast honce
      have hforward := c.forward_le
      rw [forwardAt_cons_of_passed (c.isPassed_of_stop_le hpast)]
      omega

theorem forwardAt_sub_lt (horder : InOrder a cs b) (hlt : v.ticks < w.ticks) (hv : ShownOnce cs v) (hw : ShownOnce cs w)
    (fold fold' : Bool) :
    forwardAt cs w fold' - forwardAt cs v fold < w.ticks - v.ticks := by
  induction cs generalizing a with
  | nil => simpa [forwardAt] using hlt
  | cons c cs ih =>
    obtain ⟨-, hrest⟩ := horder
    rcases hv.cons hrest with hbefore | ⟨hpast, honce⟩
    · rw [forwardAt_cons_of_not_passed (c.isPassed_of_lt_start hbefore)]
      by_cases hstart : c.start ≤ w.ticks
      · have hchanges : InOrder c.start (c :: cs) b := ⟨le_rfl, hrest⟩
        have hforward := forwardAt_le hchanges hstart hw fold'
        omega
      · rw [forwardAt_cons_of_not_passed (c.isPassed_of_lt_start (not_le.1 hstart))]
        omega
    · have hstop : c.stop ≤ w.ticks := hpast.trans (by omega)
      rcases hw.cons hrest with hbefore | ⟨-, honce'⟩
      · exact absurd (hbefore.trans_le c.start_le_stop) (not_lt.2 hstop)
      · have hlater := ih hrest honce honce'
        rw [forwardAt_cons_of_passed (c.isPassed_of_stop_le hpast), forwardAt_cons_of_passed (c.isPassed_of_stop_le hstop)]
        omega

/-- **Time passes between readings that are shown once.** Their offsets are closer together than they are. -/
theorem Clock.offset_sub_lt (clock : Clock) (hlt : v.ticks < w.ticks)
    (hv : clock.offset v false = clock.offset v true) (hw : clock.offset w false = clock.offset w true)
    (fold fold' : Bool) :
    clock.offset w fold' - clock.offset v fold < w.ticks - v.ticks := by
  have hforward := forwardAt_sub_lt clock.inOrder hlt (Int.add_left_cancel hv) (Int.add_left_cancel hw) fold fold'
  simp only [offset]
  omega

end Lending
