/-
Renewals and the time that they give.

A renewal that succeeds takes the loan to a date that is later than its due date, as dates are compared, and dates of one
zone are compared by their wall clocks. `renew_later`: the renewal gives the borrower more time exactly if the new date is
not set back. `renew_october_earlier` is a renewal that gives less.
-/
import Lending.Proofs.LoanPolicy.RenewalRun
import Lending.Proofs.Time.SetBack

namespace Lending.LoanPolicy

variable {p : LoanPolicy} {l l' : Loan} {old due : DateTime}

/-- a date that lengthens a loan has a zone, as the due date of the loan has one -/
theorem isAware_of_lengthenedBy (h : l.LengthenedBy due) (hold : l.dueDate = some old) :
    due.isAware = true := by
  obtain ⟨i, j, hkeys, -⟩ := DateTime.before_eq_ok.1 (h old hold)
  rw [← DateTime.isAware_eq_of_keys hkeys]
  exact l.dueDateZoned old hold

/-- **A renewal gives more time, unless the clock is set back.** The due date of a loan that was renewed is later than the
old one, as dates are compared. It is at a later instant exactly if it is not set back: if it is in another zone, or lies
further from the old one on the clock than their offsets do. Where it is set back, the clock skips the old due date or the
new one, or shows it twice. -/
theorem renew_later (p : LoanPolicy) (l : Loan) (systemDate : Option DateTime) (hold : l.dueDate = some old)
    (hok : (p.renew l systemDate).value = .ok l') :
    ∃ due, l'.dueDate = some due ∧ old.Before due ∧ (old.EarlierInstant due ↔ ¬ DateTime.SetBack old due) ∧
      (DateTime.SetBack old due → old.AtClockChange ∨ due.AtClockChange) := by
  have hrenewal : p.renewal l (systemDate.map DateTime.ensureAware) = .ok (.ok l') := Outcome.settle_eq_ok.1 hok
  obtain ⟨-, -, due, -, hlong, -, rfl⟩ := renewal_eq_ok.1 hrenewal
  have hlater : old.Before due := hlong old hold
  have hdue : (l.renew due p.id).dueDate = some due := by
    rw [l.renew_eq (isAware_of_lengthenedBy hlong hold)]
    rfl
  exact ⟨due, hdue, hlater, DateTime.earlierInstant_iff (l.dueDateZoned old hold) hlater,
    fun hback => hback.atClockChange hlater⟩

/-- what a clock in Berlin shows some minutes after midnight on the day in October 2024 on which it is put back -/
def octoberClock (minutes : Fin 1440) : DateTime := berlinClock ⟨2024, 10, 27, by decide⟩ minutes

/-- a loan that is due at half past two in the morning, the second time that the clock shows it -/
def octoberLoan : Loan := marchLoan.withDueDate (some { octoberClock ⟨150, by decide⟩ with fold := true })

/-- a renewal to a quarter to four, which is later in time as well -/
theorem renew_october_later :
    let old : DateTime := { octoberClock 150 with fold := true }
    let l' := octoberLoan.renew (octoberClock 225) (some "policy-1")
    octoberLoan.dueDate = some old ∧
      (oneDayPolicy.unlimited.renew octoberLoan (some (berlinClock ⟨2024, 10, 26, by decide⟩ 225))).value = .ok l' ∧
      ∃ due, l'.dueDate = some due ∧ old.EarlierInstant due := by
  intro old l'
  have hold : octoberLoan.dueDate = some old := rfl
  have hok : (oneDayPolicy.unlimited.renew octoberLoan (some (berlinClock ⟨2024, 10, 26, by decide⟩ 225))).value =
      .ok l' := by decide +kernel
  obtain ⟨due, hdue, -, hiff, -⟩ := renew_later oneDayPolicy.unlimited octoberLoan _ hold hok
  have hnew : octoberClock 225 = due := Option.some.inj hdue
  refine ⟨hold, hok, due, hdue, hiff.2 fun hback => ?_⟩
  obtain ⟨o, p, ho, hp, hwithin⟩ := hback.within
  have hstandard : old.offset? = some (ticksPerHour : Int) := by decide +kernel
  have hstandard' : due.offset? = some (ticksPerHour : Int) := by
    rw [← hnew]
    decide +kernel
  cases hstandard.symm.trans ho
  cases hstandard'.symm.trans hp
  rw [← hnew] at hwithin
  exact absurd hwithin (by decide +kernel)

/-- a renewal to twenty to three, the first time that the clock shows it: fifty minutes less than the borrower had -/
theorem renew_october_earlier :
    let old : DateTime := { octoberClock 150 with fold := true }
    let l' := octoberLoan.renew (octoberClock 160) (some "policy-1")
    octoberLoan.dueDate = some old ∧
      (oneDayPolicy.unlimited.renew octoberLoan (some (berlinClock ⟨2024, 10, 26, by decide⟩ 160))).value = .ok l' ∧
      l'.dueDate = some (octoberClock 160) ∧ (octoberClock 160).EarlierInstant old := by
  refine ⟨rfl, by decide +kernel, rfl, _, _, rfl, rfl, by decide +kernel⟩

end Lending.LoanPolicy
