/-
How a recall is decided.

A recall needs two dates, each a configured period after another date. `recallDate_cases` says what comes of one period: its
date, or the objection to it. From the two the recall follows: a bad period refuses it, with the objection to the return
interval before the one to the guarantee, and otherwise the loan falls due on the later of the two dates (`callBack_decides`).
As neither date depends on what a recall changes, a second recall at the same time changes nothing.
-/
import Lending.Proofs.LoanPolicy.PeriodErrors

namespace Lending.LoanPolicy

variable {p : LoanPolicy} {l l' : Loan} {now : DateTime} {period : Option Period} {field : String}
  {base default found : Option DateTime} {es : List Violation}

/-! ## One period -/

/-- whether a period is configured and cannot be used -/
def IsBad (period : Option Period) : Prop := ∃ q, period = some q ∧ ¬ q.IsUsable

/-- whether there is a date a period after another, if the period is configured and can be used -/
def Reaches (period : Option Period) (base : Option DateTime) : Prop :=
  ∀ q, period = some q → q.IsUsable → ∃ d due, base = some d ∧ q.Adds d due

/-- the date of a period that may be configured: so much after another date, or else the given one -/
inductive Dates (base default : Option DateTime) : Option Period → Option DateTime → Prop
  | unconfigured : Dates base default none default
  | configured {q : Period} {d due : DateTime} : base = some d → q.Adds d due → Dates base default (some q) (some due)

/-- the objections to a period that may be configured: to a bad one there is one, which names its field -/
inductive Objects (p : LoanPolicy) (field : String) : Option Period → List Violation → Prop
  | unconfigured : Objects p field none []
  | usable {q : Period} : q.IsUsable → Objects p field (some q) []
  | bad {q : Period} {problem : PeriodProblem} {message : Text} :
    q.check = .error problem → problem.message (some field) = .ok message →
    Objects p field (some q) [(p.violation message).asConfiguration]

/-- whether a period is bad and a number in its duration is too long to be written out -/
def IsUnwritable (period : Option Period) : Prop :=
  ∃ q, period = some q ∧ ¬ q.IsUsable ∧ q.duration.holdsLongNumber = true

theorem recallDate_eq_ok_iff :
    p.recallDate period field base default = .ok (.ok found) ↔ Dates base default period found := by
  rw [recallDate_eq_ok]
  constructor
  · rintro (⟨rfl, rfl⟩ | ⟨q, due, rfl, hdue, rfl⟩)
    · exact .unconfigured
    · obtain ⟨i, n, span, d, hcheck, hspan, hbase, hsum⟩ := Period.addTo_eq_ok.1 hdue
      exact .configured hbase ⟨i, n, span, hcheck, hspan, hsum⟩
  · rintro (_ | ⟨rfl, hdue⟩)
    · exact .inl ⟨rfl, rfl⟩
    · exact .inr ⟨_, _, rfl, (Period.addTo_some_eq_ok _ _).2 hdue, rfl⟩

theorem Dates.reaches (h : Dates base default period found) : Reaches period base := by
  rintro q hq -
  cases h with
  | unconfigured => cases hq
  | configured hbase hdue =>
    cases hq
    exact ⟨_, _, hbase, hdue⟩

/-- there is a date unless the period is bad -/
theorem exists_dates_iff (h : Reaches period base) : (∃ found, Dates base default period found) ↔ ¬ IsBad period := by
  constructor
  · rintro ⟨found, hfound⟩ ⟨q, rfl, hbad⟩
    cases hfound with
    | configured _ hdue =>
      obtain ⟨i, n, -, hcheck, -⟩ := hdue
      exact hbad (Period.isUsable_iff.2 ⟨(i, n), hcheck⟩)
  · intro hnot
    cases period with
    | none => exact ⟨default, .unconfigured⟩
    | some q =>
      have husable : q.IsUsable := by
        by_contra hbad
        exact hnot ⟨q, rfl, hbad⟩
      obtain ⟨d, due, hbase, hdue⟩ := h q rfl husable
      exact ⟨some due, .configured hbase hdue⟩

theorem Objects.eq_nil_iff (h : p.Objects field period es) : es = [] ↔ ¬ IsBad period := by
  cases h with
  | unconfigured => exact iff_of_true rfl nofun
  | usable husable =>
    refine iff_of_true rfl ?_
    rintro ⟨q, ⟨⟩, hbad⟩
    exact hbad husable
  | bad hcheck => exact iff_of_false (List.cons_ne_nil _ _) (not_not_intro ⟨_, rfl, Period.not_isUsable hcheck⟩)

/-- what comes of a period: its date or the objections to it, or no wording for what is wrong with it -/
theorem recallDate_cases (default : Option DateTime) (h : Reaches period base) :
    (∃ es o, p.Objects field period es ∧ p.recallDate period field base default = .ok o ∧ o.errors = es) ∨
      IsUnwritable period ∧ p.recallDate period field base default = .error .numberTooLong := by
  cases period with
  | none => exact .inl ⟨[], .ok default, .unconfigured, rfl, rfl⟩
  | some q =>
    by_cases husable : q.IsUsable
    · obtain ⟨d, due, hbase, hdue⟩ := h q rfl husable
      exact .inl ⟨[], .ok (some due), .usable husable, recallDate_eq_ok_iff.2 (.configured hbase hdue), rfl⟩
    · obtain ⟨problem, hcheck⟩ := Period.exists_problem husable
      rcases problem.message_cases (some field) with ⟨message, hmessage⟩ | ⟨value, rfl, hlong, hmessage⟩
      · refine .inl ⟨_, .violation (p.violation message).asConfiguration, .bad hcheck hmessage, ?_, rfl⟩
        exact Outcome.andThen_eq_failed.2 (.inl (Period.addTo_eq_failed.2 ⟨problem, message, hcheck, hmessage, rfl⟩))
      · refine .inr ⟨⟨q, rfl, husable, ?_⟩, ?_⟩
        · rw [← Period.eq_duration_of_check hcheck]
          exact hlong
        · simp [recallDate, Period.addTo, hcheck, hmessage, Outcome.andThen]

theorem Dates.zoned (h : Dates base default period found) (hbase : Zoned base) (hdefault : Zoned default) : Zoned found := by
  cases h with
  | unconfigured => exact hdefault
  | configured hd hdue =>
    refine zoned_some ?_
    rw [DateTime.isAware, hdue.zone_eq]
    exact hbase _ hd

/-! ## A recall -/

/-- a recall succeeds with the two dates of its periods, and sets the due date to the later one -/
theorem callingBack_eq_ok_iff (hnow : now.isAware = true) :
    p.callingBack l (some now) = .ok (.ok l') ↔
      ∃ g wanted, Dates l.loanDate none p.minimumGuaranteedPeriod g ∧
        Dates (some now) (some now) p.recallReturnInterval (some wanted) ∧ l' = l.callBack (some (laterOf g wanted)) := by
  rw [callingBack_eq_ok]
  constructor
  · rintro ⟨g, w, due, hg, hw, hdue, rfl⟩
    obtain ⟨wanted, rfl⟩ := returnDate_isSome hw
    have hg := recallDate_eq_ok_iff.1 hg
    have hw := recallDate_eq_ok_iff.1 hw
    have haware : wanted.isAware = true := hw.zoned (zoned_some hnow) (zoned_some hnow) wanted rfl
    rw [laterDate_eq (hg.zoned l.loanDateZoned zoned_none) haware] at hdue
    cases hdue
    exact ⟨g, wanted, hg, hw, rfl⟩
  · rintro ⟨g, wanted, hg, hw, rfl⟩
    have haware : wanted.isAware = true := hw.zoned (zoned_some hnow) (zoned_some hnow) wanted rfl
    exact ⟨g, some wanted, _, recallDate_eq_ok_iff.2 hg, recallDate_eq_ok_iff.2 hw,
      laterDate_eq (hg.zoned l.loanDateZoned zoned_none) haware, rfl⟩

theorem callBack_value (p : LoanPolicy) (l : Loan) (systemDate : DateTime) :
    (p.callBack l (some systemDate)).value = Outcome.settle (p.callingBack l (some systemDate.ensureAware)) := rfl

/-- a recall succeeds unless one of its periods is bad -/
theorem callBack_isOk_iff (systemDate : DateTime) (hg : Reaches p.minimumGuaranteedPeriod l.loanDate)
    (hr : Reaches p.recallReturnInterval (some systemDate.ensureAware)) :
    (p.callBack l (some systemDate)).value.isOk = true ↔
      ¬ IsBad p.recallReturnInterval ∧ ¬ IsBad p.minimumGuaranteedPeriod := by
  rw [callBack_value, Outcome.settle_isOk_iff, ← exists_dates_iff hr, ← exists_dates_iff hg]
  simp only [callingBack_eq_ok_iff (systemDate.isAware_ensureAware _)]
  constructor
  · rintro ⟨-, g, wanted, hguarantee, hwanted, -⟩
    exact ⟨⟨some wanted, hwanted⟩, g, hguarantee⟩
  · rintro ⟨⟨w, hwanted⟩, g, hguarantee⟩
    obtain ⟨wanted, rfl⟩ := returnDate_isSome (recallDate_eq_ok_iff.2 hwanted)
    exact ⟨_, g, wanted, hguarantee, hwanted, rfl⟩

/-- a bad period refuses a recall, with the objection to the return interval before the one to the guarantee -/
theorem callBack_refused (systemDate : DateTime) (hg : Reaches p.minimumGuaranteedPeriod l.loanDate)
    (hr : Reaches p.recallReturnInterval (some systemDate.ensureAware))
    (hbad : IsBad p.recallReturnInterval ∨ IsBad p.minimumGuaranteedPeriod) :
    (∃ es es', p.Objects recallReturnField p.recallReturnInterval es ∧
      p.Objects minimumGuaranteedField p.minimumGuaranteedPeriod es' ∧
      (p.callBack l (some systemDate)).value = .failed (.violations (es ++ es'))) ∨
    ((IsUnwritable p.recallReturnInterval ∨ IsUnwritable p.minimumGuaranteedPeriod) ∧
      (p.callBack l (some systemDate)).value = .failed (.serverError Fault.numberTooLong.report)) := by
  rw [callBack_value, callingBack, guaranteedDate, returnDate]
  rcases recallDate_cases none hg with ⟨es', o', hobjects', hdate', rfl⟩ | ⟨hlong, hdate'⟩
  · rw [hdate', ok_bind]
    rcases recallDate_cases (some systemDate.ensureAware) hr with ⟨es, o, hobjects, hdate, rfl⟩ | ⟨hlong, hdate⟩
    · refine .inl ⟨_, _, hobjects, hobjects', ?_⟩
      have hne : o.errors ++ o'.errors ≠ [] := by
        rw [Ne, List.append_eq_nil_iff, hobjects.eq_nil_iff, hobjects'.eq_nil_iff]
        tauto
      rw [hdate, ok_bind]
      simp [hne]
    · rw [hdate]
      exact .inr ⟨.inl hlong, rfl⟩
  · rw [hdate']
    exact .inr ⟨.inr hlong, rfl⟩

/-- a loan called back for a date: the due date, the note of what was done last and the mark of a recall are set, and nothing
else is changed -/
structure CalledBack (l l' : Loan) (due : DateTime) : Prop where
  dueDate_eq : l'.dueDate = some due
  action_eq : l'.action = some "recallrequested"
  changedByRecall : l'.dueDateChangedByRecall = true
  rest_eq :
    { l' with
      dueDate := l.dueDate, dueDateZoned := l.dueDateZoned, action := l.action
      dueDateChangedByRecall := l.dueDateChangedByRecall } = l

theorem calledBack_callBack (l : Loan) {due : DateTime} (h : due.isAware = true) :
    CalledBack l (l.callBack (some due)) due where
  dueDate_eq := congrArg some (DateTime.ensureAware_of_isAware h .utc)
  action_eq := rfl
  changedByRecall := rfl
  rest_eq := rfl

/-- **How a recall is decided.** Wherever the periods of a recall that can be used reach a date, the recall fails exactly if
one of its two periods is bad. Then it fails with the objections to them, the one to the return interval first, unless a
number in the bad duration is too long to be written out. Otherwise the loan falls due on the later of the guaranteed date
and the date of return: on the latter unless there is a guaranteed date that is not before it. Nothing else of the loan
changes but the marks of a recall, and a second recall at the same time leaves the loan as it is. -/
theorem callBack_decides (p : LoanPolicy) (l : Loan) (systemDate : DateTime)
    (hg : Reaches p.minimumGuaranteedPeriod l.loanDate)
    (hr : Reaches p.recallReturnInterval (some systemDate.ensureAware)) :
    ((p.callBack l (some systemDate)).value.isOk = false ↔
      IsBad p.recallReturnInterval ∨ IsBad p.minimumGuaranteedPeriod) ∧
    (IsBad p.recallReturnInterval ∨ IsBad p.minimumGuaranteedPeriod →
      (∃ es es', p.Objects recallReturnField p.recallReturnInterval es ∧
        p.Objects minimumGuaranteedField p.minimumGuaranteedPeriod es' ∧
        (p.callBack l (some systemDate)).value = .failed (.violations (es ++ es'))) ∨
      ((IsUnwritable p.recallReturnInterval ∨ IsUnwritable p.minimumGuaranteedPeriod) ∧
        (p.callBack l (some systemDate)).value = .failed (.serverError Fault.numberTooLong.report))) ∧
    ∀ l', (p.callBack l (some systemDate)).value = .ok l' →
      ∃ g wanted due, Dates l.loanDate none p.minimumGuaranteedPeriod g ∧
        Dates (some systemDate.ensureAware) (some systemDate.ensureAware) p.recallReturnInterval (some wanted) ∧
        due = laterOf g wanted ∧ (∀ d, g = some d → d.NotAfter due) ∧ wanted.NotAfter due ∧ CalledBack l l' due ∧
        (p.callBack l' (some systemDate)).value = .ok l' := by
  have hnow : systemDate.ensureAware.isAware = true := systemDate.isAware_ensureAware _
  refine ⟨?_, callBack_refused systemDate hg hr, fun l' hok => ?_⟩
  · rw [← Bool.not_eq_true, callBack_isOk_iff systemDate hg hr]
    tauto
  · rw [callBack_value, Outcome.settle_eq_ok, callingBack_eq_ok_iff hnow] at hok
    obtain ⟨g, wanted, hguarantee, hwanted, rfl⟩ := hok
    have hzoned : Zoned g := hguarantee.zoned l.loanDateZoned zoned_none
    have haware : wanted.isAware = true := hwanted.zoned (zoned_some hnow) (zoned_some hnow) wanted rfl
    refine ⟨g, wanted, _, hguarantee, hwanted, rfl, notAfter_laterOf, second_notAfter_laterOf hzoned haware,
      calledBack_callBack l (laterOf_isAware hzoned haware), ?_⟩
    -- the loan that was called back has the same date of lending, so the same two dates come out
    rw [callBack_value, Outcome.settle_eq_ok, callingBack_eq_ok_iff hnow]
    exact ⟨g, wanted, hguarantee, hwanted, rfl⟩

/-- a policy that guarantees ten days and wants recalled items back within a week -/
def tenDaysPolicy : LoanPolicy := { weekBackPolicy with minimumGuaranteedPeriod := some (.of .days 10) }

/-- recalled on its second day, a loan falls due when the ten days are over, also if it is recalled again -/
theorem callBack_decides_tenDays :
    let now := DateTime.utcDay 2024 3 2
    let l' := marchLoan.callBack (some (.utcDay 2024 3 11))
    Reaches tenDaysPolicy.minimumGuaranteedPeriod marchLoan.loanDate ∧
      Reaches tenDaysPolicy.recallReturnInterval (some now.ensureAware) ∧
      (tenDaysPolicy.callBack marchLoan (some now)).value = .ok l' ∧
      (∃ due, CalledBack marchLoan l' due ∧ (DateTime.utcDay 2024 3 9).NotAfter due) ∧
      (tenDaysPolicy.callBack l' (some now)).value = .ok l' := by
  intro now l'
  have hguarantee : tenDaysPolicy.guaranteedDate marchLoan = .ok (.ok (some (.utcDay 2024 3 11))) := by decide +kernel
  have hreturn : tenDaysPolicy.returnDate (some now) = .ok (.ok (some (.utcDay 2024 3 9))) := by decide +kernel
  have hg : Reaches tenDaysPolicy.minimumGuaranteedPeriod marchLoan.loanDate :=
    (recallDate_eq_ok_iff.1 hguarantee).reaches
  have hr : Reaches tenDaysPolicy.recallReturnInterval (some now.ensureAware) := (recallDate_eq_ok_iff.1 hreturn).reaches
  have hok : (tenDaysPolicy.callBack marchLoan (some now)).value = .ok l' := by decide +kernel
  obtain ⟨-, -, hcalled⟩ := callBack_decides tenDaysPolicy marchLoan now hg hr
  obtain ⟨g, wanted, due, -, hwanted, -, -, hle, hdue, hagain⟩ := hcalled l' hok
  have hdate : tenDaysPolicy.returnDate (some now) = .ok (.ok (some wanted)) := recallDate_eq_ok_iff.2 hwanted
  cases hreturn.symm.trans hdate
  exact ⟨hg, hr, hok, ⟨due, hdue, hle⟩, hagain⟩

/-- of two bad periods the return interval is told of first -/
example :
    let bad : LoanPolicy :=
      { weekBackPolicy with
        minimumGuaranteedPeriod := some {}, recallReturnInterval := some ⟨.int 3, some "Fortnights"⟩ }
    (bad.callBack marchLoan (some (.utcDay 2024 3 2))).value.errors.map (·.message) =
      [Text.ofString "the interval \"Fortnights\" in \"recallReturnInterval\" is not recognized",
        Text.ofString "the \"minimumGuaranteedLoanPeriod\" in the loan policy is not recognized"] := by
  decide +kernel

end Lending.LoanPolicy
