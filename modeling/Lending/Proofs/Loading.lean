/-
What becomes of a schedule that a loaded policy refers to.

`load_eq_ok` says what a load that succeeds has read and attached. A schedule that is missing is left out, which a fixed
policy reports at every check-out without a waiting hold; where a period is taken it goes unnoticed, and the loan is
due when the period alone says (`load_missing_violation_iff`).
-/
import Lending.Loading
import Lending.Proofs.LoanPolicy.InitialDueDate

namespace Lending

instance : LawfulMonad Logged :=
  LawfulMonad.mk' Logged (fun x => by simp [Functor.map]) (fun _ _ => rfl) (fun _ _ _ => by simp [bind])

/-! ## Loads that succeed -/

namespace Loading

variable {α β : Type}

/-! What a load comes to does not depend on what it logs. -/

theorem value_bind (x : Loading α) (f : α → Loading β) :
    (x >>= f).run.value = x.run.value >>= fun a => (f a).run.value := by
  obtain ⟨value, events⟩ := x
  cases value <;> rfl

theorem value_lift (x : Logged α) : (ExceptT.lift x : Loading α).run.value = .ok x.value := rfl

theorem value_ofFault (x : Except Fault α) : (ofFault x).run.value = x.mapError .fault := by
  cases x <;> rfl

theorem value_ofReading (source : Text) (r : Reading α) :
    (ofReading source r).run.value = r.toExcept.mapError (.unparsed source) := by
  unfold ofReading
  cases r.toExcept <;> rfl

theorem value_foldlM (f : β → α → Loading β) (as : List α) (b : β) :
    (as.foldlM f b).run.value = as.foldlM (fun b a => (f b a).run.value) b := by
  induction as generalizing b with
  | nil => rfl
  | cons a as ih =>
    rw [List.foldlM_cons, List.foldlM_cons, value_bind]
    exact congrArg _ (funext fun b => ih b)

theorem value_mapM (f : α → Loading β) (as : List α) :
    (as.mapM f).run.value = as.mapM fun a => (f a).run.value := by
  induction as with
  | nil => rfl
  | cons a as ih =>
    rw [List.mapM_cons, List.mapM_cons, value_bind]
    refine congrArg _ (funext fun b => ?_)
    rw [value_bind, ih]
    rfl

theorem bind_eq_ok {x : Loading α} {f : α → Loading β} {b : β} :
    (x >>= f).run.value = .ok b ↔ ∃ a, x.run.value = .ok a ∧ (f a).run.value = .ok b := by
  rw [value_bind, Lending.bind_eq_ok]

theorem pure_eq_ok {a b : α} : (pure a : Loading α).run.value = .ok b ↔ a = b :=
  ⟨Except.ok.inj, congrArg Except.ok⟩

theorem ofFault_eq_ok {x : Except Fault α} {a : α} : (ofFault x).run.value = .ok a ↔ x = .ok a := by
  cases x with
  | ok b => exact pure_eq_ok.trans ⟨congrArg Except.ok, Except.ok.inj⟩
  | error f => constructor <;> intro h <;> cases h

theorem ofReading_eq_ok {source : Text} {r : Reading α} {a : α} :
    (ofReading source r).run.value = .ok a ↔ r.toExcept = .ok a := by
  unfold ofReading
  cases r.toExcept with
  | ok b => exact pure_eq_ok.trans ⟨congrArg Except.ok, Except.ok.inj⟩
  | error problems => constructor <;> intro h <;> cases h

end Loading

namespace LoanPolicy

variable {settings : Settings} {schedules : List (Text × Schedule)} {source : Text} {v : Value} {p : LoanPolicy}
  {l : Loan} {q : Option Queue} {period : Period}

/-- the schedule that a policy gets for a reference: none for a reference that is empty or finds nothing -/
def attached (schedules : List (Text × Schedule)) (id : Option Text) : Schedule :=
  match id with
  | none => .unconfigured
  | some id => if id.isEmpty then .unconfigured else (schedules.lookup id).getD .unconfigured

/-- a reference is always resolved -/
theorem value_scheduleFor (id : Option Text) :
    (scheduleFor schedules source id).run.value = .ok (attached schedules id) := by
  unfold scheduleFor attached
  cases id with
  | none => rfl
  | some id =>
    dsimp only
    split_ifs
    · rfl
    · cases schedules.lookup id <;> rfl

theorem scheduleFor_eq_ok {id : Option Text} {s : Schedule}
    (h : (scheduleFor schedules source id).run.value = .ok s) : s = attached schedules id :=
  Except.ok.inj (h.symm.trans (value_scheduleFor id))

/-- **What a load has made its policy of.** A load that succeeds has read the document, and its policy is that of the
document and of the schedules found for its two references. -/
theorem load_eq_ok (h : (load settings schedules source v).run.value = .ok p) :
    ∃ doc, (LoanPolicyDocument.read v).toExcept = .ok doc ∧
      ofDocument doc (attached schedules (doc.loans.bind (·.scheduleId)))
        (attached schedules doc.renewals.alternateScheduleId) = .ok p := by
  simp only [load, Loading.bind_eq_ok, Loading.ofReading_eq_ok, Loading.ofFault_eq_ok, Loading.pure_eq_ok] at h
  obtain ⟨-, -, doc, hdoc, checkout, hcheckout, renewal, hrenewal, p', hp, -, -, rfl⟩ := h
  rw [scheduleFor_eq_ok hcheckout, scheduleFor_eq_ok hrenewal] at hp
  exact ⟨doc, hdoc, hp⟩

/-! ## References that find nothing -/

/-- whether a loan policy document refers, for its check-outs, to a schedule that is not at hand -/
def RefersToMissing (schedules : List (Text × Schedule)) (v : Value) : Prop :=
  ∃ doc id, (LoanPolicyDocument.read v).toExcept = .ok doc ∧ doc.loans.bind (·.scheduleId) = some id ∧
    id.isEmpty = false ∧ schedules.lookup id = none

theorem attached_missing {id : Text} (h : schedules.lookup id = none) :
    attached schedules (some id) = .unconfigured := by
  simp [attached, h]

/-- a policy whose document refers to a missing schedule has none for check-outs -/
theorem RefersToMissing.checkoutSchedule_eq (hv : RefersToMissing schedules v)
    (h : (load settings schedules source v).run.value = .ok p) : p.checkoutSchedule = .unconfigured := by
  obtain ⟨doc, id, hdoc, hid, -, hmissing⟩ := hv
  obtain ⟨doc', hdoc', hp⟩ := load_eq_ok h
  rw [hdoc] at hdoc'
  cases hdoc'
  rw [(ofDocument_schedules hp).1, hid, attached_missing hmissing]

/-- without a schedule, a period taken gives the due date alone -/
theorem TakesPeriod.initialDueDate_unconfigured (h : p.TakesPeriod q period)
    (hs : p.checkoutSchedule = .unconfigured) : p.initialDueDate l q = period.addTo l.loanDate p.violation := by
  rw [h.initialDueDate_eq, hs]
  rcases period.addTo l.loanDate p.violation with f | due | c <;> rfl

/-- without a schedule, a check-out that takes no period is refused -/
theorem initialDueDate_unconfigured_refused (hs : p.checkoutSchedule = .unconfigured)
    (hnone : ∀ period, ¬ p.TakesPeriod q period) : ∃ v, p.initialDueDate l q = .ok (.violation v) := by
  rcases p.checkOut_cases q with h | ⟨h, hprofile⟩ | ⟨h, hnot⟩ | ⟨period, hperiod⟩
  · exact ⟨_, initialDueDate_noProfile h⟩
  · exact ⟨_, initialDueDate_unknownProfile h hprofile⟩
  · refine ⟨p.violation DueDateRule.checkOutOutsideSchedule, ?_⟩
    rw [initialDueDate_scheduled h hnot, hs, DueDateRule.scheduledDue, Schedule.dueFor_unconfigured]
    rfl
  · exact absurd hperiod (hnone period)

/-- **When a missing schedule is reported.** A policy is loaded from a document that refers to a schedule not at hand. A
check-out under it is refused by a rule exactly if it takes no period or its period is refused. Where a period is taken
(under a rolling policy, or a fixed one if a hold waits) the missing schedule plays no part, and the loan falls due when
the period alone says. -/
theorem load_missing_violation_iff (settings : Settings) (schedules : List (Text × Schedule)) (source : Text)
    (v : Value) (p : LoanPolicy) (hload : (load settings schedules source v).run.value = .ok p)
    (hv : RefersToMissing schedules v) (l : Loan) (q : Option Queue) :
    let result := (p.calculateInitialDueDate l q).value
    ((∃ refused, result = .violation refused) ↔ ∀ period, p.TakesPeriod q period →
      ∃ refused, period.addTo l.loanDate p.violation = .ok (.violation refused)) ∧
    ∀ period, p.TakesPeriod q period → result = Outcome.settle (period.addTo l.loanDate p.violation) := by
  intro result
  have hs := hv.checkoutSchedule_eq hload
  have hresult : result = Outcome.settle (p.initialDueDate l q) := rfl
  have htakes : ∀ period, p.TakesPeriod q period → result = Outcome.settle (period.addTo l.loanDate p.violation) :=
    fun period hperiod => by rw [hresult, hperiod.initialDueDate_unconfigured hs]
  refine ⟨⟨?_, fun hall => ?_⟩, htakes⟩
  · rintro ⟨refused, hrefused⟩ period hperiod
    rw [htakes period hperiod] at hrefused
    exact ⟨refused, Outcome.settle_eq_violations.1 hrefused⟩
  · by_cases hperiod : ∃ period, p.TakesPeriod q period
    · obtain ⟨period, hperiod⟩ := hperiod
      obtain ⟨refused, hrefused⟩ := hall period hperiod
      exact ⟨refused, by rw [htakes period hperiod, hrefused, Outcome.settle_ok]⟩
    · obtain ⟨refused, hrefused⟩ := initialDueDate_unconfigured_refused hs (not_exists.1 hperiod)
      exact ⟨refused, by rw [hresult, hrefused, Outcome.settle_ok]⟩

/-- a document for loans of two weeks, or by a schedule, that refers to a schedule -/
def semesterDocument (profile : Text) : Value :=
  .mapping [(.text "id", .text "policy-1"), (.text "name", .text "Semester loans"), (.text "loanable", .bool true),
    (.text "loansPolicy", .mapping [(.text "profileId", .text profile),
      (.text "period", .mapping [(.text "duration", .int 14), (.text "intervalId", .text "Days")]),
      (.text "fixedDueDateScheduleId", .text "schedule-9")])]

/-- the policy of such a document, loaded where there is no schedule -/
def semesterPolicy (profile : Text) : LoanPolicy :=
  { id := some "policy-1", name := some "Semester loans", loanable := true, profileId := some profile,
    checkoutPeriod := .of .days 14, checkoutScheduleId := some "schedule-9" }

theorem refersToMissing_semesterDocument (profile : Text) : RefersToMissing [] (semesterDocument profile) :=
  ⟨_, "schedule-9", rfl, rfl, rfl, rfl⟩

/-- a fixed policy reports the schedule that it lacks -/
theorem load_fixed_semester :
    RefersToMissing [] (semesterDocument "Fixed") ∧
      (load {} [] memorySource (semesterDocument "Fixed")).run.value = .ok (semesterPolicy "Fixed") ∧
      ∃ refused, ((semesterPolicy "Fixed").calculateInitialDueDate januaryLoan none).value = .violation refused := by
  have hv := refersToMissing_semesterDocument "Fixed"
  have hload : (load {} [] memorySource (semesterDocument "Fixed")).run.value = .ok (semesterPolicy "Fixed") := rfl
  obtain ⟨h, -⟩ := load_missing_violation_iff {} [] memorySource (semesterDocument "Fixed") _ hload hv januaryLoan none
  refine ⟨hv, hload, h.2 fun period hperiod => ?_⟩
  cases hperiod with
  | usual hr _ => exact absurd hr (by decide)
  | alternate _ hwaits _ => exact absurd rfl hwaits.1

/-- a rolling policy lends for its period as if it referred to no schedule -/
theorem load_rolling_semester :
    RefersToMissing [] (semesterDocument "Rolling") ∧
      (load { strict := true } [] memorySource (semesterDocument "Rolling")).run.value = .ok (semesterPolicy "Rolling") ∧
      ((semesterPolicy "Rolling").calculateInitialDueDate januaryLoan none).value = .ok (.utcDay 2024 1 24) :=
  ⟨refersToMissing_semesterDocument "Rolling", rfl, by decide +kernel⟩

end LoanPolicy

end Lending
