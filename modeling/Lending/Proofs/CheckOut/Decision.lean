/-
How a check-out is decided.

An item that awaits pickup by another patron is refused, whatever else holds (`AwaitsOther`). After that a missing policy
counts, then a policy that does not lend, and then what stands against the first due date. `Decides` has a row for each,
and one for the loan that is made, with the records of lending that are logged. `checkOut_decides`: a check-out comes to
the one row that applies, and hands nothing out that another patron is to pick up.
-/
import Lending.Proofs.CheckOut
import Lending.Proofs.LoanPolicy.Faults

namespace Lending

/-- whether some request, wherever in the queue, awaits pickup by someone other than a patron -/
def Queue.AwaitsOther (q : Queue) (patron : Patron) : Prop :=
  ∃ r ∈ q.requests, r.status = .openAwaitingPickup ∧ r.requesterId ≠ patron.id

theorem Queue.awaitsOther_iff {q : Queue} {patron : Patron} :
    q.awaitsOther (some patron.id) = true ↔ q.AwaitsOther patron := by
  simp [Queue.awaitsOther, AwaitsOther]

theorem Queue.awaitsOther_eq_false_iff {q : Queue} {patron : Patron} :
    q.awaitsOther (some patron.id) = false ↔ ¬ q.AwaitsOther patron := by
  rw [← Queue.awaitsOther_iff, Bool.not_eq_true]

/-- whether a record says that an item was lent -/
def Event.isCheckedOut : Event → Bool
  | checkedOut _ _ _ _ => true
  | _ => false

/-! ## Refused due dates -/

namespace LoanPolicy

variable {p : LoanPolicy} {l : Loan} {q : Option Queue} {cause : Cause}

/-- what stands against the first due date of a loan is one violation, which names the policy -/
theorem initialDueDate_eq_failed (h : p.initialDueDate l q = .ok (.failed cause)) :
    ∃ v, cause = .violations [v] ∧ v.parameters = (p.violation v.message).parameters := by
  unfold initialDueDate at h
  rcases p.checkOutRule_cases q with hrule | hrule | ⟨profileId, hrule⟩
  · rw [hrule] at h
    rcases Outcome.andThen_eq_failed.1 h with hadd | ⟨due, -, htruncate⟩
    · obtain ⟨problem, message, -, -, rfl⟩ := Period.addTo_eq_failed.1 hadd
      exact ⟨_, rfl, rfl⟩
    · exact ⟨_, Schedule.truncate_eq_failed htruncate, rfl⟩
  · rw [hrule] at h
    exact ⟨_, DueDateRule.scheduledDue_eq_failed h, rfl⟩
  · rw [hrule] at h
    cases h
    exact ⟨_, rfl, rfl⟩

/-- why there is no first due date: one violation that names the policy, or a fault -/
theorem calculateInitialDueDate_eq_failed (h : (p.calculateInitialDueDate l q).value = .failed cause) :
    (∃ v, cause = .violations [v] ∧ v.parameters = (p.violation v.message).parameters) ∨
      ∃ f : Fault, cause = .serverError f.report := by
  change Outcome.settle (p.initialDueDate l q) = .failed cause at h
  cases hdue : p.initialDueDate l q with
  | error f =>
    rw [hdue, Outcome.settle_error] at h
    cases h
    exact .inr ⟨f, rfl⟩
  | ok o =>
    rw [hdue, Outcome.settle_ok] at h
    exact .inl (initialDueDate_eq_failed (h ▸ hdue))

/-- a calculation records which rule was chosen, and perhaps a fault, but no loan -/
theorem filter_calculateInitialDueDate_events (p : LoanPolicy) (l : Loan) (q : Option Queue) :
    (p.calculateInitialDueDate l q).events.filter Event.isCheckedOut = [] := by
  unfold calculateInitialDueDate
  cases p.initialDueDate l q <;> rfl

end LoanPolicy

namespace CheckOut

/-! ## The table -/

/-- a check-out of an item to a patron -/
def toPatron (l : Loan) (item : Item) (patron : Patron) (q : Queue) (policy : Option LoanPolicy) : CheckOut :=
  { loan := some l, item := some item, patron := some patron, queue := q, policy }

/-- the refusal of an item that awaits pickup by another patron: both are named, the patron's barcode is a parameter -/
def pickupViolation (item : Item) (patron : Patron) : Violation where
  message := Event.shownText item.title ++ " (Barcode: " ++ Event.shownText item.barcode ++
    ") cannot be checked out to user " ++ patron.personalName ++ " because it is awaiting pickup by another patron"
  parameters := [("userBarcode", patron.barcode)]

/-- the loan handed out under a policy until a date, read as UTC if it has no zone; what is not named stays as it was -/
def lentUntil (l : Loan) (due : DateTime) (p : LoanPolicy) : Loan :=
  { l with
    dueDate := some due.ensureAware
    dueDateZoned := zoned_some (due.isAware_ensureAware _)
    loanPolicyId := p.id
    action := some "checkedout" }

/-- what a check-out comes to, with the records of lending that it logs -/
inductive Decides (l : Loan) (item : Item) (patron : Patron) (q : Queue) :
    Option LoanPolicy → Outcome CheckOut → List Event → Prop
  | awaitsOther {policy : Option LoanPolicy} :
    q.AwaitsOther patron → Decides l item patron q policy (.failed (.violations [pickupViolation item patron])) []
  | noPolicy :
    ¬ q.AwaitsOther patron →
    Decides l item patron q none (.failed (.serverError "No loan policy was resolved for check-out")) []
  | notLoanable {p : LoanPolicy} :
    ¬ q.AwaitsOther patron → p.loanable = false →
    Decides l item patron q (some p) (.failed (.violations [p.violation LoanPolicy.itemNotLoanable])) []
  | noDueDate {p : LoanPolicy} {cause : Cause} :
    ¬ q.AwaitsOther patron → p.loanable = true → (p.calculateInitialDueDate l (some q)).value = .failed cause →
    Decides l item patron q (some p) (.failed cause) []
  | lent {p : LoanPolicy} {due : DateTime} :
    ¬ q.AwaitsOther patron → p.loanable = true → (p.calculateInitialDueDate l (some q)).value = .ok due →
    Decides l item patron q (some p) (.ok (toPatron (lentUntil l due p) item patron q (some p)))
      [.checkedOut l.id l.itemId p.id due]

variable {c : CheckOut} {l : Loan} {item : Item} {patron : Patron} {q : Queue} {policy : Option LoanPolicy}
  {p : LoanPolicy} {due : DateTime} {cause : Cause} {o : Outcome CheckOut} {handOuts : List Event}

/-! ## The steps -/

theorem checkPickup_awaitsOther (h : q.AwaitsOther patron) :
    (toPatron l item patron q policy).checkPickup (toPatron l item patron q policy).patronRefusal =
      .ok (.failed (.violations [pickupViolation item patron])) :=
  (if_pos (Queue.awaitsOther_iff.2 h)).trans rfl

theorem checkPickup_free (h : ¬ q.AwaitsOther patron) (refusal : PickupRefusal) :
    (toPatron l item patron q policy).checkPickup refusal = .ok (.ok (toPatron l item patron q policy)) :=
  checkPickup_eq_ok.2 ⟨Queue.awaitsOther_eq_false_iff.2 h, rfl⟩

/-- what is left of a check-out for which nobody else waits -/
theorem checkOut_free (h : ¬ q.AwaitsOther patron) :
    (toPatron l item patron q policy).checkOut =
      match (toPatron l item patron q policy).lendingPolicy with
      | .failed cause => .ok (pure (.failed cause))
      | .ok p => .ok ((toPatron l item patron q policy).stamp p l) := by
  rw [checkOut, run, checkPickup_free h, ok_bind]
  dsimp only
  cases (toPatron l item patron q policy).lendingPolicy <;> rfl

/-- the policy of a check-out that may go on lends -/
theorem checkOut_lends (h : ¬ q.AwaitsOther patron) (hlends : p.loanable = true) :
    (toPatron l item patron q (some p)).checkOut = .ok ((toPatron l item patron q (some p)).stamp p l) := by
  have hpolicy : (toPatron l item patron q (some p)).lendingPolicy = .ok p := lendingPolicy_eq_ok.2 ⟨rfl, hlends⟩
  rw [checkOut_free h, hpolicy]

/-- without a due date, only the calculation is logged -/
theorem stamp_failed (h : (p.calculateInitialDueDate l (some c.queue)).value = .failed cause) :
    c.stamp p l = ⟨.failed cause, (p.calculateInitialDueDate l (some c.queue)).events⟩ := by
  simp only [stamp, bind, h, pure, List.append_nil]

/-- with one, the loan is logged behind the calculation -/
theorem stamp_ok (h : (p.calculateInitialDueDate l (some c.queue)).value = .ok due) :
    c.stamp p l = ⟨.ok { c with loan := some (l.checkOut due p.id) },
      (p.calculateInitialDueDate l (some c.queue)).events ++ [.checkedOut l.id l.itemId p.id due]⟩ := by
  simp only [stamp, bind, h, pure, Logged.log, List.append_nil]

/-! ## The whole -/

/-- a check-out comes to each row that applies -/
theorem Decides.checkOut (h : Decides l item patron q policy o handOuts) :
    ∃ checked, (toPatron l item patron q policy).checkOut = .ok checked ∧ checked.value = o ∧
      checked.events.filter Event.isCheckedOut = handOuts := by
  cases h with
  | awaitsOther hother =>
    refine ⟨⟨.failed (.violations [pickupViolation item patron]), []⟩, ?_, rfl, rfl⟩
    rw [CheckOut.checkOut, run, checkPickup_awaitsOther hother]
    rfl
  | noPolicy hfree => exact ⟨_, checkOut_free hfree, rfl, rfl⟩
  | @notLoanable p hfree hlends =>
    refine ⟨⟨.failed (.violations [p.violation LoanPolicy.itemNotLoanable]), []⟩, ?_, rfl, rfl⟩
    have hpolicy : (toPatron l item patron q (some p)).lendingPolicy =
        .failed (.violations [p.violation LoanPolicy.itemNotLoanable]) := by
      simp [lendingPolicy, toPatron, hlends]
    rw [checkOut_free hfree, hpolicy]
    rfl
  | @noDueDate p cause hfree hlends hdue =>
    have hstamp := stamp_failed (c := toPatron l item patron q (some p)) hdue
    refine ⟨_, checkOut_lends hfree hlends, by rw [hstamp], ?_⟩
    rw [hstamp]
    exact p.filter_calculateInitialDueDate_events l (some q)
  | @lent p due hfree hlends hdue =>
    have hstamp := stamp_ok (c := toPatron l item patron q (some p)) hdue
    refine ⟨_, checkOut_lends hfree hlends, by rw [hstamp]; rfl, ?_⟩
    rw [hstamp, List.filter_append]
    exact congrArg (· ++ _) (p.filter_calculateInitialDueDate_events l (some q))

/-- every check-out has a row -/
theorem exists_decides (l : Loan) (item : Item) (patron : Patron) (q : Queue) (policy : Option LoanPolicy) :
    ∃ o handOuts, Decides l item patron q policy o handOuts := by
  by_cases hother : q.AwaitsOther patron
  · exact ⟨_, _, .awaitsOther hother⟩
  · cases policy with
    | none => exact ⟨_, _, .noPolicy hother⟩
    | some p =>
      cases hlends : p.loanable with
      | false => exact ⟨_, _, .notLoanable hother hlends⟩
      | true =>
        cases hdue : (p.calculateInitialDueDate l (some q)).value with
        | failed cause => exact ⟨_, _, .noDueDate hother hlends hdue⟩
        | ok due => exact ⟨_, _, .lent hother hlends hdue⟩

/-- no other refusal names the patron's barcode -/
theorem Decides.awaitsOther_of_userBarcode {message : Text}
    (h : Decides l item patron q policy
      (.failed (.violations [⟨message, [("userBarcode", patron.barcode)], .rule⟩])) handOuts) :
    q.AwaitsOther patron := by
  cases h with
  | awaitsOther hother => exact hother
  | noDueDate _ _ hdue =>
    rcases LoanPolicy.calculateInitialDueDate_eq_failed hdue with ⟨v, hcause, hparameters⟩ | ⟨f, hcause⟩
    · cases hcause
      cases hparameters
    · cases hcause

/-- nothing is handed out that another patron is to pick up -/
theorem Decides.not_awaitsOther_of_ok {c' : CheckOut} (h : Decides l item patron q policy (.ok c') handOuts) :
    ¬ q.AwaitsOther patron := by
  cases h with
  | lent hfree _ _ => exact hfree

/-- **How a check-out is decided.** A check-out of an item to a patron always comes to a decision, and to the one row of
the table that applies, the records of lending included: one if it succeeds, and none otherwise. It is refused with the
patron's barcode exactly if the item awaits pickup by another patron, and then it never succeeds. -/
theorem checkOut_decides (l : Loan) (item : Item) (patron : Patron) (q : Queue) (policy : Option LoanPolicy) :
    ∃ checked, (toPatron l item patron q policy).checkOut = .ok checked ∧
      (∀ o handOuts, (checked.value = o ∧ checked.events.filter Event.isCheckedOut = handOuts) ↔
        Decides l item patron q policy o handOuts) ∧
      ((∃ message, checked.value = .failed (.violations [⟨message, [("userBarcode", patron.barcode)], .rule⟩])) ↔
        q.AwaitsOther patron) ∧
      ∀ c', checked.value = .ok c' →
        ∀ r ∈ q.requests, r.status = .openAwaitingPickup → r.requesterId = patron.id := by
  obtain ⟨o, handOuts, hrow⟩ := exists_decides l item patron q policy
  obtain ⟨checked, hchecked, rfl, rfl⟩ := hrow.checkOut
  refine ⟨checked, hchecked, fun o handOuts => ⟨?_, ?_⟩, ⟨?_, ?_⟩, ?_⟩
  · rintro ⟨rfl, rfl⟩
    exact hrow
  · intro h
    obtain ⟨checked', hchecked', hvalue, hevents⟩ := h.checkOut
    cases hchecked.symm.trans hchecked'
    exact ⟨hvalue, hevents⟩
  · rintro ⟨message, hvalue⟩
    rw [hvalue] at hrow
    exact hrow.awaitsOther_of_userBarcode
  · intro hother
    have hrefused : Decides l item patron q policy (.failed (.violations [pickupViolation item patron])) [] :=
      .awaitsOther hother
    obtain ⟨checked', hchecked', hvalue, -⟩ := hrefused.checkOut
    cases hchecked.symm.trans hchecked'
    exact ⟨_, hvalue⟩
  · intro c' hok r hr hstatus
    rw [hok] at hrow
    by_contra hne
    exact hrow.not_awaitsOther_of_ok ⟨r, hr, hstatus, hne⟩

/-- a fixed policy with a due date for January 2024 that has no zone -/
def bareDuePolicy : LoanPolicy :=
  { LoanPolicy.januaryPolicy with
    profileId := some "Fixed", checkoutSchedule := LoanPolicy.januaryPolicy.checkoutSchedule.withBareDueDates }

/-- **Not every calculated date is that of the loan.** The schedule gives a date without a zone; the loan that is handed
out falls due at that date in UTC, which is another one. -/
theorem checkOut_bareDue :
    let lent := Loan.of "loan-1" "item-1" "user-1" (some (.utcDay 2024 1 10)) none none
    let due := { DateTime.utcDay 2024 2 15 with zone := none }
    (bareDuePolicy.calculateInitialDueDate lent (some {})).value = .ok due ∧
      ∃ checked, (toPatron lent { id := "item-1" } { id := "user-1" } {} (some bareDuePolicy)).checkOut = .ok checked ∧
        ∃ handedOut, checked.value = .ok handedOut ∧
          ∃ loan, handedOut.loan = some loan ∧ loan.dueDate = some (.utcDay 2024 2 15) ∧ loan.dueDate ≠ some due := by
  intro lent due
  have hdue : (bareDuePolicy.calculateInitialDueDate lent (some {})).value = .ok due := by decide +kernel
  have hfree : ¬ Queue.AwaitsOther {} ({ id := "user-1" } : Patron) := by
    rintro ⟨r, hr, -⟩
    cases hr
  have hlent : Decides lent { id := "item-1" } { id := "user-1" } {} (some bareDuePolicy) _ _ :=
    .lent hfree rfl hdue
  obtain ⟨checked, hchecked, hvalue, -⟩ := hlent.checkOut
  exact ⟨hdue, checked, hchecked, _, hvalue, _, rfl, rfl, by decide +kernel⟩

end CheckOut

end Lending
