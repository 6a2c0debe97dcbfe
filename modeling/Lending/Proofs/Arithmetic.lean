/-
What can stop a calculation of a due date.

Dates and whole numbers have limits, and a fault that comes from one of them is a fault of arithmetic. A period added to
a date meets no other (`Period.orderly_addTo`), and a schedule whose dates have a zone meets none at all when it is asked
about a date with a zone (`Schedule.Aware.exists_dueFor`). So a rule for due dates that holds such dates is refused by
rules only and stopped by arithmetic only (`DueDateRule.Aware.orderly_dueDate`).
-/
import Lending.Proofs.DueDateRule

namespace Lending

/-! ## Faults of arithmetic -/

/-- whether a fault comes from the limits of dates and spans, or from the size of a whole number -/
def Fault.isArithmetic : Fault → Bool
  | .dateOutOfRange | .spanTooLong _ | .daysBeyondWord | .yearOutOfRange _ | .yearBeyondWord | .yearBeyondLong
  | .beyondDouble | .numberTooLong => true
  | _ => false

theorem Fault.kind_of_isArithmetic {f : Fault} (h : f.isArithmetic = true) : f.kind = .overflow ∨ f.kind = .value := by
  cases f <;> simp [isArithmetic] at h <;> simp [kind]

/-- whether only a fault of arithmetic can stop a computation -/
def ArithmeticFaults {α : Type} (x : Except Fault α) : Prop := ∀ f, x = .error f → f.isArithmetic = true

namespace ArithmeticFaults

variable {α β : Type}

theorem ok (a : α) : ArithmeticFaults (.ok a) := nofun

theorem error {f : Fault} (h : f.isArithmetic = true) : ArithmeticFaults (.error f : Except Fault α) := by
  rintro _ ⟨⟩
  exact h

theorem bind {x : Except Fault α} {f : α → Except Fault β} (hx : ArithmeticFaults x)
    (hf : ∀ a, x = .ok a → ArithmeticFaults (f a)) : ArithmeticFaults (x >>= f) := by
  cases x with
  | error e => exact error (hx e rfl)
  | ok a => exact hf a rfl

theorem of_ok {x : Except Fault α} (hx : ∃ a, x = .ok a) : ArithmeticFaults x := by
  obtain ⟨a, rfl⟩ := hx
  exact ok a

end ArithmeticFaults

/-- whether a server error, if there is one, reports a fault of arithmetic; its class is one of two -/
def Outcome.FaultsByArithmetic {α : Type} (o : Outcome α) : Prop :=
  ∀ reason, o = .failed (.serverError reason) →
    ∃ f : Fault, f.isArithmetic = true ∧ (f.kind = .overflow ∨ f.kind = .value) ∧ reason = f.report

/-- whether a decision is refused by rules only, and stopped by faults of arithmetic only -/
def Orderly {α : Type} : Except Fault (Outcome α) → Prop
  | .ok (.ok _) => True
  | .ok (.failed c) => ∃ errors, c = .violations errors
  | .error f => f.isArithmetic = true

namespace Orderly

variable {α β : Type}

theorem value (a : α) : Orderly (.ok (.ok a)) := trivial

theorem refused (errors : List Violation) : Orderly (.ok (.failed (.violations errors) : Outcome α)) := ⟨errors, rfl⟩

theorem arithmeticFaults {x : Except Fault (Outcome α)} (h : Orderly x) : ArithmeticFaults x := by
  rintro f rfl
  exact h

theorem bind {x : Except Fault β} {f : β → Except Fault (Outcome α)} (hx : ArithmeticFaults x)
    (hf : ∀ b, x = .ok b → Orderly (f b)) : Orderly (x >>= f) := by
  cases x with
  | error e => exact hx e rfl
  | ok b => exact hf b rfl

theorem andThen {x : Except Fault (Outcome α)} {f : α → Except Fault (Outcome β)} (hx : Orderly x)
    (hf : ∀ a, x = .ok (.ok a) → Orderly (f a)) : Orderly (Outcome.andThen x f) := by
  rcases x with e | a | c
  · exact hx
  · exact hf a rfl
  · exact hx

theorem settle {x : Except Fault (Outcome α)} (h : Orderly x) : (Outcome.settle x).FaultsByArithmetic := by
  intro reason hs
  rcases x with e | a | c
  · cases hs
    exact ⟨e, h, Fault.kind_of_isArithmetic h, rfl⟩
  · cases hs
  · obtain ⟨errors, rfl⟩ := h
    cases hs

end Orderly

/-! ## Spans of time -/

theorem isArithmetic_yearFault (year : Nat) : (yearFault year).isArithmetic = true := by
  unfold yearFault
  split_ifs <;> rfl

theorem Wall.arithmeticFaults_addMonths (w : Wall) (n : Nat) : ArithmeticFaults (w.addMonths n) := by
  simp only [addMonths]
  split
  · exact .ok _
  · exact .error (isArithmetic_yearFault _)

theorem DateTime.arithmeticFaults_shift (d : DateTime) (span : Int) : ArithmeticFaults (d.shift span) := by
  unfold shift
  split
  · exact .ok _
  · exact .error rfl

namespace Delta

theorem arithmeticFaults_ticks (s : Delta) : ArithmeticFaults s.ticks := by
  unfold ticks
  split_ifs
  · exact .error rfl
  · exact .error rfl
  · exact .ok _

theorem arithmeticFaults_addTo (s : Delta) (d : DateTime) : ArithmeticFaults (s.addTo d) :=
  .bind (d.wall.arithmeticFaults_addMonths _) fun _ _ =>
    .bind s.arithmeticFaults_ticks fun _ _ => DateTime.arithmeticFaults_shift _ _

end Delta

theorem Interval.arithmeticFaults_delta (i : Interval) (n : Nat) : ArithmeticFaults (i.delta n) := by
  cases i with
  | days => exact .ok _
  | weeks => exact .ok _
  | _ =>
    simp only [delta, Delta.ofMinutes, Delta.ofHours, Delta.ofMonths]
    split_ifs
    · exact .error rfl
    · exact .ok _

/-! ## Periods -/

/-- a value can be written out, unless it holds a number that is too long -/
theorem Value.shown_cases (v : Value) :
    (∃ shown, v.shown = .ok shown) ∨ v.holdsLongNumber = true ∧ v.shown = .error .numberTooLong := by
  unfold shown
  split
  · exact .inl ⟨_, rfl⟩
  · exact .inl ⟨_, rfl⟩
  · exact .inl ⟨_, rfl⟩
  · rw [literal]
    split_ifs with hlong
    · exact .inr ⟨hlong, rfl⟩
    · exact .inl ⟨_, rfl⟩

/-- a problem can be put into words, unless the duration holds a number that is too long -/
theorem PeriodProblem.message_cases (problem : PeriodProblem) (field : Option Text) :
    (∃ message, problem.message field = .ok message) ∨
      ∃ value, problem = .duration value ∧ value.holdsLongNumber = true ∧ problem.message field = .error .numberTooLong := by
  cases problem with
  | incomplete =>
    simp only [message]
    split <;> exact .inl ⟨_, rfl⟩
  | interval id => exact .inl ⟨_, rfl⟩
  | duration value =>
    rw [message]
    rcases value.shown_cases with ⟨shown, hshown⟩ | ⟨hlong, hshown⟩
    · rw [hshown]
      exact .inl ⟨_, rfl⟩
    · rw [hshown]
      exact .inr ⟨value, rfl, hlong, rfl⟩

theorem PeriodProblem.arithmeticFaults_message (problem : PeriodProblem) (field : Option Text) :
    ArithmeticFaults (problem.message field) := by
  rcases problem.message_cases field with ⟨message, hmessage⟩ | ⟨-, -, -, hmessage⟩
  · exact .of_ok ⟨message, hmessage⟩
  · rw [hmessage]
    exact .error rfl

/-- a period added to a date is stopped by arithmetic only, and refused only for what is wrong with the period -/
theorem Period.orderly_addTo (p : Period) (d : DateTime) (errorFor : Text → Violation) (field : Option Text) :
    Orderly (p.addTo (some d) errorFor field) := by
  unfold addTo
  split
  · next problem _ => exact .bind (problem.arithmeticFaults_message field) fun _ _ => .refused _
  · next i n _ =>
    exact .bind (i.arithmeticFaults_delta n) fun span _ => .bind (span.arithmeticFaults_addTo d) fun _ _ => .value _

/-! ## Schedules -/

theorem ScheduleRange.exists_contains {r : ScheduleRange} {d : DateTime} (hstart : r.start.isAware = true)
    (hstop : r.stop.isAware = true) (hd : d.isAware = true) : ∃ inside, r.contains d = .ok inside := by
  simp only [contains, DateTime.before_eq hstart hd, DateTime.before_eq hd hstop, ok_bind]
  split_ifs
  · exact ⟨_, rfl⟩
  · exact ⟨_, rfl⟩

namespace Schedule

theorem exists_firstDue {rs : List ScheduleRange} {d : DateTime}
    (hrs : ∀ r ∈ rs, r.start.isAware = true ∧ r.stop.isAware = true) (hd : d.isAware = true) :
    ∃ found, firstDue rs d = .ok found := by
  induction rs with
  | nil => exact ⟨none, rfl⟩
  | cons r rs ih =>
    obtain ⟨hr, hrest⟩ := List.forall_mem_cons.1 hrs
    obtain ⟨inside, hinside⟩ := ScheduleRange.exists_contains hr.1 hr.2 hd
    simp only [firstDue, hinside, ok_bind]
    cases inside with
    | true => exact ⟨some r.due, rfl⟩
    | false => exact ih hrest

variable {s : Schedule} {d due : DateTime}

/-- a schedule whose dates have a zone is asked about a date with one without a fault -/
theorem Aware.exists_dueFor (hs : s.Aware) (hd : d.isAware = true) : ∃ found, s.dueFor (some d) = .ok found :=
  exists_firstDue (fun r hr => ⟨(hs r hr).1, (hs r hr).2.1⟩) hd

/-- a schedule whose dates have a zone truncates a date with a zone without a fault -/
theorem Aware.exists_truncate (hs : s.Aware) (hdue : due.isAware = true) (hd : d.isAware = true)
    (outside : Violation) : ∃ o, s.truncate due (some d) outside = .ok o := by
  cases s with
  | unconfigured => exact ⟨_, rfl⟩
  | configured id name ranges =>
    obtain ⟨found, hfound⟩ := hs.exists_dueFor hd
    simp only [Schedule.truncate, hfound, ok_bind]
    cases found with
    | none => exact ⟨_, rfl⟩
    | some limit =>
      simp only [DateTime.before_eq (hs.dueFor hfound) hdue, ok_bind]
      exact ⟨_, rfl⟩

theorem Aware.orderly_truncate (hs : s.Aware) (hdue : due.isAware = true) (hd : d.isAware = true) (outside : Violation) :
    Orderly (s.truncate due (some d) outside) := by
  obtain ⟨o, ho⟩ := hs.exists_truncate hdue hd outside
  rw [ho]
  cases o with
  | ok due' => trivial
  | failed c =>
    rw [truncate_eq_failed ho]
    exact .refused _

end Schedule

/-! ## Rules for due dates -/

namespace DueDateRule

variable {rule : DueDateRule} {errorFor : Text → Violation} {l : Loan} {lent : DateTime}

/-- whether a rule that asks its schedule about the date of a renewal has that date -/
def Dated : DueDateRule → Prop
  | fixedRenewal _ systemDate => systemDate.isSome = true
  | _ => True

theorem orderly_scheduledDue {s : Schedule} (hs : s.Aware) {d : DateTime} (hd : d.isAware = true) (outside : Violation) :
    Orderly (scheduledDue s (some d) outside) := by
  refine .bind (.of_ok (hs.exists_dueFor hd)) fun found _ => ?_
  cases found with
  | none => exact .refused _
  | some due => trivial

theorem orderly_renewalBase (systemDate : Option DateTime) (renewFromId : Option Text) :
    Orderly (.ok (renewalBase systemDate renewFromId errorFor l)) := by
  cases h : renewalBase systemDate renewFromId errorFor l with
  | ok base => trivial
  | failed c =>
    obtain ⟨v, rfl⟩ := renewalBase_eq_failed h
    exact .refused _

/-- **Rules fault on arithmetic only.** A rule whose dates have a zone, asked about a loan with a date of lending, gives a
due date or a violation unless dates or numbers leave their limits. -/
theorem Aware.orderly_dueDate (hr : rule.Aware) (hdated : rule.Dated) (hl : l.loanDate = some lent) :
    Orderly (rule.dueDate errorFor l) := by
  have hlent : lent.isAware = true := l.loanDateZoned lent hl
  cases rule with
  | rollingCheckOut period limit =>
    simp only [DueDateRule.dueDate, hl]
    refine .andThen (period.orderly_addTo lent errorFor none) fun due hdue => ?_
    exact hr.orderly_truncate (addTo_aware (hl ▸ l.loanDateZoned) hdue) hlent _
  | fixedCheckOut schedule =>
    simp only [DueDateRule.dueDate, hl]
    exact orderly_scheduledDue hr hlent _
  | rollingRenewal systemDate renewFromId period limit skipTruncation =>
    simp only [DueDateRule.dueDate, hl]
    refine .andThen (orderly_renewalBase systemDate renewFromId) fun base hbase => ?_
    have hproposed := period.orderly_addTo base errorFor none
    cases skipTruncation with
    | true => exact hproposed
    | false =>
      refine .andThen hproposed fun due hdue => ?_
      have haware : Zoned (some base) := fun x hx => by
        cases hx
        exact renewalBase_aware hr.1 (Except.ok.inj hbase)
      exact hr.2.orderly_truncate (addTo_aware haware hdue) hlent _
  | fixedRenewal schedule systemDate =>
    cases systemDate with
    | none => cases hdated
    | some now => exact orderly_scheduledDue hr.2 (hr.1 now rfl) _
  | unknown profileId isRenewal => exact .refused _

end DueDateRule

end Lending
