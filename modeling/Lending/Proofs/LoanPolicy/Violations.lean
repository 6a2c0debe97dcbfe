/-
Which violations a loan policy tells.

A violation comes from the data of the policy, is a rule that the policy keeps, or is about the loan or the operator's word
(`Issued`). A rule for due dates tells no others (`Supplies.issues`), and each operation passes on what its steps tell and adds
rules of its own (`issues_initialDueDate`, `issues_renewal`, `issues_overriding`, `issues_callingBack`). Violations of the
policy's data begin like no other (`ReportsPolicyData.head`). So what kind a violation is and which parameters it has follow
from its message (`operations_violations`).
-/
import Mathlib.Tactic
import Lending.Proofs.LoanPolicy.Faults
import Lending.Proofs.LoanPolicy.PeriodSlot

namespace Lending

theorem Text.ofString_injective : Function.Injective ofString := by
  intro s t h
  have hchars : s.toList = t.toList := List.map_injective_iff.2 (fun _ _ hc => Point.char.inj hc) (congrArg points h)
  exact String.toList_inj.1 hchars

namespace LoanPolicy

open DueDateRule (checkOutOutsideSchedule renewalOutsideSchedule cannotDetermineRenewFrom loanHasNoDueDate unknownProfile)

/-! ## Violations -/

/-- the rules that a policy keeps -/
def rules : List String :=
  [checkOutOutsideSchedule, renewalOutsideSchedule, renewalChangesNothing, itemNotLoanable, loanNotRenewable,
    renewalLimitReached, overrideUnexpected]

/-- the violations that a policy may tell about a loan -/
inductive Issued (p : LoanPolicy) (l : Loan) : Violation → Prop
  | period {slot : PeriodSlot} {period : Period} {problem : PeriodProblem} {field : Option Text} {message : Text} :
    p.periodAt slot = some period → period.check = .error problem → problem.message field = .ok message →
    Issued p l (p.violation message).asConfiguration
  | profile (profileId : Option Text) (isRenewal : Bool) :
    Issued p l (p.violation (unknownProfile profileId isRenewal)).asConfiguration
  | renewFrom : Issued p l (p.violation cannotDetermineRenewFrom).asConfiguration
  | rule {message : String} : message ∈ rules → Issued p l (p.violation message)
  | loanWithoutDueDate : Issued p l ⟨loanHasNoDueDate, [("loanId", some l.id)], .rule⟩
  | dateRequired : Issued p l ⟨overrideDateRequired, [("dueDate", some "null")], .rule⟩

/-- what a message says if it is about the data of a policy: that a part of a period is missing or bad, that there is no such
profile, or that a renewal has nothing to count from -/
inductive ReportsPolicyData : Text → Prop
  | period {problem : PeriodProblem} {field : Option Text} {message : Text} :
    problem.message field = .ok message → ReportsPolicyData message
  | profile (profileId : Option Text) (isRenewal : Bool) : ReportsPolicyData (unknownProfile profileId isRenewal)
  | renewFrom : ReportsPolicyData cannotDetermineRenewFrom

/-- the parameters of a violation with a message: those of the policy, but for two messages -/
def parametersFor (p : LoanPolicy) (l : Loan) (message : Text) : List (Text × Option Text) :=
  if message = loanHasNoDueDate then [("loanId", some l.id)]
  else if message = overrideDateRequired then [("dueDate", some "null")]
  else [("loanPolicyId", p.id), ("loanPolicyName", p.name)]

/-- whether kind and parameters of a violation are those that go with its message -/
structure Classified (p : LoanPolicy) (l : Loan) (e : Violation) : Prop where
  kind_iff : e.kind = .configuration ↔ ReportsPolicyData e.message
  parameters_eq : e.parameters = p.parametersFor l e.message

/-- such a message begins with one of three characters -/
theorem ReportsPolicyData.head {t : Text} (h : ReportsPolicyData t) :
    ∃ c ∈ ['t', 'I', 'c'], t.points.head? = some (.char c) := by
  cases h with
  | @period problem field message hmessage =>
    refine ⟨'t', by decide, ?_⟩
    cases problem with
    | incomplete =>
      simp only [PeriodProblem.message] at hmessage
      split at hmessage <;> cases hmessage
      · simp only [Text.points_append, List.append_assoc]
        rfl
      · rfl
    | interval id =>
      cases hmessage
      simp only [Text.points_append, List.append_assoc]
      rfl
    | duration value =>
      simp only [PeriodProblem.message, bind_eq_ok, pure_eq_ok] at hmessage
      obtain ⟨shown, -, rfl⟩ := hmessage
      simp only [Text.points_append, List.append_assoc]
      rfl
  | profile profileId isRenewal => exact ⟨'I', by decide, by cases isRenewal <;> rfl⟩
  | renewFrom => exact ⟨'c', by decide, rfl⟩

theorem not_reportsPolicyData_of_head {t : Text} {c : Char} (h : t.points.head? = some (.char c))
    (hc : c ∉ ['t', 'I', 'c']) : ¬ ReportsPolicyData t := by
  intro hreports
  obtain ⟨d, hd, hhead⟩ := hreports.head
  cases h.symm.trans hhead
  exact hc hd

/-- no rule, and none of the two other messages, is about the data of a policy -/
theorem not_reportsPolicyData :
    ∀ message ∈ loanHasNoDueDate :: overrideDateRequired :: rules, ¬ ReportsPolicyData (Text.ofString message) := by
  have hplain : ∀ {message : String} {c : Char} {cs : List Char}, message = String.ofList (c :: cs) →
      c ∉ ['t', 'I', 'c'] → ¬ ReportsPolicyData (Text.ofString message) := by
    intro message c cs h hc
    have hhead := Text.head?_ofString h ""
    rw [String.append_empty] at hhead
    exact not_reportsPolicyData_of_head hhead hc
  have hunexpected : (Text.ofString overrideUnexpected).points.head? = some (.char 'O') := Text.head?_ofString rfl _
  simp only [rules, List.forall_mem_cons]
  exact ⟨hplain rfl (by decide), hplain rfl (by decide), hplain rfl (by decide), hplain rfl (by decide),
    hplain rfl (by decide), hplain rfl (by decide), hplain rfl (by decide), hplain rfl (by decide),
    not_reportsPolicyData_of_head hunexpected (by decide), nofun⟩

/-- a violation that is told has the kind and the parameters that go with its message -/
theorem Issued.classified {p : LoanPolicy} {l : Loan} {e : Violation} (h : p.Issued l e) : p.Classified l e := by
  have hdata : ∀ {message : Text}, ReportsPolicyData message →
      p.Classified l (p.violation message).asConfiguration := by
    intro message hreports
    refine ⟨iff_of_true rfl hreports, ?_⟩
    have hloan : message ≠ loanHasNoDueDate := by
      rintro rfl
      exact not_reportsPolicyData _ List.mem_cons_self hreports
    have hdate : message ≠ overrideDateRequired := by
      rintro rfl
      exact not_reportsPolicyData _ (List.mem_cons_of_mem _ List.mem_cons_self) hreports
    exact (if_neg hloan |>.trans (if_neg hdate)).symm
  cases h with
  | period _ _ hmessage => exact hdata (.period hmessage)
  | profile profileId isRenewal => exact hdata (.profile profileId isRenewal)
  | renewFrom => exact hdata .renewFrom
  | @rule message hmem =>
    have hothers : ∀ message ∈ rules, message ≠ loanHasNoDueDate ∧ message ≠ overrideDateRequired := by decide +kernel
    have hloan := Text.ofString_injective.ne (hothers message hmem).1
    have hdate := Text.ofString_injective.ne (hothers message hmem).2
    refine ⟨iff_of_false nofun (not_reportsPolicyData _ ?_), (if_neg hloan |>.trans (if_neg hdate)).symm⟩
    exact List.mem_cons_of_mem _ (List.mem_cons_of_mem _ hmem)
  | loanWithoutDueDate => exact ⟨iff_of_false nofun (not_reportsPolicyData _ List.mem_cons_self), (if_pos rfl).symm⟩
  | dateRequired =>
    refine ⟨iff_of_false nofun (not_reportsPolicyData _ (List.mem_cons_of_mem _ List.mem_cons_self)), ?_⟩
    have hne : overrideDateRequired ≠ loanHasNoDueDate := by decide
    exact (if_neg (Text.ofString_injective.ne hne) |>.trans (if_pos rfl)).symm

/-- whether a result that is refused tells at least one violation, each with the kind and the parameters of its message -/
def TellsClassified {α : Type} (p : LoanPolicy) (l : Loan) (o : Outcome α) : Prop :=
  ∀ errors, o = .failed (.violations errors) → errors ≠ [] ∧ ∀ e ∈ errors, p.Classified l e

/-! ## Decisions -/

/-- whether the violations of a decision are some that a policy tells about a loan, and at least one if it is refused -/
def Issues {α : Type} (p : LoanPolicy) (l : Loan) (x : Except Fault (Outcome α)) : Prop :=
  ∀ errors, x = .ok (.failed (.violations errors)) → errors ≠ [] ∧ ∀ e ∈ errors, p.Issued l e

variable {p : LoanPolicy} {l : Loan}

namespace Issues

variable {α β : Type}

theorem value (a : α) : p.Issues l (.ok (.ok a)) := nofun

theorem violation {v : Violation} (h : p.Issued l v) : p.Issues l (.ok (.violation v) : Except Fault (Outcome α)) := by
  intro errors herrors
  cases herrors
  exact ⟨List.cons_ne_nil _ _, fun e he => List.mem_singleton.1 he ▸ h⟩

/-- what is kept of a decision that fails is issued with it -/
theorem failed {x : Except Fault (Outcome α)} {c : Cause} (hx : p.Issues l x) (h : x = .ok (.failed c)) :
    p.Issues l (.ok (.failed c) : Except Fault (Outcome β)) := by
  intro errors herrors
  cases herrors
  exact hx errors h

theorem bind {x : Except Fault α} {f : α → Except Fault (Outcome β)} (hf : ∀ a, x = .ok a → p.Issues l (f a)) :
    p.Issues l (x >>= f) := by
  intro errors herrors
  obtain ⟨a, ha, herrors⟩ := bind_eq_ok.1 herrors
  exact hf a ha errors herrors

theorem andThen {x : Except Fault (Outcome α)} {f : α → Except Fault (Outcome β)} (hx : p.Issues l x)
    (hf : ∀ a, p.Issues l (f a)) : p.Issues l (Outcome.andThen x f) := by
  intro errors herrors
  rcases Outcome.andThen_eq_failed.1 herrors with h | ⟨a, -, h⟩
  · exact hx errors h
  · exact hf a errors h

/-- the errors of a decision are issued, also where it is no refusal -/
theorem errors {x : Except Fault (Outcome α)} (hx : p.Issues l x) {o : Outcome α} (h : x = .ok o) :
    ∀ e ∈ o.errors, p.Issued l e := by
  cases o with
  | ok a => exact nofun
  | failed c =>
    cases c with
    | violations errors => exact (hx errors h).2
    | serverError reason => exact nofun

/-- what is told in the end is issued, faults being server errors -/
theorem settle {x : Except Fault (Outcome α)} (hx : p.Issues l x) : ∀ e ∈ (Outcome.settle x).errors, p.Issued l e := by
  cases x with
  | error f => exact nofun
  | ok o => exact hx.errors rfl

theorem tellsClassified {x : Except Fault (Outcome α)} (hx : p.Issues l x) : p.TellsClassified l (Outcome.settle x) := by
  intro errors herrors
  obtain ⟨hne, hissued⟩ := hx errors (Outcome.settle_eq_violations.1 herrors)
  exact ⟨hne, fun e he => (hissued e he).classified⟩

end Issues

/-! ## Rules for due dates -/

theorem issues_addTo {slot : PeriodSlot} {period : Period} (h : p.periodAt slot = some period) (base : Option DateTime)
    (field : Option Text) : p.Issues l (period.addTo base p.violation field) := by
  intro errors herrors
  obtain ⟨problem, message, hcheck, hmessage, hcause⟩ := Period.addTo_eq_failed.1 herrors
  cases hcause
  exact Issues.violation (α := Unit) (.period h hcheck hmessage) _ rfl

theorem issues_truncate {message : String} (h : message ∈ rules) (s : Schedule) (due : DateTime)
    (reference : Option DateTime) : p.Issues l (s.truncate due reference (p.violation message)) := by
  intro errors herrors
  cases Schedule.truncate_eq_failed herrors
  exact Issues.violation (α := Unit) (.rule h) _ rfl

theorem issues_scheduledDue {message : String} (h : message ∈ rules) (s : Schedule) (d : Option DateTime) :
    p.Issues l (DueDateRule.scheduledDue s d (p.violation message)) := by
  intro errors herrors
  cases DueDateRule.scheduledDue_eq_failed herrors
  exact Issues.violation (α := Unit) (.rule h) _ rfl

theorem issues_renewalBase (systemDate : Option DateTime) (renewFromId : Option Text) :
    p.Issues l (.ok (DueDateRule.renewalBase systemDate renewFromId p.violation l)) := by
  intro errors herrors
  rcases DueDateRule.renewalBase_failed_cases (Except.ok.inj herrors) with hcause | hcause
  · cases hcause
    exact Issues.violation (α := Unit) .loanWithoutDueDate _ rfl
  · cases hcause
    exact Issues.violation (α := Unit) .renewFrom _ rfl

/-- whether the period that a rule adds, if it adds one, is one of the policy -/
def Supplies (p : LoanPolicy) : DueDateRule → Prop
  | .rollingCheckOut period _ => ∃ slot, p.periodAt slot = some period
  | .rollingRenewal _ _ period _ _ => ∃ slot, p.periodAt slot = some period
  | _ => True

/-- **A rule tells only what a policy may tell.** -/
theorem Supplies.issues {rule : DueDateRule} (h : p.Supplies rule) : p.Issues l (rule.dueDate p.violation l) := by
  have hcheckOut : checkOutOutsideSchedule ∈ rules := List.mem_cons_self
  have hrenewal : renewalOutsideSchedule ∈ rules := List.mem_cons_of_mem _ List.mem_cons_self
  cases rule with
  | rollingCheckOut period limit =>
    obtain ⟨slot, hslot⟩ := h
    exact .andThen (issues_addTo hslot _ _) fun due => issues_truncate hcheckOut _ _ _
  | fixedCheckOut schedule => exact issues_scheduledDue hcheckOut _ _
  | rollingRenewal systemDate renewFromId period limit skipTruncation =>
    obtain ⟨slot, hslot⟩ := h
    refine .andThen (issues_renewalBase _ _) fun base => ?_
    dsimp only
    split_ifs
    · exact issues_addTo hslot _ _
    · exact .andThen (issues_addTo hslot _ _) fun due => issues_truncate hrenewal _ _ _
  | fixedRenewal schedule systemDate => exact issues_scheduledDue hrenewal _ _
  | unknown profileId isRenewal => exact .violation (.profile profileId isRenewal)

theorem supplies_checkOutRule (p : LoanPolicy) (q : Option Queue) : p.Supplies (p.checkOutRule q) := by
  have hperiod : ∃ slot, p.periodAt slot = some (p.checkOutPeriod q) := by
    unfold checkOutPeriod
    split_ifs with halternate
    · have hsome : p.alternateCheckoutPeriod.isSome = true := by
        rw [usesAlternatePeriod, Bool.and_eq_true] at halternate
        exact halternate.1
      obtain ⟨period, hperiod⟩ := Option.isSome_iff_exists.1 hsome
      exact ⟨.alternateCheckout, by rw [periodAt, hperiod, Option.getD_some]⟩
    · exact ⟨.checkout, rfl⟩
  rcases p.checkOutRule_cases q with hrule | hrule | ⟨profileId, hrule⟩
  · rw [hrule]
    exact hperiod
  · rw [hrule]
    trivial
  · rw [hrule]
    trivial

theorem exists_slot_renewalPeriod (p : LoanPolicy) : ∃ slot, p.periodAt slot = some p.renewalPeriod := by
  unfold renewalPeriod
  split_ifs
  · exact ⟨.alternateRenewal, rfl⟩
  · exact ⟨.checkout, rfl⟩

theorem supplies_renewalRule (p : LoanPolicy) (now : Option DateTime) : p.Supplies (p.renewalRule now) := by
  rcases p.renewalRule_cases now with hrule | hrule | ⟨profileId, hrule⟩
  · rw [hrule]
    exact p.exists_slot_renewalPeriod
  · rw [hrule]
    trivial
  · rw [hrule]
    trivial

/-! ## Operations -/

theorem issues_initialDueDate (p : LoanPolicy) (l : Loan) (q : Option Queue) : p.Issues l (p.initialDueDate l q) :=
  (p.supplies_checkOutRule q).issues

theorem issues_renewalDueDate (p : LoanPolicy) (l : Loan) (now : Option DateTime) :
    p.Issues l (p.renewalDueDate l now) :=
  (p.supplies_renewalRule now).issues

/-- the rules against a renewal are those against its due date, and two of the policy's own -/
theorem issued_renewalErrors {now : Option DateTime} {proposed : Outcome DateTime} {errors : List Violation}
    (hproposed : p.renewalDueDate l now = .ok proposed) (herrors : p.renewalErrors l proposed = .ok errors) :
    ∀ e ∈ errors, p.Issued l e := by
  simp only [renewalErrors, bind_eq_ok, pure_eq_ok] at herrors
  obtain ⟨dateErrors, hdate, rfl⟩ := herrors
  intro e he
  rcases List.mem_append.1 he with he | he
  · cases proposed with
    | failed c =>
      cases hdate
      exact (p.issues_renewalDueDate l now).errors hproposed e he
    | ok due =>
      simp only [dueDateErrors, bind_eq_ok, pure_eq_ok] at hdate
      obtain ⟨same, -, rfl⟩ := hdate
      cases same with
      | false => cases he
      | true =>
        cases List.mem_singleton.1 he
        exact .rule (by simp [rules])
  · split_ifs at he
    · cases List.mem_singleton.1 he
      exact .rule (by simp [rules])
    · cases he

theorem issues_renewal (p : LoanPolicy) (l : Loan) (now : Option DateTime) : p.Issues l (p.renewal l now) := by
  unfold renewal
  split_ifs
  · exact .violation (.rule (by simp [rules]))
  · exact .violation (.rule (by simp [rules]))
  refine .bind fun proposed hproposed => .bind fun errors herrors => ?_
  split_ifs with hsome
  · intro errors' herrors'
    cases herrors'
    exact ⟨by simpa using hsome, issued_renewalErrors hproposed herrors⟩
  · cases proposed with
    | failed c => exact (p.issues_renewalDueDate l now).failed hproposed
    | ok due => exact .value _

theorem issues_overrideTo (p : LoanPolicy) (l : Loan) (due : Option DateTime) (comment : Option Text) :
    p.Issues l (.ok (p.overrideTo l due comment)) := by
  cases due with
  | none => exact .violation .dateRequired
  | some due => exact .value _

theorem issues_overrideByRule {calculated : Outcome DateTime} (h : p.Issues l (.ok calculated)) (comment : Option Text) :
    p.Issues l (p.overrideByRule l calculated comment) := by
  refine .andThen h fun due => .bind fun same _ => ?_
  cases same with
  | false => exact .value _
  | true => exact .violation (.rule (by simp [rules]))

theorem issues_overriding (p : LoanPolicy) (l : Loan) (now due : Option DateTime) (comment : Option Text) :
    p.Issues l (p.overriding l now due comment) := by
  unfold overriding
  split_ifs
  · exact p.issues_overrideTo l due comment
  refine .bind fun proposed hproposed => ?_
  split_ifs
  · exact p.issues_overrideTo l due comment
  · refine .bind fun calculated hcalculated => issues_overrideByRule ?_ comment
    rw [← hcalculated]
    exact Supplies.issues p.exists_slot_renewalPeriod
  · refine issues_overrideByRule ?_ comment
    rw [← hproposed]
    exact p.issues_renewalDueDate l now
  · exact .violation (.rule (by simp [rules]))

theorem issues_recallDate (p : LoanPolicy) (l : Loan) (slot : PeriodSlot) (field : String)
    (base default : Option DateTime) : p.Issues l (p.recallDate (p.periodAt slot) field base default) := by
  cases hslot : p.periodAt slot with
  | none => exact .value _
  | some q => exact .andThen (issues_addTo hslot _ _) fun d => .value _

theorem issues_callingBack (p : LoanPolicy) (l : Loan) (now : Option DateTime) : p.Issues l (p.callingBack l now) := by
  have hguaranteed : p.Issues l (p.guaranteedDate l) := p.issues_recallDate l .minimumGuaranteed _ _ _
  have hwanted : p.Issues l (p.returnDate now) := p.issues_recallDate l .recallReturn _ _ _
  refine .bind fun guaranteed hg => .bind fun wanted hw => ?_
  dsimp only
  split_ifs with hsome
  · intro errors herrors
    cases herrors
    refine ⟨by simpa using hsome, fun e he => ?_⟩
    rcases List.mem_append.1 he with he | he
    · exact hwanted.errors hw e he
    · exact hguaranteed.errors hg e he
  cases guaranteed with
  | failed c => exact hguaranteed.failed hg
  | ok g =>
    cases wanted with
    | failed c => exact hwanted.failed hw
    | ok w => exact .bind fun later _ => .value _

/-- **Kinds of violations.** Whatever an operation of a loan policy is asked, where it is refused it tells at least one
violation, and each is put down to the policy exactly if its message is about the data of the policy: a missing or bad part
of a period, a profile that is not recognized, or a renewal without a date to count from. Its parameters are the id and the
name of the policy, in this order; only a loan without a due date is told of by its id, and a missing date of an override by
that date. -/
theorem operations_violations (p : LoanPolicy) (l : Loan) (q : Option Queue) (systemDate dueDate : Option DateTime)
    (comment : Option Text) :
    p.TellsClassified l (p.calculateInitialDueDate l q).value ∧ p.TellsClassified l (p.renew l systemDate).value ∧
      p.TellsClassified l (p.overrideRenewal l systemDate dueDate comment).value ∧
      p.TellsClassified l (p.callBack l systemDate).value :=
  ⟨(p.issues_initialDueDate l q).tellsClassified, (p.issues_renewal l _).tellsClassified,
    (p.issues_overriding l _ _ comment).tellsClassified, (p.issues_callingBack l _).tellsClassified⟩

/-- without a profile a check-out is refused for the policy's data -/
example :
    let bare : LoanPolicy := { id := some "policy-1", loanable := true }
    (bare.calculateInitialDueDate marchLoan none).value =
      .violation ⟨"Item can't be checked out as profile \"\" in the loan policy is not recognized.",
        [("loanPolicyId", some "policy-1"), ("loanPolicyName", none)], .configuration⟩ := by
  decide +kernel

end LoanPolicy

end Lending
