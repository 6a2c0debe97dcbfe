/-
What becomes of a loan over time.

A loan is renewed, renewed at an operator's word, called back and checked out, each time under a policy of its own; an
operation that fails leaves it as it was. `changes_of_result?` says all that one operation can do. From it,
`history_invariant` says what holds after every run of operations: what identifies the loan stays, its dates have a
zone, the renewals are counted and kept within a limit, and a recall is remembered.
-/
import Lending.Proofs.CheckOut
import Lending.Proofs.LoanPolicy.Exclusion
import Lending.Proofs.LoanPolicy.Recall

namespace Lending

/-! ## Operations -/

/-- something done with a loan, under a policy of its own; a check-out is made with the loan in place of its own -/
inductive LoanOperation
  | renew (p : LoanPolicy) (systemDate : Option DateTime)
  | overrideRenewal (p : LoanPolicy) (systemDate dueDate : Option DateTime) (comment : Option Text)
  | callBack (p : LoanPolicy) (systemDate : Option DateTime)
  | checkOut (c : CheckOut) (refusal : CheckOut.PickupRefusal)

namespace LoanOperation

/-- the loan that an operation gives, if it succeeds -/
def result? (op : LoanOperation) (l : Loan) : Option Loan :=
  match op with
  | renew p systemDate => (p.renew l systemDate).value.toOption
  | overrideRenewal p systemDate dueDate comment => (p.overrideRenewal l systemDate dueDate comment).value.toOption
  | callBack p systemDate => (p.callBack l systemDate).value.toOption
  | checkOut c refusal =>
    match { c with loan := some l }.run refusal with
    | .ok checked => checked.value.toOption.bind (·.loan)
    | .error _ => none

/-- whether an operation renews a loan, by rule or at an operator's word -/
def isRenewal : LoanOperation → Bool
  | renew _ _ | overrideRenewal _ _ _ _ => true
  | callBack _ _ | checkOut _ _ => false

def isCallBack : LoanOperation → Bool
  | callBack _ _ => true
  | _ => false

end LoanOperation

namespace Loan

/-- the loan after an operation: as it was, if the operation fails -/
def step (l : Loan) (op : LoanOperation) : Loan := (op.result? l).getD l

/-- the loan after one operation after the other -/
def run (l : Loan) (ops : List LoanOperation) : Loan := ops.foldl step l

/-- the operations of a run that succeed, each with the loan that it met -/
def successes : Loan → List LoanOperation → List (Loan × LoanOperation)
  | _, [] => []
  | l, op :: ops => (if (op.result? l).isSome then [(l, op)] else []) ++ successes (l.step op) ops

/-- what identifies a loan and is not touched by any operation -/
structure SameLending (l l' : Loan) : Prop where
  id : l'.id = l.id
  itemId : l'.itemId = l.itemId
  userId : l'.userId = l.userId
  loanDate : l'.loanDate = l.loanDate
  returnDate : l'.returnDate = l.returnDate
  status : l'.status = l.status

theorem SameLending.refl (l : Loan) : l.SameLending l := ⟨rfl, rfl, rfl, rfl, rfl, rfl⟩

theorem SameLending.trans {l₁ l₂ l₃ : Loan} (h : l₁.SameLending l₂) (h' : l₂.SameLending l₃) : l₁.SameLending l₃ where
  id := h'.id.trans h.id
  itemId := h'.itemId.trans h.itemId
  userId := h'.userId.trans h.userId
  loanDate := h'.loanDate.trans h.loanDate
  returnDate := h'.returnDate.trans h.returnDate
  status := h'.status.trans h.status

/-! ## What one operation does -/

/-- what a successful operation makes of a loan -/
inductive Changes (l : Loan) : LoanOperation → Loan → Prop
  | renewed {p : LoanPolicy} {systemDate : Option DateTime} {due : DateTime} :
    p.unlimitedRenewals = true ∨ l.renewalCount < p.renewalLimit → Changes l (.renew p systemDate) (l.renew due p.id)
  | overridden {p : LoanPolicy} {systemDate dueDate : Option DateTime} {comment : Option Text} {due : DateTime} :
    Changes l (.overrideRenewal p systemDate dueDate comment) (l.overrideRenewal due p.id comment)
  | calledBack {p : LoanPolicy} {systemDate due : Option DateTime} : Changes l (.callBack p systemDate) (l.callBack due)
  | checkedOut {c : CheckOut} {refusal : CheckOut.PickupRefusal} {due : DateTime} {policyId : Option Text} :
    Changes l (.checkOut c refusal) (l.checkOut due policyId)

variable {l l' before : Loan} {op : LoanOperation} {ops : List LoanOperation} {p : LoanPolicy}

/-- **One operation.** All that a successful operation does to a loan; a renewal was within the limit. -/
theorem changes_of_result? (h : op.result? l = some l') : l.Changes op l' := by
  cases op with
  | renew p systemDate =>
    have hrenewal := Outcome.settle_eq_ok.1 (Outcome.toOption_eq_some.1 h)
    obtain ⟨-, -, due, -, -, hlimit, rfl⟩ := LoanPolicy.renewal_eq_ok.1 hrenewal
    refine .renewed ?_
    by_contra hnot
    simp only [not_or, not_lt, Bool.not_eq_true] at hnot
    rw [LoanPolicy.reachedRenewalLimit_iff.2 hnot] at hlimit
    cases hlimit
  | overrideRenewal p systemDate dueDate comment =>
    have hoverride := Outcome.settle_eq_ok.1 (Outcome.toOption_eq_some.1 h)
    obtain ⟨due, rfl⟩ := LoanPolicy.exists_due_of_overriding hoverride
    exact .overridden
  | callBack p systemDate =>
    have hcall := Outcome.settle_eq_ok.1 (Outcome.toOption_eq_some.1 h)
    obtain ⟨g, w, due, -, -, -, rfl⟩ := LoanPolicy.callingBack_eq_ok.1 hcall
    exact .calledBack
  | checkOut c refusal =>
    simp only [LoanOperation.result?] at h
    split at h
    · next checked hrun =>
      obtain ⟨c', hc', hl'⟩ := Option.bind_eq_some_iff.1 h
      obtain ⟨-, p, l₀, due, -, -, hl₀, -, rfl⟩ := CheckOut.run_eq_ok hrun (Outcome.toOption_eq_some.1 hc')
      cases hl₀
      cases hl'
      exact .checkedOut
    · cases h

theorem Changes.sameLending (h : l.Changes op l') : l.SameLending l' := by
  cases h <;> exact ⟨rfl, rfl, rfl, rfl, rfl, rfl⟩

theorem Changes.renewalCount (h : l.Changes op l') :
    l'.renewalCount = l.renewalCount + if op.isRenewal then 1 else 0 := by
  cases h <;> simp [LoanOperation.isRenewal, renew, Loan.overrideRenewal, Loan.callBack, checkOut, withDueDate]

theorem Changes.dueDateChangedByRecall (h : l.Changes op l') :
    l'.dueDateChangedByRecall = (l.dueDateChangedByRecall || op.isCallBack) := by
  cases h <;> simp [LoanOperation.isCallBack, renew, Loan.overrideRenewal, Loan.callBack, checkOut, withDueDate]

theorem Changes.lt_renewalLimit {systemDate : Option DateTime} (h : l.Changes (.renew p systemDate) l') :
    p.unlimitedRenewals = true ∨ l.renewalCount < p.renewalLimit := by
  cases h with
  | renewed hlimit => exact hlimit

/-- an operation succeeds and changes the loan, or it leaves the loan as it was -/
theorem step_cases (l : Loan) (op : LoanOperation) :
    (op.result? l).isSome = true ∧ l.Changes op (l.step op) ∨ op.result? l = none ∧ l.step op = l := by
  unfold step
  cases h : op.result? l with
  | none => exact .inr ⟨rfl, rfl⟩
  | some l' => exact .inl ⟨rfl, changes_of_result? h⟩

/-! ## What a run does -/

theorem run_cons (l : Loan) (op : LoanOperation) (ops : List LoanOperation) :
    l.run (op :: ops) = (l.step op).run ops := rfl

theorem successes_cons_some (h : (op.result? l).isSome = true) :
    l.successes (op :: ops) = (l, op) :: (l.step op).successes ops := by
  simp [successes, h]

theorem successes_cons_none (h : op.result? l = none) : l.successes (op :: ops) = (l.step op).successes ops := by
  simp [successes, h]

theorem run_sameLending (l : Loan) (ops : List LoanOperation) : l.SameLending (l.run ops) := by
  induction ops generalizing l with
  | nil => exact SameLending.refl l
  | cons op ops ih =>
    have hstep : l.SameLending (l.step op) := by
      rcases step_cases l op with ⟨-, h⟩ | ⟨-, h⟩
      · exact h.sameLending
      · rw [h]
        exact SameLending.refl l
    exact hstep.trans (ih (l.step op))

/-- every success of a run counts where it is a renewal -/
theorem run_renewalCount (l : Loan) (ops : List LoanOperation) :
    (l.run ops).renewalCount = l.renewalCount + (l.successes ops).countP fun e => e.2.isRenewal := by
  induction ops generalizing l with
  | nil => simp [run, successes]
  | cons op ops ih =>
    rw [run_cons, ih]
    rcases step_cases l op with ⟨hs, h⟩ | ⟨hn, h⟩
    · rw [successes_cons_some hs, h.renewalCount, List.countP_cons]
      push_cast
      ring
    · rw [successes_cons_none hn, h]

theorem run_dueDateChangedByRecall (l : Loan) (ops : List LoanOperation) :
    (l.run ops).dueDateChangedByRecall =
      (l.dueDateChangedByRecall || (l.successes ops).any fun e => e.2.isCallBack) := by
  induction ops generalizing l with
  | nil => simp [run, successes]
  | cons op ops ih =>
    rw [run_cons, ih]
    rcases step_cases l op with ⟨hs, h⟩ | ⟨hn, h⟩
    · rw [successes_cons_some hs, h.dueDateChangedByRecall, List.any_cons, Bool.or_assoc]
    · rw [successes_cons_none hn, h]

theorem mem_successes_cons {e : Loan × LoanOperation} (h : e ∈ (l.step op).successes ops) :
    e ∈ l.successes (op :: ops) := by
  rw [successes]
  exact List.mem_append_right _ h

/-- the successes of a run are its operations that succeed, each on the loan that the operations before it left -/
theorem mem_successes_iff :
    (before, op) ∈ l.successes ops ↔
      ∃ done rest, ops = done ++ op :: rest ∧ l.run done = before ∧ (op.result? before).isSome = true := by
  induction ops generalizing l with
  | nil => simp [successes]
  | cons o ops ih =>
    constructor
    · intro h
      rw [successes, List.mem_append] at h
      rcases h with h | h
      · -- the first operation is the one that is meant
        split at h
        · next hs =>
          obtain ⟨rfl, rfl⟩ := Prod.mk.inj (List.mem_singleton.1 h)
          exact ⟨[], ops, rfl, rfl, hs⟩
        · cases h
      · obtain ⟨done, rest, rfl, hrun, hs⟩ := ih.1 h
        exact ⟨o :: done, rest, rfl, hrun, hs⟩
    · rintro ⟨done, rest, hops, hrun, hs⟩
      cases done with
      | nil =>
        obtain ⟨rfl, rfl⟩ := List.cons.inj hops
        have hbefore : before = l := hrun.symm
        subst hbefore
        rw [successes_cons_some hs]
        exact List.mem_cons_self
      | cons d done =>
        obtain ⟨rfl, rfl⟩ := List.cons.inj hops
        exact mem_successes_cons (ih.2 ⟨done, rest, rfl, hrun, hs⟩)

/-- a renewal that succeeded in a run was within its limit -/
theorem lt_renewalLimit_of_mem_successes {systemDate : Option DateTime}
    (h : (before, .renew p systemDate) ∈ l.successes ops) :
    p.unlimitedRenewals = true ∨ before.renewalCount < p.renewalLimit := by
  obtain ⟨-, -, -, -, hs⟩ := mem_successes_iff.1 h
  obtain ⟨l', hl'⟩ := Option.isSome_iff_exists.1 hs
  exact (changes_of_result? hl').lt_renewalLimit

/-- one renewal under a policy with a limit does not pass the limit -/
theorem step_renewalCount_le (hp : p.unlimitedRenewals = false) (l : Loan)
    (hop : op.isRenewal = true → ∃ systemDate, op = .renew p systemDate) :
    (l.step op).renewalCount ≤ max l.renewalCount p.renewalLimit := by
  rcases step_cases l op with ⟨-, h⟩ | ⟨-, h⟩
  · have hcount := h.renewalCount
    cases hr : op.isRenewal with
    | false =>
      simp only [hr, Bool.false_eq_true, if_false, Int.add_zero] at hcount
      exact hcount ▸ le_max_left _ _
    | true =>
      obtain ⟨systemDate, rfl⟩ := hop hr
      have hlt : l.renewalCount < p.renewalLimit := by simpa [hp] using h.lt_renewalLimit
      simp only [hr, if_true] at hcount
      omega
  · rw [h]
    exact le_max_left _ _

/-- renewals under one policy with a limit never pass the limit -/
theorem run_renewalCount_le (hp : p.unlimitedRenewals = false) (l : Loan) (ops : List LoanOperation)
    (hops : ∀ op ∈ ops, op.isRenewal = true → ∃ systemDate, op = .renew p systemDate) :
    (l.run ops).renewalCount ≤ max l.renewalCount p.renewalLimit := by
  induction ops generalizing l with
  | nil => exact le_max_left _ _
  | cons op ops ih =>
    have hstep := step_renewalCount_le hp l (hops op List.mem_cons_self)
    have hrest := ih (l.step op) fun o ho => hops o (List.mem_cons_of_mem op ho)
    rw [run_cons]
    omega

/-- **The history of a loan.** After any run of operations the loan is the same lending and all its dates have a zone.
Its renewals are those that it had and the successful ones of the run; each renewal by rule was within the limit of its
policy, and where only one policy with a limit renews, the limit is never passed. It is marked as recalled exactly if it
was before or a recall succeeded. -/
theorem history_invariant (l : Loan) (ops : List LoanOperation) :
    let last := l.run ops
    let done := l.successes ops
    l.SameLending last ∧
    (Zoned last.loanDate ∧ Zoned last.dueDate ∧ Zoned last.returnDate) ∧
    last.renewalCount = l.renewalCount + done.countP (fun e => e.2.isRenewal) ∧
    (∀ before p systemDate, (before, .renew p systemDate) ∈ done →
      p.unlimitedRenewals = true ∨ before.renewalCount < p.renewalLimit) ∧
    (∀ p : LoanPolicy, p.unlimitedRenewals = false →
      (∀ op ∈ ops, op.isRenewal = true → ∃ systemDate, op = .renew p systemDate) →
      last.renewalCount ≤ max l.renewalCount p.renewalLimit) ∧
    (last.dueDateChangedByRecall = true ↔
      l.dueDateChangedByRecall = true ∨ ∃ e ∈ done, e.2.isCallBack = true) := by
  intro last done
  refine ⟨run_sameLending l ops, ⟨last.loanDateZoned, last.dueDateZoned, last.returnDateZoned⟩,
    run_renewalCount l ops, fun _ _ _ => lt_renewalLimit_of_mem_successes, fun p hp => run_renewalCount_le hp l ops, ?_⟩
  rw [run_dueDateChangedByRecall l ops, Bool.or_eq_true, List.any_eq_true]

/-- a loan of March is renewed up to the limit, refused once, and called back -/
def marchOperations : List LoanOperation :=
  [.renew LoanPolicy.twoWeekPolicy (some (.utcDay 2024 3 10)), .renew LoanPolicy.twoWeekPolicy (some (.utcDay 2024 3 12)),
    .callBack LoanPolicy.weekBackPolicy (some (.utcDay 2024 3 14))]

/-- the refused renewal does not count, and the recall is remembered -/
theorem run_marchOperations :
    (∀ op ∈ marchOperations, op.isRenewal = true → ∃ systemDate, op = .renew LoanPolicy.twoWeekPolicy systemDate) ∧
      (LoanPolicy.marchLoan.run marchOperations).renewalCount ≤
        max LoanPolicy.marchLoan.renewalCount LoanPolicy.twoWeekPolicy.renewalLimit ∧
      (LoanPolicy.marchLoan.run marchOperations).renewalCount = 2 ∧
      (LoanPolicy.marchLoan.run marchOperations).dueDateChangedByRecall = true := by
  obtain ⟨-, -, hcount, -, hlimit, hrecalled⟩ := history_invariant LoanPolicy.marchLoan marchOperations
  have hops : ∀ op ∈ marchOperations, op.isRenewal = true →
      ∃ systemDate, op = .renew LoanPolicy.twoWeekPolicy systemDate := by
    intro op hop hr
    fin_cases hop
    · exact ⟨_, rfl⟩
    · exact ⟨_, rfl⟩
    · cases hr
  have hdone : (LoanPolicy.marchLoan.successes marchOperations).countP (fun e => e.2.isRenewal) = 1 := by decide +kernel
  refine ⟨hops, hlimit LoanPolicy.twoWeekPolicy rfl hops, ?_, hrecalled.2 (.inr (by decide +kernel))⟩
  rw [hcount, hdone]
  rfl

end Loan

end Lending
