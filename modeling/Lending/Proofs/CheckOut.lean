/-
When a check-out succeeds.

A check-out that succeeds met no request of another patron that awaits pickup and a policy that lends; the loan takes the
due date of that policy (`run_eq_ok`), and nothing else of the check-out changes.
-/
import Lending.CheckOut
import Lending.Proofs.Outcome

namespace Lending.CheckOut

variable {c c' : CheckOut} {refusal : PickupRefusal} {p : LoanPolicy} {l : Loan}

/-! ## The steps -/

theorem checkPickup_eq_ok :
    c.checkPickup refusal = .ok (.ok c') ↔ c.queue.awaitsOther (c.patron.map (·.id)) = false ∧ c' = c := by
  unfold checkPickup
  split
  · next h => simp [h, bind_eq_ok]
  · next h => simp [h, eq_comm]

theorem lendingPolicy_eq_ok : c.lendingPolicy = .ok p ↔ c.policy = some p ∧ p.loanable = true := by
  unfold lendingPolicy
  cases c.policy with
  | none => simp
  | some p' =>
    by_cases h : p'.loanable = true
    · simp only [h, if_true, Outcome.ok.injEq, Option.some.injEq]
      exact ⟨fun hp => ⟨hp, hp ▸ h⟩, And.left⟩
    · simp only [h, Outcome.violation_eq_failed, Option.some.injEq]
      refine ⟨fun hp => ?_, fun ⟨hp, hlends⟩ => absurd (hp ▸ hlends) h⟩
      cases hp

theorem ofRecord_eq_ok {α β : Type} {record : Option α} {name : String} {f : α → β} {b : β} :
    ofRecord record name f = .ok b ↔ ∃ a, record = some a ∧ f a = b := by
  cases record <;> simp [ofRecord]

theorem stamp_value :
    (c.stamp p l).value =
      (fun due => { c with loan := some (l.checkOut due p.id) }) <$>
        (p.calculateInitialDueDate l (some c.queue)).value := by
  unfold stamp
  rcases p.calculateInitialDueDate l (some c.queue) with ⟨due | cause, events⟩ <;> rfl

theorem stamp_eq_ok :
    (c.stamp p l).value = .ok c' ↔
      ∃ due, (p.calculateInitialDueDate l (some c.queue)).value = .ok due ∧
        c' = { c with loan := some (l.checkOut due p.id) } := by
  rw [stamp_value]
  cases (p.calculateInitialDueDate l (some c.queue)).value <;> simp [eq_comm]

/-! ## The whole -/

/-- **A check-out gives the loan its due date.** If it succeeds, the item waits for no other patron, there is a policy
that lends, and the loan takes the due date of that policy; nothing else changes. -/
theorem run_eq_ok {checked : Logged (Outcome CheckOut)} (h : c.run refusal = .ok checked)
    (hvalue : checked.value = .ok c') :
    c.queue.awaitsOther (c.patron.map (·.id)) = false ∧
      ∃ p l due, c.policy = some p ∧ p.loanable = true ∧ c.loan = some l ∧
        (p.calculateInitialDueDate l (some c.queue)).value = .ok due ∧
        c' = { c with loan := some (l.checkOut due p.id) } := by
  obtain ⟨picked, hpicked, hrest⟩ := bind_eq_ok.1 h
  cases picked with
  | failed cause =>
    cases hrest
    cases hvalue
  | ok c₁ =>
    obtain ⟨hawaits, rfl⟩ := checkPickup_eq_ok.1 hpicked
    dsimp only at hrest
    cases hp : c₁.lendingPolicy with
    | failed cause =>
      rw [hp] at hrest
      cases hrest
      cases hvalue
    | ok p =>
      rw [hp] at hrest
      obtain ⟨l, hl, hstamp⟩ := bind_eq_ok.1 hrest
      obtain ⟨_, hloan, rfl⟩ := ofRecord_eq_ok.1 hl
      cases hstamp
      obtain ⟨hpolicy, hlends⟩ := lendingPolicy_eq_ok.1 hp
      obtain ⟨due, hdue, rfl⟩ := stamp_eq_ok.1 hvalue
      exact ⟨hawaits, p, _, due, hpolicy, hlends, hloan, hdue, rfl⟩

end Lending.CheckOut
