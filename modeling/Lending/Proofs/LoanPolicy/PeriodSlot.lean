/-
The places where a loan policy has a period.

A policy has up to six periods, and a document has each of them at the end of a path of fields. Whether a policy can be
made of a document depends on these periods alone (`ofDocument_isOk_iff`), and each period of the policy is that of the
document at the same place (`ofDocument_periodAt`).

A schema and a reader look for a period in different ways: a schema follows the names that fields have in documents, a
reader also takes the names in records. What a schema finds a reader finds too (`read_periodAt`).
-/
import Mathlib.Tactic
import Lending.LoanPolicy.Basic
import Lending.Proofs.Document.Reading
import Lending.Proofs.Document.Schema

namespace Lending

/-- the places where a loan policy has a period -/
inductive PeriodSlot
  | checkout
  | alternateRenewal
  | alternateCheckout
  | minimumGuaranteed
  | recallReturn
  | openingTimeOffset
deriving DecidableEq

/-- the period that a document has at a place -/
def LoanPolicyDocument.periodAt (doc : LoanPolicyDocument) : PeriodSlot → Option PeriodSection
  | .checkout => doc.loans.bind (·.period)
  | .alternateRenewal => doc.renewals.period
  | .alternateCheckout => doc.requests.alternateCheckoutPeriod
  | .minimumGuaranteed => doc.requests.minimumGuaranteedPeriod
  | .recallReturn => doc.requests.recallReturnInterval
  | .openingTimeOffset => doc.loans.bind (·.openingTimeOffset)

/-- the period that a policy has at a place -/
def LoanPolicy.periodAt (p : LoanPolicy) : PeriodSlot → Option Period
  | .checkout => some p.checkoutPeriod
  | .alternateRenewal => some p.alternateRenewalPeriod
  | .alternateCheckout => p.alternateCheckoutPeriod
  | .minimumGuaranteed => p.minimumGuaranteedPeriod
  | .recallReturn => p.recallReturnInterval
  | .openingTimeOffset => p.openingTimeOffset

/-! ## From documents to policies -/

namespace LoanPolicy

variable {doc : LoanPolicyDocument} {checkout alternateRenewal : Schedule} {p : LoanPolicy} {slot : PeriodSlot}
  {period : Period}

theorem mapM_toPeriod_eq_ok {sec : Option PeriodSection} {o : Option Period} :
    sec.mapM (·.toPeriod) = .ok o ↔
      sec = none ∧ o = none ∨ ∃ s q, sec = some s ∧ o = some q ∧ s.toPeriod = .ok q := by
  cases sec with
  | none => simp [eq_comm]
  | some s => cases h : s.toPeriod <;> simp [h, Functor.map, Except.map, eq_comm]

/-- the period of a policy at a place is that of its document; where the document has none, it is none or an empty one -/
theorem ofDocument_periodAt (h : ofDocument doc checkout alternateRenewal = .ok p) (hp : p.periodAt slot = some period) :
    ((doc.periodAt slot).getD {}).toPeriod = .ok period := by
  simp only [ofDocument, bind_eq_ok, pure_eq_ok] at h
  obtain ⟨lent, hlent, renewed, hrenewed, held, hheld, guaranteed, hguaranteed, wanted, hwanted, offset, hoffset, rfl⟩ := h
  have hoptional : ∀ {sec : Option PeriodSection}, sec.mapM (·.toPeriod) = .ok (some period) →
      (sec.getD {}).toPeriod = .ok period := by
    intro sec hsec
    obtain ⟨-, hnone⟩ | ⟨s, q, rfl, hq, hs⟩ := mapM_toPeriod_eq_ok.1 hsec
    · cases hnone
    · cases hq
      exact hs
  cases slot with
  | checkout =>
    cases hp
    exact hlent
  | alternateRenewal =>
    cases hp
    exact hrenewed
  | alternateCheckout => exact hoptional (hp ▸ hheld)
  | minimumGuaranteed => exact hoptional (hp ▸ hguaranteed)
  | recallReturn => exact hoptional (hp ▸ hwanted)
  | openingTimeOffset => exact hoptional (hp ▸ hoffset)

/-- a policy can be made of a document if each of its periods can be kept -/
theorem ofDocument_isOk_iff :
    (∃ p, ofDocument doc checkout alternateRenewal = .ok p) ↔
      ∀ slot sec, doc.periodAt slot = some sec → ∃ period, sec.toPeriod = .ok period := by
  constructor
  · rintro ⟨p, hp⟩ slot sec hsec
    simp only [ofDocument, bind_eq_ok, pure_eq_ok] at hp
    obtain ⟨lent, hlent, renewed, hrenewed, held, hheld, guaranteed, hguaranteed, wanted, hwanted, offset, hoffset, -⟩ := hp
    have hrequired : ∀ {o : Option PeriodSection} {period : Period}, (o.getD {}).toPeriod = .ok period → o = some sec →
        ∃ period, sec.toPeriod = .ok period := by
      rintro _ period h rfl
      exact ⟨period, h⟩
    have hoptional : ∀ {o : Option PeriodSection} {q : Option Period}, o.mapM (·.toPeriod) = .ok q → o = some sec →
        ∃ period, sec.toPeriod = .ok period := by
      rintro _ q h rfl
      obtain ⟨hnone, -⟩ | ⟨_, period, hsome, -, h⟩ := mapM_toPeriod_eq_ok.1 h
      · cases hnone
      · cases hsome
        exact ⟨period, h⟩
    cases slot with
    | checkout => exact hrequired hlent hsec
    | alternateRenewal => exact hrequired hrenewed hsec
    | alternateCheckout => exact hoptional hheld hsec
    | minimumGuaranteed => exact hoptional hguaranteed hsec
    | recallReturn => exact hoptional hwanted hsec
    | openingTimeOffset => exact hoptional hoffset hsec
  · intro h
    have hrequired : ∀ slot, ∃ period, ((doc.periodAt slot).getD {}).toPeriod = .ok period := by
      intro slot
      cases hsec : doc.periodAt slot with
      | none => exact ⟨{}, rfl⟩
      | some sec => exact h slot sec hsec
    have hoptional : ∀ slot, ∃ o, (doc.periodAt slot).mapM (·.toPeriod) = .ok o := by
      intro slot
      cases hsec : doc.periodAt slot with
      | none => exact ⟨none, rfl⟩
      | some sec =>
        obtain ⟨period, hperiod⟩ := h slot sec hsec
        exact ⟨some period, mapM_toPeriod_eq_ok.2 (.inr ⟨sec, period, rfl, rfl, hperiod⟩)⟩
    obtain ⟨lent, hlent⟩ := hrequired .checkout
    obtain ⟨renewed, hrenewed⟩ := hrequired .alternateRenewal
    obtain ⟨held, hheld⟩ := hoptional .alternateCheckout
    obtain ⟨guaranteed, hguaranteed⟩ := hoptional .minimumGuaranteed
    obtain ⟨wanted, hwanted⟩ := hoptional .recallReturn
    obtain ⟨offset, hoffset⟩ := hoptional .openingTimeOffset
    simp only [ofDocument, bind_eq_ok, pure_eq_ok]
    exact ⟨_, lent, hlent, renewed, hrenewed, held, hheld, guaranteed, hguaranteed, wanted, hwanted, offset, hoffset, rfl⟩

/-- what stops a policy from being made does not depend on its schedules -/
theorem error?_ofDocument (doc : LoanPolicyDocument) (s t s' t' : Schedule) :
    error? (ofDocument doc s t) = error? (ofDocument doc s' t') := by
  unfold ofDocument
  -- one step for each period
  refine error?_bind_congr fun _ => error?_bind_congr fun _ => error?_bind_congr fun _ => ?_
  exact error?_bind_congr fun _ => error?_bind_congr fun _ => error?_bind_congr fun _ => rfl

end LoanPolicy

/-! ## From values to documents -/

/-- the value at the end of a path of names -/
def Value.follow? : List String → Value → Option Value
  | [], v => some v
  | name :: path, v => (v.field? name).bind (follow? path)

namespace PeriodSlot

variable {v w : Value} {entries : List (Value × Value)} {name recordName : String} {slot : PeriodSlot}

/-- the fields that lead to a period, by their names in documents -/
def path : PeriodSlot → List String
  | checkout => ["loansPolicy", "period"]
  | alternateRenewal => ["renewalsPolicy", "period"]
  | alternateCheckout => ["requestManagement", "holds", "alternateCheckoutLoanPeriod"]
  | minimumGuaranteed => ["requestManagement", "recalls", "minimumGuaranteedLoanPeriod"]
  | recallReturn => ["requestManagement", "recalls", "recallReturnInterval"]
  | openingTimeOffset => ["loansPolicy", "openingTimeOffset"]

/-- the period that a schema finds in a document -/
def seen? (slot : PeriodSlot) (v : Value) : Option Value := Value.follow? slot.path v

theorem follow?_pair {a b : String} :
    Value.follow? [a, b] v = some w ↔ ∃ u, v.field? a = some u ∧ u.field? b = some w := by
  simp [Value.follow?, Option.bind_eq_some_iff]

theorem follow?_triple {a b c : String} :
    Value.follow? [a, b, c] v = some w ↔
      ∃ t u, v.field? a = some t ∧ t.field? b = some u ∧ u.field? c = some w := by
  simp [Value.follow?, Option.bind_eq_some_iff]

/-- every period that the schema of loan policies finds satisfies the schema of periods -/
theorem accepts_seen (hv : Schema.loanPolicy.problems v = []) (hw : slot.seen? v = some w) :
    Schema.unordered Schema.period w = [] := by
  obtain ⟨hloans, hrenewals, hrequests⟩ := Schema.loanPolicy_accepts hv
  cases slot with
  | checkout =>
    obtain ⟨u, hu, hw⟩ := follow?_pair.1 hw
    exact Schema.object_accepts (hloans u hu) (by simp) hw
  | alternateRenewal =>
    obtain ⟨u, hu, hw⟩ := follow?_pair.1 hw
    exact Schema.object_accepts (hrenewals u hu) (by simp) hw
  | alternateCheckout =>
    obtain ⟨t, u, ht, hu, hw⟩ := follow?_triple.1 hw
    have hholds := Schema.object_accepts (hrequests t ht) List.mem_cons_self hu
    exact Schema.object_accepts hholds (by simp) hw
  | minimumGuaranteed =>
    obtain ⟨t, u, ht, hu, hw⟩ := follow?_triple.1 hw
    have hrecalls := Schema.object_accepts (hrequests t ht) (List.mem_cons_of_mem _ List.mem_cons_self) hu
    exact Schema.object_accepts hrecalls (by simp) hw
  | recallReturn =>
    obtain ⟨t, u, ht, hu, hw⟩ := follow?_triple.1 hw
    have hrecalls := Schema.object_accepts (hrequests t ht) (List.mem_cons_of_mem _ List.mem_cons_self) hu
    exact Schema.object_accepts hrecalls (by simp) hw
  | openingTimeOffset =>
    obtain ⟨u, hu, hw⟩ := follow?_pair.1 hw
    exact Schema.object_accepts (hloans u hu) (by simp) hw

/-! ## What the schema finds -/

theorem entry?_of_field? (hv : v.opened = .mapping entries) (hw : v.field? name = some w) :
    Reading.entry? entries name recordName = some w := by
  obtain ⟨_, hopened, hlookup⟩ := Value.field?_eq_some_iff.1 hw
  cases hv.symm.trans hopened
  rw [Reading.entry?, hlookup]

/-- a field that a schema finds is read from what it finds -/
theorem field_of_field? {α : Type} {absent a : α} {read : Value → Reading α} (hv : v.opened = .mapping entries)
    (hw : v.field? name = some w) (h : (Reading.field entries name recordName absent read).toExcept = .ok a) :
    (read w).toExcept = .ok a := by
  obtain ⟨hnone, -⟩ | ⟨_, hentry, hread⟩ := Reading.field_eq_ok.1 h
  · rw [entry?_of_field? hv hw] at hnone
    cases hnone
  · rw [entry?_of_field? hv hw] at hentry
    cases hentry
    exact hread

theorem optionalField_of_field? {α : Type} {o : Option α} {read : Value → Reading α} (hv : v.opened = .mapping entries)
    (hw : v.field? name = some w) (hne : w ≠ .null)
    (h : (Reading.field entries name recordName none (Reading.optional read)).toExcept = .ok o) :
    ∃ a, o = some a ∧ (read w).toExcept = .ok a := by
  obtain ⟨hnull, -⟩ | ⟨-, a, ha, rfl⟩ := Reading.optional_eq_ok.1 (field_of_field? hv hw h)
  · exact absurd hnull hne
  · exact ⟨a, rfl, ha⟩

theorem read_loans {s : LoansSection} (h : (LoansSection.read v).toExcept = .ok s) :
    ∃ entries, v.opened = .mapping entries ∧ (periodField entries "period" "period").toExcept = .ok s.period ∧
      (periodField entries "openingTimeOffset" "opening_time_offset").toExcept = .ok s.openingTimeOffset := by
  simp only [LoansSection.read, Reading.ofSection_eq_ok, Reading.bind_eq_ok, Reading.pure_eq_ok] at h
  obtain ⟨entries, hv, -, -, _, -, _, hperiod, _, -, _, -, _, hoffset, rfl⟩ := h
  exact ⟨entries, hv, hperiod, hoffset⟩

theorem read_renewals {s : RenewalsSection} (h : (RenewalsSection.read v).toExcept = .ok s) :
    ∃ entries, v.opened = .mapping entries ∧ (periodField entries "period" "period").toExcept = .ok s.period := by
  simp only [RenewalsSection.read, Reading.ofSection_eq_ok, Reading.bind_eq_ok, Reading.pure_eq_ok] at h
  obtain ⟨entries, hv, -, -, _, -, _, -, _, -, _, -, _, hperiod, _, -, rfl⟩ := h
  exact ⟨entries, hv, hperiod⟩

theorem read_requests {s : RequestsSection} (h : (RequestsSection.read v).toExcept = .ok s) :
    ∃ entries, v.opened = .mapping entries ∧
      (Reading.field entries "holds" "holds" none RequestsSection.readHolds).toExcept = .ok s.alternateCheckoutPeriod ∧
      (Reading.field entries "recalls" "recalls" (none, none) RequestsSection.readRecalls).toExcept =
        .ok (s.minimumGuaranteedPeriod, s.recallReturnInterval) := by
  simp only [RequestsSection.read, Reading.ofSection_eq_ok, Reading.bind_eq_ok, Reading.pure_eq_ok] at h
  obtain ⟨entries, hv, -, -, _, hholds, _, hrecalls, rfl⟩ := h
  exact ⟨entries, hv, hholds, hrecalls⟩

theorem read_holds {o : Option PeriodSection} (h : (RequestsSection.readHolds v).toExcept = .ok o) :
    ∃ entries, v.opened = .mapping entries ∧
      (periodField entries "alternateCheckoutLoanPeriod" "alternate_checkout_loan_period").toExcept = .ok o := by
  obtain ⟨entries, hv, -, -, hperiod⟩ := Reading.ofSection_eq_ok.1 h
  exact ⟨entries, hv, hperiod⟩

theorem read_recalls {o : Option PeriodSection × Option PeriodSection}
    (h : (RequestsSection.readRecalls v).toExcept = .ok o) :
    ∃ entries, v.opened = .mapping entries ∧
      (periodField entries "minimumGuaranteedLoanPeriod" "minimum_guaranteed_loan_period").toExcept = .ok o.1 ∧
      (periodField entries "recallReturnInterval" "recall_return_interval").toExcept = .ok o.2 := by
  simp only [RequestsSection.readRecalls, Reading.ofSection_eq_ok, Reading.bind_eq_ok, Reading.pure_eq_ok] at h
  obtain ⟨entries, hv, -, -, _, hguaranteed, _, hwanted, rfl⟩ := h
  exact ⟨entries, hv, hguaranteed, hwanted⟩

/-- **What a schema finds is read.** Where a schema finds a period in a document that can be read, that is the one read. -/
theorem read_periodAt {doc : LoanPolicyDocument} (hdoc : (LoanPolicyDocument.read v).toExcept = .ok doc)
    (hw : slot.seen? v = some w) (hne : w ≠ .null) :
    ∃ sec, doc.periodAt slot = some sec ∧ (PeriodSection.read w).toExcept = .ok sec := by
  simp only [LoanPolicyDocument.read, Reading.ofSection_eq_ok, Reading.bind_eq_ok, Reading.pure_eq_ok] at hdoc
  obtain ⟨entries, hv, -, -, _, -, _, -, _, -, _, -, loans, hloans, renewals, hrenewals, requests, hrequests, rfl⟩ := hdoc
  -- one case for each way from the document to a period
  cases slot with
  | checkout =>
    obtain ⟨u, hu, hw⟩ := follow?_pair.1 hw
    obtain ⟨s, rfl, hs⟩ := optionalField_of_field? hv hu (Value.ne_null_of_field? hw) hloans
    obtain ⟨_, hopened, hperiod, -⟩ := read_loans hs
    exact optionalField_of_field? hopened hw hne hperiod
  | alternateRenewal =>
    obtain ⟨u, hu, hw⟩ := follow?_pair.1 hw
    obtain ⟨_, hopened, hperiod⟩ := read_renewals (field_of_field? hv hu hrenewals)
    exact optionalField_of_field? hopened hw hne hperiod
  | alternateCheckout =>
    obtain ⟨t, u, ht, hu, hw⟩ := follow?_triple.1 hw
    obtain ⟨_, hrequestsOpened, hholds, -⟩ := read_requests (field_of_field? hv ht hrequests)
    obtain ⟨_, hopened, hperiod⟩ := read_holds (field_of_field? hrequestsOpened hu hholds)
    exact optionalField_of_field? hopened hw hne hperiod
  | minimumGuaranteed =>
    obtain ⟨t, u, ht, hu, hw⟩ := follow?_triple.1 hw
    obtain ⟨_, hrequestsOpened, -, hrecalls⟩ := read_requests (field_of_field? hv ht hrequests)
    obtain ⟨_, hopened, hperiod, -⟩ := read_recalls (field_of_field? hrequestsOpened hu hrecalls)
    exact optionalField_of_field? hopened hw hne hperiod
  | recallReturn =>
    obtain ⟨t, u, ht, hu, hw⟩ := follow?_triple.1 hw
    obtain ⟨_, hrequestsOpened, -, hrecalls⟩ := read_requests (field_of_field? hv ht hrequests)
    obtain ⟨_, hopened, -, hperiod⟩ := read_recalls (field_of_field? hrequestsOpened hu hrecalls)
    exact optionalField_of_field? hopened hw hne hperiod
  | openingTimeOffset =>
    obtain ⟨u, hu, hw⟩ := follow?_pair.1 hw
    obtain ⟨s, rfl, hs⟩ := optionalField_of_field? hv hu (Value.ne_null_of_field? hw) hloans
    obtain ⟨_, hopened, -, hoffset⟩ := read_loans hs
    exact optionalField_of_field? hopened hw hne hoffset

end PeriodSlot

end Lending
