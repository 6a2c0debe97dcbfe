/-
Which policies that the schema accepts can be used.

The schema, the reader and the calculation each have an idea of their own of what a field is called and of what an integer
is. A period that the schema finds, under the names it knows, has a known unit and a positive duration; what it does not
find may be anything, and a float without a fraction is an integer to the schema alone. `Overlooked` lists these ways, and a
period of an accepted policy can be used exactly if it is not overlooked in one of them (`load_accepted_usable_iff`).
-/
import Lending.Proofs.Loading
import Lending.Proofs.LoanPolicy.PeriodErrors
import Lending.Proofs.Period.Duration

namespace Lending

/-! ## Periods as they are read -/

namespace PeriodSection

variable {v w : Value} {sec : PeriodSection} {period : Period}

theorem toPeriod_eq_ok :
    sec.toPeriod = .ok period ↔ asDuration sec.duration = .ok period.duration ∧ sec.interval = period.interval := by
  unfold PeriodSection.toPeriod Period.ofValues
  simp only [bind_eq_ok, pure_eq_ok]
  constructor
  · rintro ⟨kept, hkept, rfl⟩
    exact ⟨hkept, rfl⟩
  · rintro ⟨hkept, hinterval⟩
    exact ⟨period.duration, hkept, by rw [hinterval]⟩

theorem read_duration (h : (PeriodSection.read v).toExcept = .ok sec) (hne : sec.duration ≠ .null) :
    v.field? "duration" = some sec.duration := by
  simp only [PeriodSection.read, Reading.ofSection_eq_ok, Reading.bind_eq_ok, Reading.pure_eq_ok] at h
  obtain ⟨entries, hv, -, -, duration, hduration, interval, -, rfl⟩ := h
  obtain ⟨-, rfl⟩ | ⟨w, hw, hread⟩ := Reading.field_eq_ok.1 hduration
  · exact absurd rfl hne
  · cases hread
    have hlookup : Value.lookup? entries "duration" = some w := by
      unfold Reading.entry? at hw
      split at hw
      · next found => rwa [hw] at found
      · exact hw
    exact Value.field?_eq_some_iff.2 ⟨entries, hv, hlookup⟩

theorem read_interval {t : Text} (h : (PeriodSection.read v).toExcept = .ok sec)
    (ht : v.field? "intervalId" = some (.text t)) : sec.interval = some t := by
  simp only [PeriodSection.read, Reading.ofSection_eq_ok, Reading.bind_eq_ok, Reading.pure_eq_ok] at h
  obtain ⟨entries, hv, -, -, duration, -, interval, hinterval, rfl⟩ := h
  obtain ⟨_, rfl, hread⟩ := PeriodSlot.optionalField_of_field? hv ht nofun hinterval
  cases Reading.text_eq_ok.1 hread
  rfl

end PeriodSection

/-! ## What the schema overlooks -/

/-- how the schema overlooks that the period which a document has at a place cannot be used -/
inductive PeriodSlot.Overlooked (slot : PeriodSlot) (v : Value) (period : Period) : Prop
  /-- the duration is no integer and counts as one to the schema, as a float without a fraction does -/
  | duration : ValueType.integer.admits period.duration = true → (∀ n, period.duration ≠ .int n) →
    Overlooked slot v period
  /-- the interval has a name that the schema does not know, and is not recognized -/
  | interval : (slot.seen? v).bind (·.field? "intervalId") = none → period.unit? = none → Overlooked slot v period
  /-- something on the way to the period has a name that the schema does not know, and the duration is bad -/
  | hidden : slot.seen? v = none → period.duration? = none → Overlooked slot v period

namespace LoanPolicy

variable {settings : Settings} {schedules : List (Text × Schedule)} {source : Text} {v w : Value} {p : LoanPolicy}
  {slot : PeriodSlot} {period : Period}

/-- where the schema finds a period, the one loaded is read from what it finds -/
theorem load_periodAt (hp : (load settings schedules source v).run.value = .ok p) (hperiod : p.periodAt slot = some period)
    (hw : slot.seen? v = some w) (hne : w ≠ .null) :
    ∃ sec, (PeriodSection.read w).toExcept = .ok sec ∧ sec.toPeriod = .ok period := by
  obtain ⟨doc, hdoc, hof⟩ := load_eq_ok hp
  obtain ⟨sec, hsec, hread⟩ := PeriodSlot.read_periodAt hdoc hw hne
  have hkept := ofDocument_periodAt hof hperiod
  rw [hsec] at hkept
  exact ⟨sec, hread, hkept⟩

/-- a unit that is not recognized is hidden from the schema -/
theorem interval_hidden (hv : Schema.loanPolicy.problems v = []) (hp : (load settings schedules source v).run.value = .ok p)
    (hperiod : p.periodAt slot = some period) (hunit : period.unit? = none) :
    (slot.seen? v).bind (·.field? "intervalId") = none := by
  by_contra hseen
  obtain ⟨t, ht⟩ := Option.ne_none_iff_exists'.1 hseen
  obtain ⟨w, hw, hfield⟩ := Option.bind_eq_some_iff.1 ht
  obtain ⟨i, -, rfl⟩ := (Schema.period_accepts (PeriodSlot.accepts_seen hv hw)).2 t hfield
  obtain ⟨sec, hread, hkept⟩ := load_periodAt hp hperiod hw (Value.ne_null_of_field? hfield)
  have hinterval : period.interval = some (Text.ofString i.name) := by
    rw [← (PeriodSection.toPeriod_eq_ok.1 hkept).2, PeriodSection.read_interval hread hfield]
  rw [Period.unit?, hinterval, Interval.ofId?_name] at hunit
  cases hunit

/-- a bad duration is hidden from the schema, or counts as an integer to it -/
theorem duration_hidden (hv : Schema.loanPolicy.problems v = []) (hp : (load settings schedules source v).run.value = .ok p)
    (hperiod : p.periodAt slot = some period) (hne : period.duration ≠ .null) (hduration : period.duration? = none)
    (hw : slot.seen? v = some w) :
    ValueType.integer.admits period.duration = true ∧ ∀ n, period.duration ≠ .int n := by
  have haccepts := PeriodSlot.accepts_seen hv hw
  obtain ⟨sec, hread, hkept⟩ := load_periodAt hp hperiod hw fun h => Schema.object_null (h ▸ haccepts)
  obtain ⟨hkept, -⟩ := PeriodSection.toPeriod_eq_ok.1 hkept
  have hraw : sec.duration ≠ .null := by
    intro hnull
    rw [hnull] at hkept
    exact hne (Except.ok.inj hkept).symm
  obtain ⟨hinteger, hpositive⟩ := (Schema.period_accepts haccepts).1 _ (PeriodSection.read_duration hread hraw)
  obtain heq | ⟨t, n, ht, -⟩ := asDuration_eq_ok hkept
  · rw [heq]
    refine ⟨hinteger, fun n hn => ?_⟩
    have hpos : 0 < n := hpositive n hn
    rw [Period.duration?, heq, hn] at hduration
    simp [hpos] at hduration
  · rw [ht] at hinteger
    cases hinteger

/-- **When accepted periods can be used.** The schema has no problem with a document, and a policy is loaded from it. A
period of the policy that has both parts can be used exactly if it is not overlooked: then it has a unit and a positive
duration, and adding it to a date never ends in a violation. If none is overlooked, no operation of the policy ever blames a
period for its interval or its duration. -/
theorem load_accepted_usable_iff (settings : Settings) (schedules : List (Text × Schedule)) (source : Text) (v : Value)
    (p : LoanPolicy) (hv : Schema.loanPolicy.problems v = [])
    (hp : (load settings schedules source v).run.value = .ok p) :
    (∀ slot period, p.periodAt slot = some period → period.IsComplete →
      (period.IsUsable ↔ ¬ slot.Overlooked v period) ∧
        (period.IsUsable → ∀ base errorFor field c, period.addTo base errorFor field ≠ .ok (.failed c))) ∧
      ((∀ slot period, p.periodAt slot = some period → period.IsComplete → ¬ slot.Overlooked v period) →
        p.SparesPeriods) := by
  have husable : ∀ slot period, p.periodAt slot = some period → period.IsComplete →
      (period.IsUsable ↔ ¬ slot.Overlooked v period) := by
    intro slot period hperiod hcomplete
    constructor
    · rintro ⟨hunit, hduration⟩ (⟨-, hnone⟩ | ⟨-, hnone⟩ | ⟨-, hnone⟩)
      · obtain ⟨n, hn⟩ := Option.isSome_iff_exists.1 hduration
        unfold Period.duration? at hn
        split at hn
        · next m hm => exact hnone m hm
        · cases hn
      · rw [hnone] at hunit
        cases hunit
      · rw [hnone] at hduration
        cases hduration
    · intro hnot
      refine ⟨Option.isSome_iff_ne_none.2 fun hunit => ?_, Option.isSome_iff_ne_none.2 fun hduration => ?_⟩
      · exact hnot (.interval (interval_hidden hv hp hperiod hunit) hunit)
      · cases hseen : slot.seen? v with
        | none => exact hnot (.hidden hseen hduration)
        | some w =>
          obtain ⟨hinteger, hnone⟩ := duration_hidden hv hp hperiod hcomplete.1 hduration hseen
          exact hnot (.duration hinteger hnone)
  refine ⟨fun slot period hperiod hcomplete => ⟨husable slot period hperiod hcomplete, ?_⟩, fun hnone => ?_⟩
  · intro h base errorFor field c hfailed
    obtain ⟨problem, -, hproblem, -⟩ := Period.addTo_eq_failed.1 hfailed
    obtain ⟨good, hgood⟩ := Period.isUsable_iff.1 h
    rw [hgood] at hproblem
    cases hproblem
  · refine PeriodsUsable.sparesPeriods fun slot period hperiod hcomplete => ?_
    exact (husable slot period hperiod hcomplete).2 (hnone slot period hperiod hcomplete)

/-- a document for loans of two weeks, whose period stands under names that the schema does not know -/
def recordNamesDocument : Value :=
  .mapping [(.text "id", .text "policy-1"), (.text "name", .text "Two weeks"), (.text "loanable", .bool true),
    (.text "loans_policy", .mapping [(.text "profile_id", .text "Rolling"),
      (.text "period", .mapping [(.text "duration", .text "14"), (.text "interval_id", .text "days")])])]

/-- the policy of this document -/
def recordNamesPolicy : LoanPolicy :=
  { id := some "policy-1", name := some "Two weeks", loanable := true, profileId := some "Rolling",
    checkoutPeriod := ⟨.int 14, some "days"⟩ }

/-- a period that the schema does not find, and that can be used all the same -/
theorem load_recordNames_usable :
    Schema.loanPolicy.problems recordNamesDocument = [] ∧
      (load { strict := true } [] memorySource recordNamesDocument).run.value = .ok recordNamesPolicy ∧
      PeriodSlot.checkout.seen? recordNamesDocument = none ∧
      ¬ PeriodSlot.checkout.Overlooked recordNamesDocument ⟨.int 14, some "days"⟩ ∧ recordNamesPolicy.SparesPeriods := by
  have hv : Schema.loanPolicy.problems recordNamesDocument = [] := rfl
  have hp : (load { strict := true } [] memorySource recordNamesDocument).run.value = .ok recordNamesPolicy := rfl
  obtain ⟨husable, hspares⟩ := load_accepted_usable_iff { strict := true } [] memorySource recordNamesDocument
    recordNamesPolicy hv hp
  have hcheckout : ¬ PeriodSlot.checkout.Overlooked recordNamesDocument ⟨.int 14, some "days"⟩ :=
    (husable .checkout _ rfl (by decide)).1.1 (by decide)
  refine ⟨hv, hp, rfl, hcheckout, hspares fun slot period hperiod hcomplete => ?_⟩
  -- all other places are empty
  cases slot with
  | checkout =>
    cases hperiod
    exact hcheckout
  | alternateRenewal =>
    cases hperiod
    exact absurd rfl hcomplete.1
  | alternateCheckout => cases hperiod
  | minimumGuaranteed => cases hperiod
  | recallReturn => cases hperiod
  | openingTimeOffset => cases hperiod

/-- a document for loans of 14.0 days -/
def wholeFloatDocument : Value :=
  .mapping [(.text "id", .text "policy-1"), (.text "name", .text "Two weeks"), (.text "loanable", .bool true),
    (.text "loansPolicy", .mapping [(.text "profileId", .text "Rolling"),
      (.text "period", .mapping [(.text "duration", .float (.ofInt 14)), (.text "intervalId", .text "Days")])])]

/-- the policy of this document -/
def wholeFloatPolicy : LoanPolicy :=
  { id := some "policy-1", name := some "Two weeks", loanable := true, profileId := some "Rolling",
    checkoutPeriod := ⟨.float (.ofInt 14), some "Days"⟩ }

/-- strict settings accept a float without a fraction as a duration, and no loan can be made for it -/
theorem load_wholeFloat_refused :
    Schema.loanPolicy.problems wholeFloatDocument = [] ∧
      (load { strict := true } [] memorySource wholeFloatDocument).run.value = .ok wholeFloatPolicy ∧
      wholeFloatPolicy.checkoutPeriod.IsComplete ∧ ¬ wholeFloatPolicy.checkoutPeriod.IsUsable ∧
      ∃ refused, (wholeFloatPolicy.calculateInitialDueDate januaryLoan none).value = .violation refused ∧
        BlamesPeriod refused.message := by
  have hmessage : (PeriodProblem.duration (.float (.ofInt 14))).message none =
      .ok "the duration \"14.0\" in the loan policy is invalid" := by decide +kernel
  refine ⟨by decide +kernel, by decide +kernel, by decide +kernel, by decide +kernel, ?_⟩
  exact ⟨(wholeFloatPolicy.violation "the duration \"14.0\" in the loan policy is invalid").asConfiguration,
    by decide +kernel, .duration _, none, nofun, hmessage⟩

end LoanPolicy

end Lending
