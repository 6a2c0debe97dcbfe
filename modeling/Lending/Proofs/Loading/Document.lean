/-
What stops the load of a document.

A load is stopped by an error of its own, which names the document and what is wrong with it, or by a fault that is left to
pass. There are two ways to a fault: a number with too many digits to be shown where the schema has a problem with it
(`Schema.check_faults_iff`), and, in a loan policy, a duration that is taken for a number and is none
(`LoanPolicy.load_faults_iff`).
-/
import Lending.PolicyCollection
import Lending.Proofs.Loading
import Lending.Proofs.LoanPolicy.PeriodSlot
import Lending.Proofs.Period.Duration

namespace Lending

variable {α β : Type}

/-! ## Errors -/

/-- whether an error is one of the load itself, which names what cannot be loaded and why -/
def LoadError.isOwn : LoadError → Bool
  | unreadable _ | notMapping _ | invalid _ _ | unparsed _ _ | noDirectory | directoryMissing _ => true
  | loanPolicyMissing _ | requestPolicyMissing _ | fault _ => false

/-- whether a load ends in a fault -/
def Faults (x : Except LoadError α) : Prop := ∃ f, x = .error (.fault f)

/-- whether every error that a load may end in is its own or a fault -/
def OwnsErrors (x : Except LoadError α) : Prop := ∀ e, x = .error e → e.isOwn = true ∨ ∃ f, e = .fault f

theorem faults_bind {x : Except LoadError α} {f : α → Except LoadError β} :
    Faults (x >>= f) ↔ Faults x ∨ ∃ a, x = .ok a ∧ Faults (f a) := by
  unfold Faults
  simp only [bind_eq_error]
  constructor
  · rintro ⟨e, h | ⟨a, ha, h⟩⟩
    · exact .inl ⟨e, h⟩
    · exact .inr ⟨a, ha, e, h⟩
  · rintro (⟨e, h⟩ | ⟨a, ha, e, h⟩)
    · exact ⟨e, .inl h⟩
    · exact ⟨e, .inr ⟨a, ha, h⟩⟩

theorem not_faults_ok {a : α} : ¬ Faults (.ok a) := nofun

theorem faults_ofFault {x : Except Fault α} : Faults (Loading.ofFault x).run.value ↔ ¬ ∃ a, x = .ok a := by
  rw [Loading.value_ofFault]
  cases x with
  | ok a => exact iff_of_false nofun fun h => h ⟨a, rfl⟩
  | error f => exact iff_of_true ⟨f, rfl⟩ nofun

theorem not_faults_ofReading {source : Text} {r : Reading α} : ¬ Faults (Loading.ofReading source r).run.value := by
  rw [Loading.value_ofReading]
  cases r.toExcept <;> exact nofun

namespace OwnsErrors

theorem ok (a : α) : OwnsErrors (.ok a) := nofun

theorem bind {x : Except LoadError α} {f : α → Except LoadError β} (hx : OwnsErrors x) (hf : ∀ a, OwnsErrors (f a)) :
    OwnsErrors (x >>= f) := by
  intro e he
  rcases bind_eq_error.1 he with he | ⟨a, -, he⟩
  · exact hx e he
  · exact hf a e he

theorem error {e : LoadError} (h : e.isOwn = true) : OwnsErrors (.error e : Except LoadError α) := by
  intro e' he
  cases he
  exact .inl h

theorem ofFault (x : Except Fault α) : OwnsErrors (Loading.ofFault x).run.value := by
  rw [Loading.value_ofFault]
  intro e he
  obtain ⟨f, -, rfl⟩ := mapError_eq_error.1 he
  exact .inr ⟨f, rfl⟩

theorem ofReading (source : Text) (r : Reading α) : OwnsErrors (Loading.ofReading source r).run.value := by
  rw [Loading.value_ofReading]
  intro e he
  obtain ⟨problems, -, rfl⟩ := mapError_eq_error.1 he
  exact .inl rfl

end OwnsErrors

/-! ## Schemas -/

theorem Value.literal_isOk_iff {v : Value} : (∃ s, v.literal = .ok s) ↔ v.holdsLongNumber = false := by
  unfold Value.literal
  cases v.holdsLongNumber <;> simp

/-- the value that a complaint shows, if it shows one -/
def Complaint.shown? : Complaint → Option Value
  | wrongType v _ | notAmong v _ | below v _ => some v
  | missing _ => none

/-- whether a problem cannot be told: the value that it shows holds a number with too many digits -/
def SchemaProblem.Unwritable (p : SchemaProblem) : Prop := ∃ v, p.complaint.shown? = some v ∧ v.holdsLongNumber = true

theorem Complaint.message_isOk_iff {c : Complaint} :
    (∃ s, c.message = .ok s) ↔ ∀ v, c.shown? = some v → v.holdsLongNumber = false := by
  have hshown : ∀ {v : Value} {f : String → String}, (∃ s, (v.literal >>= fun shown => pure (f shown)) = .ok s) ↔
      ∀ w, some v = some w → w.holdsLongNumber = false := by
    intro v f
    simp only [bind_eq_ok, pure_eq_ok, Option.some.injEq, forall_eq', ← Value.literal_isOk_iff]
    exact ⟨fun ⟨_, s, hs, _⟩ => ⟨s, hs⟩, fun ⟨s, hs⟩ => ⟨_, s, hs, rfl⟩⟩
  cases c with
  | wrongType v t => exact hshown
  | missing name => exact iff_of_true ⟨_, rfl⟩ nofun
  | notAmong v options => exact hshown
  | below v n => exact hshown

theorem SchemaProblem.text_isOk_iff {p : SchemaProblem} : (∃ s, p.text = .ok s) ↔ ¬ p.Unwritable := by
  have htext : (∃ s, p.text = .ok s) ↔ ∃ m, p.complaint.message = .ok m := by
    unfold SchemaProblem.text
    simp only [bind_eq_ok, pure_eq_ok]
    exact ⟨fun ⟨_, m, hm, _⟩ => ⟨m, hm⟩, fun ⟨m, hm⟩ => ⟨_, m, hm, rfl⟩⟩
  rw [htext, Complaint.message_isOk_iff, SchemaProblem.Unwritable]
  simp

namespace Schema

variable {schema : Schema} {source : Text} {strict : Bool} {v : Value}

/-- whether a document passes the check against a schema -/
def Passes (schema : Schema) (strict : Bool) (v : Value) : Prop :=
  (∀ p ∈ schema.problems v, ¬ p.Unwritable) ∧ (strict = true → schema.problems v = [])

theorem check_eq :
    (schema.check source strict v).run.value = match (schema.problems v).mapM (·.text) with
      | .error f => .error (.fault f)
      | .ok [] => .ok []
      | .ok (first :: rest) => if strict then .error (.invalid source first) else .ok (first :: rest) := by
  unfold check
  rw [Loading.value_bind, Loading.value_ofFault]
  cases (schema.problems v).mapM (·.text) with
  | error f => rfl
  | ok texts =>
    cases texts with
    | nil => rfl
    | cons first rest => cases strict <;> rfl

theorem texts_eq_nil_iff {texts : List String} (h : (schema.problems v).mapM (·.text) = .ok texts) :
    texts = [] ↔ schema.problems v = [] := by
  rw [← List.length_eq_zero_iff, ← List.length_eq_zero_iff, (mapM_eq_ok.1 h).length_eq]

theorem check_isOk_iff (source : Text) :
    (∃ texts, (schema.check source strict v).run.value = .ok texts) ↔ schema.Passes strict v := by
  have htexts : (∃ texts, (schema.problems v).mapM (·.text) = .ok texts) ↔ ∀ p ∈ schema.problems v, ¬ p.Unwritable := by
    simp only [mapM_isOk_iff, SchemaProblem.text_isOk_iff]
  rw [check_eq, Passes, ← htexts]
  cases hmap : (schema.problems v).mapM (·.text) with
  | error f => simp
  | ok texts =>
    have hnil := texts_eq_nil_iff hmap
    cases texts with
    | nil => simp [hnil.1 rfl]
    | cons first rest =>
      have hne : schema.problems v ≠ [] := fun h => List.cons_ne_nil _ _ (hnil.2 h)
      cases strict <;> simp [hne]

/-- what follows the check does not need the texts of the problems -/
theorem check_then_iff {Q : Prop} :
    (∃ texts, (schema.check source strict v).run.value = .ok texts ∧ Q) ↔ schema.Passes strict v ∧ Q := by
  rw [← check_isOk_iff source, exists_and_right]

theorem check_faults_iff :
    Faults (schema.check source strict v).run.value ↔ ∃ p ∈ schema.problems v, p.Unwritable := by
  have htexts : (∃ texts, (schema.problems v).mapM (·.text) = .ok texts) ↔ ∀ p ∈ schema.problems v, ¬ p.Unwritable := by
    simp only [mapM_isOk_iff, SchemaProblem.text_isOk_iff]
  have hnot : (∃ p ∈ schema.problems v, p.Unwritable) ↔ ¬ ∃ texts, (schema.problems v).mapM (·.text) = .ok texts := by
    rw [htexts]
    simp
  rw [check_eq, hnot]
  cases hmap : (schema.problems v).mapM (·.text) with
  | error f => exact iff_of_true ⟨f, rfl⟩ nofun
  | ok texts =>
    refine iff_of_false ?_ fun h => h ⟨texts, rfl⟩
    cases texts with
    | nil => exact nofun
    | cons first rest => cases strict <;> exact nofun

theorem check_ownsErrors : OwnsErrors (schema.check source strict v).run.value := by
  rw [check_eq]
  cases (schema.problems v).mapM (·.text) with
  | error f =>
    intro e he
    cases he
    exact .inr ⟨f, rfl⟩
  | ok texts =>
    cases texts with
    | nil => exact .ok _
    | cons first rest =>
      cases strict with
      | false => exact .ok _
      | true => exact .error rfl

end Schema

/-! ## Schedules and request policies -/

namespace Schedule

variable {settings : Settings} {source : Text} {v : Value} {s : Schedule}

theorem load_eq_ok :
    (load settings source v).run.value = .ok s ↔
      Schema.schedule.Passes settings.strict v ∧
        ∃ read, (Schedule.read v).toExcept = .ok read ∧ read.inZone settings.zone.value = s := by
  simp only [load, Loading.bind_eq_ok, Loading.ofReading_eq_ok, Loading.value_lift, Loading.pure_eq_ok,
    Schema.check_then_iff, Except.ok.injEq, exists_eq_left']

theorem load_faults_iff :
    Faults (load settings source v).run.value ↔ ∃ p ∈ Schema.schedule.problems v, p.Unwritable := by
  unfold load
  rw [Loading.value_bind, faults_bind, Schema.check_faults_iff]
  refine or_iff_left ?_
  rintro ⟨texts, -, h⟩
  rw [Loading.value_bind, faults_bind] at h
  rcases h with h | ⟨read, -, h⟩
  · exact not_faults_ofReading h
  · exact not_faults_ok h

theorem load_ownsErrors : OwnsErrors (load settings source v).run.value := by
  unfold load
  rw [Loading.value_bind]
  refine Schema.check_ownsErrors.bind fun texts => ?_
  rw [Loading.value_bind]
  exact (OwnsErrors.ofReading _ _).bind fun read => .ok _

end Schedule

namespace RequestPolicy

variable {settings : Settings} {source : Text} {v : Value} {p : RequestPolicy}

theorem load_eq_ok :
    (load settings source v).run.value = .ok p ↔
      Schema.requestPolicy.Passes settings.strict v ∧ (read v).toExcept = .ok p := by
  simp only [load, Loading.bind_eq_ok, Loading.ofReading_eq_ok, Schema.check_then_iff]

theorem load_faults_iff :
    Faults (load settings source v).run.value ↔ ∃ p ∈ Schema.requestPolicy.problems v, p.Unwritable := by
  unfold load
  rw [Loading.value_bind, faults_bind, Schema.check_faults_iff]
  exact or_iff_left fun ⟨_, _, h⟩ => not_faults_ofReading h

theorem load_ownsErrors : OwnsErrors (load settings source v).run.value := by
  unfold load
  rw [Loading.value_bind]
  exact Schema.check_ownsErrors.bind fun texts => .ofReading _ _

end RequestPolicy

/-! ## Loan policies -/

namespace LoanPolicy

variable {settings : Settings} {schedules schedules' : List (Text × Schedule)} {source : Text} {v : Value} {p : LoanPolicy}

theorem value_load :
    (load settings schedules source v).run.value =
      (Schema.loanPolicy.check source settings.strict v).run.value >>= fun _ =>
        (Loading.ofReading source (LoanPolicyDocument.read v)).run.value >>= fun doc =>
          (Loading.ofFault (ofDocument doc (attached schedules (doc.loans.bind (·.scheduleId)))
            (attached schedules doc.renewals.alternateScheduleId))).run.value := by
  unfold load
  rw [Loading.value_bind]
  refine congrArg _ (funext fun texts => ?_)
  rw [Loading.value_bind]
  refine congrArg _ (funext fun doc => ?_)
  rw [Loading.value_bind, value_scheduleFor, ok_bind, Loading.value_bind, value_scheduleFor, ok_bind, Loading.value_bind]
  cases (Loading.ofFault (ofDocument doc (attached schedules (doc.loans.bind (·.scheduleId)))
    (attached schedules doc.renewals.alternateScheduleId))).run.value <;> rfl

theorem load_eq_ok_iff :
    (load settings schedules source v).run.value = .ok p ↔
      Schema.loanPolicy.Passes settings.strict v ∧ ∃ doc, (LoanPolicyDocument.read v).toExcept = .ok doc ∧
        ofDocument doc (attached schedules (doc.loans.bind (·.scheduleId)))
          (attached schedules doc.renewals.alternateScheduleId) = .ok p := by
  rw [value_load]
  simp only [bind_eq_ok, Loading.ofReading_eq_ok, Loading.ofFault_eq_ok, Schema.check_then_iff]

/-- whether a period of a document has a duration that is taken for a number and is none -/
def HasMisspelt (doc : LoanPolicyDocument) : Prop :=
  ∃ slot sec t, doc.periodAt slot = some sec ∧ sec.duration = .text t ∧ t.Misspelt

theorem toPeriod_isOk_iff {sec : PeriodSection} :
    (∃ period, sec.toPeriod = .ok period) ↔ ∀ t, sec.duration = .text t → ¬ t.Misspelt := by
  rw [← asDuration_isOk_iff]
  unfold PeriodSection.toPeriod Period.ofValues
  simp only [bind_eq_ok, pure_eq_ok]
  exact ⟨fun ⟨_, kept, hkept, _⟩ => ⟨kept, hkept⟩, fun ⟨kept, hkept⟩ => ⟨_, kept, hkept, rfl⟩⟩

theorem ofDocument_isOk_iff_not_hasMisspelt {doc : LoanPolicyDocument} {checkout alternateRenewal : Schedule} :
    (∃ p, ofDocument doc checkout alternateRenewal = .ok p) ↔ ¬ HasMisspelt doc := by
  rw [ofDocument_isOk_iff]
  simp only [toPeriod_isOk_iff, HasMisspelt, not_exists, not_and]
  exact forall₂_congr fun slot sec => forall_comm

/-- **When a loan policy meets a fault.** The schema has a problem that cannot be told; or the document passes the check and
can be read, and a duration is taken for a number and is none. -/
theorem load_faults_iff :
    Faults (load settings schedules source v).run.value ↔
      (∃ p ∈ Schema.loanPolicy.problems v, p.Unwritable) ∨
        Schema.loanPolicy.Passes settings.strict v ∧
          ∃ doc, (LoanPolicyDocument.read v).toExcept = .ok doc ∧ HasMisspelt doc := by
  rw [value_load, faults_bind, Schema.check_faults_iff, Schema.check_then_iff]
  refine or_congr_right (and_congr_right fun _ => ?_)
  rw [faults_bind, or_iff_right not_faults_ofReading]
  simp only [Loading.ofReading_eq_ok, faults_ofFault, ofDocument_isOk_iff_not_hasMisspelt, not_not]

theorem load_ownsErrors : OwnsErrors (load settings schedules source v).run.value := by
  rw [value_load]
  exact Schema.check_ownsErrors.bind fun texts => (OwnsErrors.ofReading _ _).bind fun doc => .ofFault _

/-- a policy has the id of its document and refers to the schedules that its document refers to -/
theorem ofDocument_ids {doc : LoanPolicyDocument} {checkout alternateRenewal : Schedule}
    (h : ofDocument doc checkout alternateRenewal = .ok p) :
    p.id = doc.id ∧ p.checkoutScheduleId = doc.loans.bind (·.scheduleId) ∧
      p.alternateRenewalScheduleId = doc.renewals.alternateScheduleId := by
  simp only [ofDocument, Lending.bind_eq_ok, pure_eq_ok] at h
  obtain ⟨-, -, -, -, -, -, -, -, -, -, -, -, rfl⟩ := h
  exact ⟨rfl, rfl, rfl⟩

/-- the error that stops a load does not depend on the schedules at hand -/
theorem error?_load (schedules schedules' : List (Text × Schedule)) :
    error? (load settings schedules source v).run.value = error? (load settings schedules' source v).run.value := by
  rw [value_load, value_load]
  refine error?_bind_congr fun texts => error?_bind_congr fun doc => ?_
  rw [Loading.value_ofFault, Loading.value_ofFault, error?_mapError, error?_mapError, error?_ofDocument]

end LoanPolicy

end Lending
