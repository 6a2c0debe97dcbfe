/-
What strict mode changes.

A document is loaded by checking it against the schema of its kind and then parsing it (`DocumentKind.load_eq`). The mode
should decide only whether a problem stops the load: strict, the load is refused for the first problem in path order;
lenient, one warning lists them all and the document is parsed as without a check (`OnlyStrictRefuses`).
`onlyStrictRefuses_iff`: so it is exactly if each problem can be told and, where there is none, parsing meets no fault. A
problem that shows a number with too many digits is told in neither mode, and ends both in a fault.
-/
import Lending.Proofs.Document.PathOrder
import Lending.Proofs.Loading.Document

namespace Lending

/-- whether a record warns of problems that a schema has with a document -/
def Event.isSchemaViolated : Event → Bool
  | schemaViolated _ _ => true
  | _ => false

namespace Loading

variable {α β : Type}

/-! ## Loads that do not warn of a schema -/

/-- whether a load logs no problem of a schema -/
def Unwarned (x : Loading α) : Prop := x.run.events.filter Event.isSchemaViolated = []

theorem run_bind (x : Loading α) (f : α → Loading β) :
    (x >>= f).run = match x.run.value with
      | .ok a => ⟨(f a).run.value, x.run.events ++ (f a).run.events⟩
      | .error e => ⟨.error e, x.run.events⟩ := by
  obtain ⟨value, events⟩ := x
  cases value with
  | ok a => rfl
  | error e =>
    change (⟨.error e, events ++ []⟩ : Logged (Except LoadError β)) = ⟨.error e, events⟩
    rw [List.append_nil]

theorem unwarned_pure (a : α) : Unwarned (pure a : Loading α) := rfl

theorem unwarned_lift {x : Logged α} (h : x.events.filter Event.isSchemaViolated = []) :
    Unwarned (ExceptT.lift x : Loading α) := by
  change (x.events ++ []).filter Event.isSchemaViolated = []
  rw [List.append_nil, h]

theorem unwarned_ofFault (x : Except Fault α) : Unwarned (ofFault x) := by
  cases x <;> rfl

theorem unwarned_ofReading (source : Text) (r : Reading α) : Unwarned (ofReading source r) := by
  unfold ofReading
  cases r.toExcept <;> rfl

theorem Unwarned.bind {x : Loading α} {f : α → Loading β} (hx : Unwarned x) (hf : ∀ a, Unwarned (f a)) :
    Unwarned (x >>= f) := by
  unfold Unwarned at *
  rw [run_bind]
  cases x.run.value with
  | error e => exact hx
  | ok a =>
    dsimp only
    rw [List.filter_append, hx, hf a, List.append_nil]

end Loading

/-! ## Parsing -/

variable {settings : Settings} {schedules : List (Text × Schedule)} {source : Text} {v : Value}

theorem Settings.unwarned_zone (settings : Settings) : Loading.Unwarned (ExceptT.lift settings.zone : Loading Zone) := by
  apply Loading.unwarned_lift
  unfold Settings.zone Zone.resolve
  dsimp only
  split_ifs
  · rfl
  · split <;> rfl

/-- parse a schedule document without a check against the schema -/
def Schedule.parse (settings : Settings) (source : Text) (v : Value) : Loading Schedule := do
  let s ← Loading.ofReading source (Schedule.read v)
  let z ← ExceptT.lift settings.zone
  return s.inZone z

theorem Schedule.unwarned_parse : Loading.Unwarned (parse settings source v) := by
  apply (Loading.unwarned_ofReading _ _).bind
  intro s
  apply settings.unwarned_zone.bind
  intro z
  exact Loading.unwarned_pure _

theorem Schedule.not_parse_faults : ¬ Faults (parse settings source v).run.value := by
  unfold parse
  rw [Loading.value_bind, faults_bind]
  rintro (h | ⟨s, -, h⟩)
  · exact not_faults_ofReading h
  · exact not_faults_ok h

namespace LoanPolicy

/-- parse a loan policy document, with the schedules at hand, without a check against the schema -/
def parse (schedules : List (Text × Schedule)) (source : Text) (v : Value) : Loading LoanPolicy := do
  let doc ← Loading.ofReading source (LoanPolicyDocument.read v)
  let checkout ← scheduleFor schedules source (doc.loans.bind (·.scheduleId))
  let renewal ← scheduleFor schedules source doc.renewals.alternateScheduleId
  let policy ← Loading.ofFault (ofDocument doc checkout renewal)
  Loading.log (.policyLoaded policy.id source)
  return policy

theorem unwarned_scheduleFor (id : Option Text) : Loading.Unwarned (scheduleFor schedules source id) := by
  unfold scheduleFor
  cases id with
  | none => rfl
  | some id =>
    dsimp only
    split_ifs
    · rfl
    · cases schedules.lookup id <;> rfl

theorem unwarned_parse : Loading.Unwarned (parse schedules source v) := by
  apply (Loading.unwarned_ofReading _ _).bind
  intro doc
  apply (unwarned_scheduleFor _).bind
  intro checkout
  apply (unwarned_scheduleFor _).bind
  intro renewal
  apply (Loading.unwarned_ofFault _).bind
  intro policy
  apply (Loading.unwarned_lift rfl).bind
  intro _
  exact Loading.unwarned_pure _

/-- parsing meets a fault exactly if a duration of the document is taken for a number and is none -/
theorem parse_faults_iff :
    Faults (parse schedules source v).run.value ↔
      ∃ doc, (LoanPolicyDocument.read v).toExcept = .ok doc ∧ HasMisspelt doc := by
  unfold parse
  rw [Loading.value_bind, faults_bind, or_iff_right not_faults_ofReading]
  refine exists_congr fun doc => and_congr Loading.ofReading_eq_ok ?_
  rw [Loading.value_bind, value_scheduleFor, ok_bind, Loading.value_bind, value_scheduleFor, ok_bind,
    Loading.value_bind, faults_bind, faults_ofFault, ofDocument_isOk_iff_not_hasMisspelt, not_not]
  exact or_iff_left fun ⟨_, _, h⟩ => not_faults_ok h

end LoanPolicy

/-! ## Checking -/

namespace Schema

variable {schema : Schema}

theorem run_check_of_noProblems (h : schema.problems v = []) (strict : Bool) :
    (schema.check source strict v).run = ⟨.ok [], []⟩ := by
  unfold check
  rw [h]
  rfl

/-- problems that can be told are logged in either mode, and stop the load in strict mode -/
theorem run_check_of_texts {first : String} {rest : List String}
    (h : (schema.problems v).mapM (·.text) = .ok (first :: rest)) (strict : Bool) :
    (schema.check source strict v).run =
      ⟨if strict then .error (.invalid source first) else .ok (first :: rest),
        [.schemaViolated source (first :: rest)]⟩ := by
  unfold check
  rw [h]
  cases strict <;> rfl

theorem run_check_of_fault {f : Fault} (h : (schema.problems v).mapM (·.text) = .error f) (strict : Bool) :
    (schema.check source strict v).run = ⟨.error (.fault f), []⟩ := by
  unfold check
  rw [h]
  rfl

/-- problems that can all be told have a first text -/
theorem exists_texts (hne : schema.problems v ≠ []) (h : ∀ p ∈ schema.problems v, ¬ p.Unwritable) :
    ∃ first rest, (schema.problems v).mapM (·.text) = .ok (first :: rest) := by
  obtain ⟨texts, htexts⟩ := mapM_isOk_iff.2 fun p hp => SchemaProblem.text_isOk_iff.2 (h p hp)
  cases texts with
  | nil => exact absurd ((texts_eq_nil_iff htexts).1 rfl) hne
  | cons first rest => exact ⟨first, rest, htexts⟩

/-- a problem that cannot be told is a fault -/
theorem exists_fault (h : ∃ p ∈ schema.problems v, p.Unwritable) : ∃ f, (schema.problems v).mapM (·.text) = .error f := by
  cases htexts : (schema.problems v).mapM (·.text) with
  | error f => exact ⟨f, rfl⟩
  | ok texts =>
    obtain ⟨p, hp, hlong⟩ := h
    exact absurd hlong (SchemaProblem.text_isOk_iff.1 (mapM_isOk_iff.1 ⟨texts, htexts⟩ p hp))

end Schema

/-! ## Kinds of documents -/

namespace DocumentKind

/-- what a document of a kind gives -/
def Content : DocumentKind → Type
  | schedule => Schedule
  | requestPolicy => RequestPolicy
  | loanPolicy => LoanPolicy

/-- the schema for documents of a kind -/
def schema : DocumentKind → Schema
  | schedule => Schema.schedule
  | requestPolicy => Schema.requestPolicy
  | loanPolicy => Schema.loanPolicy

/-- load a document of a kind; only loan policies look at the schedules at hand -/
def load (kind : DocumentKind) (settings : Settings) (schedules : List (Text × Schedule)) (source : Text) (v : Value) :
    Loading kind.Content :=
  match kind with
  | schedule => Schedule.load settings source v
  | requestPolicy => RequestPolicy.load settings source v
  | loanPolicy => LoanPolicy.load settings schedules source v

/-- parse a document of a kind without a check against the schema -/
def parse (kind : DocumentKind) (settings : Settings) (schedules : List (Text × Schedule)) (source : Text) (v : Value) :
    Loading kind.Content :=
  match kind with
  | schedule => Schedule.parse settings source v
  | requestPolicy => Loading.ofReading source (RequestPolicy.read v)
  | loanPolicy => LoanPolicy.parse schedules source v

variable {kind : DocumentKind}

/-- a load is a check and a parse -/
theorem load_eq (strict : Bool) :
    kind.load { settings with strict } schedules source v =
      (kind.schema.check source strict v >>= fun _ => kind.parse settings schedules source v) := by
  cases kind <;> rfl

/-- parsing warns of no schema -/
theorem unwarned_parse : Loading.Unwarned (kind.parse settings schedules source v) := by
  cases kind with
  | schedule => exact Schedule.unwarned_parse
  | requestPolicy => exact Loading.unwarned_ofReading _ _
  | loanPolicy => exact LoanPolicy.unwarned_parse

/-- parsing meets a fault only in a loan policy -/
theorem parse_faults_iff :
    Faults (kind.parse settings schedules source v).run.value ↔
      kind = .loanPolicy ∧ ∃ doc, (LoanPolicyDocument.read v).toExcept = .ok doc ∧ LoanPolicy.HasMisspelt doc := by
  cases kind with
  | schedule => exact iff_of_false Schedule.not_parse_faults nofun
  | requestPolicy => exact iff_of_false not_faults_ofReading nofun
  | loanPolicy =>
    rw [and_iff_right rfl]
    exact LoanPolicy.parse_faults_iff

/-! ## The modes -/

/-- a load in strict mode -/
def strictRun (kind : DocumentKind) (settings : Settings) (schedules : List (Text × Schedule)) (source : Text)
    (v : Value) : Logged (Except LoadError kind.Content) :=
  (kind.load { settings with strict := true } schedules source v).run

/-- a load in lenient mode -/
def lenientRun (kind : DocumentKind) (settings : Settings) (schedules : List (Text × Schedule)) (source : Text)
    (v : Value) : Logged (Except LoadError kind.Content) :=
  (kind.load { settings with strict := false } schedules source v).run

/-- a parse without a check -/
def parsed (kind : DocumentKind) (settings : Settings) (schedules : List (Text × Schedule)) (source : Text)
    (v : Value) : Logged (Except LoadError kind.Content) :=
  (kind.parse settings schedules source v).run

/-- whether strict mode only refuses and lenient mode only warns -/
structure OnlyStrictRefuses (kind : DocumentKind) (settings : Settings) (schedules : List (Text × Schedule))
    (source : Text) (v : Value) : Prop where
  /-- without a problem both modes come to one value, or to one error of the load that is no fault -/
  same : kind.schema.problems v = [] →
    (kind.strictRun settings schedules source v).value = (kind.lenientRun settings schedules source v).value ∧
      ¬ Faults (kind.strictRun settings schedules source v).value
  /-- with problems, strict mode refuses for the first one; lenient mode warns once of all and parses all the same -/
  apart : kind.schema.problems v ≠ [] → ∃ first rest,
    (kind.schema.problems v).mapM (·.text) = .ok (first :: rest) ∧
      (kind.strictRun settings schedules source v).value = .error (.invalid source first) ∧
      (kind.lenientRun settings schedules source v).value = (kind.parsed settings schedules source v).value ∧
      (kind.lenientRun settings schedules source v).events.filter Event.isSchemaViolated =
        [.schemaViolated source (first :: rest)]

/-- without a problem a load is a parse, in either mode -/
theorem runs_of_noProblems (settings : Settings) (schedules : List (Text × Schedule)) (source : Text)
    (h : kind.schema.problems v = []) :
    kind.strictRun settings schedules source v = kind.parsed settings schedules source v ∧
      kind.lenientRun settings schedules source v = kind.parsed settings schedules source v := by
  unfold strictRun lenientRun parsed
  rw [load_eq, load_eq, Loading.run_bind, Loading.run_bind, Schema.run_check_of_noProblems h,
    Schema.run_check_of_noProblems h]
  exact ⟨rfl, rfl⟩

/-- problems that can be told: refused in strict mode, and a warning before the parse in lenient mode -/
theorem runs_of_texts (settings : Settings) (schedules : List (Text × Schedule)) (source : Text) {first : String}
    {rest : List String} (h : (kind.schema.problems v).mapM (·.text) = .ok (first :: rest)) :
    kind.strictRun settings schedules source v =
        ⟨.error (.invalid source first), [.schemaViolated source (first :: rest)]⟩ ∧
      kind.lenientRun settings schedules source v =
        ⟨(kind.parsed settings schedules source v).value,
          .schemaViolated source (first :: rest) :: (kind.parsed settings schedules source v).events⟩ := by
  unfold strictRun lenientRun parsed
  rw [load_eq, load_eq, Loading.run_bind, Loading.run_bind, Schema.run_check_of_texts h, Schema.run_check_of_texts h]
  exact ⟨rfl, rfl⟩

/-- a problem that cannot be told ends the load in a fault, in either mode -/
theorem runs_of_fault (settings : Settings) (schedules : List (Text × Schedule)) (source : Text) {f : Fault}
    (h : (kind.schema.problems v).mapM (·.text) = .error f) :
    kind.strictRun settings schedules source v = ⟨.error (.fault f), []⟩ ∧
      kind.lenientRun settings schedules source v = ⟨.error (.fault f), []⟩ := by
  unfold strictRun lenientRun
  rw [load_eq, load_eq, Loading.run_bind, Loading.run_bind, Schema.run_check_of_fault h, Schema.run_check_of_fault h]
  exact ⟨rfl, rfl⟩

/-- **Strict mode only refuses, lenient mode only warns: when that holds.** For every kind of document, and whatever the
settings and the schedules at hand, it holds exactly if every problem can be told and, where there is none, parsing meets
no fault; parsing does so only where a loan policy has a duration that is taken for a number and is none. Without a problem
both modes come to what parsing alone comes to. With one that cannot be told, both end in the same fault. The problems stand
in the order of their places. -/
theorem onlyStrictRefuses_iff (kind : DocumentKind) (settings : Settings) (schedules : List (Text × Schedule))
    (source : Text) (v : Value) :
    let problems := kind.schema.problems v
    let strict := kind.strictRun settings schedules source v
    let lenient := kind.lenientRun settings schedules source v
    let parsed := kind.parsed settings schedules source v
    (kind.OnlyStrictRefuses settings schedules source v ↔
      (∀ p ∈ problems, ¬ p.Unwritable) ∧ ¬ (problems = [] ∧ Faults parsed.value)) ∧
    (Faults parsed.value ↔
      kind = .loanPolicy ∧ ∃ doc, (LoanPolicyDocument.read v).toExcept = .ok doc ∧ LoanPolicy.HasMisspelt doc) ∧
    (problems = [] → strict = parsed ∧ lenient = parsed) ∧
    ((∃ p ∈ problems, p.Unwritable) →
      ∃ f, strict = ⟨.error (.fault f), []⟩ ∧ lenient = ⟨.error (.fault f), []⟩) ∧
    InPathOrder (Schema.unordered kind.schema v) problems := by
  intro problems strict lenient parsed
  have hfault : (∃ p ∈ problems, p.Unwritable) →
      ∃ f, strict = ⟨.error (.fault f), []⟩ ∧ lenient = ⟨.error (.fault f), []⟩ := by
    intro hlong
    obtain ⟨f, hf⟩ := Schema.exists_fault hlong
    exact ⟨f, runs_of_fault settings schedules source hf⟩
  refine ⟨⟨?_, ?_⟩, parse_faults_iff, runs_of_noProblems settings schedules source, hfault,
    Schema.problems_inPathOrder kind.schema v⟩
  · intro honly
    constructor
    · intro p hp hlong
      obtain ⟨f, hstrict, -⟩ := hfault ⟨p, hp, hlong⟩
      obtain ⟨first, rest, -, hrefused, -⟩ := honly.apart (List.ne_nil_of_mem hp)
      cases (congrArg Logged.value hstrict).symm.trans hrefused
    · rintro ⟨hnil, hfaults⟩
      apply (honly.same hnil).2
      rw [(runs_of_noProblems settings schedules source hnil).1]
      exact hfaults
  · rintro ⟨htold, hparse⟩
    constructor
    · intro hnil
      obtain ⟨hstrict, hlenient⟩ := runs_of_noProblems settings schedules source hnil
      rw [hstrict, hlenient]
      exact ⟨rfl, fun hfaults => hparse ⟨hnil, hfaults⟩⟩
    · intro hne
      obtain ⟨first, rest, htexts⟩ := Schema.exists_texts hne htold
      obtain ⟨hstrict, hlenient⟩ := runs_of_texts settings schedules source htexts
      refine ⟨first, rest, htexts, by rw [hstrict], by rw [hlenient], ?_⟩
      rw [hlenient, List.filter_cons_of_pos rfl]
      exact congrArg _ unwarned_parse

/-- a document whose name is a number of 4335 digits and that has no id -/
def longNameDocument : Value :=
  .mapping [(.text "name", .int (16 ^ 3600 - 1)), (.text "loanable", .bool true)]

/-- **A number with too many digits stops both modes.** The first problem of the document is that its id is missing, which
can be told; but the name is no text and cannot be shown, and the fault of showing it passes through strict and lenient
loads alike. -/
theorem not_onlyStrictRefuses_longName :
    ¬ loanPolicy.OnlyStrictRefuses {} [] memorySource longNameDocument ∧
      (loanPolicy.strictRun {} [] memorySource longNameDocument).value = .error (.fault .numberTooLong) ∧
      (loanPolicy.lenientRun {} [] memorySource longNameDocument).value = .error (.fault .numberTooLong) ∧
      (loanPolicy.schema.problems longNameDocument).head?.map (·.text) =
        some (.ok "<root>: 'id' is a required property") := by
  have hfault : (loanPolicy.schema.problems longNameDocument).mapM (·.text) = .error .numberTooLong := by decide +kernel
  obtain ⟨hstrict, hlenient⟩ := runs_of_fault {} [] memorySource hfault
  refine ⟨?_, by rw [hstrict], by rw [hlenient], by decide +kernel⟩
  intro honly
  have hne : loanPolicy.schema.problems longNameDocument ≠ [] := by decide +kernel
  obtain ⟨first, rest, -, hrefused, -⟩ := honly.apart hne
  rw [hstrict] at hrefused
  cases hrefused

end DocumentKind

end Lending
