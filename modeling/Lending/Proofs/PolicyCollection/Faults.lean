/-
How loading a directory fails.

A load of a directory ends in an error of its own, or in a fault that is let through. The steps of a load meet faults in three
ways (`LoadStep.MeetsFault`), and a fault ends the load exactly if the first step that fails meets one (`load_fault_iff`).
Logging the documents may be that step. It never decides whether there is a collection or which one: a document that cannot
be logged has a key that is no text, and so cannot be read.
-/
import Lending.Proofs.PolicyCollection

namespace Lending

/-! ## Faults of a step -/

namespace SourceDocument

variable {d : SourceDocument} {settings : Settings}

/-- the schema of a document's kind -/
def schema (d : SourceDocument) : Schema :=
  match d.kind with
  | .schedule => .schedule
  | .requestPolicy => .requestPolicy
  | .loanPolicy => .loanPolicy

theorem loadError?_ownsErrors {e : LoadError} (h : d.loadError? settings = some e) : e.isOwn = true ∨ ∃ f, e = .fault f := by
  unfold loadError? at h
  cases hkind : d.kind with
  | schedule => exact Schedule.load_ownsErrors e (error?_eq_some.1 (by simpa only [hkind] using h))
  | requestPolicy => exact RequestPolicy.load_ownsErrors e (error?_eq_some.1 (by simpa only [hkind] using h))
  | loanPolicy => exact LoanPolicy.load_ownsErrors e (error?_eq_some.1 (by simpa only [hkind] using h))

theorem loadError?_fault_iff :
    (∃ f, d.loadError? settings = some (.fault f)) ↔
      (∃ p ∈ d.schema.problems d.value, p.Unwritable) ∨
        d.kind = .loanPolicy ∧ Schema.loanPolicy.Passes settings.strict d.value ∧
          ∃ doc, (LoanPolicyDocument.read d.value).toExcept = .ok doc ∧ LoanPolicy.HasMisspelt doc := by
  unfold loadError? schema
  cases hkind : d.kind with
  | schedule => simpa [error?_eq_some, Faults] using Schedule.load_faults_iff
  | requestPolicy => simpa [error?_eq_some, Faults] using RequestPolicy.load_faults_iff
  | loanPolicy => simpa [error?_eq_some, Faults] using LoanPolicy.load_faults_iff

end SourceDocument

/-- what makes a step of a load meet a fault -/
inductive LoadStep.MeetsFault (settings : Settings) : LoadStep → Prop
  /-- the document is to be logged, and its keys have no order -/
  | keyOrder {d : SourceDocument} : ¬ d.keys.Pairwise Value.Comparable → MeetsFault settings (.announce d)
  /-- the schema has a problem with a value that has too many digits to be told -/
  | longNumber {d : SourceDocument} {p : SchemaProblem} :
      p ∈ d.schema.problems d.value → p.Unwritable → MeetsFault settings (.load d)
  /-- a loan policy gets through the check and can be read, and a duration is taken for a number and is none -/
  | duration {d : SourceDocument} {doc : LoanPolicyDocument} :
      d.kind = .loanPolicy → Schema.loanPolicy.Passes settings.strict d.value →
      (LoanPolicyDocument.read d.value).toExcept = .ok doc → LoanPolicy.HasMisspelt doc → MeetsFault settings (.load d)

namespace LoadStep

variable {settings : Settings} {step : LoadStep} {d : SourceDocument}

theorem announce_meetsFault_iff : (announce d).MeetsFault settings ↔ ¬ d.Announceable := by
  constructor
  · rintro ⟨horder⟩
    exact horder
  · exact .keyOrder

theorem load_meetsFault_iff :
    (load d).MeetsFault settings ↔
      (∃ p ∈ d.schema.problems d.value, p.Unwritable) ∨
        d.kind = .loanPolicy ∧ Schema.loanPolicy.Passes settings.strict d.value ∧
          ∃ doc, (LoanPolicyDocument.read d.value).toExcept = .ok doc ∧ LoanPolicy.HasMisspelt doc := by
  constructor
  · rintro (_ | ⟨hp, hlong⟩ | ⟨hkind, hpasses, hdoc, hmisspelt⟩)
    · exact .inl ⟨_, hp, hlong⟩
    · exact .inr ⟨hkind, hpasses, _, hdoc, hmisspelt⟩
  · rintro (⟨p, hp, hlong⟩ | ⟨hkind, hpasses, doc, hdoc, hmisspelt⟩)
    · exact .longNumber hp hlong
    · exact .duration hkind hpasses hdoc hmisspelt

/-- the faults that steps meet are the faults they end in -/
theorem fault_iff : (∃ f, step.error? settings = some (.fault f)) ↔ step.MeetsFault settings := by
  cases step with
  | announce d =>
    rw [announce_meetsFault_iff]
    rcases d.announce_error?_cases with ⟨h, hnone⟩ | ⟨h, hfault⟩
    · exact iff_of_false (fun ⟨f, hf⟩ => nomatch hnone.symm.trans hf) fun hnot => hnot h
    · exact iff_of_true hfault h
  | load d => rw [load_meetsFault_iff, ← SourceDocument.loadError?_fault_iff, error?]

theorem ownsErrors {e : LoadError} (h : step.error? settings = some e) : e.isOwn = true ∨ ∃ f, e = .fault f := by
  cases step with
  | announce d =>
    rcases d.announce_error?_cases with ⟨-, hnone⟩ | ⟨-, f, hfault⟩
    · exact nomatch hnone.symm.trans h
    · exact .inr ⟨f, Option.some.inj (h.symm.trans hfault)⟩
  | load d => exact SourceDocument.loadError?_ownsErrors h

/-- whether a step loads a document -/
def isLoad : LoadStep → Bool
  | announce _ => false
  | load _ => true

end LoadStep

namespace PolicyCollection

variable {settings : Settings} {documents : List SourceDocument} {step : LoadStep} {d : SourceDocument}

/-- whether a load of documents comes to a step: all steps before it go through -/
def Reaches (settings : Settings) (documents : List SourceDocument) (step : LoadStep) : Prop :=
  ∃ before after, loadSteps settings documents = before ++ step :: after ∧ ∀ s ∈ before, s.error? settings = none

theorem ofDocuments_eq_error {e : LoadError} :
    (ofDocuments settings documents).run.value = .error e ↔
      ∃ step, Reaches settings documents step ∧ step.error? settings = some e := by
  rw [value_ofDocuments, okUnless_eq_error, List.findSome?_eq_some_iff]
  constructor
  · rintro ⟨before, step, after, hsteps, hstep, hbefore⟩
    exact ⟨step, ⟨before, after, hsteps, hbefore⟩, hstep⟩
  · rintro ⟨step, ⟨before, after, hsteps, hbefore⟩, hstep⟩
    exact ⟨before, step, after, hsteps, hstep, hbefore⟩

/-! ## Loads that log no documents -/

theorem error?_quiet (step : LoadStep) : step.error? { settings with debug := false } = step.error? settings := by
  cases step <;> rfl

/-- without logging documents the steps are those that load one -/
theorem loadSteps_quiet :
    loadSteps { settings with debug := false } documents = (loadSteps settings documents).filter (·.isLoad) := by
  have hshared : ∀ d, (sharedSteps settings d).filter (·.isLoad) = sharedSteps { settings with debug := false } d := by
    intro d
    unfold sharedSteps
    by_cases hkind : d.kind = .loanPolicy <;> cases settings.debug <;> simp [hkind, LoadStep.isLoad]
  have hloan : ∀ ds : List SourceDocument, (ds.map LoadStep.load).filter (·.isLoad) = ds.map .load := by
    intro ds
    refine List.filter_eq_self.2 fun step hstep => ?_
    obtain ⟨d, -, rfl⟩ := List.mem_map.1 hstep
    rfl
  unfold loadSteps
  rw [List.filter_append, List.filter_flatMap, hloan, funext hshared]

/-- logging the documents changes no collection -/
theorem ofDocuments_toOption_quiet (settings : Settings) (documents : List SourceDocument) :
    (ofDocuments settings documents).run.value.toOption =
      (ofDocuments { settings with debug := false } documents).run.value.toOption := by
  rw [value_ofDocuments, value_ofDocuments, toOption_okUnless, toOption_okUnless]
  simp only [List.findSome?_eq_none_iff, steps_succeed_iff]
  rfl

/-- logging documents that can be logged changes no outcome -/
theorem ofDocuments_quiet (h : ∀ d, Reaches settings documents (.announce d) → d.Announceable) :
    (ofDocuments settings documents).run.value = (ofDocuments { settings with debug := false } documents).run.value := by
  have hfirst : ((loadSteps settings documents).filter (·.isLoad)).findSome? (·.error? settings) =
      (loadSteps settings documents).findSome? (·.error? settings) := by
    cases hfound : (loadSteps settings documents).findSome? (·.error? settings) with
    | none =>
      rw [List.findSome?_eq_none_iff] at hfound ⊢
      exact fun step hstep => hfound step (List.mem_of_mem_filter hstep)
    | some e =>
      obtain ⟨before, step, after, hsteps, hstep, hbefore⟩ := List.findSome?_eq_some_iff.1 hfound
      -- the first step that fails logs no document, so it is still the first one
      have hload : step.isLoad = true := by
        cases step with
        | load d => rfl
        | announce d =>
          rcases d.announce_error?_cases with ⟨-, hnone⟩ | ⟨hnot, -⟩
          · exact nomatch hnone.symm.trans hstep
          · exact absurd (h d ⟨before, after, hsteps, hbefore⟩) hnot
      refine List.findSome?_eq_some_iff.2 ⟨before.filter (·.isLoad), step, after.filter (·.isLoad), ?_, hstep, ?_⟩
      · rw [hsteps, List.filter_append, List.filter_cons_of_pos hload]
      · exact fun s hs => hbefore s (List.mem_of_mem_filter hs)
  rw [value_ofDocuments, value_ofDocuments, loadSteps_quiet, funext error?_quiet, hfirst]
  rfl

/-! ## Directories -/

/-- **How a load fails.** A load of a directory ends in an error of its own or in a fault, and in a fault exactly if it
comes to a step that meets one. Logging the documents does not decide whether there is a collection or which, and where the
documents that are come to can be logged, it changes no error either. -/
theorem load_fault_iff (files : Files) (settings : Settings) (directory : Option Path) (documents : List SourceDocument)
    (h : DirectoryHolds files settings directory documents) :
    let result := (load files settings directory).run.value
    let quiet := (load files { settings with debug := false } directory).run.value
    OwnsErrors result ∧
      (Faults result ↔ ∃ step, Reaches settings documents step ∧ step.MeetsFault settings) ∧
      result.toOption = quiet.toOption ∧
      ((∀ d, Reaches settings documents (.announce d) → d.Announceable) → result = quiet) := by
  intro result quiet
  have hresult : result = (ofDocuments settings documents).run.value := value_load_of_holds h
  have hquiet : quiet = (ofDocuments { settings with debug := false } documents).run.value := value_load_of_holds h
  rw [hresult, hquiet]
  refine ⟨fun e he => ?_, ⟨?_, ?_⟩, ofDocuments_toOption_quiet settings documents, ofDocuments_quiet⟩
  · obtain ⟨step, -, hstep⟩ := ofDocuments_eq_error.1 he
    exact step.ownsErrors hstep
  · rintro ⟨f, hf⟩
    obtain ⟨step, hreaches, hstep⟩ := ofDocuments_eq_error.1 hf
    exact ⟨step, hreaches, LoadStep.fault_iff.1 ⟨f, hstep⟩⟩
  · rintro ⟨step, hreaches, hmeets⟩
    obtain ⟨f, hstep⟩ := LoadStep.fault_iff.2 hmeets
    exact ⟨f, ofDocuments_eq_error.2 ⟨step, hreaches, hstep⟩⟩

/-- a folder with one file, whose document has a key that is no text -/
def mixedKeys : Files :=
  ⟨[(⟨"/", ["policies", "policy.yaml"]⟩, .file "id: policy-1\n1: x\n".toUTF8.toList)]⟩

def mixedDocument : SourceDocument :=
  ⟨"/policies/policy.yaml", [(.text "id", .text "policy-1"), (.int 1, .text "x")]⟩

theorem mixedKeys_holds (settings : Settings) :
    DirectoryHolds mixedKeys settings (some policyFolder) [mixedDocument] := by
  have hnames : mixedKeys.namesIn policyFolder = ["policy.yaml"] := List.mergeSort_singleton _
  refine ⟨policyFolder, ⟨rfl, by decide +kernel⟩, ?_⟩
  unfold documentsIn
  rw [hnames]
  decide +kernel

/-- a document that is logged and has a key that is no text ends the load in a fault -/
theorem load_mixedKeys_faults :
    DirectoryHolds mixedKeys { debug := true } (some policyFolder) [mixedDocument] ∧
      Faults (load mixedKeys { debug := true } (some policyFolder)).run.value := by
  have hholds := mixedKeys_holds { debug := true }
  obtain ⟨-, hfaults, -⟩ := load_fault_iff mixedKeys { debug := true } (some policyFolder) [mixedDocument] hholds
  exact ⟨hholds, hfaults.2 ⟨.announce mixedDocument, ⟨[], _, rfl, nofun⟩, .keyOrder (by decide)⟩⟩

/-- the document of the same folder is refused for its key if it is not logged, and is met with a fault if it is -/
theorem load_mixedKeys_debug :
    error? (load mixedKeys {} (some policyFolder)).run.value =
        some (.unparsed "/policies/policy.yaml" [⟨[.index 1], .key⟩]) ∧
      error? (load mixedKeys { debug := true } (some policyFolder)).run.value = some (.fault (.noOrder "int" "str")) := by
  rw [value_load_of_holds (mixedKeys_holds {}), value_load_of_holds (mixedKeys_holds { debug := true })]
  decide +kernel

end PolicyCollection

end Lending
