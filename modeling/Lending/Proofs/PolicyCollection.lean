/-
Loading documents step by step.

Documents are logged one by one, if that is asked for, and loaded, the loan policies last. Whether a step fails, and how,
depends on its document alone and not on what was loaded before. So a load ends in the error of the first step that fails,
and without one it gives a table of each kind of documents (`value_ofDocuments`). A document that can be loaded can be logged
too, so there is a collection exactly if every document can be loaded (`ofDocuments_eq_ok`). A load of a directory is one of
the documents in its files, in the order of their names (`load_eq_ok`).
-/
import Lending.Proofs.Document.KeyOrder
import Lending.Proofs.Loading.Document

namespace Lending

/-- a step in loading documents -/
inductive LoadStep
  /-- log a document and its keys -/
  | announce (d : SourceDocument)
  | load (d : SourceDocument)

namespace SourceDocument

/-- the error that stops the load of a document, if one does -/
def loadError? (settings : Settings) (d : SourceDocument) : Option LoadError :=
  match d.kind with
  | .schedule => error? (Schedule.load settings d.source d.value).run.value
  | .requestPolicy => error? (RequestPolicy.load settings d.source d.value).run.value
  | .loanPolicy => error? (LoanPolicy.load settings [] d.source d.value).run.value

/-- the schedule that a document gives -/
def schedule? (settings : Settings) (d : SourceDocument) : Option Schedule :=
  if d.kind = .schedule then (Schedule.load settings d.source d.value).run.value.toOption else none

/-- the request policy that a document gives -/
def requestPolicy? (settings : Settings) (d : SourceDocument) : Option RequestPolicy :=
  if d.kind = .requestPolicy then (RequestPolicy.load settings d.source d.value).run.value.toOption else none

/-- the loan policy that a document gives with schedules at hand -/
def loanPolicy? (settings : Settings) (schedules : List (Text × Schedule)) (d : SourceDocument) : Option LoanPolicy :=
  if d.kind = .loanPolicy then (LoanPolicy.load settings schedules d.source d.value).run.value.toOption else none

end SourceDocument

/-- the error that stops a step, if one does -/
def LoadStep.error? (settings : Settings) : LoadStep → Option LoadError
  | announce d => Lending.error? d.announce.run.value
  | load d => d.loadError? settings

/-- the steps for a document in the first round, which leaves loan policies for the second -/
def sharedSteps (settings : Settings) (d : SourceDocument) : List LoadStep :=
  (if settings.debug then [.announce d] else []) ++ if d.kind = .loanPolicy then [] else [.load d]

/-- the steps of loading documents -/
def loadSteps (settings : Settings) (documents : List SourceDocument) : List LoadStep :=
  documents.flatMap (sharedSteps settings) ++ (documents.filter (·.kind = .loanPolicy)).map .load

/-! ## Logging a document -/

namespace SourceDocument

variable {d : SourceDocument} {settings : Settings}

/-- the keys of a document -/
def keys (d : SourceDocument) : List Value := d.entries.map (·.1)

/-- whether a document can be logged: its keys have an order -/
def Announceable (d : SourceDocument) : Prop := d.keys.Pairwise Value.Comparable

/-- what becomes of logging a document: a record that shows all its keys, or a fault and no record -/
theorem announce_cases (d : SourceDocument) :
    (d.Announceable ∧ ∃ keys, keys.Perm d.keys ∧ d.announce.run = ⟨.ok (), [.documentFound d.source keys]⟩) ∨
      (¬ d.Announceable ∧ ∃ f, d.announce.run = ⟨.error (.fault f), []⟩) := by
  rw [Announceable, ← Value.sorted?_isOk_iff]
  unfold announce
  rw [← keys]
  cases hsorted : Value.sorted? d.keys with
  | ok keys => exact .inl ⟨⟨keys, rfl⟩, keys, Value.sorted?_perm hsorted, rfl⟩
  | error f => exact .inr ⟨nofun, f, rfl⟩

/-- a document that cannot be logged meets a fault -/
theorem announce_error?_cases :
    d.Announceable ∧ error? d.announce.run.value = none ∨
      ¬ d.Announceable ∧ ∃ f, error? d.announce.run.value = some (.fault f) := by
  rcases d.announce_cases with ⟨h, keys, -, hrun⟩ | ⟨h, f, hrun⟩
  · exact .inl ⟨h, by rw [hrun]; rfl⟩
  · exact .inr ⟨h, f, by rw [hrun]; rfl⟩

/-- a document whose keys are texts can be logged -/
theorem announceable_of_texts (h : ∀ e ∈ d.entries, Reading.IsText e.1) : d.Announceable := by
  have hkeys : ∀ k ∈ d.keys, ∃ t, k = .text t := by
    intro k hk
    obtain ⟨e, he, rfl⟩ := List.mem_map.1 hk
    exact h e he
  refine List.pairwise_of_forall_mem_list fun k hk w hw => ?_
  obtain ⟨t, rfl⟩ := hkeys k hk
  obtain ⟨u, rfl⟩ := hkeys w hw
  exact ⟨Option.some_ne_none _, rfl⟩

/-- a document that is loaded has been read, so all its keys are texts -/
theorem announceable_of_loads (h : d.loadError? settings = none) : d.Announceable := by
  have hread : ∀ {α : Type} {absent a : α} {fields : List (Value × Value) → Reading α},
      (Reading.ofSection absent fields d.value).toExcept = .ok a → d.Announceable := by
    intro α absent a fields hsection
    obtain ⟨entries, hopened, -, htexts, -⟩ := Reading.ofSection_eq_ok.1 hsection
    cases hopened
    exact announceable_of_texts htexts
  unfold loadError? at h
  cases hkind : d.kind with
  | schedule =>
    rw [hkind] at h
    obtain ⟨s, hload⟩ := error?_eq_none.1 h
    obtain ⟨-, read, hsection, -⟩ := Schedule.load_eq_ok.1 hload
    exact hread hsection
  | requestPolicy =>
    rw [hkind] at h
    obtain ⟨p, hload⟩ := error?_eq_none.1 h
    exact hread (RequestPolicy.load_eq_ok.1 hload).2
  | loanPolicy =>
    rw [hkind] at h
    obtain ⟨p, hload⟩ := error?_eq_none.1 h
    obtain ⟨-, doc, hsection, -⟩ := LoanPolicy.load_eq_ok_iff.1 hload
    exact hread hsection

end SourceDocument

namespace PolicyCollection

variable {α : Type} {settings : Settings} {documents : List SourceDocument} {d : SourceDocument}
  {step : LoadStep} {c : PolicyCollection}

/-! ## Tables -/

/-- what is kept when things are put into a table one after another, each under its id -/
def fill (id : α → Option Text) (kept : List (Text × α)) (as : List α) : List (Text × α) :=
  as.foldl (fun kept a => keep (id a) a kept) kept

/-- the collection of all that documents give -/
def collected (settings : Settings) (documents : List SourceDocument) : PolicyCollection :=
  let schedules := fill Schedule.id? [] (documents.filterMap (·.schedule? settings))
  { schedules
    requestPolicies := fill RequestPolicy.id [] (documents.filterMap (·.requestPolicy? settings))
    loanPolicies := fill LoanPolicy.id [] (documents.filterMap (·.loanPolicy? settings schedules)) }

/-! ## Single documents -/

/-- a collection with the schedule or request policy of one more document -/
def withShared (settings : Settings) (c : PolicyCollection) (d : SourceDocument) : PolicyCollection :=
  { c with
    schedules := fill Schedule.id? c.schedules (d.schedule? settings).toList
    requestPolicies := fill RequestPolicy.id c.requestPolicies (d.requestPolicy? settings).toList }

/-- a collection with the loan policy of one more document -/
def withLoanPolicy (settings : Settings) (c : PolicyCollection) (d : SourceDocument) : PolicyCollection :=
  let policy := (LoanPolicy.load settings c.schedules d.source d.value).run.value.toOption
  { c with loanPolicies := fill LoanPolicy.id c.loanPolicies policy.toList }

/-- without being logged, a document is loaded or left for the second round -/
theorem value_addShared_quiet (hquiet : settings.debug = false) :
    (addShared settings c d).run.value =
      okUnless (if d.kind = .loanPolicy then none else d.loadError? settings) (withShared settings c d) := by
  unfold addShared withShared SourceDocument.loadError? SourceDocument.schedule? SourceDocument.requestPolicy?
  rw [hquiet]
  cases hkind : d.kind with
  | schedule =>
    simp only [Bool.false_eq_true, if_false, if_true, reduceCtorEq, Loading.value_bind]
    cases (Schedule.load settings d.source d.value).run.value <;> rfl
  | requestPolicy =>
    simp only [Bool.false_eq_true, if_false, if_true, reduceCtorEq, Loading.value_bind]
    cases (RequestPolicy.load settings d.source d.value).run.value <;> rfl
  | loanPolicy => rfl

theorem value_addShared (settings : Settings) (c : PolicyCollection) (d : SourceDocument) :
    (addShared settings c d).run.value =
      okUnless ((sharedSteps settings d).findSome? (·.error? settings)) (withShared settings c d) := by
  have hload : (if d.kind = .loanPolicy then [] else [LoadStep.load d]).findSome? (·.error? settings) =
      if d.kind = .loanPolicy then none else d.loadError? settings := by
    split_ifs
    · rfl
    · exact List.findSome?_singleton
  unfold sharedSteps
  rw [List.findSome?_append, hload]
  cases hdebug : settings.debug with
  | false => exact value_addShared_quiet hdebug
  | true =>
    -- what follows the log entry is the load without one
    have hannounce : (addShared settings c d).run.value =
        d.announce.run.value >>= fun _ => (addShared { settings with debug := false } c d).run.value := by
      unfold addShared
      rw [hdebug, ← Loading.value_bind]
      rfl
    rw [hannounce]
    refine okUnless_bind (a := ()) ?_ (value_addShared_quiet rfl)
    rw [if_pos rfl, List.findSome?_singleton]
    exact eq_okUnless _

theorem value_addLoanPolicy (settings : Settings) (c : PolicyCollection) (d : SourceDocument) :
    (addLoanPolicy settings c d).run.value =
      okUnless (error? (LoanPolicy.load settings [] d.source d.value).run.value) (withLoanPolicy settings c d) := by
  unfold addLoanPolicy withLoanPolicy
  rw [Loading.value_bind, LoanPolicy.error?_load [] c.schedules]
  cases (LoanPolicy.load settings c.schedules d.source d.value).run.value <;> rfl

/-! ## All documents -/

theorem foldl_withShared (settings : Settings) (documents : List SourceDocument) (c : PolicyCollection) :
    documents.foldl (withShared settings) c =
      { c with
        schedules := fill Schedule.id? c.schedules (documents.filterMap (·.schedule? settings))
        requestPolicies := fill RequestPolicy.id c.requestPolicies (documents.filterMap (·.requestPolicy? settings)) } := by
  induction documents generalizing c with
  | nil => rfl
  | cons d documents ih =>
    rw [List.foldl_cons, ih]
    simp only [withShared, List.filterMap_cons]
    cases d.schedule? settings <;> cases d.requestPolicy? settings <;> rfl

/-- loan policies are put into their table, and the schedules stay as they are -/
theorem foldl_withLoanPolicy (settings : Settings) (documents : List SourceDocument) (c : PolicyCollection) :
    (documents.filter (·.kind = .loanPolicy)).foldl (withLoanPolicy settings) c =
      { c with
        loanPolicies := fill LoanPolicy.id c.loanPolicies (documents.filterMap (·.loanPolicy? settings c.schedules)) } := by
  -- the induction is over all collections, and the schedules of `c` are those of every later one
  induction documents generalizing c with
  | nil => rfl
  | cons d documents ih =>
    by_cases hkind : d.kind = .loanPolicy
    · have hloan : d.loanPolicy? settings c.schedules =
          (LoanPolicy.load settings c.schedules d.source d.value).run.value.toOption := if_pos hkind
      rw [List.filter_cons_of_pos (by simpa using hkind), List.foldl_cons, ih, List.filterMap_cons, hloan]
      simp only [withLoanPolicy]
      cases (LoanPolicy.load settings c.schedules d.source d.value).run.value <;> rfl
    · have hloan : d.loanPolicy? settings c.schedules = none := if_neg hkind
      rw [List.filter_cons_of_neg (by simpa using hkind), ih, List.filterMap_cons, hloan]

theorem findSome?_flatMap_sharedSteps :
    documents.findSome? (fun d => (sharedSteps settings d).findSome? (·.error? settings)) =
      (documents.flatMap (sharedSteps settings)).findSome? (·.error? settings) := by
  induction documents with
  | nil => rfl
  | cons d documents ih =>
    rw [List.findSome?_cons, List.flatMap_cons, List.findSome?_append, ih]
    cases (sharedSteps settings d).findSome? (·.error? settings) <;> rfl

theorem findSome?_loanPolicies :
    (documents.filter (·.kind = .loanPolicy)).findSome?
        (fun d => error? (LoanPolicy.load settings [] d.source d.value).run.value) =
      ((documents.filter (·.kind = .loanPolicy)).map LoadStep.load).findSome? (·.error? settings) := by
  rw [List.findSome?_map]
  induction documents with
  | nil => rfl
  | cons d documents ih =>
    by_cases hkind : d.kind = .loanPolicy
    · have hload : error? (LoanPolicy.load settings [] d.source d.value).run.value = (LoadStep.load d).error? settings := by
        simp only [LoadStep.error?, SourceDocument.loadError?, hkind]
      rw [List.filter_cons_of_pos (by simpa using hkind), List.findSome?_cons, List.findSome?_cons, ih, hload]
      rfl
    · rw [List.filter_cons_of_neg (by simpa using hkind), ih]

/-- **What a load gives.** The steps of a load fail or not by themselves, and the first that fails ends it; if none does, the
collection is that of all documents. -/
theorem value_ofDocuments (settings : Settings) (documents : List SourceDocument) :
    (ofDocuments settings documents).run.value =
      okUnless ((loadSteps settings documents).findSome? (·.error? settings)) (collected settings documents) := by
  have hshared := foldlM_eq_okUnless (value_addShared settings) documents {}
  have hloan := foldlM_eq_okUnless (value_addLoanPolicy settings) (documents.filter (·.kind = .loanPolicy))
    (documents.foldl (withShared settings) {})
  unfold ofDocuments loadSteps
  rw [Loading.value_bind, Loading.value_foldlM]
  simp only [Loading.value_foldlM]
  rw [okUnless_bind hshared hloan, findSome?_flatMap_sharedSteps, findSome?_loanPolicies, List.findSome?_append,
    foldl_withLoanPolicy, foldl_withShared]
  rfl

theorem load_mem_loadSteps (h : d ∈ documents) : .load d ∈ loadSteps settings documents := by
  unfold loadSteps sharedSteps
  by_cases hkind : d.kind = .loanPolicy
  · exact List.mem_append_right _ (List.mem_map_of_mem (List.mem_filter.2 ⟨h, by simpa using hkind⟩))
  · exact List.mem_append_left _ (List.mem_flatMap.2 ⟨d, h, List.mem_append_right _ (by simp [hkind])⟩)

theorem mem_of_mem_loadSteps (h : step ∈ loadSteps settings documents) :
    ∃ d ∈ documents, step = .announce d ∨ step = .load d := by
  unfold loadSteps sharedSteps at h
  rcases List.mem_append.1 h with h | h
  · obtain ⟨d, hd, h⟩ := List.mem_flatMap.1 h
    refine ⟨d, hd, (List.mem_append.1 h).imp (fun h => ?_) fun h => ?_⟩
    · exact List.mem_singleton.1 (List.mem_ite_nil_right.1 h).2
    · exact List.mem_singleton.1 (List.mem_ite_nil_left.1 h).2
  · obtain ⟨d, hd, rfl⟩ := List.mem_map.1 h
    exact ⟨d, List.mem_of_mem_filter hd, .inr rfl⟩

/-- a load goes through exactly if every document can be loaded -/
theorem steps_succeed_iff :
    (∀ step ∈ loadSteps settings documents, step.error? settings = none) ↔
      ∀ d ∈ documents, d.loadError? settings = none := by
  constructor
  · exact fun h d hd => h (.load d) (load_mem_loadSteps hd)
  · intro h step hstep
    obtain ⟨d, hd, rfl | rfl⟩ := mem_of_mem_loadSteps hstep
    -- a document is logged without a fault if it is loaded later on
    · rcases d.announce_error?_cases with ⟨-, hnone⟩ | ⟨hnot, -⟩
      · exact hnone
      · exact absurd (SourceDocument.announceable_of_loads (h d hd)) hnot
    · exact h d hd

theorem ofDocuments_eq_ok :
    (ofDocuments settings documents).run.value = .ok c ↔
      (∀ d ∈ documents, d.loadError? settings = none) ∧ collected settings documents = c := by
  rw [value_ofDocuments, okUnless_eq_ok, List.findSome?_eq_none_iff, steps_succeed_iff]

/-! ## Directories -/

variable {files : Files} {directory : Option Path} {folder : Path}

/-- what the files of a folder that have a document's name hold, in the order of their names: a document, or none -/
def documentsIn (files : Files) (folder : Path) : List (Option SourceDocument) :=
  ((files.namesIn folder).filter isDocumentName).map fun name =>
    (SourceDocument.read files (folder.child name)).run.value.toOption

/-- the names of files come in their order -/
theorem namesIn_pairwise (files : Files) (folder : Path) : (files.namesIn folder).Pairwise (· ≤ ·) := by
  unfold Files.namesIn
  split
  · exact List.Pairwise.nil
  · refine (List.pairwise_mergeSort (fun a b c hab hbc => ?_) (fun a b => ?_) _).imp of_decide_eq_true
    · exact decide_eq_true (String.le_trans (of_decide_eq_true hab) (of_decide_eq_true hbc))
    · simpa using String.le_total a b

/-- whether a load is of a folder, which is there -/
def Opens (files : Files) (settings : Settings) (directory : Option Path) (folder : Path) : Prop :=
  directory.or settings.policyDir = some folder ∧ files.isFolder folder = true

theorem opens_of_load_eq_ok (h : (load files settings directory).run.value = .ok c) :
    ∃ folder, Opens files settings directory folder := by
  unfold load at h
  unfold Opens
  cases hdirectory : directory.or settings.policyDir with
  | none =>
    rw [hdirectory] at h
    cases h
  | some folder =>
    rw [hdirectory] at h
    cases hfolder : files.isFolder folder with
    | false =>
      simp only [hfolder] at h
      cases h
    | true => exact ⟨folder, rfl, hfolder⟩

/-- a load of a folder reads its documents and then loads them -/
theorem value_load (h : Opens files settings directory folder) :
    (load files settings directory).run.value =
      (((files.namesIn folder).filter isDocumentName).mapM fun name =>
        (SourceDocument.read files (folder.child name)).run.value) >>= fun documents =>
          (ofDocuments settings documents).run.value := by
  unfold load
  rw [h.1]
  simp only [h.2, Bool.not_true, Bool.false_eq_true, if_false, Loading.value_bind, Loading.value_mapM]

/-- whether the files of a load's folder that have a document's name hold these documents -/
def DirectoryHolds (files : Files) (settings : Settings) (directory : Option Path) (documents : List SourceDocument) :
    Prop :=
  ∃ folder, Opens files settings directory folder ∧ documentsIn files folder = documents.map some

/-- whether documents are what the files of a load's folder that have a document's name are read as, one after the other in
the order of the names -/
def ReadInOrder (files : Files) (settings : Settings) (directory : Option Path) (documents : List SourceDocument) : Prop :=
  ∃ folder names, Opens files settings directory folder ∧ names = (files.namesIn folder).filter isDocumentName ∧
    names.Pairwise (· ≤ ·) ∧
    List.Forall₂ (fun name d => (SourceDocument.read files (folder.child name)).run.value = .ok d) names documents

theorem readInOrder_of_holds (h : DirectoryHolds files settings directory documents) :
    ReadInOrder files settings directory documents := by
  obtain ⟨folder, hopens, hdocuments⟩ := h
  exact ⟨folder, _, hopens, rfl, (namesIn_pairwise files folder).filter _, mapM_eq_ok.1 (mapM_eq_ok_iff_map.2 hdocuments)⟩

theorem value_load_of_holds (h : DirectoryHolds files settings directory documents) :
    (load files settings directory).run.value = (ofDocuments settings documents).run.value := by
  obtain ⟨folder, hopens, hdocuments⟩ := h
  rw [value_load hopens, mapM_eq_ok_iff_map.2 hdocuments, ok_bind]

/-- **What a load takes.** A load that succeeds is of a folder that is there, whose files that have a document's name all
hold documents, and it loads these. -/
theorem load_eq_ok :
    (load files settings directory).run.value = .ok c ↔
      ∃ documents, DirectoryHolds files settings directory documents ∧
        (ofDocuments settings documents).run.value = .ok c := by
  constructor
  · intro h
    obtain ⟨folder, hopens⟩ := opens_of_load_eq_ok h
    obtain ⟨documents, hread, hload⟩ := bind_eq_ok.1 (value_load hopens ▸ h)
    exact ⟨documents, ⟨folder, hopens, mapM_eq_ok_iff_map.1 hread⟩, hload⟩
  · rintro ⟨documents, hholds, h⟩
    rw [value_load_of_holds hholds, h]

/-- the folder of the examples -/
def policyFolder : Path := ⟨"/", ["policies"]⟩

end PolicyCollection

end Lending
