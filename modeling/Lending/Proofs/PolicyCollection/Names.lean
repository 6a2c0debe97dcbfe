/-
What a collection holds, whatever its files are called.

Under each id a collection has what the last document of the kind with this id gives, and each loan policy has the
schedules of the same collection that it refers to (`Holds`). Of a document only its entries count, not where it comes from
(`plain`). So if no two documents of a kind have one id, their order does not count either, and two folders that hold the
same documents under different names give the same collection (`load_names`).
-/
import Lending.Proofs.PolicyCollection

namespace Lending

/-! ## Tables -/

namespace PolicyCollection

variable {α : Type} {t : Text} {a : α} {kept : List (Text × α)}

/-- the id that something is kept under: one that is not empty -/
def properId : Option Text → Option Text
  | none => none
  | some id => if id.isEmpty then none else some id

theorem lookup_cons (e : Text × α) (kept : List (Text × α)) :
    (e :: kept).lookup t = if t = e.1 then some e.2 else kept.lookup t := by
  rw [List.lookup_cons]
  by_cases h : t = e.1
  · simp [h]
  · rw [beq_false_of_ne h, if_neg h]

theorem lookup_put (id : Text) (a : α) (kept : List (Text × α)) :
    (keep.put id a kept).lookup t = if t = id then some a else kept.lookup t := by
  induction kept with
  | nil => exact lookup_cons (id, a) []
  | cons e kept ih =>
    unfold keep.put
    by_cases hid : e.1 = id
    · rw [if_pos hid, lookup_cons, lookup_cons, hid]
      split_ifs <;> rfl
    · rw [if_neg hid, lookup_cons, lookup_cons, ih]
      by_cases h : t = e.1
      · rw [if_pos h, if_pos h, if_neg fun ht => hid (h ▸ ht)]
      · rw [if_neg h, if_neg h]

theorem lookup_keep (id : Option Text) (a : α) (kept : List (Text × α)) :
    (keep id a kept).lookup t = if properId id = some t then some a else kept.lookup t := by
  unfold keep properId
  cases id with
  | none => rfl
  | some id =>
    cases hempty : id.isEmpty with
    | true => simp [hempty]
    | false => simp [hempty, lookup_put, eq_comm]

/-- a table has under an id what was put into it last under this id -/
theorem lookup_fill (id : α → Option Text) (kept : List (Text × α)) (as : List α) :
    (fill id kept as).lookup t = (as.reverse.find? fun a => properId (id a) = some t).or (kept.lookup t) := by
  induction as generalizing kept with
  | nil => rfl
  | cons a as ih =>
    have hfill : fill id kept (a :: as) = fill id (keep (id a) a kept) as := rfl
    rw [hfill, ih, lookup_keep, List.reverse_cons, List.find?_append, Option.or_assoc]
    congr 1
    by_cases h : properId (id a) = some t <;> simp [h]

end PolicyCollection

/-! ## Documents -/

namespace SourceDocument

open PolicyCollection

variable {settings : Settings} {schedules : List (Text × Schedule)} {d : SourceDocument}

/-- the id of a document, if it has one that is not empty -/
def id? (d : SourceDocument) : Option Text :=
  match (Value.lookup? d.entries "id").bind Reading.textIn? with
  | some t => if t.isEmpty then none else some t
  | none => none

theorem properId_of_field {entries : List (Value × Value)} {id : Option Text}
    (h : (Reading.field entries "id" "id" none (Reading.optional Reading.text)).toExcept = .ok id) :
    properId id = SourceDocument.id? ⟨"", entries⟩ := by
  have hentry : Reading.entry? entries "id" "id" = Value.lookup? entries "id" := by
    unfold Reading.entry?
    cases Value.lookup? entries "id" <;> rfl
  unfold id?
  rw [Reading.field_eq_ok, hentry] at h
  rcases h with ⟨hnone, rfl⟩ | ⟨w, hw, hread⟩
  · rw [hnone]
    rfl
  · rw [hw]
    rcases Reading.optional_eq_ok.1 hread with ⟨rfl, rfl⟩ | ⟨-, t, ht, rfl⟩
    · rfl
    · rw [Option.bind_some, Reading.text_eq_ok.1 ht]
      rfl

/-- a schedule document that can be loaded gives a schedule with its id -/
theorem schedule?_of_loads (h : d.loadError? settings = none) (hkind : d.kind = .schedule) :
    ∃ s, d.schedule? settings = some s ∧ properId s.id? = d.id? := by
  unfold loadError? at h
  rw [hkind] at h
  obtain ⟨s, hs⟩ := error?_eq_none.1 h
  refine ⟨s, (if_pos hkind).trans (toOption_eq_some.2 hs), ?_⟩
  obtain ⟨-, read, hread, rfl⟩ := Schedule.load_eq_ok.1 hs
  simp only [Schedule.read, Reading.ofSection_eq_ok, Reading.bind_eq_ok, Reading.pure_eq_ok] at hread
  obtain ⟨entries, hopened, -, -, id, hid, name, -, ranges, -, rfl⟩ := hread
  cases hopened
  exact properId_of_field hid

/-- a request policy document that can be loaded gives a request policy with its id -/
theorem requestPolicy?_of_loads (h : d.loadError? settings = none) (hkind : d.kind = .requestPolicy) :
    ∃ p, d.requestPolicy? settings = some p ∧ properId p.id = d.id? := by
  unfold loadError? at h
  rw [hkind] at h
  obtain ⟨p, hp⟩ := error?_eq_none.1 h
  refine ⟨p, (if_pos hkind).trans (toOption_eq_some.2 hp), ?_⟩
  have hread := (RequestPolicy.load_eq_ok.1 hp).2
  simp only [RequestPolicy.read, Reading.ofSection_eq_ok, Reading.bind_eq_ok, Reading.pure_eq_ok] at hread
  obtain ⟨entries, hopened, -, -, id, hid, name, -, names, -, rfl⟩ := hread
  cases hopened
  exact properId_of_field hid

/-- a loan policy document that can be loaded gives a loan policy with its id, with any schedules at hand -/
theorem loanPolicy?_of_loads (h : d.loadError? settings = none) (hkind : d.kind = .loanPolicy) :
    ∃ p, d.loanPolicy? settings schedules = some p ∧ properId p.id = d.id? := by
  unfold loadError? at h
  rw [hkind] at h
  obtain ⟨p, hp⟩ := error?_eq_none.1 ((LoanPolicy.error?_load schedules []).trans h)
  refine ⟨p, (if_pos hkind).trans (toOption_eq_some.2 hp), ?_⟩
  obtain ⟨-, doc, hread, hpolicy⟩ := LoanPolicy.load_eq_ok_iff.1 hp
  simp only [LoanPolicyDocument.read, Reading.ofSection_eq_ok, Reading.bind_eq_ok, Reading.pure_eq_ok] at hread
  obtain ⟨entries, hopened, -, -, id, hid, _, -, _, -, _, -, _, -, _, -, _, -, rfl⟩ := hread
  cases hopened
  rw [(LoanPolicy.ofDocument_ids hpolicy).1]
  exact properId_of_field hid

/-! ## Documents apart from where they come from -/

/-- the document apart from where it comes from -/
def plain (d : SourceDocument) : SourceDocument := { d with source := "" }

theorem plain_schedule? (d : SourceDocument) : d.plain.schedule? settings = d.schedule? settings :=
  if_congr Iff.rfl (toOption_congr fun _ => Schedule.load_eq_ok.trans Schedule.load_eq_ok.symm) rfl

theorem plain_requestPolicy? (d : SourceDocument) : d.plain.requestPolicy? settings = d.requestPolicy? settings :=
  if_congr Iff.rfl (toOption_congr fun _ => RequestPolicy.load_eq_ok.trans RequestPolicy.load_eq_ok.symm) rfl

theorem plain_loanPolicy? (d : SourceDocument) :
    d.plain.loanPolicy? settings schedules = d.loanPolicy? settings schedules :=
  if_congr Iff.rfl (toOption_congr fun _ => LoanPolicy.load_eq_ok_iff.trans LoanPolicy.load_eq_ok_iff.symm) rfl

theorem plain_loadError? (d : SourceDocument) : d.plain.loadError? settings = none ↔ d.loadError? settings = none := by
  have hkind : d.plain.kind = d.kind := rfl
  unfold loadError?
  rw [hkind]
  cases d.kind with
  | schedule =>
    simp only [error?_eq_none]
    exact exists_congr fun _ => Schedule.load_eq_ok.trans Schedule.load_eq_ok.symm
  | requestPolicy =>
    simp only [error?_eq_none]
    exact exists_congr fun _ => RequestPolicy.load_eq_ok.trans RequestPolicy.load_eq_ok.symm
  | loanPolicy =>
    simp only [error?_eq_none]
    exact exists_congr fun _ => LoanPolicy.load_eq_ok_iff.trans LoanPolicy.load_eq_ok_iff.symm

/-- what a loan policy document gives depends only on what is found in the schedules -/
theorem loanPolicy?_congr {schedules' : List (Text × Schedule)} (h : ∀ t, schedules.lookup t = schedules'.lookup t) :
    d.loanPolicy? settings schedules = d.loanPolicy? settings schedules' := by
  have hattached : LoanPolicy.attached schedules = LoanPolicy.attached schedules' := by
    funext id
    simp only [LoanPolicy.attached, h]
  unfold loanPolicy?
  rw [LoanPolicy.value_load, LoanPolicy.value_load, hattached]

/-- the document that is in some bytes, if there is one, apart from where it comes from -/
def ofBytes? (bytes : List UInt8) : Option SourceDocument := do
  let text ← (Text.Utf8.readLines bytes).toOption
  let v ← (Value.ofYaml text).toOption
  match v.opened with
  | .mapping entries => some ⟨"", entries⟩
  | _ => none

theorem read_plain {files : Files} {path : Path} :
    (read files path).run.value.toOption.map (·.plain) = (files.read? path).bind ofBytes? := by
  unfold read ofBytes?
  cases files.read? path with
  | none => rfl
  | some bytes =>
    simp only [Loading.value_bind, Loading.value_ofFault, Option.bind_some]
    cases Text.Utf8.readLines bytes with
    | error f => rfl
    | ok text =>
      simp only [Except.mapError, ok_bind, Except.toOption, Option.bind_eq_bind, Option.bind_some]
      cases Value.ofYaml text with
      | error e => cases e <;> rfl
      | ok v =>
        simp only [Option.bind_some]
        cases v.opened <;> rfl

/-- what a document is kept under, if it is kept: its kind and its id -/
def key? (d : SourceDocument) : Option (DocumentKind × Text) := d.id?.map fun t => (d.kind, t)

end SourceDocument

namespace PolicyCollection

variable {settings : Settings} {documents documents' : List SourceDocument} {c c' : PolicyCollection}
  {k : DocumentKind} {t : Text} {d : SourceDocument}

/-! ## What a collection holds -/

/-- the last document of a kind that has an id -/
def lastWith (documents : List SourceDocument) (k : DocumentKind) (t : Text) : Option SourceDocument :=
  documents.reverse.find? fun d => d.kind = k ∧ d.id? = some t

/-- whether a collection has under each id what the last document of the kind with this id gives, and whether its loan
policies have the schedules of the collection that they refer to -/
structure Holds (settings : Settings) (documents : List SourceDocument) (c : PolicyCollection) : Prop where
  schedules (t : Text) : c.schedules.lookup t = (lastWith documents .schedule t).bind (·.schedule? settings)
  requestPolicies (t : Text) :
    c.requestPolicies.lookup t = (lastWith documents .requestPolicy t).bind (·.requestPolicy? settings)
  loanPolicies (t : Text) :
    c.loanPolicies.lookup t = (lastWith documents .loanPolicy t).bind (·.loanPolicy? settings c.schedules)
  attached (t : Text) (p : LoanPolicy) : c.loanPolicies.lookup t = some p →
    p.checkoutSchedule = LoanPolicy.attached c.schedules p.checkoutScheduleId ∧
      p.alternateRenewalSchedule = LoanPolicy.attached c.schedules p.alternateRenewalScheduleId

/-- a table filled from documents has under an id what the last of them with this id gives -/
theorem lookup_fill_documents {α : Type} {f : SourceDocument → Option α} {id : α → Option Text}
    (hloads : ∀ d ∈ documents, d.kind = k → ∃ a, f d = some a ∧ properId (id a) = d.id?)
    (hother : ∀ d, d.kind ≠ k → f d = none) :
    (fill id [] (documents.filterMap f)).lookup t = (lastWith documents k t).bind f := by
  have hnone : ([] : List (Text × α)).lookup t = none := rfl
  rw [lookup_fill, hnone, Option.or_none, ← List.filterMap_reverse, List.find?_filterMap, lastWith]
  congr 1
  refine List.find?_congr fun d hd => ?_
  by_cases hkind : d.kind = k
  · obtain ⟨a, ha, hid⟩ := hloads d (List.mem_reverse.1 hd) hkind
    simp [ha, hid, hkind]
  · simp [hother d hkind, hkind]

/-- **What a collection holds.** -/
theorem holds_of_load (h : (ofDocuments settings documents).run.value = .ok c) : c.Holds settings documents := by
  obtain ⟨hloads, rfl⟩ := ofDocuments_eq_ok.1 h
  have hloan : ∀ t, (collected settings documents).loanPolicies.lookup t =
      (lastWith documents .loanPolicy t).bind (·.loanPolicy? settings (collected settings documents).schedules) :=
    fun t => lookup_fill_documents (fun d hd hkind => SourceDocument.loanPolicy?_of_loads (hloads d hd) hkind)
      fun d hkind => if_neg hkind
  refine ⟨fun t => ?_, fun t => ?_, hloan, fun t p hp => ?_⟩
  · exact lookup_fill_documents (fun d hd hkind => SourceDocument.schedule?_of_loads (hloads d hd) hkind)
      fun d hkind => if_neg hkind
  · exact lookup_fill_documents (fun d hd hkind => SourceDocument.requestPolicy?_of_loads (hloads d hd) hkind)
      fun d hkind => if_neg hkind
  · obtain ⟨d, -, hd⟩ := Option.bind_eq_some_iff.1 ((hloan t).symm.trans hp)
    unfold SourceDocument.loanPolicy? at hd
    split_ifs at hd
    obtain ⟨-, doc, -, hpolicy⟩ := LoanPolicy.load_eq_ok_iff.1 (toOption_eq_some.1 hd)
    obtain ⟨-, hcheckout, hrenewal⟩ := LoanPolicy.ofDocument_ids hpolicy
    rw [hcheckout, hrenewal]
    exact LoanPolicy.ofDocument_schedules hpolicy

/-! ## The same documents in another order -/

/-- whether two collections have the same under each id -/
structure Same (c c' : PolicyCollection) : Prop where
  schedules (t : Text) : c.schedules.lookup t = c'.schedules.lookup t
  requestPolicies (t : Text) : c.requestPolicies.lookup t = c'.requestPolicies.lookup t
  loanPolicies (t : Text) : c.loanPolicies.lookup t = c'.loanPolicies.lookup t

/-- whether two loads both fail, or both give the same -/
inductive SameResult : Except LoadError PolicyCollection → Except LoadError PolicyCollection → Prop
  | failed {e e' : LoadError} : SameResult (.error e) (.error e')
  | loaded {c c' : PolicyCollection} : c.Same c' → SameResult (.ok c) (.ok c')

/-- whether no two documents of a kind have one id -/
def DistinctIds (documents : List SourceDocument) : Prop := (documents.filterMap (·.key?)).Nodup

/-- where at most one fits, the first that fits is the one -/
theorem find?_eq_some_iff_of_pairwise {α : Type} {p : α → Bool} {as : List α} {a : α}
    (h : as.Pairwise fun a b => p a = true → p b = false) : as.find? p = some a ↔ a ∈ as ∧ p a = true := by
  induction as with
  | nil => simp
  | cons b as ih =>
    obtain ⟨hb, has⟩ := List.pairwise_cons.1 h
    cases hp : p b with
    | false =>
      rw [List.find?_cons_of_neg (by simp [hp]), ih has, List.mem_cons]
      refine ⟨fun ⟨hmem, ha⟩ => ⟨.inr hmem, ha⟩, fun ⟨hmem, ha⟩ => ⟨hmem.resolve_left ?_, ha⟩⟩
      rintro rfl
      exact Bool.false_ne_true (hp.symm.trans ha)
    | true =>
      rw [List.find?_cons_of_pos hp, Option.some.injEq, List.mem_cons]
      constructor
      · rintro rfl
        exact ⟨.inl rfl, hp⟩
      · rintro ⟨rfl | hmem, ha⟩
        · rfl
        · exact absurd ha (by simp [hb a hmem hp])

/-- among documents with ids of their own, the last one with an id is the one -/
theorem lastWith_eq_some_iff (h : DistinctIds documents) :
    lastWith documents k t = some d ↔ d ∈ documents ∧ d.key? = some (k, t) := by
  have hkey : ∀ d : SourceDocument, d.key? = some (k, t) ↔ d.kind = k ∧ d.id? = some t := by
    intro d
    simp only [SourceDocument.key?, Option.map_eq_some_iff, Prod.mk.injEq]
    exact ⟨fun ⟨_, hid, hkind, ht⟩ => ⟨hkind, ht ▸ hid⟩, fun ⟨hkind, hid⟩ => ⟨t, hid, hkind, rfl⟩⟩
  have hpairwise : documents.reverse.Pairwise fun d d' =>
      decide (d.kind = k ∧ d.id? = some t) = true → decide (d'.kind = k ∧ d'.id? = some t) = false := by
    rw [List.pairwise_reverse]
    refine (List.pairwise_filterMap.1 h).imp fun {d d'} hne hd' => ?_
    rw [decide_eq_true_iff, ← hkey] at hd'
    rw [decide_eq_false_iff_not, ← hkey]
    exact fun hd => hne _ hd _ hd' rfl
  unfold lastWith
  rw [find?_eq_some_iff_of_pairwise hpairwise, List.mem_reverse, decide_eq_true_iff, hkey]

/-- the order of documents with ids of their own does not count -/
theorem lastWith_perm (h : DistinctIds documents) (hperm : documents.Perm documents') :
    lastWith documents k t = lastWith documents' k t := by
  have h' : DistinctIds documents' := (hperm.filterMap _).nodup h
  exact Option.ext fun d => by rw [lastWith_eq_some_iff h, lastWith_eq_some_iff h', hperm.mem_iff]

theorem lastWith_plain : lastWith (documents.map (·.plain)) k t = (lastWith documents k t).map (·.plain) := by
  unfold lastWith
  rw [← List.map_reverse, List.find?_map]
  rfl

/-- what the last document with an id gives is the same in any order -/
theorem lastWith_bind_eq {α : Type} {f : SourceDocument → Option α} (hf : ∀ d, f d.plain = f d) (h : DistinctIds documents)
    (hperm : (documents.map (·.plain)).Perm (documents'.map (·.plain))) :
    (lastWith documents k t).bind f = (lastWith documents' k t).bind f := by
  -- without their sources the two lists are permutations of each other
  have hplain : ∀ ds : List SourceDocument, (lastWith ds k t).bind f = (lastWith (ds.map (·.plain)) k t).bind f := by
    intro ds
    rw [lastWith_plain, Option.bind_map]
    exact congrArg _ (funext fun d => (hf d).symm)
  have hdistinct : DistinctIds (documents.map (·.plain)) := by
    unfold DistinctIds
    rwa [List.filterMap_map]
  rw [hplain, hplain documents', lastWith_perm hdistinct hperm]

theorem Holds.same (hc : c.Holds settings documents) (hc' : c'.Holds settings documents') (h : DistinctIds documents)
    (hperm : (documents.map (·.plain)).Perm (documents'.map (·.plain))) : c.Same c' := by
  have hschedules : ∀ t, c.schedules.lookup t = c'.schedules.lookup t := fun t => by
    rw [hc.schedules, hc'.schedules, lastWith_bind_eq SourceDocument.plain_schedule? h hperm]
  refine ⟨hschedules, fun t => ?_, fun t => ?_⟩
  · rw [hc.requestPolicies, hc'.requestPolicies, lastWith_bind_eq SourceDocument.plain_requestPolicy? h hperm]
  -- loan policies are read with the schedules of their own collection, which give the same for every id
  · rw [hc.loanPolicies, hc'.loanPolicies, lastWith_bind_eq SourceDocument.plain_loanPolicy? h hperm]
    exact congrArg _ (funext fun d => SourceDocument.loanPolicy?_congr hschedules)

/-- documents that are the same apart from where they come from can be loaded or not in any order -/
theorem loads_of_perm (hperm : (documents.map (·.plain)).Perm (documents'.map (·.plain)))
    (h : ∀ d ∈ documents, d.loadError? settings = none) : ∀ d ∈ documents', d.loadError? settings = none := by
  intro d' hd'
  obtain ⟨d, hd, heq⟩ := List.mem_map.1 (hperm.mem_iff.2 (List.mem_map_of_mem hd'))
  rw [← SourceDocument.plain_loadError?, ← heq, SourceDocument.plain_loadError?]
  exact h d hd

/-- documents that are the same apart from where they come from give the same in any order -/
theorem ofDocuments_sameResult (h : DistinctIds documents)
    (hperm : (documents.map (·.plain)).Perm (documents'.map (·.plain))) :
    SameResult (ofDocuments settings documents).run.value (ofDocuments settings documents').run.value := by
  by_cases hloads : ∀ d ∈ documents, d.loadError? settings = none
  · have hok := ofDocuments_eq_ok.2 ⟨hloads, rfl⟩
    have hok' := ofDocuments_eq_ok.2 ⟨loads_of_perm hperm hloads, rfl⟩
    rw [hok, hok']
    exact .loaded ((holds_of_load hok).same (holds_of_load hok') h hperm)
  · cases hresult : (ofDocuments settings documents).run.value with
    | ok c => exact absurd (ofDocuments_eq_ok.1 hresult).1 hloads
    | error e =>
      cases hresult' : (ofDocuments settings documents').run.value with
      | ok c' => exact absurd (loads_of_perm hperm.symm (ofDocuments_eq_ok.1 hresult').1) hloads
      | error e' => exact .failed

/-! ## Directories -/

variable {files files' : Files} {directory directory' : Option Path} {folder folder' : Path}

/-- whether two folders hold the same documents, whatever the files are called -/
def SameDocuments (found found' : List (Option SourceDocument)) : Prop :=
  (found.map (·.map (·.plain))).Perm (found'.map (·.map (·.plain)))

/-- what is in the files of a folder that have a document's name -/
def contentsIn (files : Files) (folder : Path) : List (Option (List UInt8)) :=
  ((files.namesIn folder).filter isDocumentName).map fun name => files.read? (folder.child name)

/-- files with the same contents hold the same documents, whatever they are called -/
theorem sameDocuments_of_contents (h : (contentsIn files folder).Perm (contentsIn files' folder')) :
    SameDocuments (documentsIn files folder) (documentsIn files' folder') := by
  have hplain : ∀ (files : Files) (folder : Path), (documentsIn files folder).map (·.map (·.plain)) =
      (contentsIn files folder).map (·.bind SourceDocument.ofBytes?) := by
    intro files folder
    unfold documentsIn contentsIn
    rw [List.map_map, List.map_map]
    exact List.map_congr_left fun name _ => SourceDocument.read_plain
  unfold SameDocuments
  rw [hplain, hplain]
  exact h.map _

theorem none_mem_of_same {found found' : List (Option SourceDocument)} (hsame : SameDocuments found found')
    (h : none ∈ found) : none ∈ found' := by
  obtain ⟨o, ho, heq⟩ := List.mem_map.1 (hsame.mem_iff.1 (List.mem_map_of_mem h))
  cases o with
  | none => exact ho
  | some d => cases heq

theorem eq_map_some_of_none_notMem {found : List (Option SourceDocument)} (h : none ∉ found) :
    ∃ documents : List SourceDocument, found = documents.map some := by
  induction found with
  | nil => exact ⟨[], rfl⟩
  | cons o found ih =>
    obtain ⟨documents, rfl⟩ := ih fun hmem => h (List.mem_cons_of_mem o hmem)
    cases o with
    | none => exact absurd List.mem_cons_self h
    | some d => exact ⟨d :: documents, rfl⟩

/-- a load fails if a file that has a document's name holds none -/
theorem load_fails_of_none_mem (hopens : Opens files settings directory folder) (h : none ∈ documentsIn files folder) :
    ∃ e, (load files settings directory).run.value = .error e := by
  cases hresult : (load files settings directory).run.value with
  | error e => exact ⟨e, rfl⟩
  | ok c =>
    obtain ⟨documents, ⟨folder', hopens', hdocuments⟩, -⟩ := load_eq_ok.1 hresult
    cases hopens.1.symm.trans hopens'.1
    rw [hdocuments] at h
    simp at h

/-- folders with the same documents are loaded alike -/
theorem load_sameResult (hopens : Opens files settings directory folder) (hopens' : Opens files' settings directory' folder')
    (hsame : SameDocuments (documentsIn files folder) (documentsIn files' folder'))
    (hdistinct : DistinctIds ((documentsIn files folder).filterMap id)) :
    SameResult (load files settings directory).run.value (load files' settings directory').run.value := by
  -- one file that holds no document ends both loads, whatever comes first
  by_cases hnone : none ∈ documentsIn files folder
  · have hnone' : none ∈ documentsIn files' folder' := none_mem_of_same hsame hnone
    obtain ⟨e, he⟩ := load_fails_of_none_mem hopens hnone
    obtain ⟨e', he'⟩ := load_fails_of_none_mem hopens' hnone'
    rw [he, he']
    exact .failed
  · have hnone' : none ∉ documentsIn files' folder' := fun h => hnone (none_mem_of_same hsame.symm h)
    obtain ⟨documents, hdocuments⟩ := eq_map_some_of_none_notMem hnone
    obtain ⟨documents', hdocuments'⟩ := eq_map_some_of_none_notMem hnone'
    rw [value_load_of_holds ⟨folder, hopens, hdocuments⟩, value_load_of_holds ⟨folder', hopens', hdocuments'⟩]
    have hperm : ((documents.map (·.plain)).map some).Perm ((documents'.map (·.plain)).map some) := by
      unfold SameDocuments at hsame
      rw [hdocuments, hdocuments', List.map_map, List.map_map] at hsame
      rwa [List.map_map, List.map_map]
    have hdistinct : DistinctIds documents := by simpa [hdocuments] using hdistinct
    exact ofDocuments_sameResult hdistinct ((List.map_perm_map_iff (Option.some_injective _)).1 hperm)

/-- **What the files are called.** A folder is loaded if all its files with a document's name hold documents that can be
loaded, and only then. The documents are read in the order of the files' names, and under each id the collection holds what
the last of them gives. Two folders that hold the same documents, whatever the files are called, where no two documents of a
kind have one id, both fail to load or give the same collection. -/
theorem load_names (files files' : Files) (settings : Settings) (directory directory' : Option Path) :
    ((∃ c, (load files settings directory).run.value = .ok c) ↔
        ∃ documents, DirectoryHolds files settings directory documents ∧ ∀ d ∈ documents, d.loadError? settings = none) ∧
      (∀ c, (load files settings directory).run.value = .ok c →
        ∃ documents, DirectoryHolds files settings directory documents ∧
          ReadInOrder files settings directory documents ∧ c.Holds settings documents) ∧
      ∀ folder folder', Opens files settings directory folder → Opens files' settings directory' folder' →
        SameDocuments (documentsIn files folder) (documentsIn files' folder') →
        DistinctIds ((documentsIn files folder).filterMap id) →
        SameResult (load files settings directory).run.value (load files' settings directory').run.value := by
  refine ⟨⟨?_, ?_⟩, fun c h => ?_, fun folder folder' hopens hopens' hsame hdistinct => ?_⟩
  · rintro ⟨c, h⟩
    obtain ⟨documents, hholds, hload⟩ := load_eq_ok.1 h
    exact ⟨documents, hholds, (ofDocuments_eq_ok.1 hload).1⟩
  · rintro ⟨documents, hholds, hloads⟩
    exact ⟨_, load_eq_ok.2 ⟨documents, hholds, ofDocuments_eq_ok.2 ⟨hloads, rfl⟩⟩⟩
  · obtain ⟨documents, hholds, hload⟩ := load_eq_ok.1 h
    exact ⟨documents, hholds, readInOrder_of_holds hholds, holds_of_load hload⟩
  · exact load_sameResult hopens hopens' hsame hdistinct

/-- a folder with two files -/
def twoFiles (name name' text text' : String) : Files :=
  ⟨[(policyFolder.child name, .file text.toUTF8.toList), (policyFolder.child name', .file text'.toUTF8.toList)]⟩

/-- the document of a schedule -/
def termSchedule : String := "id: term\nschedules: []\n"

/-- the document of a loan policy that refers to the schedule -/
def termPolicy : String :=
  "id: lending\nname: Lending\nloanable: true\nloansPolicy:\n  profileId: Fixed\n  fixedDueDateScheduleId: term\n"

/-- a schedule and a loan policy that refers to it are loaded alike from files of either order -/
theorem load_names_term :
    let files := twoFiles "a.yaml" "b.yaml" termSchedule termPolicy
    let renamed := twoFiles "1.json" "2.YML" termPolicy termSchedule
    Opens files {} (some policyFolder) policyFolder ∧ Opens renamed {} (some policyFolder) policyFolder ∧
      SameDocuments (documentsIn files policyFolder) (documentsIn renamed policyFolder) ∧
      DistinctIds ((documentsIn files policyFolder).filterMap id) ∧
      SameResult (load files {} (some policyFolder)).run.value (load renamed {} (some policyFolder)).run.value := by
  intro files renamed
  have hnames : files.namesIn policyFolder = ["a.yaml", "b.yaml"] := List.mergeSort_of_pairwise (by decide +kernel)
  have hnames' : renamed.namesIn policyFolder = ["1.json", "2.YML"] := List.mergeSort_of_pairwise (by decide +kernel)
  have hopens : Opens files {} (some policyFolder) policyFolder := ⟨rfl, by decide +kernel⟩
  have hopens' : Opens renamed {} (some policyFolder) policyFolder := ⟨rfl, by decide +kernel⟩
  have hsame : SameDocuments (documentsIn files policyFolder) (documentsIn renamed policyFolder) := by
    refine sameDocuments_of_contents ?_
    unfold contentsIn
    rw [hnames, hnames']
    decide +kernel
  have hdistinct : DistinctIds ((documentsIn files policyFolder).filterMap id) := by
    unfold documentsIn DistinctIds
    rw [hnames]
    decide +kernel
  obtain ⟨-, -, hresult⟩ := load_names files renamed {} (some policyFolder) (some policyFolder)
  exact ⟨hopens, hopens', hsame, hdistinct, hresult _ _ hopens hopens' hsame hdistinct⟩

end PolicyCollection

end Lending
