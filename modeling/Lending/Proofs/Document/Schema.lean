/-
What a schema lets pass.

A value has no problems if it satisfies each keyword of the schema (`problems_eq_nil_iff`), and then each field that it has
under the name of the schema satisfies the schema of the field (`field_accepts`); `period_accepts` says what it comes to for
a period.
-/
import Mathlib.Tactic
import Lending.Document.PolicySchemas
import Lending.Period
import Lending.Proofs.Outcome

namespace Lending

/-! ## Mappings -/

namespace Value

variable {v w : Value} {name recordName : String}

theorem field?_eq_some_iff :
    v.field? name = some w ↔ ∃ entries, v.opened = .mapping entries ∧ lookup? entries name = some w := by
  unfold field?
  split
  · next entries h =>
    constructor
    · exact fun hw => ⟨entries, h, hw⟩
    · rintro ⟨_, hopened, hw⟩
      cases h.symm.trans hopened
      exact hw
  · next h =>
    constructor
    · exact nofun
    · rintro ⟨entries, hopened, -⟩
      exact absurd hopened (h entries)

theorem ne_null_of_field? (h : v.field? name = some w) : v ≠ .null := by
  rintro rfl
  cases h

end Value

namespace Schema

variable {schema : Schema} {v w : Value} {name : String}

/-! ## Keywords -/

theorem unordered_eq_nil_iff : unordered schema v = [] ↔ ∀ k ∈ schema, ofKeyword k v = [] := by
  induction schema with
  | nil => simp [unordered]
  | cons k ks ih => rw [unordered, List.append_eq_nil_iff, ih, List.forall_mem_cons]

theorem ofFields_eq_nil_iff {fields : List (String × List Keyword)} :
    ofFields fields v = [] ↔ ∀ f ∈ fields, ∀ w, v.field? f.1 = some w → unordered f.2 w = [] := by
  induction fields with
  | nil => simp [ofFields]
  | cons f fields ih =>
    rw [ofFields, List.append_eq_nil_iff, ih, List.forall_mem_cons]
    refine and_congr_left fun _ => ?_
    cases v.field? f.1 <;> simp

theorem insertProblem_perm (p : SchemaProblem) (ps : List SchemaProblem) : (insertProblem p ps).Perm (p :: ps) := by
  induction ps with
  | nil => exact List.Perm.refl _
  | cons q qs ih =>
    unfold insertProblem
    split
    · exact List.Perm.refl _
    · exact (ih.cons q).trans (List.Perm.swap p q qs)

/-- putting problems in order neither adds one nor drops one -/
theorem foldl_insertProblem_perm (ps sorted : List SchemaProblem) :
    (ps.foldl (fun sorted p => insertProblem p sorted) sorted).Perm (ps ++ sorted) := by
  induction ps generalizing sorted with
  | nil => exact List.Perm.refl _
  | cons p ps ih =>
    rw [List.foldl_cons]
    calc (ps.foldl (fun sorted p => insertProblem p sorted) (insertProblem p sorted))
      _ |>.Perm (ps ++ insertProblem p sorted) := ih _
      _ |>.Perm (ps ++ p :: sorted) := (insertProblem_perm p sorted).append_left ps
      _ |>.Perm (p :: ps ++ sorted) := List.perm_middle

theorem problems_perm (schema : Schema) (v : Value) : (schema.problems v).Perm (unordered schema v) := by
  have h := foldl_insertProblem_perm (unordered schema v) []
  rwa [List.append_nil] at h

theorem problems_eq_nil_iff : schema.problems v = [] ↔ ∀ k ∈ schema, ofKeyword k v = [] := by
  rw [← unordered_eq_nil_iff]
  constructor
  · intro h
    exact List.nil_perm.1 (h ▸ problems_perm schema v)
  · intro h
    exact List.perm_nil.1 (h ▸ problems_perm schema v)

/-- a schema holds of each field that it has a schema for -/
theorem field_accepts {field : Schema} {fields : List (String × List Keyword)} (h : unordered schema v = [])
    (hfields : .properties fields ∈ schema) (hfield : (name, field) ∈ fields) (hw : v.field? name = some w) :
    unordered field w = [] := by
  have hproperties := unordered_eq_nil_iff.1 h _ hfields
  rw [ofKeyword, ofFields_eq_nil_iff] at hproperties
  exact hproperties _ hfield w hw

theorem object_accepts {field : Schema} {fields : List (String × List Keyword)} (h : unordered (object fields) v = [])
    (hfield : (name, field) ∈ fields) (hw : v.field? name = some w) : unordered field w = [] :=
  field_accepts h (List.mem_cons_of_mem _ List.mem_cons_self) hfield hw

/-! ## Kinds of schemas -/

theorem type_eq_nil_iff {t : ValueType} : ofKeyword (.type t) v = [] ↔ t.admits v = true := by
  rw [ofKeyword]
  split <;> simp_all [here]

/-- a text out of a list is one of its texts -/
theorem choice_accepts {options : List String} (h : unordered (choice options) v = []) :
    ∃ o ∈ options, v = .text (Text.ofString o) := by
  simp only [choice, unordered_eq_nil_iff, List.forall_mem_cons] at h
  obtain ⟨-, h, -⟩ := h
  rw [ofKeyword] at h
  split at h
  · next hany =>
    obtain ⟨o, ho, htext⟩ := List.any_eq_true.1 hany
    refine ⟨o, ho, ?_⟩
    unfold Value.isText at htext
    split at htext
    · next t => rw [of_decide_eq_true htext]
    · cases htext
  · cases h

/-- what is bounded below counts as an integer, and an integer of the document is not less than the bound -/
theorem wholeFrom_accepts {n : Int} (h : unordered (wholeFrom n) v = []) :
    ValueType.integer.admits v = true ∧ ∀ m, v = .int m → n ≤ m := by
  simp only [wholeFrom, unordered_eq_nil_iff, List.forall_mem_cons, type_eq_nil_iff] at h
  obtain ⟨hinteger, h, -⟩ := h
  refine ⟨hinteger, ?_⟩
  rintro m rfl
  rw [ofKeyword] at h
  split at h
  · cases h
  · next hless => simpa [isLess] using hless

/-- null is no mapping -/
theorem object_null {fields : List (String × List Keyword)} : unordered (object fields) .null ≠ [] := by
  intro h
  exact absurd (type_eq_nil_iff.1 (unordered_eq_nil_iff.1 h _ List.mem_cons_self)) (by decide)

/-- **What the schema asks of a period.** Its duration, where it has one, counts as an integer and is positive where it is an
integer of the document; its interval, where it has one under the name that the schema knows, is a unit. -/
theorem period_accepts (h : unordered period v = []) :
    (∀ w, v.field? "duration" = some w → ValueType.integer.admits w = true ∧ ∀ n, w = .int n → 1 ≤ n) ∧
      ∀ w, v.field? "intervalId" = some w → ∃ i ∈ Interval.all, w = .text (Text.ofString i.name) := by
  refine ⟨fun w hw => wholeFrom_accepts (object_accepts h List.mem_cons_self hw), fun w hw => ?_⟩
  have hname : unordered (choice (Interval.all.map Interval.name)) w = [] :=
    object_accepts h (List.mem_cons_of_mem _ List.mem_cons_self) hw
  obtain ⟨o, ho, rfl⟩ := choice_accepts hname
  obtain ⟨i, hi, rfl⟩ := List.mem_map.1 ho
  exact ⟨i, hi, rfl⟩

/-- the sections of a document satisfy the schemas of sections -/
theorem loanPolicy_accepts (h : loanPolicy.problems v = []) :
    (∀ w, v.field? "loansPolicy" = some w → unordered loansSection w = []) ∧
      (∀ w, v.field? "renewalsPolicy" = some w → unordered renewalsSection w = []) ∧
      ∀ w, v.field? "requestManagement" = some w → unordered requestsSection w = [] := by
  have hroot := unordered_eq_nil_iff.2 (problems_eq_nil_iff.1 h)
  obtain ⟨fields, hfields, hloans, hrenewals, hrequests⟩ : ∃ fields, .properties fields ∈ loanPolicy ∧
      ("loansPolicy", loansSection) ∈ fields ∧ ("renewalsPolicy", renewalsSection) ∈ fields ∧
      ("requestManagement", requestsSection) ∈ fields :=
    ⟨_, List.mem_cons_of_mem _ (List.mem_cons_of_mem _ List.mem_cons_self), by simp, by simp, by simp⟩
  exact ⟨fun _ => field_accepts hroot hfields hloans, fun _ => field_accepts hroot hfields hrenewals,
    fun _ => field_accepts hroot hfields hrequests⟩

end Schema

end Lending
