/-
The order of the problems of a document.

Paths are ordered step by step, so a path comes before those that go on from it (`pathBefore_iff`). Each problem is put
behind those that do not come after it; so the problems of a document stand in the order of their places, and at one
place as the schema lists them (`problems_inPathOrder`).
-/
import Lending.Proofs.Document.Schema

namespace Lending

/-! ## Paths -/

namespace Step

theorem not_before_self (s : Step) : ¬ s.before s = true := by
  cases s with
  | key name => simp [before]
  | index n => simp [before]

theorem before_trans {s t u : Step} (h : s.before t = true) (h' : t.before u = true) : s.before u = true := by
  cases s with
  | key a =>
    cases t with
    | index n => cases h
    | key b =>
      cases u with
      | index n => cases h'
      | key c =>
        simp only [before, decide_eq_true_eq] at h h' ⊢
        exact String.lt_trans h h'
  | index m =>
    cases u with
    | key c => rfl
    | index k =>
      cases t with
      | key b => cases h'
      | index n =>
        simp only [before, decide_eq_true_eq] at h h' ⊢
        exact Int.lt_trans h h'

end Step

/-- paths are ordered as lists of their steps are -/
theorem pathBefore_iff {as bs : List Step} : pathBefore as bs = true ↔ List.Lex (fun s t => s.before t = true) as bs := by
  induction as generalizing bs with
  | nil =>
    cases bs with
    | nil => simp [pathBefore]
    | cons b bs => simp [pathBefore]
  | cons a as ih =>
    cases bs with
    | nil => simp [pathBefore]
    | cons b bs =>
      rw [pathBefore, List.cons_lex_cons_iff, ← ih]
      by_cases hab : a = b
      · subst hab
        simp [a.not_before_self]
      · simp [hab]

theorem not_pathBefore_self (path : List Step) : ¬ pathBefore path path = true := by
  rw [pathBefore_iff]
  exact List.lex_irrefl Step.not_before_self path

theorem pathBefore_trans {as bs cs : List Step} (h : pathBefore as bs = true) (h' : pathBefore bs cs = true) :
    pathBefore as cs = true := by
  rw [pathBefore_iff] at *
  exact List.lex_trans Step.before_trans h h'

/-- of two paths, one is not before the other -/
theorem pathBefore_asymm {as bs : List Step} (h : pathBefore as bs = true) : pathBefore bs as = false := by
  apply Bool.eq_false_iff.2
  intro h'
  exact not_pathBefore_self as (pathBefore_trans h h')

/-! ## Problems in order -/

/-- whether problems are the given ones in the order of their places, those of one place as they were given -/
structure InPathOrder (given ordered : List SchemaProblem) : Prop where
  perm : ordered.Perm given
  sorted : ordered.Pairwise fun p q => pathBefore q.path p.path = false
  stable : ∀ path, (ordered.filter fun p => p.path = path) = given.filter fun p => p.path = path

namespace Schema

variable {p : SchemaProblem} {ps qs : List SchemaProblem}

/-- a problem put before one that comes after it is not behind any that is in order with that one -/
theorem insertProblem_sorted (h : qs.Pairwise fun p q => pathBefore q.path p.path = false) :
    (insertProblem p qs).Pairwise fun p q => pathBefore q.path p.path = false := by
  induction qs with
  | nil => exact List.pairwise_singleton _ _
  | cons q qs ih =>
    obtain ⟨hq, hqs⟩ := List.pairwise_cons.1 h
    unfold insertProblem
    split
    · next hbefore =>
      refine List.pairwise_cons.2 ⟨?_, h⟩
      intro r hr
      rcases List.mem_cons.1 hr with rfl | hr
      · exact pathBefore_asymm hbefore
      · apply Bool.eq_false_iff.2
        intro hrp
        have hrq := pathBefore_trans hrp hbefore
        rw [hq r hr] at hrq
        cases hrq
    · next hnot =>
      refine List.pairwise_cons.2 ⟨?_, ih hqs⟩
      intro r hr
      rcases List.mem_cons.1 ((insertProblem_perm p qs).mem_iff.1 hr) with rfl | hr
      · exact Bool.eq_false_iff.2 hnot
      · exact hq r hr

/-- none of the problems that come after one is at its place -/
theorem filter_eq_nil_of_before {q : SchemaProblem} (hbefore : pathBefore p.path q.path = true)
    (h : (q :: qs).Pairwise fun p q => pathBefore q.path p.path = false) :
    ((q :: qs).filter fun r => r.path = p.path) = [] := by
  apply List.filter_eq_nil_iff.2
  intro r hr
  rw [decide_eq_true_eq]
  intro hrp
  rcases List.mem_cons.1 hr with rfl | hr
  · exact not_pathBefore_self p.path (hrp ▸ hbefore)
  · have hrq := (List.pairwise_cons.1 h).1 r hr
    rw [hrp, hbefore] at hrq
    cases hrq

/-- a problem comes behind those of its place -/
theorem filter_insertProblem (h : qs.Pairwise fun p q => pathBefore q.path p.path = false) (path : List Step) :
    ((insertProblem p qs).filter fun r => r.path = path) =
      (qs.filter fun r => r.path = path) ++ [p].filter fun r => r.path = path := by
  induction qs with
  | nil => rfl
  | cons q qs ih =>
    have hqs := (List.pairwise_cons.1 h).2
    unfold insertProblem
    split
    · next hbefore =>
      by_cases hp : p.path = path
      · subst hp
        rw [List.filter_cons_of_pos (by simp), filter_eq_nil_of_before hbefore h]
        simp
      · rw [List.filter_cons_of_neg (by simpa using hp)]
        simp [hp]
    · by_cases hpath : q.path = path
      · rw [List.filter_cons_of_pos (by simpa using hpath), List.filter_cons_of_pos (by simpa using hpath), ih hqs,
          List.cons_append]
      · rw [List.filter_cons_of_neg (by simpa using hpath), List.filter_cons_of_neg (by simpa using hpath), ih hqs]

/-- putting problems in order one by one keeps them in order -/
theorem foldl_insertProblem_sorted (h : qs.Pairwise fun p q => pathBefore q.path p.path = false) :
    (ps.foldl (fun sorted p => insertProblem p sorted) qs).Pairwise fun p q => pathBefore q.path p.path = false := by
  induction ps generalizing qs with
  | nil => exact h
  | cons p ps ih =>
    rw [List.foldl_cons]
    exact ih (insertProblem_sorted h)

/-- the problems of one place come in the order in which they are put there -/
theorem filter_foldl_insertProblem (h : qs.Pairwise fun p q => pathBefore q.path p.path = false) (path : List Step) :
    ((ps.foldl (fun sorted p => insertProblem p sorted) qs).filter fun r => r.path = path) =
      (qs ++ ps).filter fun r => r.path = path := by
  induction ps generalizing qs with
  | nil => rw [List.foldl_nil, List.append_nil]
  | cons p ps ih =>
    rw [List.foldl_cons, ih (insertProblem_sorted h), List.filter_append, filter_insertProblem h path,
      List.append_assoc, ← List.filter_append, List.singleton_append, ← List.filter_append]

/-- **Problems stand in the order of their places.** The problems of a document are those that the keywords of the schema
find, ordered by path, and at one place in the order of the schema. -/
theorem problems_inPathOrder (schema : Schema) (v : Value) : InPathOrder (unordered schema v) (schema.problems v) where
  perm := problems_perm schema v
  sorted := foldl_insertProblem_sorted List.Pairwise.nil
  stable := filter_foldl_insertProblem List.Pairwise.nil

end Schema

end Lending
