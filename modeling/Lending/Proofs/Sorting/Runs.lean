/-
What a sort asks and what it gives.

The order may fail, so a sort may fail with it. Where an order answers for values that are alike and for no others, a sort
asks enough to find out: it succeeds exactly if all values are alike (`sorted?_isOk_iff`), and then gives the same values
(`sorted?_perm`).
-/
import Lending.Proofs.Sorting.Merge
import Lending.Sorting.Runs

namespace Lending.Sorting

variable {α ε : Type} {less : Less α ε} {Alike : α → α → Prop} {all xs ys : List α} {x y : α}

section

variable (h : Answers less Alike)

include h

/-! ## Runs -/

theorem gives_runLength (descending : Bool) (last : α) (xs : List α) (hlast : last ∈ all) (hxs : xs ⊆ all) :
    Gives (Mixed Alike all) (fun n => (last :: xs.take n).Pairwise Alike) (runLength less descending last xs) := by
  induction xs generalizing last with
  | nil => exact .ok (by simp)
  | cons x xs ih =>
    have hx : x ∈ all := hxs List.mem_cons_self
    unfold runLength
    refine (h.compare hx hlast).bind fun b halike => ?_
    split
    · refine (ih x hx (List.subset_of_cons_subset hxs)).bind fun n hn => .ok ?_
      rw [List.take_succ_cons]
      exact h.pairwise_cons (h.symm halike) hn
    · exact .ok (by simp)

/-- values are put in among values that they are like -/
theorem gives_insertAll (sorted xs : List α) (hsorted : sorted ⊆ all) (hxs : xs ⊆ all) (hpairwise : sorted.Pairwise Alike) :
    Gives (Mixed Alike all) (fun r => r.Perm (sorted ++ xs) ∧ r.Pairwise Alike) (insertAll less sorted xs) := by
  induction xs generalizing sorted with
  | nil => exact .ok ⟨by simp, hpairwise⟩
  | cons x xs ih =>
    have hx : x ∈ all := hxs List.mem_cons_self
    unfold insertAll
    refine (gives_halve (gives_notAfter h hx hsorted) _ _ _).bind fun place hasked => ?_
    have hperm : (sorted.take place ++ x :: sorted.drop place).Perm (x :: sorted) := by
      have hmiddle : (sorted.take place ++ x :: sorted.drop place).Perm (x :: (sorted.take place ++ sorted.drop place)) :=
        List.perm_middle
      rwa [List.take_append_drop] at hmiddle
    have hput : (x :: sorted).Pairwise Alike := by
      cases sorted with
      | nil => exact List.pairwise_singleton _ _
      | cons z zs =>
        obtain ⟨w, hw, halike⟩ := hasked (by simp) (by simp) (le_refl _)
        exact h.pairwise_append (List.pairwise_singleton _ x) hpairwise List.mem_cons_self hw (h.symm halike)
    have hsubset : sorted.take place ++ x :: sorted.drop place ⊆ all := by
      intro z hz
      rcases List.mem_cons.1 (hperm.mem_iff.1 hz) with rfl | hz
      · exact hx
      · exact hsorted hz
    refine (ih _ hsubset (List.subset_of_cons_subset hxs) ((hperm.pairwise_iff fun hxy => h.symm hxy).2 hput)).mono
      fun r hr => ⟨hr.1.trans ?_, hr.2⟩
    exact (hperm.append_right xs).trans List.perm_middle.symm

/-- the run at the front has alike values, and something is left out of what comes behind it -/
theorem gives_nextRun (least : Nat) (hxs : xs ⊆ all) :
    Gives (Mixed Alike all)
      (fun r => (r.1 ++ r.2).Perm xs ∧ r.1.Pairwise Alike ∧ (xs ≠ [] → r.2.length < xs.length))
      (nextRun less least xs) := by
  unfold nextRun
  split
  · next x y rest =>
    have hx : x ∈ all := hxs List.mem_cons_self
    have hy : y ∈ all := hxs (List.mem_cons_of_mem x List.mem_cons_self)
    have hrest : rest ⊆ all := List.subset_of_cons_subset (List.subset_of_cons_subset hxs)
    refine (h.compare hy hx).bind fun descending halike => ?_
    refine (gives_runLength h descending y rest hy hrest).bind fun more hmore => ?_
    have hrun : (x :: y :: rest.take more).Pairwise Alike := h.pairwise_cons (h.symm halike) hmore
    have hrunSubset : x :: y :: rest.take more ⊆ all :=
      List.cons_subset.2 ⟨hx, List.cons_subset.2 ⟨hy, fun z hz => hrest (List.mem_of_mem_take hz)⟩⟩
    -- turned round or not, the run has the same values
    have hturned : ∀ run : List α, run.Perm (x :: y :: rest.take more) → ∀ missing,
        Gives (Mixed Alike all)
          (fun r => (r ++ (rest.drop more).drop missing).Perm (x :: y :: rest) ∧ r.Pairwise Alike)
          (insertAll less run ((rest.drop more).take missing)) := by
      intro run hperm missing
      have hsubset : run ⊆ all := fun z hz => hrunSubset (hperm.mem_iff.1 hz)
      have hmissing : (rest.drop more).take missing ⊆ all :=
        fun z hz => hrest (List.mem_of_mem_drop (List.mem_of_mem_take hz))
      refine (gives_insertAll h run _ hsubset hmissing ((hperm.pairwise_iff fun hxy => h.symm hxy).2 hrun)).mono
        fun r hr => ⟨?_, hr.2⟩
      calc r ++ (rest.drop more).drop missing
        _ |>.Perm (run ++ (rest.drop more).take missing ++ (rest.drop more).drop missing) := hr.1.append_right _
        _ |>.Perm (run ++ rest.drop more) := by rw [List.append_assoc, List.take_append_drop]
        _ |>.Perm (x :: y :: rest.take more ++ rest.drop more) := hperm.append_right _
        _ |>.Perm (x :: y :: rest) := by rw [List.cons_append, List.cons_append, List.take_append_drop]
    have hpermTurned : (if descending then (x :: y :: rest.take more).reverse else x :: y :: rest.take more).Perm
        (x :: y :: rest.take more) := by
      split
      · exact List.reverse_perm _
      · exact List.Perm.refl _
    refine (hturned _ hpermTurned _).bind fun r hr => .ok ⟨hr.1, hr.2, fun _ => ?_⟩
    simp only [List.length_drop, List.length_cons]
    omega
  · next hshort =>
    refine .ok ⟨by simp, ?_, fun hne => List.length_pos_iff.2 hne⟩
    rcases xs with _ | ⟨x, _ | ⟨y, rest⟩⟩
    · exact List.Pairwise.nil
    · exact List.pairwise_singleton _ _
    · exact absurd rfl (hshort x y rest)

namespace Stack

/-- whether a stack holds some values, in runs of alike ones -/
def Holds (Alike : α → α → Prop) (xs : List α) (s : Stack α) : Prop :=
  (s.runs.flatMap (·.values)).Perm xs ∧ ∀ run ∈ s.runs, run.values.Pairwise Alike

omit h in
theorem Holds.subset {s : Stack α} (hs : s.Holds Alike xs) (hxs : xs ⊆ all) {run : Run α} (hrun : run ∈ s.runs) :
    run.values ⊆ all :=
  fun _ hz => hxs (hs.1.mem_iff.1 (List.mem_flatMap.2 ⟨run, hrun, hz⟩))

theorem gives_join (threshold : Nat) {first second : Run α} (hfirst : first.values ⊆ all) (hsecond : second.values ⊆ all)
    (hf : first.values.Pairwise Alike) (hs : second.values.Pairwise Alike) :
    Gives (Mixed Alike all)
      (fun r => r.1.values.Perm (first.values ++ second.values) ∧ r.1.values.Pairwise Alike)
      (join less threshold first second) :=
  (gives_merge h threshold hfirst hsecond hf hs).bind fun _ hr => .ok hr

theorem gives_settle (power fuel : Nat) (s : Stack α) (hxs : xs ⊆ all) (hs : s.Holds Alike xs) (hne : s.runs ≠ []) :
    Gives (Mixed Alike all) (fun s' => s'.Holds Alike xs ∧ s'.runs ≠ []) (settle less power fuel s) := by
  induction fuel generalizing s with
  | zero => exact .ok ⟨hs, hne⟩
  | succ fuel ih =>
    unfold settle
    split
    · next last below rest hruns =>
      split
      · have hlast : last ∈ s.runs := by simp [hruns]
        have hbelow : below ∈ s.runs := by simp [hruns]
        refine (gives_join h s.threshold (hs.subset hxs hbelow) (hs.subset hxs hlast) (hs.2 _ hbelow)
          (hs.2 _ hlast)).bind fun r hr => ih _ ⟨?_, ?_⟩ (List.cons_ne_nil _ _)
        · refine List.Perm.trans ?_ hs.1
          rw [hruns]
          simp only [List.flatMap_cons]
          rw [← List.append_assoc]
          exact (hr.1.trans List.perm_append_comm).append_right _
        · refine List.forall_mem_cons.2 ⟨hr.2, fun run hrun => hs.2 run ?_⟩
          rw [hruns]
          exact List.mem_cons_of_mem _ (List.mem_cons_of_mem _ hrun)
      · exact .ok ⟨hs, hne⟩
    · exact .ok ⟨hs, hne⟩

theorem gives_push (total : Nat) {values : List α} {s : Stack α} (hxs : xs ⊆ all) (hs : s.Holds Alike xs)
    (hvalues : values.Pairwise Alike) :
    Gives (Mixed Alike all) (fun s' => s'.Holds Alike (xs ++ values)) (s.push less total values) := by
  unfold push
  split
  · next hruns =>
    obtain ⟨hperm, -⟩ := hs
    rw [hruns] at hperm
    refine .ok ⟨?_, List.forall_mem_singleton.2 hvalues⟩
    rw [List.perm_nil.1 hperm.symm]
    simp
  · next last rest hruns =>
    refine (gives_settle h _ _ s hxs hs (by simp [hruns])).bind fun s' hs' => ?_
    obtain ⟨⟨hperm, hpairwise⟩, hne⟩ := hs'
    split
    · next last' rest' hruns' =>
      rw [hruns'] at hperm hpairwise
      refine .ok ⟨?_, ?_⟩
      · simp only [List.flatMap_cons] at hperm ⊢
        exact (hperm.append_left values).trans List.perm_append_comm
      · exact List.forall_mem_cons.2 ⟨hvalues, List.forall_mem_cons.2 (List.forall_mem_cons.1 hpairwise)⟩
    · next hruns' => exact absurd hruns' hne

/-- merging two neighbouring runs of a stack leaves it with the same values, and with a run less -/
theorem gives_collapse (fuel : Nat) (s : Stack α) (hfuel : s.runs.length ≤ fuel) (hxs : xs ⊆ all)
    (hs : s.Holds Alike xs) :
    Gives (Mixed Alike all) (fun ys => ys.Perm xs ∧ ys.Pairwise Alike) (s.collapse less fuel) := by
  induction fuel generalizing s with
  | zero =>
    obtain ⟨hperm, -⟩ := hs
    rw [List.length_eq_zero_iff.1 (Nat.le_zero.1 hfuel)] at hperm
    unfold collapse
    rw [List.length_eq_zero_iff.1 (Nat.le_zero.1 hfuel)]
    exact .ok ⟨hperm, List.Pairwise.nil⟩
  | succ fuel ih =>
    have hrun : ∀ {run : Run α}, run ∈ s.runs → run.values ⊆ all ∧ run.values.Pairwise Alike :=
      fun hrun => ⟨hs.subset hxs hrun, hs.2 _ hrun⟩
    obtain ⟨hperm, hpairwise⟩ := hs
    unfold collapse
    split
    · next last middle first rest hruns =>
      rw [hruns] at hrun hperm hpairwise hfuel
      simp only [List.flatMap_cons, List.length_cons, List.forall_mem_cons] at hperm hpairwise hfuel
      obtain ⟨hlast, hmiddle, hfirst, hrest⟩ := hpairwise
      split
      · refine (gives_join h s.threshold (hrun (by simp)).1 (hrun (by simp)).1 hfirst hmiddle).bind fun r hr =>
          ih _ (by simp; omega) ⟨?_, ?_⟩
        · refine List.Perm.trans ?_ hperm
          simp only [List.flatMap_cons]
          rw [← List.append_assoc middle.values]
          exact ((hr.1.trans List.perm_append_comm).append_right _).append_left _
        · exact List.forall_mem_cons.2 ⟨hlast, List.forall_mem_cons.2 ⟨hr.2, hrest⟩⟩
      · refine (gives_join h s.threshold (hrun (by simp)).1 (hrun (by simp)).1 hmiddle hlast).bind fun r hr =>
          ih _ (by simp; omega) ⟨?_, ?_⟩
        · refine List.Perm.trans ?_ hperm
          simp only [List.flatMap_cons]
          rw [← List.append_assoc last.values]
          exact (hr.1.trans List.perm_append_comm).append_right _
        · exact List.forall_mem_cons.2 ⟨hr.2, List.forall_mem_cons.2 ⟨hfirst, hrest⟩⟩
    · next last first hruns =>
      rw [hruns] at hrun hperm
      refine (gives_join h s.threshold (hrun (by simp)).1 (hrun (by simp)).1 (hrun (by simp)).2 (hrun (by simp)).2).bind
        fun r hr => .ok ⟨?_, hr.2⟩
      simp only [List.flatMap_cons, List.flatMap_nil, List.append_nil] at hperm
      exact (hr.1.trans List.perm_append_comm).trans hperm
    · next run hruns =>
      rw [hruns] at hperm hpairwise
      simp only [List.flatMap_cons, List.flatMap_nil, List.append_nil] at hperm
      exact .ok ⟨hperm, hpairwise run List.mem_cons_self⟩
    · next hruns =>
      rw [hruns] at hperm
      exact .ok ⟨hperm, List.Pairwise.nil⟩

end Stack

/-- all values come to stand on the stack -/
theorem gives_stackRuns (total fuel : Nat) (xs done : List α) (s : Stack α) (hfuel : xs.length ≤ fuel) (hxs : xs ⊆ all)
    (hdone : done ⊆ all) (hs : s.Holds Alike done) :
    Gives (Mixed Alike all) (fun s' => s'.Holds Alike (done ++ xs)) (stackRuns less total fuel xs s) := by
  induction fuel generalizing xs done s with
  | zero =>
    rw [List.length_eq_zero_iff.1 (Nat.le_zero.1 hfuel), List.append_nil]
    exact .ok hs
  | succ fuel ih =>
    unfold stackRuns
    split
    · next hempty =>
      rw [List.isEmpty_iff.1 hempty, List.append_nil]
      exact .ok hs
    · next hsome =>
      have hne : xs ≠ [] := fun h => hsome (by rw [h]; rfl)
      refine (gives_nextRun h _ hxs).bind fun r hr => ?_
      obtain ⟨hperm, hpairwise, hless⟩ := hr
      have hsubset : ∀ {zs : List α}, zs ⊆ r.1 ++ r.2 → zs ⊆ all := fun hzs z hz => hxs (hperm.mem_iff.1 (hzs hz))
      refine (Stack.gives_push h total hdone hs hpairwise).bind fun s' hs' => ?_
      have hrest : r.2 ⊆ all := hsubset (List.subset_append_right _ _)
      have hdone' : done ++ r.1 ⊆ all := List.append_subset.2 ⟨hdone, hsubset (List.subset_append_left _ _)⟩
      have hlength : r.2.length ≤ fuel := by have := hless hne; omega
      refine (ih r.2 (done ++ r.1) s' hlength hrest hdone' hs').mono fun s'' hs'' => ⟨hs''.1.trans ?_, hs''.2⟩
      rw [List.append_assoc]
      exact hperm.append_left done

/-! ## Sorts -/

theorem gives_sorted? (xs : List α) :
    Gives (Mixed Alike xs) (fun ys => ys.Perm xs ∧ ys.Pairwise Alike) (sorted? less xs) := by
  refine (gives_stackRuns h xs.length xs.length xs [] {} (le_refl _) (List.Subset.refl _) (List.nil_subset _)
    ⟨List.Perm.refl _, nofun⟩).bind fun s hs => ?_
  exact Stack.gives_collapse h _ s (le_refl _) (List.Subset.refl _) hs

/-- a sort gives the values that it has sorted -/
theorem sorted?_perm (hys : sorted? less xs = .ok ys) : ys.Perm xs := by
  have hgives := gives_sorted? h xs
  rw [hys] at hgives
  exact hgives.1

/-- **When a sort succeeds.** An order that answers for alike values and no others sorts just those lists whose values are
all alike. -/
theorem sorted?_isOk_iff : (∃ ys, sorted? less xs = .ok ys) ↔ xs.Pairwise Alike := by
  have hgives := gives_sorted? h xs
  constructor
  · rintro ⟨ys, hys⟩
    rw [hys] at hgives
    exact (hgives.1.pairwise_iff fun hxy => h.symm hxy).1 hgives.2
  · intro hxs
    match xs with
    | [] => exact ⟨[], rfl⟩
    | [x] => exact ⟨[x], rfl⟩
    | x :: y :: rest =>
      cases hsorted : sorted? less (x :: y :: rest) with
      | ok ys => exact ⟨ys, rfl⟩
      | error e =>
        rw [hsorted] at hgives
        obtain ⟨a, ha, b, hb, hab⟩ := hgives
        -- there is a second value, so the first is like itself too
        have hxy : Alike x y := List.rel_of_pairwise_cons hxs List.mem_cons_self
        have hfirst : ∀ c ∈ x :: y :: rest, Alike x c := by
          intro c hc
          rcases List.mem_cons.1 hc with rfl | hc
          · exact h.trans hxy (h.symm hxy)
          · exact List.rel_of_pairwise_cons hxs hc
        exact absurd (h.trans (h.symm (hfirst a ha)) (hfirst b hb)) hab

end

end Lending.Sorting
