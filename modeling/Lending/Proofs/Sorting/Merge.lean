/-
What a merge asks and what it gives.

The order may fail, and a merge fails with it. `Gives` is what is shown of every step: it fails only if two of the values at
hand are not alike, where the order answers for values that are alike and for no others (`Answers`). A merge gives the
values of both runs, and has asked enough to know that they are alike (`gives_merge`).
-/
import Mathlib.Tactic
import Lending.Sorting.Merge

namespace Lending.Sorting

variable {α β γ ε : Type}

/-! ## Steps that may fail -/

/-- whether a computation fails only under a condition, and gives something with a property otherwise -/
def Gives (fails : Prop) (Q : β → Prop) : Except ε β → Prop
  | .ok b => Q b
  | .error _ => fails

namespace Gives

variable {fails : Prop} {Q : β → Prop} {R : γ → Prop} {x : Except ε β} {f : β → Except ε γ}

theorem ok {b : β} (h : Q b) : Gives fails Q (.ok b : Except ε β) := h

theorem bind (hx : Gives fails Q x) (hf : ∀ b, Q b → Gives fails R (f b)) : Gives fails R (x >>= f) := by
  cases x with
  | ok b => exact hf b hx
  | error e => exact hx

theorem mono {Q' : β → Prop} (hx : Gives fails Q x) (h : ∀ b, Q b → Q' b) : Gives fails Q' x := by
  cases x with
  | ok b => exact h b hx
  | error e => exact hx

end Gives

/-- an order that answers for values that are alike, and for no others -/
structure Answers (less : Less α ε) (Alike : α → α → Prop) : Prop where
  symm : ∀ {x y}, Alike x y → Alike y x
  trans : ∀ {x y z}, Alike x y → Alike y z → Alike x z
  answers_iff : ∀ x y, (∃ b, less x y = .ok b) ↔ Alike x y

/-- whether two of some values are not alike -/
def Mixed (Alike : α → α → Prop) (all : List α) : Prop := ∃ x ∈ all, ∃ y ∈ all, ¬ Alike x y

variable {less : Less α ε} {Alike : α → α → Prop} {all xs ys : List α} {x y key : α}

namespace Answers

theorem compare (h : Answers less Alike) (hx : x ∈ all) (hy : y ∈ all) :
    Gives (Mixed Alike all) (fun _ => Alike x y) (less x y) := by
  cases hless : less x y with
  | ok b => exact (h.answers_iff x y).1 ⟨b, hless⟩
  | error e =>
    refine ⟨x, hx, y, hy, fun halike => ?_⟩
    obtain ⟨b, hb⟩ := (h.answers_iff x y).2 halike
    rw [hless] at hb
    cases hb

theorem pairwise_cons (h : Answers less Alike) (hx : Alike x y) (hy : (y :: ys).Pairwise Alike) :
    (x :: y :: ys).Pairwise Alike := by
  refine List.pairwise_cons.2 ⟨fun z hz => ?_, hy⟩
  rcases List.mem_cons.1 hz with rfl | hz
  · exact hx
  · exact h.trans hx (List.rel_of_pairwise_cons hy hz)

/-- two rows of alike values are one if a value of one is like a value of the other -/
theorem pairwise_append (h : Answers less Alike) (hxs : xs.Pairwise Alike) (hys : ys.Pairwise Alike) (hx : x ∈ xs)
    (hy : y ∈ ys) (hxy : Alike x y) : (xs ++ ys).Pairwise Alike := by
  have : Std.Symm Alike := ⟨fun _ _ => h.symm⟩
  refine List.pairwise_append.2 ⟨hxs, hys, fun a ha b hb => ?_⟩
  have hay : Alike a y := by
    by_cases hax : a = x
    · rwa [hax]
    · exact h.trans (hxs.forall ha hx hax) hxy
  by_cases hyb : y = b
  · rwa [← hyb]
  · exact h.trans hay (hys.forall hy hb hyb)

end Answers

/-! ## Finding a place -/

section Search

variable {fails : Prop} {below : Question α ε} {P : α → Prop}

theorem gives_askAt (hbelow : ∀ z ∈ xs, Gives fails (fun _ => P z) (below z)) (i : Nat) :
    Gives fails (fun _ => ∀ z, xs[i]? = some z → P z) (askAt below xs i) := by
  unfold askAt
  cases hi : xs[i]? with
  | none => exact .ok nofun
  | some z =>
    refine (hbelow z (List.mem_of_getElem? hi)).mono fun _ hz w hw => ?_
    cases hw
    exact hz

/-- halving asks at least one value, where there is one to ask -/
theorem gives_halve (hbelow : ∀ z ∈ xs, Gives fails (fun _ => P z) (below z)) (fuel low high : Nat) :
    Gives fails (fun _ => fuel ≠ 0 → low < high → high ≤ xs.length → ∃ z ∈ xs, P z) (halve below xs fuel low high) := by
  induction fuel generalizing low high with
  | zero => exact .ok fun h => absurd rfl h
  | succ fuel ih =>
    unfold halve
    split
    · next hlow =>
      refine (gives_askAt hbelow _).bind fun b hasked => ?_
      have hmiddle : high ≤ xs.length → ∃ z ∈ xs, P z := by
        intro hhigh
        have hi : low + (high - low) / 2 < xs.length := by omega
        exact ⟨_, List.getElem_mem hi, hasked _ (List.getElem?_eq_getElem hi)⟩
      split
      · exact (ih _ _).mono fun _ _ _ _ => hmiddle
      · exact (ih _ _).mono fun _ _ _ _ => hmiddle
    · next hlow => exact .ok fun _ h => absurd h hlow

theorem gives_stride {goesOn : Nat → Except ε Bool} (h : ∀ d, Gives fails (fun _ => True) (goesOn d))
    (limit fuel last next : Nat) : Gives fails (fun _ => True) (stride goesOn limit fuel last next) := by
  induction fuel generalizing last next with
  | zero => exact .ok trivial
  | succ fuel ih =>
    unfold stride
    split
    · refine (h next).bind fun b _ => ?_
      split
      · exact ih _ _
      · exact .ok trivial
    · exact .ok trivial

/-- a gallop asks the value that it starts from -/
theorem gives_gallop (hbelow : ∀ z ∈ xs, Gives fails (fun _ => P z) (below z)) (hint : Nat) :
    Gives fails (fun _ => ∀ z, xs[hint]? = some z → P z) (gallop below xs hint) := by
  unfold gallop
  refine (gives_askAt hbelow hint).bind fun b hasked => ?_
  have hask : ∀ i, Gives fails (fun _ => True) (askAt below xs i) := fun i => (gives_askAt hbelow i).mono fun _ _ => trivial
  split
  · refine (gives_stride (fun d => hask _) _ _ _ _).bind fun steps _ => ?_
    exact (gives_halve hbelow _ _ _).mono fun _ _ => hasked
  · refine (gives_stride (fun d => (hask _).bind fun _ _ => .ok trivial) _ _ _ _).bind fun steps _ => ?_
    exact (gives_halve hbelow _ _ _).mono fun _ _ => hasked

end Search

/-! ## Merging two runs -/

theorem coe_take_add_drop (n : Nat) (xs : List α) : (↑(xs.take n) + ↑(xs.drop n) : Multiset α) = ↑xs := by
  rw [Multiset.coe_add, List.take_append_drop]

namespace Merge

/-- all values of a merge, taken or not -/
def contents (m : Merge α) : Multiset α := ↑m.taken + (↑m.left + ↑m.right)

variable (m : Merge α) (n : Nat)

theorem contents_takeLeftUp : (m.takeLeftUp n).contents = m.contents := by
  simp only [contents, takeLeftUp, ← Multiset.coe_add, Multiset.coe_reverse]
  rw [← coe_take_add_drop n m.left]
  ac_rfl

theorem contents_takeRightUp : (m.takeRightUp n).contents = m.contents := by
  simp only [contents, takeRightUp, ← Multiset.coe_add, Multiset.coe_reverse]
  rw [← coe_take_add_drop n m.right]
  ac_rfl

theorem contents_takeLeftDown : (m.takeLeftDown n).contents = m.contents := by
  simp only [contents, takeLeftDown, ← Multiset.coe_add]
  rw [← coe_take_add_drop n m.left]
  ac_rfl

theorem contents_takeRightDown : (m.takeRightDown n).contents = m.contents := by
  simp only [contents, takeRightDown, ← Multiset.coe_add]
  rw [← coe_take_add_drop n m.right]
  ac_rfl

theorem contents_eased : m.eased.contents = m.contents := by
  unfold eased
  split <;> rfl

theorem contents_raised : m.raised.contents = m.contents := rfl

theorem contents_start (left right : List α) (threshold : Nat) :
    (Merge.mk left right [] threshold).contents = ↑left + ↑right := by
  rw [contents, Multiset.coe_nil, zero_add]

variable {m}

theorem left_subset (hm : ∀ z ∈ m.contents, z ∈ all) : m.left ⊆ all := fun z hz => hm z (by simp [contents, hz])

theorem right_subset (hm : ∀ z ∈ m.contents, z ∈ all) : m.right ⊆ all := fun z hz => hm z (by simp [contents, hz])

end Merge

section

variable (h : Answers less Alike)

include h

theorem gives_isBefore (hkey : key ∈ all) (hxs : xs ⊆ all) :
    ∀ z ∈ xs, Gives (Mixed Alike all) (fun _ => Alike z key) (isBefore less key z) :=
  fun _ hz => h.compare (hxs hz) hkey

theorem gives_notAfter (hkey : key ∈ all) (hxs : xs ⊆ all) :
    ∀ z ∈ xs, Gives (Mixed Alike all) (fun _ => Alike z key) (notAfter less key z) :=
  fun _ hz => (h.compare hkey (hxs hz)).bind fun _ halike => .ok (h.symm halike)

namespace Merge

/-- whichever way a merge goes up, it has the same contents at each step -/
theorem gives_upSteps (fuel : Nat) (m : Merge α) (hm : ∀ z ∈ m.contents, z ∈ all) :
    (∀ fromLeft fromRight, Gives (Mixed Alike all) (fun m' => m'.contents = m.contents)
      (oneByOneUp less fuel fromLeft fromRight m)) ∧
    Gives (Mixed Alike all) (fun m' => m'.contents = m.contents) (manyUp less fuel m) := by
  induction fuel generalizing m with
  | zero => exact ⟨fun _ _ => .ok rfl, .ok rfl⟩
  | succ fuel ih =>
    have hnext : ∀ m' : Merge α, m'.contents = m.contents →
        (∀ fromLeft fromRight, Gives (Mixed Alike all) (fun m'' => m''.contents = m.contents)
          (oneByOneUp less fuel fromLeft fromRight m')) ∧
        Gives (Mixed Alike all) (fun m'' => m''.contents = m.contents) (manyUp less fuel m') := by
      intro m' hm'
      rw [← hm'] at hm ⊢
      exact ih m' hm
    refine ⟨fun fromLeft fromRight => ?_, ?_⟩
    · unfold oneByOneUp
      split
      · next x _ _ y _ hleft hright =>
        have hx : x ∈ all := left_subset hm (by simp [hleft])
        have hy : y ∈ all := right_subset hm (by simp [hright])
        have hfromLeft := m.contents_takeLeftUp 1
        have hfromRight := m.contents_takeRightUp 1
        refine (h.compare hy hx).bind fun b _ => ?_
        dsimp only
        split_ifs
        · exact .ok hfromRight
        · exact (hnext _ hfromRight).2
        · exact (hnext _ hfromRight).1 _ _
        · exact .ok hfromLeft
        · exact (hnext _ hfromLeft).2
        · exact (hnext _ hfromLeft).1 _ _
      · exact .ok rfl
    · unfold manyUp
      split
      · exact .ok rfl
      · next y _ hright =>
        have hy : y ∈ all := right_subset hm (by simp [hright])
        refine (gives_gallop (gives_notAfter h hy (left_subset hm)) 0).bind fun i _ => ?_
        have h₁ := m.contents_takeLeftUp i
        have h₂ := (contents_takeRightUp _ 1).trans h₁
        dsimp only
        split_ifs
        · exact .ok h₁
        · exact .ok h₂
        split
        · exact .ok h₂
        · next x _ hleft =>
          have hm₂ := hm
          rw [← h₂] at hm₂
          have hx : x ∈ all := left_subset hm₂ (by simp [hleft])
          refine (gives_gallop (gives_isBefore h hx (right_subset hm₂)) 0).bind fun j _ => ?_
          have h₃ := (contents_takeRightUp _ j).trans h₂
          have h₄ := (contents_takeLeftUp _ 1).trans h₃
          split_ifs
          · exact .ok h₃
          · exact .ok h₄
          · exact (hnext _ ((contents_eased _).trans h₄)).2
          · exact (hnext _ ((contents_raised _).trans h₄)).1 _ _

/-- whichever way a merge goes down, it has the same contents at each step -/
theorem gives_downSteps (fuel : Nat) (m : Merge α) (hm : ∀ z ∈ m.contents, z ∈ all) :
    (∀ fromLeft fromRight, Gives (Mixed Alike all) (fun m' => m'.contents = m.contents)
      (oneByOneDown less fuel fromLeft fromRight m)) ∧
    Gives (Mixed Alike all) (fun m' => m'.contents = m.contents) (manyDown less fuel m) := by
  induction fuel generalizing m with
  | zero => exact ⟨fun _ _ => .ok rfl, .ok rfl⟩
  | succ fuel ih =>
    have hnext : ∀ m' : Merge α, m'.contents = m.contents →
        (∀ fromLeft fromRight, Gives (Mixed Alike all) (fun m'' => m''.contents = m.contents)
          (oneByOneDown less fuel fromLeft fromRight m')) ∧
        Gives (Mixed Alike all) (fun m'' => m''.contents = m.contents) (manyDown less fuel m') := by
      intro m' hm'
      rw [← hm'] at hm ⊢
      exact ih m' hm
    refine ⟨fun fromLeft fromRight => ?_, ?_⟩
    · unfold oneByOneDown
      split
      · next x y hleft hright =>
        have hx : x ∈ all := left_subset hm (List.mem_of_getLast? hleft)
        have hy : y ∈ all := right_subset hm (List.mem_of_getLast? hright)
        have hfromLeft := m.contents_takeLeftDown (m.left.length - 1)
        have hfromRight := m.contents_takeRightDown (m.right.length - 1)
        refine (h.compare hy hx).bind fun b _ => ?_
        dsimp only
        split_ifs
        · exact .ok hfromLeft
        · exact (hnext _ hfromLeft).2
        · exact (hnext _ hfromLeft).1 _ _
        · exact .ok hfromRight
        · exact (hnext _ hfromRight).2
        · exact (hnext _ hfromRight).1 _ _
      · exact .ok rfl
    · unfold manyDown
      split
      · exact .ok rfl
      · next y hright =>
        have hy : y ∈ all := right_subset hm (List.mem_of_getLast? hright)
        refine (gives_gallop (gives_notAfter h hy (left_subset hm)) _).bind fun i _ => ?_
        have h₁ := m.contents_takeLeftDown i
        have h₂ := (contents_takeRightDown _ (m.right.length - 1)).trans h₁
        dsimp only
        split_ifs
        · exact .ok h₁
        · exact .ok h₂
        split
        · exact .ok h₂
        · next x hleft =>
          have hm₂ := hm
          rw [← h₂] at hm₂
          have hx : x ∈ all := left_subset hm₂ (List.mem_of_getLast? hleft)
          refine (gives_gallop (gives_isBefore h hx (right_subset hm₂)) _).bind fun j _ => ?_
          have h₃ := (contents_takeRightDown _ j).trans h₂
          have h₄ := fun n => (contents_takeLeftDown _ n).trans h₃
          split_ifs
          · exact .ok h₃
          · exact .ok (h₄ _)
          · exact (hnext _ ((contents_eased _).trans (h₄ _))).2
          · exact (hnext _ ((contents_raised _).trans (h₄ _))).1 _ _

theorem gives_up (m : Merge α) (hm : ∀ z ∈ m.contents, z ∈ all) :
    Gives (Mixed Alike all) (fun r => (↑r.1 : Multiset α) = m.contents) (m.up less) := by
  have hcoe : ∀ m : Merge α, (↑(m.taken.reverse ++ m.right ++ m.left) : Multiset α) = m.contents := by
    intro m
    simp only [contents, ← Multiset.coe_add, Multiset.coe_reverse]
    ac_rfl
  have h₁ := m.contents_takeRightUp 1
  unfold up
  dsimp only
  split_ifs
  · exact .ok ((hcoe _).trans h₁)
  · rw [← h₁] at hm ⊢
    exact ((gives_upSteps h _ _ hm).1 0 0).bind fun m' hm' => .ok ((hcoe m').trans hm')

theorem gives_down (m : Merge α) (hm : ∀ z ∈ m.contents, z ∈ all) :
    Gives (Mixed Alike all) (fun r => (↑r.1 : Multiset α) = m.contents) (m.down less) := by
  have hcoe : ∀ m : Merge α, (↑(m.right ++ m.left ++ m.taken) : Multiset α) = m.contents := by
    intro m
    simp only [contents, ← Multiset.coe_add]
    ac_rfl
  have h₁ := m.contents_takeLeftDown (m.left.length - 1)
  unfold down
  dsimp only
  split_ifs
  · exact .ok ((hcoe _).trans h₁)
  · rw [← h₁] at hm ⊢
    exact ((gives_downSteps h _ _ hm).1 0 0).bind fun m' hm' => .ok ((hcoe m').trans hm')

end Merge

/-- a merge gives the values of both runs, and has asked whether the first of one are like the first of the other -/
theorem gives_merge_contents (threshold : Nat) (hxs : xs ⊆ all) (hys : ys ⊆ all) :
    Gives (Mixed Alike all)
      (fun r => (↑r.1 : Multiset α) = ↑xs + ↑ys ∧ ∀ x y, xs[0]? = some x → ys[0]? = some y → Alike x y)
      (merge less threshold xs ys) := by
  unfold merge
  split
  · exact .ok ⟨by simp, nofun⟩
  · next y ys =>
    have hy : y ∈ all := hys List.mem_cons_self
    refine (gives_gallop (gives_notAfter h hy hxs) 0).bind fun i hasked => ?_
    have hfirst : ∀ x z, xs[0]? = some x → (y :: ys)[0]? = some z → Alike x z := by
      intro x z hx hz
      cases hz
      exact hasked x hx
    dsimp only
    split
    · exact .ok ⟨by simp, hfirst⟩
    · next x hx =>
      have hx : x ∈ all := hxs (List.mem_of_mem_drop (List.mem_of_getLast? hx))
      refine (gives_gallop (gives_isBefore h hx hys) _).bind fun j _ => ?_
      have hstart := Merge.contents_start (xs.drop i) ((y :: ys).take j) threshold
      have hall : ∀ z ∈ (Merge.mk (xs.drop i) ((y :: ys).take j) [] threshold).contents, z ∈ all := by
        intro z hz
        rcases Multiset.mem_add.1 (hstart ▸ hz) with hz | hz
        · exact hxs (List.mem_of_mem_drop (Multiset.mem_coe.1 hz))
        · exact hys (List.mem_of_mem_take (Multiset.mem_coe.1 hz))
      have hdone : ∀ merged : List α,
          (↑merged : Multiset α) = (Merge.mk (xs.drop i) ((y :: ys).take j) [] threshold).contents →
          (↑(xs.take i ++ merged ++ (y :: ys).drop j) : Multiset α) = ↑xs + ↑(y :: ys) := by
        intro merged hmerged
        rw [← Multiset.coe_add, ← Multiset.coe_add, hmerged, hstart, ← coe_take_add_drop i xs,
          ← coe_take_add_drop j (y :: ys)]
        ac_rfl
      split_ifs
      · exact .ok ⟨by simp, hfirst⟩
      · exact (Merge.gives_up h _ hall).bind fun r hr => .ok ⟨hdone _ hr, hfirst⟩
      · exact (Merge.gives_down h _ hall).bind fun r hr => .ok ⟨hdone _ hr, hfirst⟩

/-- two rows of alike values are merged into one -/
theorem gives_merge (threshold : Nat) (hxs : xs ⊆ all) (hys : ys ⊆ all) (hx : xs.Pairwise Alike) (hy : ys.Pairwise Alike) :
    Gives (Mixed Alike all) (fun r => r.1.Perm (xs ++ ys) ∧ r.1.Pairwise Alike) (merge less threshold xs ys) := by
  refine (gives_merge_contents h threshold hxs hys).mono fun r hr => ?_
  obtain ⟨hcontents, hfirst⟩ := hr
  have hperm : r.1.Perm (xs ++ ys) := Multiset.coe_eq_coe.1 (by rw [hcontents, Multiset.coe_add])
  refine ⟨hperm, (hperm.pairwise_iff fun hxy => h.symm hxy).2 ?_⟩
  cases xs with
  | nil => simpa using hy
  | cons x xs =>
    cases ys with
    | nil => simpa using hx
    | cons y ys => exact h.pairwise_append hx hy List.mem_cons_self List.mem_cons_self (hfirst x y rfl rfl)

end

end Lending.Sorting
