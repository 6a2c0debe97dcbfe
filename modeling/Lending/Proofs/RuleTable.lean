/-
What a table of rules gives.

A combination has the policy of its rule, or the fallback if it has no rule (`Gives`). Where each combination has at most
one rule, that is the policy that the table resolves it to (`resolve_eq_iff`). Every table that rules are added to one by
one is of this kind, as a rule that is added again keeps its line (`distinctKeys_of`).
-/
import Mathlib.Tactic
import Lending.RuleTable

namespace Lending.RuleTable

variable {t : RuleTable} {key : RuleKey} {id : Text} {rules : List (RuleKey × Text)}

/-- the policy that a table has for a combination: that of its rule, or the fallback if there is no rule for it -/
inductive Gives (t : RuleTable) (key : RuleKey) : Text → Prop
  | rule {id : Text} : (key, id) ∈ t.rules → Gives t key id
  | fallback : (∀ rule ∈ t.rules, rule.1 ≠ key) → Gives t key t.fallback

/-- whether each combination has at most one rule -/
def DistinctKeys (t : RuleTable) : Prop := (t.rules.map (·.1)).Nodup

/-! ## Adding rules -/

/-- a rule keeps its line when its policy is changed, and a new one takes the last line -/
theorem keys_put (key : RuleKey) (id : Text) (rules : List (RuleKey × Text)) :
    (put key id rules).map (·.1) =
      if key ∈ rules.map (·.1) then rules.map (·.1) else rules.map (·.1) ++ [key] := by
  induction rules with
  | nil => simp [put]
  | cons rule rest ih =>
    unfold put
    by_cases h : rule.1 = key
    · simp [h]
    · have hne : key ≠ rule.1 := Ne.symm h
      rw [if_neg h, List.map_cons, ih]
      by_cases hmem : key ∈ rest.map (·.1)
      · simp only [hmem, if_true, List.map_cons, List.mem_cons, or_true]
      · simp only [hmem, if_false, List.map_cons, List.mem_cons, hne, or_self, List.cons_append]

theorem DistinctKeys.addRule (h : t.DistinctKeys) (key : RuleKey) (id : Text) : (t.addRule key id).DistinctKeys := by
  unfold DistinctKeys RuleTable.addRule at *
  rw [keys_put]
  split_ifs with hmem
  · exact h
  · exact List.Nodup.append h (List.nodup_singleton key) (List.disjoint_singleton.2 hmem)

theorem distinctKeys_foldl (h : t.DistinctKeys) (rules : List (RuleKey × Text)) :
    (rules.foldl (fun t rule => t.addRule rule.1 rule.2) t).DistinctKeys := by
  induction rules generalizing t with
  | nil => exact h
  | cons rule rest ih =>
    rw [List.foldl_cons]
    exact ih (h.addRule rule.1 rule.2)

theorem distinctKeys_of (fallback : Text) (rules : List (RuleKey × Text)) : (of fallback rules).DistinctKeys := by
  have hempty : DistinctKeys ⟨fallback, []⟩ := List.nodup_nil
  exact distinctKeys_foldl hempty rules

/-! ## Looking a combination up -/

theorem resolve_eq_iff (h : t.DistinctKeys) : t.resolve key = id ↔ t.Gives key id := by
  unfold resolve
  cases hfind : t.rules.find? (fun rule => rule.1 = key) with
  | none =>
    have hnone : ∀ rule ∈ t.rules, rule.1 ≠ key := by simpa using hfind
    rw [Option.map_none, Option.getD_none]
    constructor
    · rintro rfl
      exact .fallback hnone
    · intro hgives
      cases hgives with
      | rule hmem => exact absurd rfl (hnone _ hmem)
      | fallback _ => rfl
  | some rule =>
    have hkey : rule.1 = key := by simpa using List.find?_some hfind
    have hmem : rule ∈ t.rules := List.mem_of_find?_eq_some hfind
    rw [Option.map_some, Option.getD_some]
    constructor
    · rintro rfl
      exact .rule (hkey ▸ hmem)
    · intro hgives
      cases hgives with
      | @rule id hid => exact congrArg Prod.snd (List.inj_on_of_nodup_map h hmem hid hkey)
      | fallback hnone => exact absurd hkey (hnone rule hmem)

end Lending.RuleTable
