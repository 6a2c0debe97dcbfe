/-
What a table of rules explains.

Rules are added to an empty table one by one, and a combination may be given a policy more than once. It has the policy
that it was given last (`policy?_of`), in the line that its first rule took, which is its rank among the combinations in
the order in which they came (`line_of`). So the first policy that the table explains is the one that it resolves to, and
a rule that is added again changes no line (`of_explained`).
-/
import Lending.Proofs.RuleTable

namespace Lending.RuleTable

variable {t : RuleTable} {key added : RuleKey} {id fallback : Text} {rules more : List (RuleKey × Text)}

/-- the combinations that have a rule, in order of their lines -/
def keys (t : RuleTable) : List RuleKey := t.rules.map (·.1)

/-- the policy of the rule for a combination, if it has one -/
def policy? (t : RuleTable) (key : RuleKey) : Option Text := (t.rules.find? fun rule => rule.1 = key).map (·.2)

/-- the line of the rule for a combination that has one -/
def line (t : RuleTable) (key : RuleKey) : Nat := t.keys.idxOf key + 1

/-- the policy that a combination is given last, if it is given one -/
def lastPolicy? (key : RuleKey) (rules : List (RuleKey × Text)) : Option Text :=
  (rules.reverse.find? fun rule => rule.1 = key).map (·.2)

/-- the rank of a combination among all different ones, in the order in which they come first -/
def rank (key : RuleKey) (rules : List (RuleKey × Text)) : Nat :=
  ((rules.map (·.1)).takeWhile (· ≠ key)).dedup.length + 1

theorem of_append_singleton (fallback : Text) (rules : List (RuleKey × Text)) (rule : RuleKey × Text) :
    of fallback (rules ++ [rule]) = (of fallback rules).addRule rule.1 rule.2 := by
  rw [of, List.foldl_append]
  rfl

theorem fallback_of (fallback : Text) (rules : List (RuleKey × Text)) : (of fallback rules).fallback = fallback := by
  induction rules using List.reverseRecOn with
  | nil => rfl
  | append_singleton rules rule ih => rwa [of_append_singleton]

/-! ## Policies -/

theorem policy?_addRule (t : RuleTable) (key added : RuleKey) (id : Text) :
    (t.addRule added id).policy? key = if added = key then some id else t.policy? key := by
  obtain ⟨fallback, rules⟩ := t
  simp only [policy?, RuleTable.addRule]
  induction rules with
  | nil => by_cases h : added = key <;> simp [put, h]
  | cons rule rest ih =>
    unfold put
    by_cases hadded : rule.1 = added
    · subst hadded
      by_cases h : rule.1 = key <;> simp [h]
    · rw [if_neg hadded]
      by_cases h : rule.1 = key
      · subst h
        simp [Ne.symm hadded]
      · rw [List.find?_cons_of_neg (by simpa using h), ih, List.find?_cons_of_neg (by simpa using h)]

theorem lastPolicy?_append_singleton (key : RuleKey) (rules : List (RuleKey × Text)) (rule : RuleKey × Text) :
    lastPolicy? key (rules ++ [rule]) = if rule.1 = key then some rule.2 else lastPolicy? key rules := by
  by_cases h : rule.1 = key <;> simp [lastPolicy?, h]

theorem find?_eq_none_iff : (rules.find? fun rule => rule.1 = key) = none ↔ key ∉ rules.map (·.1) := by
  simp only [List.find?_eq_none, decide_eq_true_eq, List.mem_map, not_exists, not_and]

theorem lastPolicy?_eq_none_iff : lastPolicy? key rules = none ↔ key ∉ rules.map (·.1) := by
  rw [lastPolicy?, Option.map_eq_none_iff, find?_eq_none_iff, List.map_reverse, List.mem_reverse]

/-- a combination has the policy that it is given last -/
theorem policy?_of (fallback : Text) (rules : List (RuleKey × Text)) (key : RuleKey) :
    (of fallback rules).policy? key = lastPolicy? key rules := by
  induction rules using List.reverseRecOn with
  | nil => rfl
  | append_singleton rules rule ih =>
    rw [of_append_singleton, policy?_addRule, ih, lastPolicy?_append_singleton]

theorem resolve_of (fallback : Text) (rules : List (RuleKey × Text)) (key : RuleKey) :
    (of fallback rules).resolve key = (lastPolicy? key rules).getD fallback := by
  calc (of fallback rules).resolve key
    _ = ((of fallback rules).policy? key).getD (of fallback rules).fallback := rfl
    _ = (lastPolicy? key rules).getD fallback := by rw [policy?_of, fallback_of]

/-! ## Lines -/

theorem keys_addRule_of_mem (h : added ∈ t.keys) (id : Text) : (t.addRule added id).keys = t.keys :=
  (keys_put added id t.rules).trans (if_pos h)

theorem keys_addRule_of_notMem (h : added ∉ t.keys) (id : Text) : (t.addRule added id).keys = t.keys ++ [added] :=
  (keys_put added id t.rules).trans (if_neg h)

theorem mem_keys_addRule : key ∈ (t.addRule added id).keys ↔ key ∈ t.keys ∨ key = added := by
  by_cases h : added ∈ t.keys
  · rw [keys_addRule_of_mem h, or_iff_left_of_imp]
    rintro rfl
    exact h
  · rw [keys_addRule_of_notMem h, List.mem_append, List.mem_singleton]

theorem mem_keys_of : key ∈ (of fallback rules).keys ↔ key ∈ rules.map (·.1) := by
  induction rules using List.reverseRecOn with
  | nil => rfl
  | append_singleton rules rule ih =>
    rw [of_append_singleton, mem_keys_addRule, ih, List.map_append, List.mem_append, List.map_singleton,
      List.mem_singleton]

/-- a table has as many lines as different combinations have been added -/
theorem length_keys_of (fallback : Text) (rules : List (RuleKey × Text)) :
    (of fallback rules).keys.length = (rules.map (·.1)).dedup.length := by
  have hkeys : (of fallback rules).keys.Nodup := distinctKeys_of fallback rules
  have hperm : (of fallback rules).keys.Perm (rules.map (·.1)).dedup :=
    (List.perm_ext_iff_of_nodup hkeys (List.nodup_dedup _)).2 fun key => mem_keys_of.trans List.mem_dedup.symm
  exact hperm.length_eq

/-- a combination that has a line keeps it -/
theorem line_addRule (h : key ∈ t.keys) (added : RuleKey) (id : Text) : (t.addRule added id).line key = t.line key := by
  by_cases hadded : added ∈ t.keys
  · rw [line, keys_addRule_of_mem hadded, line]
  · rw [line, keys_addRule_of_notMem hadded, List.idxOf_append_of_mem h, line]

/-- a combination that is new takes the line behind the last one -/
theorem line_addRule_self (h : key ∉ t.keys) (id : Text) : (t.addRule key id).line key = t.keys.length + 1 := by
  rw [line, keys_addRule_of_notMem h, List.idxOf_append_of_notMem h, List.idxOf_cons_self, Nat.add_zero]

/-- what stands before a combination ends at its first place -/
theorem takeWhile_ne_append {before : List RuleKey} (h : key ∉ before) (behind : List RuleKey) :
    (before ++ key :: behind).takeWhile (· ≠ key) = before := by
  have hpass : ∀ k ∈ before, decide (k ≠ key) = true := fun k hk => decide_eq_true fun heq => h (heq ▸ hk)
  rw [List.takeWhile_append_of_pos hpass, List.takeWhile_cons_of_neg (by simp), List.append_nil]

theorem rank_append (h : key ∈ rules.map (·.1)) (more : List (RuleKey × Text)) :
    rank key (rules ++ more) = rank key rules := by
  obtain ⟨before, behind, hrules, hbefore⟩ := List.eq_append_cons_of_mem h
  simp only [rank, List.map_append, hrules, List.append_assoc, List.cons_append, takeWhile_ne_append hbefore]

theorem rank_append_singleton (h : key ∉ rules.map (·.1)) (id : Text) :
    rank key (rules ++ [(key, id)]) = (rules.map (·.1)).dedup.length + 1 := by
  rw [rank, List.map_append, List.map_singleton, takeWhile_ne_append h]

/-- the line of a combination is its rank among those that have been added -/
theorem line_of (h : key ∈ rules.map (·.1)) : (of fallback rules).line key = rank key rules := by
  induction rules using List.reverseRecOn with
  | nil => cases h
  | append_singleton rules rule ih =>
    rw [of_append_singleton]
    by_cases hrules : key ∈ rules.map (·.1)
    · rw [line_addRule (mem_keys_of.2 hrules), ih hrules, rank_append hrules]
    · rw [List.map_append, List.map_singleton, List.mem_append, List.mem_singleton, or_iff_right hrules] at h
      subst h
      rw [line_addRule_self (mt mem_keys_of.1 hrules), length_keys_of, rank_append_singleton hrules]

/-! ## Explanations -/

/-- where each combination has at most one rule, one match at most is found: that rule, in its line -/
theorem matchesFrom_eq (h : (rules.map (·.1)).Nodup) (key : RuleKey) (first : Nat) :
    matchesFrom key first rules =
      ((rules.find? fun rule => rule.1 = key).map fun rule =>
        PolicyMatch.mk rule.2 (first + (rules.map (·.1)).idxOf key)).toList := by
  induction rules generalizing first with
  | nil => rfl
  | cons rule rest ih =>
    obtain ⟨hnew, hrest⟩ := List.nodup_cons.1 h
    unfold matchesFrom
    rw [ih hrest]
    by_cases hkey : rule.1 = key
    · subst hkey
      simp [find?_eq_none_iff.2 hnew]
    · rw [if_neg hkey, List.find?_cons_of_neg (by simpa using hkey), List.map_cons, List.idxOf_cons_ne _ hkey]
      simp only [Nat.succ_eq_add_one, Nat.add_assoc, Nat.add_comm 1]

theorem DistinctKeys.explain_eq (h : t.DistinctKeys) (key : RuleKey) :
    t.explain key = ((t.policy? key).map (PolicyMatch.mk · (t.line key))).toList ++ [⟨t.fallback, 0⟩] := by
  rw [explain, matchesFrom_eq h, policy?, Option.map_map, line, keys, Nat.add_comm]
  rfl

/-- a table explains the policy that a combination is given last, at the rank of the combination, and the fallback -/
theorem explain_of (fallback : Text) (rules : List (RuleKey × Text)) (key : RuleKey) :
    (of fallback rules).explain key =
      ((lastPolicy? key rules).map (PolicyMatch.mk · (rank key rules))).toList ++ [⟨fallback, 0⟩] := by
  rw [(distinctKeys_of fallback rules).explain_eq, policy?_of, fallback_of]
  cases hlast : lastPolicy? key rules with
  | none => rfl
  | some id =>
    have hadded : key ∈ rules.map (·.1) := by
      by_contra hnot
      rw [lastPolicy?_eq_none_iff.2 hnot] at hlast
      cases hlast
    rw [line_of hadded]

/-- the lines that a table explains a combination by -/
theorem lines_of (fallback : Text) (rules : List (RuleKey × Text)) (key : RuleKey) :
    ((of fallback rules).explain key).map (·.line) =
      if key ∈ rules.map (·.1) then [rank key rules, 0] else [0] := by
  rw [explain_of]
  split_ifs with h
  · obtain ⟨id, hid⟩ := Option.ne_none_iff_exists'.1 fun hnone => lastPolicy?_eq_none_iff.1 hnone h
    rw [hid]
    rfl
  · rw [lastPolicy?_eq_none_iff.2 h]
    rfl

/-- more rules change the lines of a combination exactly if it is among them and has not been added before -/
theorem lines_append_iff :
    ((of fallback (rules ++ more)).explain key).map (·.line) = ((of fallback rules).explain key).map (·.line) ↔
      (key ∈ more.map (·.1) → key ∈ rules.map (·.1)) := by
  simp only [lines_of, List.map_append, List.mem_append]
  by_cases hrules : key ∈ rules.map (·.1)
  · simp [hrules, rank_append hrules]
  · by_cases hmore : key ∈ more.map (·.1) <;> simp [hrules, hmore]

/-- **A table explains what it resolves.** Rules are added to an empty table, and combinations may be among them more than
once. A combination is resolved to the policy that it was given last, or to the fallback if it was given none. Explained
are that policy, in the line that is the rank of the combination among all that were added, and the fallback in line 0;
for a combination without a rule the fallback alone. So the first policy explained is the one resolved, and more rules
change the lines of a combination only where they add it for the first time. -/
theorem of_explained (fallback : Text) (rules : List (RuleKey × Text)) (key : RuleKey) :
    let t := of fallback rules
    t.resolve key = (lastPolicy? key rules).getD fallback ∧
    t.explain key = ((lastPolicy? key rules).map (PolicyMatch.mk · (rank key rules))).toList ++ [⟨fallback, 0⟩] ∧
    (lastPolicy? key rules = none ↔ key ∉ rules.map (·.1)) ∧
    (t.explain key).head?.map (·.policyId) = some (t.resolve key) ∧
    ∀ more, ((of fallback (rules ++ more)).explain key).map (·.line) = (t.explain key).map (·.line) ↔
      (key ∈ more.map (·.1) → key ∈ rules.map (·.1)) := by
  intro t
  have hfirst : (t.explain key).head?.map (·.policyId) = some (t.resolve key) := by
    rw [explain_of, resolve_of]
    cases lastPolicy? key rules <;> rfl
  exact ⟨resolve_of fallback rules key, explain_of fallback rules key, lastPolicy?_eq_none_iff, hfirst,
    fun more => lines_append_iff⟩

/-- a film whose policy is changed keeps its line, and the book added behind it keeps its own -/
example :
    let film : RuleKey := ⟨"dvd", "short", "staff", "main"⟩
    let book : RuleKey := ⟨"book", "standard", "undergrad", "main"⟩
    let t := of "fallback" [(film, "short-term"), (book, "semester"), (film, "weekend")]
    t.explain film = [⟨"weekend", 1⟩, ⟨"fallback", 0⟩] ∧ t.explain book = [⟨"semester", 2⟩, ⟨"fallback", 0⟩] := by
  decide

end Lending.RuleTable
