/-
The table that chooses a policy.

A rule gives the policy for one combination of item type, loan type, patron group and location; the fallback is for all
others. A rule keeps its line when its policy is changed.
-/
import Lending.Text.Basic

namespace Lending

/-- the combination that a rule is for -/
structure RuleKey where
  itemTypeId : Text
  loanTypeId : Text
  patronGroupId : Text
  locationId : Text
deriving DecidableEq

/-- a policy and the line of its rule, 0 for the fallback -/
structure PolicyMatch where
  policyId : Text
  line : Nat
deriving DecidableEq

/-- rules in order of their lines, and the policy for everything else -/
structure RuleTable where
  fallback : Text
  rules : List (RuleKey × Text) := []
deriving DecidableEq

namespace RuleTable

/-- give a combination a policy, in its line if it has one and in a new last line otherwise -/
def put (key : RuleKey) (policyId : Text) : List (RuleKey × Text) → List (RuleKey × Text)
  | [] => [(key, policyId)]
  | rule :: rest => if rule.1 = key then (key, policyId) :: rest else rule :: put key policyId rest

/-- the table with a rule added or changed -/
def addRule (t : RuleTable) (key : RuleKey) (policyId : Text) : RuleTable :=
  { t with rules := put key policyId t.rules }

/-- the table of a list of rules -/
def of (fallback : Text) (rules : List (RuleKey × Text)) : RuleTable :=
  rules.foldl (fun t rule => t.addRule rule.1 rule.2) ⟨fallback, []⟩

/-- the policy for a combination -/
def resolve (t : RuleTable) (key : RuleKey) : Text :=
  ((t.rules.find? fun rule => rule.1 = key).map (·.2)).getD t.fallback

/-- the rules for a combination among those from a line on -/
def matchesFrom (key : RuleKey) : Nat → List (RuleKey × Text) → List PolicyMatch
  | _, [] => []
  | line, rule :: rest =>
    if rule.1 = key then ⟨rule.2, line⟩ :: matchesFrom key (line + 1) rest else matchesFrom key (line + 1) rest

/-- every policy that a combination could have, the one it has first -/
def explain (t : RuleTable) (key : RuleKey) : List PolicyMatch := matchesFrom key 1 t.rules ++ [⟨t.fallback, 0⟩]

end RuleTable

end Lending
