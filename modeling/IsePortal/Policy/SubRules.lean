import IsePortal.Policy.LeafVerdicts

/-!
# The view by sub-rules

`_eval_condition` reports the leaves of a condition from left to right; `_split_into_subrules`
evaluates the branches of the first OR block, and what stands beside it, each on its own. Both
report the same leaves (`subrules_agree`), so either tells whether one was skipped.
-/

namespace IsePortal

open Library

section SubRules

variable [PyText] [PyRegex]

/-- The detail list of `_eval_condition`; a missing condition has none. -/
def conditionDetails (ep : PolicyEndpoint) (cond : Option Condition) : List MatchedCondition :=
  match cond with
  | none => []
  | some cond => (evalCondition ep cond).2

variable {ep : PolicyEndpoint} {children : List Condition}

theorem flatMap_subRulesOf :
    (subRulesOf ep children).flatMap SubRuleGroup.conditions =
      children.flatMap fun child => (evalCondition ep child).2 := by
  have hconditions : (subRulesOf ep children).map SubRuleGroup.conditions =
      children.map fun child => (evalCondition ep child).2 := by
    refine List.ext_getElem? fun position => ?_
    rw [subRulesOf, List.getElem?_map, List.getElem?_mapIdx, List.getElem?_map, Option.map_map]
    rfl
  rw [List.flatMap_def, List.flatMap_def, hconditions]

theorem evalCondition_block_snd (isAnd isNegate : Bool) :
    (evalCondition ep (.block isAnd children isNegate)).2 =
      children.flatMap fun child => (evalCondition ep child).2 :=
  evalChildren_snd ep children

/-- The leaves outside the first OR block and those of its branches are all the leaves. -/
theorem allConds_perm (ep : PolicyEndpoint) (cond : Option Condition) :
    (allConds ep cond).Perm (conditionDetails ep cond) := by
  unfold allConds conditionDetails
  cases cond with
  | none => exact List.Perm.refl _
  | some cond =>
      cases cond with
      | leaf leaf isNegate => simp [splitIntoSubrules]
      | block isAnd children isNegate =>
          cases isAnd with
          | false =>
              show ([] ++ (subRulesOf ep children).flatMap SubRuleGroup.conditions).Perm _
              rw [List.nil_append, flatMap_subRulesOf]
              exact List.Perm.of_eq (evalCondition_block_snd false isNegate).symm
          | true =>
              cases hfirst : firstOr children with
              | none => simp [splitIntoSubrules, hfirst]
              | some split =>
                  obtain ⟨before, orChildren, after⟩ := split
                  obtain ⟨orNegate, rfl⟩ := firstOr_eq_some hfirst
                  simp only [splitIntoSubrules, hfirst]
                  rw [evalCondition_block_snd, flatMap_subRulesOf, List.flatMap_append,
                    List.flatMap_append, List.flatMap_cons, evalCondition_block_snd,
                    List.append_assoc]
                  -- the branches move to the place of the OR block
                  exact (List.Perm.refl _).append List.perm_append_comm

/-- Both views report the same leaves, so both know whether one was skipped. -/
theorem subrules_agree (ep : PolicyEndpoint) (cond : Option Condition) :
    ((splitIntoSubrules ep cond).1 ++
        (splitIntoSubrules ep cond).2.flatMap SubRuleGroup.conditions).Perm
      (conditionDetails ep cond) ∧
    (allConds ep cond).any (·.skipped) = (conditionDetails ep cond).any (·.skipped) :=
  ⟨allConds_perm ep cond, (allConds_perm ep cond).any_eq⟩

end SubRules

end IsePortal
