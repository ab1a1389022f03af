import Mathlib.Data.List.MinMax
import IsePortal.Policy.Conditions

/-!
# The policy simulator

`match_endpoint` of `services/policy_service.py` goes over the rules of a policy set by rank. A
rule that matches with evaluable leaves only ends the search; one with skipped leaves is
remembered, the one with the most satisfied evaluable leaves first; one without any leaf is
the last resort.
-/

namespace IsePortal

open Library

/-- An entry of the rule list: the fields of its `rule`, and its `profile` as a list. -/
structure PolicyRule where
  id : String
  name : String
  rank : Int
  state : String := "enabled"
  condition : Option Condition := none
  profiles : List String := []

/-- `list_authorization_rules` sorts by rank, and keeps the order of equal ranks. -/
def listAuthorizationRules (rules : List PolicyRule) : List PolicyRule :=
  rules.mergeSort fun a b => a.rank ≤ b.rank

/-- The rules come by rank. -/
def ByRank (rules : List PolicyRule) : Prop :=
  rules.Pairwise fun earlier later => earlier.rank ≤ later.rank

/-- A list sorted by a key comes in the order of the keys. -/
theorem pairwise_mergeSort_key {α β : Type*} [LinearOrder β] (key : α → β) (items : List α) :
    (items.mergeSort fun a b => key a ≤ key b).Pairwise fun a b => key a ≤ key b := by
  have hsorted : (items.mergeSort fun a b => key a ≤ key b).Pairwise fun a b =>
      decide (key a ≤ key b) = true :=
    List.pairwise_mergeSort (fun a b c => by simpa using fun hab hbc => le_trans hab hbc)
      (fun a b => by simpa using le_total (key a) (key b)) items
  exact hsorted.imp fun h => by simpa using h

structure SubRuleGroup where
  index : Nat
  conditions : List MatchedCondition

structure PolicyMatchResult where
  policySetId : String
  policySetName : String
  /-- The rule of `matched_rule_id`, `matched_rule_name`, `matched_rule_rank` and `profiles`. -/
  matchedRule : Option PolicyRule := none
  conditionDetails : List MatchedCondition := []
  subRules : List SubRuleGroup := []
  noRules : Bool := false
  partialMatch : Bool := false
  radiusAttrsNeeded : List String := []

/-- The first OR block among the children of a block, with what stands before and after it. -/
def firstOr : List Condition → Option (List Condition × List Condition × List Condition)
  | [] => none
  | .block false orChildren _ :: rest => some ([], orChildren, rest)
  | child :: rest =>
      (firstOr rest).map fun (before, orChildren, after) => (child :: before, orChildren, after)

/-- `_collect_radius_attrs` -/
def collectRadiusAttrs (cond : Option Condition) : List String :=
  ((cond.map AndOrTree.leaves).getD []).filterMap fun leaf =>
    match leaf with
    | .attributes "Radius" an _ _ => some an
    | _ => none

section Simulator

variable [PyText] [PyRegex]

def subRulesOf (ep : PolicyEndpoint) (children : List Condition) : List SubRuleGroup :=
  children.mapIdx fun position child => ⟨position + 1, (evalCondition ep child).2⟩

/-- `_split_into_subrules`: the leaves outside the first OR block, and those of its branches. -/
def splitIntoSubrules (ep : PolicyEndpoint) :
    Option Condition → List MatchedCondition × List SubRuleGroup
  | none => ([], [])
  | some (.block false children _) => ([], subRulesOf ep children)
  | some (.block true children isNegate) =>
      match firstOr children with
      | some (before, orChildren, after) =>
          ((before ++ after).flatMap fun child => (evalCondition ep child).2,
            subRulesOf ep orChildren)
      | none => ((evalCondition ep (.block true children isNegate)).2, [])
  | some (.leaf leaf isNegate) => ((evalCondition ep (.leaf leaf isNegate)).2, [])

/-- `all_conds` -/
def allConds (ep : PolicyEndpoint) (cond : Option Condition) : List MatchedCondition :=
  let split := splitIntoSubrules ep cond
  split.1 ++ split.2.flatMap SubRuleGroup.conditions

/-- `sum(1 for c in conds if not c.skipped and c.matched)` -/
def satisfiedCount (conds : List MatchedCondition) : Nat :=
  conds.countP fun cond => !cond.skipped && cond.matched

/-- `evaluable_matched`: with OR branches, only the best branch counts. -/
def evaluableMatched (ep : PolicyEndpoint) (cond : Option Condition) : Nat :=
  let split := splitIntoSubrules ep cond
  match split.2.argmax fun subRule => satisfiedCount subRule.conditions with
  | some best => satisfiedCount (split.1 ++ best.conditions)
  | none => satisfiedCount (allConds ep cond)

/-- What the loop of `match_endpoint` makes of one rule. -/
inductive Verdict where
  | skip
  | catchAll
  | definitive
  | tentative (score : Nat)
  deriving DecidableEq

/-- A missing condition matches. -/
def ruleMatches (ep : PolicyEndpoint) (rule : PolicyRule) : Bool :=
  match rule.condition with
  | none => true
  | some cond => (evalCondition ep cond).1

def ruleVerdict (ep : PolicyEndpoint) (rule : PolicyRule) : Verdict :=
  if rule.state = "disabled" then .skip
  else if ruleMatches ep rule = false then .skip
  else if (allConds ep rule.condition).isEmpty then .catchAll
  else if (allConds ep rule.condition).any (·.skipped) then
    .tentative (evaluableMatched ep rule.condition)
  else .definitive

/-- `best_partial`: replaced by a higher score, or by a lower rank at the same score. -/
def betterPartial (best : Option (Nat × Int × PolicyRule)) (score : Nat) (rule : PolicyRule) :
    Option (Nat × Int × PolicyRule) :=
  match best with
  | none => some (score, rule.rank, rule)
  | some (bestScore, bestRank, bestRule) =>
      if bestScore < score ∨ (score = bestScore ∧ rule.rank < bestRank) then
        some (score, rule.rank, rule)
      else some (bestScore, bestRank, bestRule)

/-- The loop over the rules, with `best_partial` and `catch_all`. -/
def selectLoop (ep : PolicyEndpoint) :
    List PolicyRule → Option (Nat × Int × PolicyRule) → Option PolicyRule → Option PolicyRule
  | [], some (_, _, rule), _ => some rule
  | [], none, catchAll => catchAll
  | rule :: rules, best, catchAll =>
      match ruleVerdict ep rule with
      | .skip => selectLoop ep rules best catchAll
      | .catchAll => selectLoop ep rules best (catchAll.or (some rule))
      | .definitive => some rule
      | .tentative score => selectLoop ep rules (betterPartial best score rule) catchAll

def selectRule (ep : PolicyEndpoint) (rules : List PolicyRule) : Option PolicyRule :=
  selectLoop ep rules none none

/-- The body of a request to the simulator: an endpoint of ISE, or the values themselves. -/
structure MatchRequest where
  endpointId : String := ""
  endpoint : PolicyEndpoint

omit [PyText] [PyRegex] in
/-- The endpoint as ISE has it where it can be fetched, with the RADIUS values of the request. -/
def simulatedEndpoint (fetchEpFromIse : String → Option PolicyEndpoint) (request : MatchRequest) :
    PolicyEndpoint :=
  let ep :=
    if request.endpointId = "" then request.endpoint
    else (fetchEpFromIse request.endpointId).getD request.endpoint
  { ep with radiusAttrs := request.endpoint.radiusAttrs }

/-- `match_endpoint`, given the policy set and its rules. -/
def matchEndpoint (fetchEpFromIse : String → Option PolicyEndpoint) (policySetId psName : String)
    (rules : List PolicyRule) (request : MatchRequest) : PolicyMatchResult :=
  let ep := simulatedEndpoint fetchEpFromIse request
  let radiusNeeded := (((rules.flatMap fun rule => collectRadiusAttrs rule.condition).filter
    fun name => name ∉ ep.radiusAttrs.keys).dedup).mergeSort fun a b => a ≤ b
  if rules.isEmpty then
    { policySetId := policySetId, policySetName := psName, noRules := true }
  else
    match selectRule ep rules with
    | some rule =>
        let split := splitIntoSubrules ep rule.condition
        { policySetId := policySetId
          policySetName := psName
          matchedRule := some rule
          conditionDetails := split.1
          subRules := split.2
          partialMatch := (allConds ep rule.condition).any (·.skipped)
          radiusAttrsNeeded := radiusNeeded }
    | none =>
        { policySetId := policySetId, policySetName := psName, radiusAttrsNeeded := radiusNeeded }

/-- The rule of the result is the one the loop selects. -/
theorem matchedRule_matchEndpoint (fetchEpFromIse : String → Option PolicyEndpoint)
    (policySetId psName : String) (rules : List PolicyRule) (request : MatchRequest) :
    (matchEndpoint fetchEpFromIse policySetId psName rules request).matchedRule =
      selectRule (simulatedEndpoint fetchEpFromIse request) rules := by
  unfold matchEndpoint
  dsimp only
  split
  · next hempty =>
      rw [List.isEmpty_iff] at hempty
      rw [hempty]
      rfl
  · split <;> next hselect => exact hselect.symm

end Simulator

end IsePortal
