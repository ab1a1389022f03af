import IsePortal.Policy.FirstMatch

/-!
# Negation in the simulator

The editor shows `isNegate` as NOT, and ISE applies it; `_eval_condition` never reads it. So the
mark of a node makes no difference to its value, and the rule that is returned is the one on which
the simulator settles with every mark overlooked, whether its condition can hold or not.
-/

namespace IsePortal

open Library

section Negation

variable [PyText] [PyRegex]

/-- Flipping the mark of a node whose leaves are all evaluable negates the value of the node. -/
def FlipNegates (ep : PolicyEndpoint) (cond : Condition) (path : List Nat) : Prop :=
  ∀ node flipped, cond.subtree? path = some node →
    (cond.modifyAt AndOrTree.flip path).subtree? path = some flipped →
    (∀ leaf ∈ node.leaves, leafValue ep leaf ≠ none) →
      (evalCondition ep flipped).1 = !(evalCondition ep node).1

/-- The rule that is returned is not false once negation is applied at every node. -/
def ReturnsNoFalseRule (fetchEpFromIse : String → Option PolicyEndpoint)
    (policySetId psName : String) (rules : List PolicyRule) (request : MatchRequest) : Prop :=
  ∀ rule cond,
    (matchEndpoint fetchEpFromIse policySetId psName rules request).matchedRule = some rule →
    rule.condition = some cond →
      cond.Possible (leafValue (simulatedEndpoint fetchEpFromIse request))

variable {ep : PolicyEndpoint} {rules : List PolicyRule} {rule : PolicyRule} {cond : Condition}

/-- The evaluator gives a node and the same node with its mark flipped one value. -/
theorem evalCondition_flip (ep : PolicyEndpoint) (node : Condition) :
    evalCondition ep node.flip = evalCondition ep node := by
  cases node <;> rfl

/-- No flip of an evaluable node is ever noticed. -/
theorem flipNegates_iff (path : List Nat) :
    FlipNegates ep cond path ↔
      ∀ node, cond.subtree? path = some node → ∃ leaf ∈ node.leaves, leafValue ep leaf = none := by
  constructor
  · intro hflip node hnode
    by_contra hknown
    have hall : ∀ leaf ∈ node.leaves, leafValue ep leaf ≠ none :=
      fun leaf hleaf hvalue => hknown ⟨leaf, hleaf, hvalue⟩
    have hflipped : (cond.modifyAt AndOrTree.flip path).subtree? path = some node.flip := by
      rw [AndOrTree.subtree?_modifyAt, hnode, Option.map_some]
    have hvalue := hflip node node.flip hnode hflipped hall
    rw [evalCondition_flip] at hvalue
    exact absurd hvalue.symm (Bool.not_ne_self _)
  · intro hunknown node flipped hnode _ hall
    obtain ⟨leaf, hleaf, hvalue⟩ := hunknown node hnode
    exact absurd hvalue (hall leaf hleaf)

/-- A false rule is returned when the simulator settles on it with negation overlooked. -/
theorem returnsNoFalseRule_iff (fetchEpFromIse : String → Option PolicyEndpoint)
    (policySetId psName : String) (request : MatchRequest) :
    ReturnsNoFalseRule fetchEpFromIse policySetId psName rules request ↔
      ∀ before rule cond after, rules = before ++ rule :: after →
        MayMatch (simulatedEndpoint fetchEpFromIse request) rule cond →
        SettledOn (simulatedEndpoint fetchEpFromIse request) before rule cond after →
          cond.Possible (leafValue (simulatedEndpoint fetchEpFromIse request)) := by
  unfold ReturnsNoFalseRule
  rw [forall_congr' fun rule => forall_congr' fun cond => by rw [matchedRule_matchEndpoint]]
  constructor
  · intro hreturned before rule cond after hsplit hmay hsettled
    exact hreturned rule cond
      ((selectRule_iff_settledOn hmay.2.1).mpr ⟨hmay, before, after, hsplit, hsettled⟩) hmay.2.1
  · intro hsettledOn rule cond hreturned hcond
    obtain ⟨hmay, before, after, hsplit, hsettled⟩ :=
      (selectRule_iff_settledOn hcond).mp hreturned
    exact hsettledOn before rule cond after hsplit hmay hsettled

/-- Without negation the rule returned is never false. -/
theorem returnsNoFalseRule_of_withoutNegation
    (fetchEpFromIse : String → Option PolicyEndpoint) (policySetId psName : String)
    (request : MatchRequest) (hplain : WithoutNegation rules) :
    ReturnsNoFalseRule fetchEpFromIse policySetId psName rules request := by
  rw [returnsNoFalseRule_iff]
  intro before rule cond after hsplit hmay _
  have hmem : rule ∈ rules := by
    rw [hsplit]
    exact List.mem_append_right before List.mem_cons_self
  exact ((mayMatch_iff_canHold hplain hmem).mp hmay).2.2

/-- A flip is honoured only where nothing is claimed of it, because some leaf under the node cannot
be evaluated, and no false rule is returned exactly when every rule on which the simulator
settles, with negation overlooked, can hold with negation applied. -/
theorem negation_honoured_iff (fetchEpFromIse : String → Option PolicyEndpoint)
    (policySetId psName : String) (rules : List PolicyRule) (request : MatchRequest)
    (cond : Condition) (path : List Nat) :
    (FlipNegates (simulatedEndpoint fetchEpFromIse request) cond path ∧
        ReturnsNoFalseRule fetchEpFromIse policySetId psName rules request) ↔
      (∀ node, cond.subtree? path = some node → ∃ leaf ∈ node.leaves,
          leafValue (simulatedEndpoint fetchEpFromIse request) leaf = none) ∧
        ∀ before rule ruleCond after, rules = before ++ rule :: after →
          MayMatch (simulatedEndpoint fetchEpFromIse request) rule ruleCond →
          SettledOn (simulatedEndpoint fetchEpFromIse request) before rule ruleCond after →
            ruleCond.Possible (leafValue (simulatedEndpoint fetchEpFromIse request)) :=
  and_congr (flipNegates_iff path)
    (returnsNoFalseRule_iff fetchEpFromIse policySetId psName request)

end Negation

/-! ## A negated rule that is returned -/

local instance negationText : PyText := asciiText

local instance negationRegex : PyRegex := plainPatterns

/-- A rule for endpoints that are not owned by `it`. -/
def negatedRule : PolicyRule where
  id := "negated"
  name := "Not IT"
  rank := 0
  condition := some (.leaf ownedLeaf true)

/-- An endpoint owned by `it` gets the rule for all others, and its mark makes no difference. -/
theorem negated_rule_is_returned :
    ¬ FlipNegates (simulatedEndpoint (fun _ => none) ownedRequest) (.leaf ownedLeaf true) [] ∧
      ¬ ReturnsNoFalseRule (fun _ => none) "set" "Default" [negatedRule] ownedRequest := by
  have hvalue : leafValue (simulatedEndpoint (fun _ => none) ownedRequest) ownedLeaf =
      some true := by decide
  constructor
  · intro hflip
    have hnegated := hflip (.leaf ownedLeaf true) (.leaf ownedLeaf false) rfl rfl
      fun leaf hleaf => by
        rw [List.mem_singleton.mp hleaf, hvalue]
        exact Option.some_ne_none true
    exact absurd hnegated (by decide)
  · intro hreturns
    have hreturned : (matchEndpoint (fun _ => none) "set" "Default" [negatedRule]
        ownedRequest).matchedRule = some negatedRule := by
      rw [matchedRule_matchEndpoint]
      rfl
    obtain ⟨truth, hcompletes, hholds⟩ := hreturns negatedRule _ hreturned rfl
    rw [AndOrTree.holds, hcompletes ownedLeaf true hvalue] at hholds
    cases hholds

end IsePortal
