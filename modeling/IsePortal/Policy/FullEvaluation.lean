import IsePortal.Library.ReadOnce
import IsePortal.Policy.Negation

/-!
# Matches that are not partial

A result without `partial_match` is taken to be sure: every leaf of its rule was evaluated. But a
leaf of a type the evaluator does not know counts as true and is not reported, so nothing marks it
as skipped. `fully_evaluated_iff` says that such a leaf is the only thing that goes unmarked.
-/

namespace IsePortal

open Library

section FullEvaluation

variable [PyText] [PyRegex]

/-- Every leaf was evaluated, and the and/or tree is true under the values of the leaves. -/
def FullyTrue (ep : PolicyEndpoint) (cond : Condition) : Prop :=
  (∀ leaf ∈ cond.leaves, (leafValue ep leaf).isSome) ∧
    ∀ truth, AndOrTree.Completes (leafValue ep) truth → cond.plain truth = true

/-- A rule with a condition that is returned without `partial_match` was evaluated fully. -/
def FullWhereNotPartial (fetchEpFromIse : String → Option PolicyEndpoint)
    (policySetId psName : String) (rules : List PolicyRule) (request : MatchRequest) : Prop :=
  ∀ rule cond,
    (matchEndpoint fetchEpFromIse policySetId psName rules request).matchedRule = some rule →
    (matchEndpoint fetchEpFromIse policySetId psName rules request).partialMatch = false →
    rule.condition = some cond →
      FullyTrue (simulatedEndpoint fetchEpFromIse request) cond

variable {ep : PolicyEndpoint} {cond : Condition}

/-- Whether something was skipped is read off the report of the rule. -/
theorem partialMatch_matchEndpoint (fetchEpFromIse : String → Option PolicyEndpoint)
    (policySetId psName : String) (rules : List PolicyRule) (request : MatchRequest)
    {rule : PolicyRule} {cond : Condition}
    (hselected : selectRule (simulatedEndpoint fetchEpFromIse request) rules = some rule)
    (hcond : rule.condition = some cond) :
    (matchEndpoint fetchEpFromIse policySetId psName rules request).partialMatch = false ↔
      ¬ HasSkipped (simulatedEndpoint fetchEpFromIse request) cond := by
  have hne : rules.isEmpty = false := by
    cases rules with
    | nil => cases hselected
    | cons first rest => rfl
  rw [← allConds_skipped_iff, Bool.not_eq_true, ← hcond]
  unfold matchEndpoint
  simp only [hne, hselected, Bool.false_eq_true, if_false]

/-- Of a condition that can hold and has no skipped leaf, a leaf is left out exactly where its type
is unknown. -/
theorem fullyTrue_iff (hpossible : cond.PlainPossible (leafValue ep))
    (hskipped : ¬ HasSkipped ep cond) :
    FullyTrue ep cond ↔ ∀ leaf ∈ cond.leaves, leaf.isReported = true := by
  constructor
  · intro hfull leaf hleaf
    have hvalue := hfull.1 leaf hleaf
    cases leaf with
    | unknownType conditionType => exact absurd hvalue Bool.false_ne_true
    | reference name => rfl
    | attributes dn an op av => rfl
  · intro hreported
    have hknown : ∀ leaf ∈ cond.leaves, (leafValue ep leaf).isSome := by
      intro leaf hleaf
      rw [Option.isSome_iff_ne_none]
      exact fun hnone => hskipped ⟨leaf, hleaf, hreported leaf hleaf, hnone⟩
    refine ⟨hknown, fun truth hcompletes => ?_⟩
    obtain ⟨other, hother, hholds⟩ := hpossible
    rw [AndOrTree.plain_congr fun leaf hleaf => ?_]
    · exact hholds
    · obtain ⟨result, hresult⟩ := Option.isSome_iff_exists.mp (hknown leaf hleaf)
      rw [hcompletes leaf result hresult, hother leaf result hresult]

/-- A match that is not partial was evaluated fully exactly when no rule on which the simulator
settles, with no leaf skipped, has a leaf of an unknown type. -/
theorem fully_evaluated_iff (fetchEpFromIse : String → Option PolicyEndpoint)
    (policySetId psName : String) (rules : List PolicyRule) (request : MatchRequest) :
    FullWhereNotPartial fetchEpFromIse policySetId psName rules request ↔
      ∀ before rule cond after, rules = before ++ rule :: after →
        MayMatch (simulatedEndpoint fetchEpFromIse request) rule cond →
        SettledOn (simulatedEndpoint fetchEpFromIse request) before rule cond after →
        ¬ HasSkipped (simulatedEndpoint fetchEpFromIse request) cond →
          ∀ leaf ∈ cond.leaves, leaf.isReported = true := by
  unfold FullWhereNotPartial
  rw [matchedRule_matchEndpoint]
  constructor
  · intro hfull before rule cond after hsplit hmay hsettled hskipped
    have hselected := (selectRule_iff_settledOn hmay.2.1).mpr
      ⟨hmay, before, after, hsplit, hsettled⟩
    have hpartial := (partialMatch_matchEndpoint fetchEpFromIse policySetId psName rules request
      hselected hmay.2.1).mpr hskipped
    exact (fullyTrue_iff hmay.2.2 hskipped).mp (hfull rule cond hselected hpartial hmay.2.1)
  · intro hreported rule cond hselected hpartial hcond
    obtain ⟨hmay, before, after, hsplit, hsettled⟩ :=
      (selectRule_iff_settledOn hcond).mp hselected
    have hskipped := (partialMatch_matchEndpoint fetchEpFromIse policySetId psName rules request
      hselected hcond).mp hpartial
    exact (fullyTrue_iff hmay.2.2 hskipped).mpr
      (hreported before rule cond after hsplit hmay hsettled hskipped)

end FullEvaluation

/-! ## A leaf that goes unmarked -/

local instance fullMatchText : PyText := asciiText

local instance fullMatchRegex : PyRegex := plainPatterns

/-- Owned by `it`, at a time of the day. -/
def timedRule : PolicyRule where
  id := "timed"
  name := "IT at night"
  rank := 0
  condition := some (.block true
    [.leaf ownedLeaf false, .leaf (.unknownType "ConditionTimeAndDate") false] false)

/-- The rule is returned as a match that is not partial, and nobody looked at the time. -/
theorem time_goes_unmarked :
    ¬ FullWhereNotPartial (fun _ => none) "set" "Default" [timedRule] ownedRequest := by
  intro hfull
  have hselected : (matchEndpoint (fun _ => none) "set" "Default" [timedRule]
      ownedRequest).matchedRule = some timedRule := by
    rw [matchedRule_matchEndpoint]
    rfl
  have hknown := (hfull timedRule _ hselected (by decide) rfl).1
    (.unknownType "ConditionTimeAndDate") (by simp [AndOrTree.leaves, AndOrTree.leavesOf])
  exact absurd hknown Bool.false_ne_true

end IsePortal
