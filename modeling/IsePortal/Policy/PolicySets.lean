import IsePortal.Policy.Selection

/-!
# The simulation over all policy sets

ISE picks the policy set by its condition and only then a rule in it. `match_all` of
`services/policy_service.py` goes over the sets by rank and stops at the first one whose rules have
a match, without looking at the state and the condition of the set itself.
`policy_sets_honoured_iff` says when the rule it returns is from the set ISE can pick.
-/

namespace IsePortal

open Library

structure PolicySet where
  id : String
  name : String
  rank : Int := 0
  state : String := "enabled"
  condition : Option Condition := none

/-- The policy as ISE gives it: the listed sets, and the rules of a set by its id. -/
structure PolicyServer where
  policySets : List PolicySet
  rulesOf : String → List PolicyRule

/-- The sets with an id by rank; equal ranks keep their order. -/
def orderedSets (sets : List PolicySet) : List PolicySet :=
  (sets.filter (·.id ≠ "")).mergeSort fun a b => a.rank ≤ b.rank

/-- `not result.no_rules and result.matched_rule_id` -/
def PolicyMatchResult.isHit (result : PolicyMatchResult) : Bool :=
  !result.noRules && result.matchedRule.any fun rule => rule.id ≠ ""

/-- `sorted(needed)` -/
def sortedNames (needed : List String) : List String := needed.dedup.mergeSort fun a b => a ≤ b

/-- The loop of `match_all`, together with the set it stops at. -/
def matchLoop (matchSet : PolicySet → PolicyMatchResult) :
    List PolicySet → List String → Option PolicyMatchResult → Option PolicySet × PolicyMatchResult
  | [], needed, last =>
      let base := last.getD { policySetId := "", policySetName := "" }
      (none,
        { base with
          matchedRule := base.matchedRule.map fun rule => { rule with id := "", name := "" }
          noRules := false
          radiusAttrsNeeded := sortedNames needed })
  | s :: rest, needed, _ =>
      let result := matchSet s
      let needed := needed ++ result.radiusAttrsNeeded
      if result.isHit then (some s, { result with radiusAttrsNeeded := sortedNames needed })
      else matchLoop matchSet rest needed (some result)

/-- The request the sets are matched with: a fetched endpoint has no id, so that it is not fetched
again. -/
def fetchedRequest (fetchEpFromIse : String → Option PolicyEndpoint) (request : MatchRequest) :
    MatchRequest :=
  if request.endpointId = "" then request
  else
    match fetchEpFromIse request.endpointId with
    | some ep => { endpoint := { ep with radiusAttrs := request.endpoint.radiusAttrs } }
    | none => request

/-! ## What the loop stops at -/

theorem mem_orderedSets {sets : List PolicySet} {s : PolicySet} :
    s ∈ orderedSets sets ↔ s ∈ sets ∧ s.id ≠ "" := by
  rw [orderedSets, List.mem_mergeSort, List.mem_filter, decide_eq_true_iff]

theorem pairwise_orderedSets (sets : List PolicySet) :
    (orderedSets sets).Pairwise fun earlier later => earlier.rank ≤ later.rank :=
  pairwise_mergeSort_key PolicySet.rank _

/-- Sets of a lower rank than the first that meets the test do not meet it. -/
theorem not_of_find?_orderedSets {sets : List PolicySet} {test : PolicySet → Bool}
    {s t : PolicySet} (hfind : (orderedSets sets).find? test = some s) (hmem : t ∈ sets)
    (hid : t.id ≠ "") (hrank : t.rank < s.rank) : test t = false := by
  obtain ⟨_, before, after, hsplit, hbefore⟩ := List.find?_eq_some_iff_append.mp hfind
  have ht : t ∈ before ++ s :: after := hsplit ▸ mem_orderedSets.mpr ⟨hmem, hid⟩
  have hsorted := pairwise_orderedSets sets
  rw [hsplit] at hsorted
  have hranks : ∀ later ∈ after, s.rank ≤ later.rank :=
    (List.pairwise_cons.mp (List.pairwise_append.mp hsorted).2.1).1
  rcases List.mem_append.mp ht with hfront | hback
  · simpa using hbefore t hfront
  · rcases List.mem_cons.mp hback with rfl | hback
    · exact absurd hrank (lt_irrefl _)
    · exact absurd hrank (not_lt.mpr (hranks t hback))

theorem matchLoop_spec (matchSet : PolicySet → PolicyMatchResult) (sets : List PolicySet)
    (needed : List String) (last : Option PolicyMatchResult) :
    (matchLoop matchSet sets needed last).1 = sets.find? (fun s => (matchSet s).isHit) ∧
      ∀ s, (matchLoop matchSet sets needed last).1 = some s →
        (matchLoop matchSet sets needed last).2.matchedRule = (matchSet s).matchedRule := by
  induction sets generalizing needed last with
  | nil => exact ⟨rfl, fun s h => by cases h⟩
  | cons s rest ih =>
      rw [List.find?_cons, matchLoop]
      cases (matchSet s).isHit with
      | true =>
          refine ⟨rfl, fun other h => ?_⟩
          cases h
          rfl
      | false => exact ih _ _

section PolicySets

variable [PyText] [PyRegex]

/-- `match_all` with the set it stops at. -/
def matchAllIn (fetchEpFromIse : String → Option PolicyEndpoint) (server : PolicyServer)
    (request : MatchRequest) : Option PolicySet × PolicyMatchResult :=
  matchLoop
    (fun s => matchEndpoint fetchEpFromIse s.id s.name (server.rulesOf s.id)
      (fetchedRequest fetchEpFromIse request))
    (orderedSets server.policySets) [] none

/-- `match_all` -/
def matchAll (fetchEpFromIse : String → Option PolicyEndpoint) (server : PolicyServer)
    (request : MatchRequest) : PolicyMatchResult :=
  (matchAllIn fetchEpFromIse server request).2

/-! ## What ISE would do -/

/-- The condition of the set is not definitely false; a set without one applies. -/
def PolicySet.MayApply (ep : PolicyEndpoint) (s : PolicySet) : Prop :=
  ∀ cond, s.condition = some cond → cond.Possible (leafValue ep)

/-- The condition of the set definitely holds. -/
def PolicySet.Applies (ep : PolicyEndpoint) (s : PolicySet) : Prop :=
  ∀ cond, s.condition = some cond → cond.Certain (leafValue ep)

/-- A rule that is returned is of an enabled set that may apply, and no enabled set of a lower rank
that applies has an enabled rule that matches. -/
def HonoursPolicySets (fetchEpFromIse : String → Option PolicyEndpoint) (server : PolicyServer)
    (request : MatchRequest) : Prop :=
  let ep := simulatedEndpoint fetchEpFromIse request
  ∀ rule, (matchAll fetchEpFromIse server request).matchedRule = some rule → rule.id ≠ "" →
    ∃ s, (matchAllIn fetchEpFromIse server request).1 = some s ∧ s ∈ server.policySets ∧
      rule ∈ server.rulesOf s.id ∧ s.state ≠ "disabled" ∧ s.MayApply ep ∧
      ∀ t ∈ server.policySets, t.state ≠ "disabled" → t.rank < s.rank → t.Applies ep →
        ∀ other ∈ server.rulesOf t.id, other.state ≠ "disabled" → ruleMatches ep other = false

/-- The set has an id, and so has the rule that is selected from it. -/
def HasHit (ep : PolicyEndpoint) (server : PolicyServer) (s : PolicySet) : Bool :=
  s.id ≠ "" && (selectRule ep (server.rulesOf s.id)).any fun rule => rule.id ≠ ""

omit [PyText] [PyRegex] in
/-- The sets are matched with the endpoint of the request. -/
theorem simulatedEndpoint_fetchedRequest (fetchEpFromIse : String → Option PolicyEndpoint)
    (request : MatchRequest) :
    simulatedEndpoint fetchEpFromIse (fetchedRequest fetchEpFromIse request) =
      simulatedEndpoint fetchEpFromIse request := by
  unfold fetchedRequest
  split
  · rfl
  · next hid =>
      cases hfetch : fetchEpFromIse request.endpointId with
      | none => rfl
      | some ep =>
          unfold simulatedEndpoint
          rw [if_neg hid, hfetch]
          rfl

/-- A set is a hit exactly when the rule selected from it has an id. -/
theorem isHit_matchEndpoint (fetchEpFromIse : String → Option PolicyEndpoint) (s : PolicySet)
    (rules : List PolicyRule) (request : MatchRequest) :
    (matchEndpoint fetchEpFromIse s.id s.name rules request).isHit =
      (selectRule (simulatedEndpoint fetchEpFromIse request) rules).any fun rule =>
        rule.id ≠ "" := by
  rw [PolicyMatchResult.isHit, matchedRule_matchEndpoint]
  cases hselect : selectRule (simulatedEndpoint fetchEpFromIse request) rules with
  | none => exact Bool.and_false _
  | some rule =>
      have hrules : rules.isEmpty = false := by
        cases rules with
        | nil => cases hselect
        | cons first rest => rfl
      have hno : (matchEndpoint fetchEpFromIse s.id s.name rules request).noRules = false := by
        unfold matchEndpoint
        dsimp only
        rw [hrules, if_neg Bool.false_ne_true, hselect]
      rw [hno]
      rfl

/-- The loop stops at the first set by rank that has a hit, with the rule selected from it. -/
theorem matchAllIn_spec (fetchEpFromIse : String → Option PolicyEndpoint) (server : PolicyServer)
    (request : MatchRequest) :
    (matchAllIn fetchEpFromIse server request).1 =
        (orderedSets server.policySets).find?
          (HasHit (simulatedEndpoint fetchEpFromIse request) server) ∧
      ∀ s, (matchAllIn fetchEpFromIse server request).1 = some s →
        (matchAll fetchEpFromIse server request).matchedRule =
          selectRule (simulatedEndpoint fetchEpFromIse request) (server.rulesOf s.id) := by
  obtain ⟨hset, hrule⟩ := matchLoop_spec
    (fun s => matchEndpoint fetchEpFromIse s.id s.name (server.rulesOf s.id)
      (fetchedRequest fetchEpFromIse request)) (orderedSets server.policySets) [] none
  constructor
  · refine hset.trans (List.find?_congr fun s hs => ?_)
    obtain ⟨_, hid⟩ := mem_orderedSets.mp hs
    rw [isHit_matchEndpoint, simulatedEndpoint_fetchedRequest, HasHit, decide_eq_true hid,
      Bool.true_and]
  · intro s hs
    refine (hrule s hs).trans ?_
    rw [matchedRule_matchEndpoint, simulatedEndpoint_fetchedRequest]

/-- Nothing is selected exactly where no enabled rule matches. -/
theorem selectRule_eq_none_iff {ep : PolicyEndpoint} {rules : List PolicyRule} :
    selectRule ep rules = none ↔
      ∀ rule ∈ rules, rule.state ≠ "disabled" → ruleMatches ep rule = false := by
  rw [selectRule_eq, List.argmax_eq_none, matchingRules, List.filter_eq_nil_iff]
  refine forall₂_congr fun rule _ => ?_
  rw [decide_eq_true_iff, not_not]
  unfold ruleVerdict
  split
  · next hdisabled => exact iff_of_true rfl fun h => absurd hdisabled h
  · next henabled =>
      rw [imp_iff_right henabled]
      cases ruleMatches ep rule with
      | false => exact iff_of_true rfl rfl
      | true =>
          -- every branch of the verdict of a match selects the rule
          refine iff_of_false ?_ Bool.noConfusion
          rw [if_neg Bool.noConfusion]
          split
          · exact Verdict.noConfusion
          · split
            · exact Verdict.noConfusion
            · exact Verdict.noConfusion

/-- Without a hit there is no rule with an id in the result. -/
theorem matchAll_of_no_hit {fetchEpFromIse : String → Option PolicyEndpoint}
    {server : PolicyServer} {request : MatchRequest}
    (h : (matchAllIn fetchEpFromIse server request).1 = none) {rule : PolicyRule}
    (hrule : (matchAll fetchEpFromIse server request).matchedRule = some rule) : rule.id = "" := by
  have hloop : ∀ matchSet : PolicySet → PolicyMatchResult, ∀ sets needed last,
      (matchLoop matchSet sets needed last).1 = none → ∀ rule,
        (matchLoop matchSet sets needed last).2.matchedRule = some rule → rule.id = "" := by
    intro matchSet sets
    induction sets with
    -- at its end the loop empties the id of the last set's rule
    | nil =>
        intro needed last _ rule hrule
        obtain ⟨other, _, rfl⟩ := Option.map_eq_some_iff.mp hrule
        rfl
    | cons s rest ih =>
        intro needed last hnone rule hrule
        rw [matchLoop] at hnone hrule
        cases hhit : (matchSet s).isHit with
        | true =>
            rw [hhit] at hnone
            cases hnone
        | false =>
            rw [hhit] at hnone hrule
            exact ih _ _ hnone rule hrule
  exact hloop _ _ _ _ h rule hrule

/-- The rule that is returned is the one ISE's choice of the policy set allows exactly when the
first set by rank that has a hit is enabled and may apply, and of the enabled sets before it that
apply none has its match without an id. -/
theorem policy_sets_honoured_iff (fetchEpFromIse : String → Option PolicyEndpoint)
    (server : PolicyServer) (request : MatchRequest) :
    HonoursPolicySets fetchEpFromIse server request ↔
      ∀ s, (orderedSets server.policySets).find?
          (HasHit (simulatedEndpoint fetchEpFromIse request) server) = some s →
        s.state ≠ "disabled" ∧ s.MayApply (simulatedEndpoint fetchEpFromIse request) ∧
          ∀ t ∈ server.policySets, t.state ≠ "disabled" → t.rank < s.rank →
            t.Applies (simulatedEndpoint fetchEpFromIse request) →
            ∀ rule, selectRule (simulatedEndpoint fetchEpFromIse request)
                (server.rulesOf t.id) = some rule →
              t.id ≠ "" ∧ rule.id ≠ "" := by
  obtain ⟨hset, hrule⟩ := matchAllIn_spec fetchEpFromIse server request
  unfold HonoursPolicySets
  dsimp only
  -- from here on nothing depends on how the endpoint was found
  generalize simulatedEndpoint fetchEpFromIse request = ep at hset hrule ⊢
  cases hfind : (orderedSets server.policySets).find? (HasHit ep server) with
  | none =>
      rw [hfind] at hset
      exact iff_of_true (fun rule h hid => absurd (matchAll_of_no_hit hset h) hid)
        fun s h => by cases h
  | some s =>
      rw [hfind] at hset
      have hhit : HasHit ep server s = true := List.find?_some hfind
      rw [HasHit, Bool.and_eq_true, Option.any_eq_true] at hhit
      obtain ⟨_, rule, hselect, hid⟩ := hhit
      have hmem : s ∈ server.policySets :=
        (mem_orderedSets.mp (List.mem_of_find?_eq_some hfind)).1
      have hrules : rule ∈ server.rulesOf s.id := by
        rw [selectRule_eq] at hselect
        exact (List.mem_filter.mp (List.argmax_mem hselect)).1
      -- A set before it is no hit: what it selects is without an id.
      have hbefore : ∀ t ∈ server.policySets, t.rank < s.rank →
          ((∀ other ∈ server.rulesOf t.id, other.state ≠ "disabled" →
              ruleMatches ep other = false) ↔
            ∀ other, selectRule ep (server.rulesOf t.id) = some other →
              t.id ≠ "" ∧ other.id ≠ "") := by
        intro t ht hrank
        rw [← selectRule_eq_none_iff]
        constructor
        · intro hnone other hother
          rw [hnone] at hother
          cases hother
        · intro hids
          cases hother : selectRule ep (server.rulesOf t.id) with
          | none => rfl
          | some other =>
              obtain ⟨htid, hoid⟩ := hids other hother
              have hno := not_of_find?_orderedSets hfind ht htid hrank
              rw [HasHit, hother, decide_eq_true htid, Bool.true_and, Option.any_some] at hno
              exact absurd hoid (of_decide_eq_false hno)
      rw [hset]
      simp only [Option.some.injEq, forall_eq', exists_eq_left', hrule s hset, hselect, hmem,
        true_and]
      rw [imp_iff_right (of_decide_eq_true hid), and_iff_right hrules]
      refine and_congr_right fun _ => and_congr_right fun _ => ?_
      exact forall₂_congr fun t ht => forall₃_congr fun _ hrank _ => hbefore t ht hrank

end PolicySets

/-! ## A set that is disabled -/

/-- A disabled policy set with a rule for everything. -/
def disabledServer : PolicyServer where
  policySets := [{ id := "old", name := "Old", state := "disabled" }]
  rulesOf _ := [{ id := "default", name := "Default", rank := 0 }]

/-- No pattern is searched here. -/
@[reducible] def noPatterns : PyRegex where
  search _ _ := false

/-- Its rule is returned. -/
theorem disabled_set_answers :
    ¬ @HonoursPolicySets asciiText noPatterns (fun _ => none) disabledServer
      { endpoint := {} } := by
  intro h
  have hid : (@matchAll asciiText noPatterns (fun _ => none) disabledServer
      { endpoint := {} }).matchedRule.map PolicyRule.id = some "default" := by
    with_unfolding_all decide
  obtain ⟨rule, hrule, hname⟩ := Option.map_eq_some_iff.mp hid
  obtain ⟨s, _, hmem, _, henabled, _⟩ := h rule hrule (by rw [hname]; decide)
  rw [List.mem_singleton.mp hmem] at henabled
  exact henabled rfl

end IsePortal
