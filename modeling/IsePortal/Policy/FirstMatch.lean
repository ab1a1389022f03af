import IsePortal.Policy.LeafVerdicts

/-!
# First match with unknown leaves

ISE takes the first rule that holds. The simulator does not know some leaves, and decides by the
leaves a condition has whether a match is definitive, not by whether the unknown ones can
still change its truth. `first_match_iff` says when it finds a rule that holds whatever the
unknown leaves are, while no rule before it can hold.
-/

namespace IsePortal

open Library

section FirstMatch

variable [PyText] [PyRegex]

/-- An enabled rule with this condition, and the condition can hold. -/
def CanHold (ep : PolicyEndpoint) (rule : PolicyRule) (cond : Condition) : Prop :=
  rule.state ≠ "disabled" ∧ rule.condition = some cond ∧ cond.Possible (leafValue ep)

/-- No enabled rule of the list negates a node of its condition. -/
def WithoutNegation (rules : List PolicyRule) : Prop :=
  ∀ rule ∈ rules, rule.state ≠ "disabled" → ∀ cond, rule.condition = some cond →
    cond.negationFree = true

/-- When the simulator settles on a rule that holds in any case while none before it can. -/
def Prevails (ep : PolicyEndpoint) (before : List PolicyRule) (cond : Condition)
    (after : List PolicyRule) : Prop :=
  (Reports cond ∧ ¬ HasSkipped ep cond) ∨
    (HasSkipped ep cond ∧ ∀ rival ∈ after, ∀ other, CanHold ep rival other → Reports other →
      HasSkipped ep other ∧
        evaluableMatched ep (some other) ≤ evaluableMatched ep (some cond)) ∨
    (¬ Reports cond ∧ (∀ rule ∈ before, rule.state ≠ "disabled" → rule.condition ≠ none) ∧
      ∀ rival ∈ after, ∀ other, CanHold ep rival other → ¬ Reports other)

variable {ep : PolicyEndpoint} {rules before after : List PolicyRule} {rule : PolicyRule}
  {cond : Condition}

/-- Without negation nothing is overlooked. -/
theorem mayMatch_iff_canHold (hplain : WithoutNegation rules) (hmem : rule ∈ rules) :
    MayMatch ep rule cond ↔ CanHold ep rule cond := by
  unfold MayMatch CanHold
  refine and_congr_right fun henabled => and_congr_right fun hcond => ?_
  exact (AndOrTree.possible_iff_plainPossible (hplain rule hmem henabled cond hcond)).symm

/-- Where no rule before it can hold, settling on a rule is a matter of the rules after it. -/
theorem settledOn_iff_prevails (hsorted : ByRank (before ++ rule :: after))
    (hplain : WithoutNegation (before ++ rule :: after))
    (hbefore : ∀ x ∈ before, ∀ other, ¬ CanHold ep x other) :
    SettledOn ep before rule cond after ↔ Prevails ep before cond after := by
  have hranks : ∀ x ∈ after, rule.rank ≤ x.rank :=
    (List.pairwise_cons.mp (List.pairwise_append.mp hsorted).2.1).1
  have hfront : ∀ x ∈ before, ∀ other, ¬ MayMatch ep x other := fun x hx other hmay =>
    hbefore x hx other
      ((mayMatch_iff_canHold hplain (List.mem_append_left (rule :: after) hx)).mp hmay)
  have hback : ∀ x ∈ after, ∀ other, MayMatch ep x other ↔ CanHold ep x other := fun x hx _ =>
    mayMatch_iff_canHold hplain (List.mem_append_right before (List.mem_cons_of_mem rule hx))
  constructor
  · rintro (⟨hreports, hknown, -⟩ | ⟨hskipped, -, hafter⟩ | ⟨hleafless, hnone, hafter⟩)
    · exact .inl ⟨hreports, hknown⟩
    · refine .inr (.inl ⟨hskipped, fun rival hrival other hcan hreports => ?_⟩)
      obtain ⟨hother, hworse⟩ :=
        hafter rival hrival other ((hback rival hrival other).mpr hcan) hreports
      exact ⟨hother, hworse.elim le_of_lt fun hequal => hequal.1.le⟩
    · refine .inr (.inr ⟨hleafless, fun x hx => (hnone x hx).1, fun rival hrival other hcan => ?_⟩)
      exact hafter rival hrival other ((hback rival hrival other).mpr hcan)
  · rintro (⟨hreports, hknown⟩ | ⟨hskipped, hafter⟩ | ⟨hleafless, hnone, hafter⟩)
    · exact .definitive hreports hknown fun x hx other hmay => absurd hmay (hfront x hx other)
    · refine .tentative hskipped (fun x hx other hmay => absurd hmay (hfront x hx other))
        fun rival hrival other hmay hreports => ?_
      obtain ⟨hother, hworse⟩ :=
        hafter rival hrival other ((hback rival hrival other).mp hmay) hreports
      exact ⟨hother, (Nat.lt_or_eq_of_le hworse).imp_right fun hequal =>
        ⟨hequal, hranks rival hrival⟩⟩
    · refine .lastResort hleafless (fun x hx => ⟨hnone x hx, hfront x hx⟩)
        fun rival hrival other hmay => ?_
      exact hafter rival hrival other ((hback rival hrival other).mp hmay)

omit [PyText] [PyRegex] in
theorem first_occurrence_unique {front back : List PolicyRule} (hbefore : rule ∉ before)
    (hfront : rule ∉ front) (h : before ++ rule :: after = front ++ rule :: back) :
    before = front ∧ after = back := by
  induction before generalizing front with
  | nil =>
      cases front with
      | nil => exact ⟨rfl, (List.cons.inj h).2⟩
      | cons first front =>
          obtain ⟨rfl, -⟩ := List.cons.inj h
          exact absurd List.mem_cons_self hfront
  | cons first before ih =>
      cases front with
      | nil =>
          obtain ⟨rfl, -⟩ := List.cons.inj h
          exact absurd List.mem_cons_self hbefore
      | cons other front =>
          obtain ⟨rfl, htail⟩ := List.cons.inj h
          obtain ⟨rfl, rfl⟩ := ih (fun hmem => hbefore (List.mem_cons_of_mem first hmem))
            (fun hmem => hfront (List.mem_cons_of_mem first hmem)) htail
          exact ⟨rfl, rfl⟩

/-- A rule that can hold, while no rule before it can, is selected exactly when it prevails. -/
theorem selectRule_iff_prevails (hsorted : ByRank (before ++ rule :: after))
    (hplain : WithoutNegation (before ++ rule :: after)) (hcan : CanHold ep rule cond)
    (hbefore : ∀ x ∈ before, ∀ other, ¬ CanHold ep x other) :
    selectRule ep (before ++ rule :: after) = some rule ↔ Prevails ep before cond after := by
  have hmay : MayMatch ep rule cond :=
    (mayMatch_iff_canHold hplain (List.mem_append_right before List.mem_cons_self)).mpr hcan
  rw [selectRule_iff_settledOn hcan.2.1, ← settledOn_iff_prevails hsorted hplain hbefore,
    and_iff_right hmay]
  refine ⟨?_, fun hsettled => ⟨before, after, rfl, hsettled⟩⟩
  rintro ⟨front, back, hsplit, hsettled⟩
  -- the rule is not in front of itself, so this is the same place in the list
  have hfirst : rule ∉ before := fun hmem => hbefore rule hmem cond hcan
  have hother : rule ∉ front := fun hmem =>
    absurd (((settledOn_iff hmay).mp hsettled).1 rule hmem) (lt_irrefl _)
  obtain ⟨rfl, rfl⟩ := first_occurrence_unique hfirst hother hsplit
  exact hsettled

/-- A rule holds whatever the unknown leaves are, and no enabled rule with a condition before it can
hold: the simulator finds it exactly when it prevails. -/
theorem first_match_iff (fetchEpFromIse : String → Option PolicyEndpoint)
    (policySetId psName : String) (request : MatchRequest)
    (rules before after : List PolicyRule) (rule : PolicyRule) (cond : Condition)
    (hrules : rules = before ++ rule :: after) (hsorted : ByRank rules)
    (hplain : WithoutNegation rules) (henabled : rule.state ≠ "disabled")
    (hcond : rule.condition = some cond)
    (hcertain : cond.Certain (leafValue (simulatedEndpoint fetchEpFromIse request)))
    (hbefore : ∀ x ∈ before, ∀ other,
      ¬ CanHold (simulatedEndpoint fetchEpFromIse request) x other) :
    (matchEndpoint fetchEpFromIse policySetId psName rules request).matchedRule = some rule ↔
      Prevails (simulatedEndpoint fetchEpFromIse request) before cond after := by
  subst hrules
  rw [matchedRule_matchEndpoint]
  exact selectRule_iff_prevails hsorted hplain ⟨henabled, hcond, hcertain.possible⟩ hbefore

end FirstMatch

/-! ## A rule that is passed over -/

/-- Patterns without special characters. -/
@[reducible] def plainPatterns : PyRegex where
  search pattern text := decide (pattern.toList <:+: text.toList)

local instance firstMatchText : PyText := asciiText

local instance firstMatchRegex : PyRegex := plainPatterns

/-- An endpoint owned by `it`. -/
def ownedRequest : MatchRequest where
  endpoint := { fields := ⟨[("owner", "it")], by decide⟩ }

def ownedLeaf : ConditionLeaf := .attributes "EndPoints" "Owner" "equals" "it"

/-- The owner, or a reference: it holds whatever the reference says. -/
def eitherRule : PolicyRule where
  id := "either"
  name := "IT or managed"
  rank := 1
  condition := some (.block false [.leaf ownedLeaf false, .leaf (.reference "Managed") false] false)

def ownerRule : PolicyRule where
  id := "owner"
  name := "IT"
  rank := 2
  condition := some (.leaf ownedLeaf false)

theorem ownedLeaf_value :
    leafValue (simulatedEndpoint (fun _ => none) ownedRequest) ownedLeaf = some true := by decide

/-- The first rule holds under every completion, and the second is returned. -/
theorem certain_rule_is_passed_over :
    ByRank [eitherRule, ownerRule] ∧ WithoutNegation [eitherRule, ownerRule] ∧
      eitherRule.state ≠ "disabled" ∧
      (∃ cond, eitherRule.condition = some cond ∧
        cond.Certain (leafValue (simulatedEndpoint (fun _ => none) ownedRequest))) ∧
      (∀ x ∈ [eitherRule, ownerRule], x.rank < eitherRule.rank → ∀ other,
        ¬ CanHold (simulatedEndpoint (fun _ => none) ownedRequest) x other) ∧
      (matchEndpoint (fun _ => none) "set" "Default" [eitherRule, ownerRule]
        ownedRequest).matchedRule ≠ some eitherRule := by
  refine ⟨?_, ?_, by decide, ⟨_, rfl, ?_⟩, ?_, ?_⟩
  · simp [ByRank, eitherRule, ownerRule]
  · intro rule hrule henabled cond hcond
    rcases List.mem_cons.mp hrule with rfl | hrule
    · cases hcond
      rfl
    · rw [List.mem_singleton.mp hrule] at hcond
      cases hcond
      rfl
  · intro truth hcompletes
    have howner := hcompletes ownedLeaf true ownedLeaf_value
    simp [AndOrTree.holds, AndOrTree.holdsAny, howner]
  · intro x hx hrank
    rcases List.mem_cons.mp hx with rfl | hx
    · exact absurd hrank (lt_irrefl _)
    · rw [List.mem_singleton.mp hx] at hrank
      exact absurd hrank (by decide)
  · intro heq
    have hid : (matchEndpoint (fun _ => none) "set" "Default" [eitherRule, ownerRule]
        ownedRequest).matchedRule.map PolicyRule.id = some "owner" := by decide
    rw [heq] at hid
    exact absurd hid (by decide)

def otherLeaf : ConditionLeaf := .attributes "EndPoints" "Owner" "equals" "hr"

def otherRule : PolicyRule where
  id := "other"
  name := "HR"
  rank := 0
  condition := some (.leaf otherLeaf false)

def defaultRule : PolicyRule where
  id := "default"
  name := "Default"
  rank := 3

/-- Between a rule that cannot hold and one without a condition, the first rule is returned. -/
theorem certain_rule_is_found :
    (matchEndpoint (fun _ => none) "set" "Default" [otherRule, eitherRule, defaultRule]
      ownedRequest).matchedRule = some eitherRule := by
  have hsorted : ByRank [otherRule, eitherRule, defaultRule] := by
    simp [ByRank, otherRule, eitherRule, defaultRule]
  have hplain : WithoutNegation [otherRule, eitherRule, defaultRule] := by
    intro rule hrule henabled cond hcond
    simp only [List.mem_cons, List.not_mem_nil, or_false] at hrule
    rcases hrule with rfl | rfl | rfl <;> cases hcond <;> rfl
  have hother : leafValue (simulatedEndpoint (fun _ => none) ownedRequest) otherLeaf =
      some false := by decide
  refine (first_match_iff (fun _ => none) "set" "Default" ownedRequest _ [otherRule]
    [defaultRule] eitherRule _ rfl hsorted hplain (by decide) rfl ?_ ?_).mpr (.inr (.inl ?_))
  · intro truth hcompletes
    have howner := hcompletes ownedLeaf true ownedLeaf_value
    simp [AndOrTree.holds, AndOrTree.holdsAny, howner]
  · intro x hx other hcan
    rw [List.mem_singleton.mp hx] at hcan
    obtain ⟨-, hcond, truth, hcompletes, hholds⟩ := hcan
    cases hcond
    rw [AndOrTree.holds, hcompletes otherLeaf false hother] at hholds
    cases hholds
  · refine ⟨⟨.reference "Managed", by decide, rfl, rfl⟩, ?_⟩
    intro rival hrival other hcan
    rw [List.mem_singleton.mp hrival] at hcan
    cases hcan.2.1

end IsePortal
