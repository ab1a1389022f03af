import IsePortal.Policy.SubRules

/-!
# The selection law

Which rule `match_endpoint` returns, said without its loop: the first definitive match of the list;
else the partial match of the greatest score, and of the lowest rank among those; else the first
rule that matches without anything to evaluate.
-/

namespace IsePortal

open Library

section SelectionLaw

variable [PyText] [PyRegex]

/-- An enabled rule whose condition `_eval_condition` finds true. -/
def IsMatch (ep : PolicyEndpoint) (rule : PolicyRule) : Prop :=
  rule.state ≠ "disabled" ∧ ruleMatches ep rule = true

instance (ep : PolicyEndpoint) (rule : PolicyRule) : Decidable (IsMatch ep rule) :=
  inferInstanceAs (Decidable (_ ∧ _))

/-- A match with details, none of them skipped. -/
def IsDefinitive (ep : PolicyEndpoint) (rule : PolicyRule) : Prop :=
  IsMatch ep rule ∧ conditionDetails ep rule.condition ≠ [] ∧
    (conditionDetails ep rule.condition).any (·.skipped) = false

instance (ep : PolicyEndpoint) (rule : PolicyRule) : Decidable (IsDefinitive ep rule) :=
  inferInstanceAs (Decidable (_ ∧ _ ∧ _))

/-- A match with a skipped detail. -/
def IsPartial (ep : PolicyEndpoint) (rule : PolicyRule) : Prop :=
  IsMatch ep rule ∧ (conditionDetails ep rule.condition).any (·.skipped) = true

/-- A match without details. -/
def IsCatchAll (ep : PolicyEndpoint) (rule : PolicyRule) : Prop :=
  IsMatch ep rule ∧ conditionDetails ep rule.condition = []

instance (ep : PolicyEndpoint) (rule : PolicyRule) : Decidable (IsCatchAll ep rule) :=
  inferInstanceAs (Decidable (_ ∧ _))

/-- The evaluated and true conditions: the global ones, and those of the best OR branch. -/
def matchScore (ep : PolicyEndpoint) (cond : Option Condition) : Nat :=
  satisfiedCount (splitIntoSubrules ep cond).1 +
    ((splitIntoSubrules ep cond).2.map fun branch =>
      satisfiedCount branch.conditions).foldr max 0

/-- What the law says of the rule that is returned. -/
structure SelectionLaw (ep : PolicyEndpoint) (rules : List PolicyRule)
    (selected : Option PolicyRule) : Prop where
  definitive : ∀ rule, rules.find? (fun rule => decide (IsDefinitive ep rule)) = some rule →
    selected = some rule
  best_partial : (∀ rule ∈ rules, ¬ IsDefinitive ep rule) → (∃ rule ∈ rules, IsPartial ep rule) →
    ∃ rule ∈ rules, IsPartial ep rule ∧ selected = some rule ∧
      ∀ other ∈ rules, IsPartial ep other →
        matchScore ep other.condition < matchScore ep rule.condition ∨
          matchScore ep other.condition = matchScore ep rule.condition ∧ rule.rank ≤ other.rank
  catch_all : (∀ rule ∈ rules, ¬ IsDefinitive ep rule) → (∀ rule ∈ rules, ¬ IsPartial ep rule) →
    selected = rules.find? fun rule => decide (IsCatchAll ep rule)

/-! ## The score -/

omit [PyText] [PyRegex] in
/-- The maximum over a list of branches is reached at its `argmax`. -/
theorem foldr_max_eq_of_mem_argmax {α : Type*} {f : α → Nat} {l : List α} {best : α}
    (h : l.argmax f = some best) : (l.map f).foldr max 0 = f best := by
  have hle : ∀ x ∈ l, f x ≤ f best := fun x hx => List.le_of_mem_argmax hx h
  have hmem := List.argmax_mem h
  clear h
  induction l with
  | nil => cases hmem
  | cons first rest ih =>
      have hrest : (rest.map f).foldr max 0 ≤ f best := by
        refine List.max_le_of_forall_le _ _ fun n hn => ?_
        obtain ⟨x, hx, rfl⟩ := List.mem_map.mp hn
        exact hle x (List.mem_cons_of_mem first hx)
      rw [List.map_cons, List.foldr_cons]
      rcases List.mem_cons.mp hmem with rfl | hlater
      · exact max_eq_left hrest
      · rw [ih (fun x hx => hle x (List.mem_cons_of_mem first hx)) hlater]
        exact max_eq_right (hle first List.mem_cons_self)

theorem evaluableMatched_eq (ep : PolicyEndpoint) (cond : Option Condition) :
    evaluableMatched ep cond = matchScore ep cond := by
  unfold evaluableMatched matchScore
  dsimp only
  cases hbest : (splitIntoSubrules ep cond).2.argmax fun subRule =>
      satisfiedCount subRule.conditions with
  | none =>
      rw [List.argmax_eq_none] at hbest
      simp [allConds, hbest]
  | some best =>
      rw [foldr_max_eq_of_mem_argmax hbest]
      exact List.countP_append

/-! ## The verdicts by details -/

variable {ep : PolicyEndpoint} {rules : List PolicyRule} {rule : PolicyRule}

theorem ruleVerdict_of_isMatch (h : IsMatch ep rule) :
    ruleVerdict ep rule =
      if conditionDetails ep rule.condition = [] then .catchAll
      else if (conditionDetails ep rule.condition).any (·.skipped) then
        .tentative (matchScore ep rule.condition)
      else .definitive := by
  have hperm := allConds_perm ep rule.condition
  have hempty : (allConds ep rule.condition).isEmpty = true ↔
      conditionDetails ep rule.condition = [] := by
    rw [List.isEmpty_iff]
    exact ⟨fun hnil => List.Perm.eq_nil (hnil ▸ hperm).symm, fun hnil =>
      List.Perm.eq_nil (hnil ▸ hperm)⟩
  unfold ruleVerdict
  rw [if_neg h.1, if_neg (by simp [h.2]), hperm.any_eq, evaluableMatched_eq]
  exact if_congr hempty rfl rfl

theorem ruleVerdict_of_not_isMatch (h : ¬ IsMatch ep rule) : ruleVerdict ep rule = .skip := by
  unfold ruleVerdict
  by_cases hstate : rule.state = "disabled"
  · rw [if_pos hstate]
  · have hfalse : ruleMatches ep rule = false := by
      rw [← Bool.not_eq_true]
      exact fun htrue => h ⟨hstate, htrue⟩
    rw [if_neg hstate, if_pos hfalse]

theorem ruleVerdict_eq_definitive_iff :
    ruleVerdict ep rule = .definitive ↔ IsDefinitive ep rule := by
  by_cases hmatch : IsMatch ep rule
  · rw [ruleVerdict_of_isMatch hmatch]
    split_ifs with hnil hskipped <;> simp [IsDefinitive, *]
  · rw [ruleVerdict_of_not_isMatch hmatch]
    exact iff_of_false Verdict.noConfusion fun h => hmatch h.1

theorem ruleVerdict_eq_tentative_iff {score : Nat} :
    ruleVerdict ep rule = .tentative score ↔
      IsPartial ep rule ∧ matchScore ep rule.condition = score := by
  by_cases hmatch : IsMatch ep rule
  · rw [ruleVerdict_of_isMatch hmatch]
    split_ifs with hnil hskipped <;> simp [IsPartial, *]
  · rw [ruleVerdict_of_not_isMatch hmatch]
    exact iff_of_false Verdict.noConfusion fun h => hmatch h.1.1

theorem ruleVerdict_eq_catchAll_iff : ruleVerdict ep rule = .catchAll ↔ IsCatchAll ep rule := by
  by_cases hmatch : IsMatch ep rule
  · rw [ruleVerdict_of_isMatch hmatch]
    split_ifs with hnil hskipped <;> simp [IsCatchAll, *]
  · rw [ruleVerdict_of_not_isMatch hmatch]
    exact iff_of_false Verdict.noConfusion fun h => hmatch h.1

/-! ## The law -/

/-- The first definitive match is returned. -/
theorem selectRule_definitive
    (hfirst : rules.find? (fun rule => decide (IsDefinitive ep rule)) = some rule) :
    selectRule ep rules = some rule := by
  obtain ⟨hdefinitive, before, after, hsplit, hbefore⟩ := List.find?_eq_some_iff_append.mp hfirst
  have hverdict := ruleVerdict_eq_definitive_iff.mpr (of_decide_eq_true hdefinitive)
  refine selectRule_eq_some_iff.mpr ⟨by rw [hverdict]; exact Verdict.noConfusion, before, after,
    hsplit, fun x hx => ?_, fun x _ => ?_⟩
  · rw [merit_lt_iff, hverdict]
    intro hearlier
    have hnot := hbefore x hx
    simp [ruleVerdict_eq_definitive_iff.mp hearlier] at hnot
  · rw [merit_le_iff, hverdict]
    trivial

/-- Without a definitive match the best partial one is returned. -/
theorem selectRule_partial (hnone : ∀ rule ∈ rules, ¬ IsDefinitive ep rule)
    (hunsure : ∃ rule ∈ rules, IsPartial ep rule) :
    ∃ rule ∈ rules, IsPartial ep rule ∧ selectRule ep rules = some rule ∧
      ∀ other ∈ rules, IsPartial ep other →
        matchScore ep other.condition < matchScore ep rule.condition ∨
          matchScore ep other.condition = matchScore ep rule.condition ∧
            rule.rank ≤ other.rank := by
  obtain ⟨found, hfound, hisPartial⟩ := hunsure
  have hmatching : ∀ {other}, other ∈ rules → IsPartial ep other →
      other ∈ matchingRules ep rules := by
    intro other hother hunsure
    have hverdict := ruleVerdict_eq_tentative_iff.mpr ⟨hunsure, rfl⟩
    exact List.mem_filter.mpr ⟨hother, by simp [hverdict]⟩
  cases hselected : selectRule ep rules with
  | none =>
      rw [selectRule_eq, List.argmax_eq_none] at hselected
      have hmem := hmatching hfound hisPartial
      rw [hselected] at hmem
      cases hmem
  | some rule =>
      rw [selectRule_eq] at hselected
      have hrule : rule ∈ rules := (List.mem_filter.mp (List.argmax_mem hselected)).1
      have hbest : ∀ other ∈ rules, IsPartial ep other → merit ep other ≤ merit ep rule :=
        fun other hother hunsure =>
          List.le_of_mem_argmax (hmatching hother hunsure) hselected
      have hfoundVerdict := ruleVerdict_eq_tentative_iff.mpr ⟨hisPartial, rfl⟩
      have hle := hbest found hfound hisPartial
      rw [merit_le_iff] at hle
      -- the best match is no worse than a partial one, and it is not definitive
      cases hverdict : ruleVerdict ep rule with
      | skip => simp [hverdict, hfoundVerdict] at hle
      | catchAll => simp [hverdict, hfoundVerdict] at hle
      | definitive => exact absurd (ruleVerdict_eq_definitive_iff.mp hverdict) (hnone rule hrule)
      | tentative score =>
          obtain ⟨hrulePartial, rfl⟩ := ruleVerdict_eq_tentative_iff.mp hverdict
          refine ⟨rule, hrule, hrulePartial, rfl, fun other hother hunsure => ?_⟩
          have hothers := hbest other hother hunsure
          rw [merit_le_iff, hverdict] at hothers
          exact hothers.2 _ (ruleVerdict_eq_tentative_iff.mpr ⟨hunsure, rfl⟩)

/-- Without either the first match without details is returned. -/
theorem selectRule_catchAll (hdefinitive : ∀ rule ∈ rules, ¬ IsDefinitive ep rule)
    (hunsure : ∀ rule ∈ rules, ¬ IsPartial ep rule) :
    selectRule ep rules = rules.find? fun rule => decide (IsCatchAll ep rule) := by
  have hverdicts : ∀ x ∈ rules, ruleVerdict ep x = .skip ∨ ruleVerdict ep x = .catchAll := by
    intro x hx
    cases hverdict : ruleVerdict ep x with
    | skip => exact Or.inl rfl
    | catchAll => exact Or.inr rfl
    | definitive =>
        exact absurd (ruleVerdict_eq_definitive_iff.mp hverdict) (hdefinitive x hx)
    | tentative score =>
        exact absurd (ruleVerdict_eq_tentative_iff.mp hverdict).1 (hunsure x hx)
  cases hfirst : rules.find? fun rule => decide (IsCatchAll ep rule) with
  | none =>
      rw [selectRule_eq, List.argmax_eq_none, matchingRules, List.filter_eq_nil_iff]
      intro x hx
      have hnot := List.find?_eq_none.mp hfirst x hx
      rw [decide_eq_true_iff, ← ruleVerdict_eq_catchAll_iff] at hnot
      simp [(hverdicts x hx).resolve_right hnot]
  | some rule =>
      obtain ⟨hcatchAll, before, after, hsplit, hbefore⟩ :=
        List.find?_eq_some_iff_append.mp hfirst
      have hverdict := ruleVerdict_eq_catchAll_iff.mpr (of_decide_eq_true hcatchAll)
      refine selectRule_eq_some_iff.mpr ⟨by rw [hverdict]; exact Verdict.noConfusion, before,
        after, hsplit, fun x hx => ?_, fun x hx => ?_⟩
      · have hmem : x ∈ rules := by
          rw [hsplit]
          exact List.mem_append_left _ hx
        have hnot := hbefore x hx
        rw [Bool.not_eq_true', decide_eq_false_iff_not, ← ruleVerdict_eq_catchAll_iff] at hnot
        rw [merit_lt_iff, hverdict]
        exact (hverdicts x hmem).resolve_right hnot
      · have hmem : x ∈ rules := by
          rw [hsplit]
          exact List.mem_append_right _ (List.mem_cons_of_mem _ hx)
        rw [merit_le_iff, hverdict]
        exact hverdicts x hmem

/-- `match_endpoint` returns the rule of the law, whatever the order of the list. -/
theorem selection_law (fetchEpFromIse : String → Option PolicyEndpoint)
    (policySetId psName : String) (rules : List PolicyRule) (request : MatchRequest) :
    SelectionLaw (simulatedEndpoint fetchEpFromIse request) rules
      (matchEndpoint fetchEpFromIse policySetId psName rules request).matchedRule := by
  rw [matchedRule_matchEndpoint]
  exact ⟨fun _ => selectRule_definitive, selectRule_partial, selectRule_catchAll⟩

end SelectionLaw

end IsePortal
