import IsePortal.Policy.Selection

/-!
# Verdicts by leaves

What the loop makes of a rule depends on its leaves alone: on whether some completion of the unknown
ones makes the condition hold when negation is overlooked, on whether a leaf is reported at
all, and on whether a reported one is unknown. `settledOn_iff` says in these terms which rule
of a list is selected.
-/

namespace IsePortal

open Library

/-- Every leaf but one of an unknown type is listed in the report. -/
def ConditionLeaf.isReported : ConditionLeaf → Bool
  | .unknownType _ => false
  | _ => true

theorem firstOr_eq_some {children before orChildren after : List Condition}
    (h : firstOr children = some (before, orChildren, after)) :
    ∃ isNegate, children = before ++ .block false orChildren isNegate :: after := by
  induction children generalizing before with
  | nil => cases h
  | cons child rest ih =>
      have hlater (hfirst : firstOr (child :: rest) = (firstOr rest).map fun split =>
          (child :: split.1, split.2.1, split.2.2)) :
          ∃ isNegate, child :: rest = before ++ .block false orChildren isNegate :: after := by
        rw [hfirst] at h
        obtain ⟨⟨before', orChildren', after'⟩, hrest, heq⟩ := Option.map_eq_some_iff.mp h
        cases heq
        obtain ⟨isNegate, hsplit⟩ := ih hrest
        exact ⟨isNegate, by rw [hsplit]; rfl⟩
      cases child with
      | leaf leaf isNegate => exact hlater rfl
      | block isAnd children isNegate =>
          cases isAnd with
          | true => exact hlater rfl
          | false =>
              cases h
              exact ⟨isNegate, rfl⟩

section Verdicts

variable [PyText] [PyRegex]

/-- Some leaf of the condition is reported. -/
def Reports (cond : Condition) : Prop := ∃ leaf ∈ cond.leaves, leaf.isReported = true

/-- Some reported leaf cannot be evaluated. -/
def HasSkipped (ep : PolicyEndpoint) (cond : Condition) : Prop :=
  ∃ leaf ∈ cond.leaves, leaf.isReported = true ∧ leafValue ep leaf = none

theorem mem_subRulesOf {ep : PolicyEndpoint} {children : List Condition} {d : MatchedCondition} :
    d ∈ (subRulesOf ep children).flatMap SubRuleGroup.conditions ↔
      ∃ child ∈ children, d ∈ (evalCondition ep child).2 := by
  rw [List.mem_flatMap]
  unfold subRulesOf
  simp only [List.mem_mapIdx]
  constructor
  · rintro ⟨group, ⟨position, hposition, rfl⟩, hd⟩
    exact ⟨children[position], List.getElem_mem hposition, hd⟩
  · rintro ⟨child, hchild, hd⟩
    obtain ⟨position, hposition, rfl⟩ := List.mem_iff_getElem.mp hchild
    exact ⟨_, ⟨position, hposition, rfl⟩, hd⟩

theorem mem_evalCondition_block {ep : PolicyEndpoint} {isAnd isNegate : Bool}
    {children : List Condition} {d : MatchedCondition} :
    d ∈ (evalCondition ep (.block isAnd children isNegate)).2 ↔
      ∃ child ∈ children, d ∈ (evalCondition ep child).2 := by
  show d ∈ (evalChildren ep children).2 ↔ _
  rw [evalChildren_snd, List.mem_flatMap]

/-- The split for display loses no leaf and adds none. -/
theorem mem_allConds {ep : PolicyEndpoint} {cond : Condition} {d : MatchedCondition} :
    d ∈ allConds ep (some cond) ↔ d ∈ (evalCondition ep cond).2 := by
  unfold allConds
  cases cond with
  | leaf leaf isNegate => simp [splitIntoSubrules]
  | block isAnd children isNegate =>
      cases isAnd with
      | false =>
          rw [mem_evalCondition_block]
          show d ∈ [] ++ (subRulesOf ep children).flatMap _ ↔ _
          rw [List.nil_append, mem_subRulesOf]
      | true =>
          cases hfirst : firstOr children with
          | none => simp [splitIntoSubrules, hfirst]
          | some split =>
              obtain ⟨before, orChildren, after⟩ := split
              obtain ⟨orNegate, rfl⟩ := firstOr_eq_some hfirst
              simp only [splitIntoSubrules, hfirst, List.mem_append, mem_subRulesOf]
              simp only [List.mem_flatMap, List.mem_append, mem_evalCondition_block,
                List.mem_cons, or_and_right, exists_or, exists_eq_left]
              exact or_assoc.trans (or_congr Iff.rfl or_comm)

theorem mem_report {ep : PolicyEndpoint} {cond : Condition} {d : MatchedCondition} :
    d ∈ allConds ep (some cond) ↔ ∃ leaf ∈ cond.leaves, d ∈ (evalLeaf ep leaf).2 := by
  rw [mem_allConds, evalCondition_snd, List.mem_flatMap]

theorem evalLeaf_report (ep : PolicyEndpoint) (leaf : ConditionLeaf) :
    if leaf.isReported then
      ∃ d, (evalLeaf ep leaf).2 = [d] ∧ d.skipped = (leafValue ep leaf).isNone
    else (evalLeaf ep leaf).2 = [] := by
  cases leaf with
  | reference name => exact ⟨_, rfl, rfl⟩
  | unknownType conditionType => rfl
  | attributes dn an op av =>
      show ∃ d, (evalLeaf ep (.attributes dn an op av)).2 = [d] ∧ _
      unfold evalLeaf
      cases leafValue ep (.attributes dn an op av) <;> exact ⟨_, rfl, rfl⟩

/-- Without a reported leaf there is nothing to show for the condition. -/
theorem allConds_isEmpty_iff {ep : PolicyEndpoint} {cond : Condition} :
    (allConds ep (some cond)).isEmpty = true ↔ ¬ Reports cond := by
  rw [List.isEmpty_iff, List.eq_nil_iff_forall_not_mem]
  constructor
  · rintro hempty ⟨leaf, hleaf, hreported⟩
    have hreport := evalLeaf_report ep leaf
    rw [if_pos hreported] at hreport
    obtain ⟨d, hd, -⟩ := hreport
    exact hempty d (mem_report.mpr ⟨leaf, hleaf, by rw [hd]; exact List.mem_singleton_self d⟩)
  · intro hnone d hd
    obtain ⟨leaf, hleaf, hd⟩ := mem_report.mp hd
    have hreport := evalLeaf_report ep leaf
    have hunreported : ¬ leaf.isReported = true := fun hreported => hnone ⟨leaf, hleaf, hreported⟩
    rw [if_neg hunreported] at hreport
    rw [hreport] at hd
    cases hd

theorem allConds_skipped_iff {ep : PolicyEndpoint} {cond : Condition} :
    (allConds ep (some cond)).any (·.skipped) = true ↔ HasSkipped ep cond := by
  rw [List.any_eq_true]
  constructor
  · rintro ⟨d, hd, hskipped⟩
    obtain ⟨leaf, hleaf, hd⟩ := mem_report.mp hd
    have hreport := evalLeaf_report ep leaf
    cases hreported : leaf.isReported with
    | false =>
        rw [hreported, if_neg Bool.false_ne_true] at hreport
        rw [hreport] at hd
        cases hd
    | true =>
        rw [if_pos hreported] at hreport
        obtain ⟨shown, hshown, hvalue⟩ := hreport
        rw [hshown, List.mem_singleton] at hd
        rw [← hd, hskipped] at hvalue
        exact ⟨leaf, hleaf, hreported, Option.isNone_iff_eq_none.mp hvalue.symm⟩
  · rintro ⟨leaf, hleaf, hreported, hvalue⟩
    have hreport := evalLeaf_report ep leaf
    rw [if_pos hreported] at hreport
    obtain ⟨d, hd, hskipped⟩ := hreport
    rw [hvalue] at hskipped
    exact ⟨d, mem_report.mpr ⟨leaf, hleaf, by rw [hd]; exact List.mem_singleton_self d⟩, hskipped⟩

/-- What becomes of an enabled rule whose condition matches. -/
theorem ruleVerdict_of_matches {ep : PolicyEndpoint} {rule : PolicyRule} {cond : Condition}
    (henabled : rule.state ≠ "disabled") (hcond : rule.condition = some cond)
    (hmatches : (evalCondition ep cond).1 = true) :
    (Reports cond → HasSkipped ep cond →
        ruleVerdict ep rule = .tentative (evaluableMatched ep (some cond))) ∧
      (Reports cond → ¬ HasSkipped ep cond → ruleVerdict ep rule = .definitive) ∧
      (¬ Reports cond → ruleVerdict ep rule = .catchAll) := by
  have hrule : ¬ ruleMatches ep rule = false := by
    rw [ruleMatches, hcond]
    simp [hmatches]
  rw [ruleVerdict, if_neg henabled, if_neg hrule, hcond]
  refine ⟨fun hreports hskipped => ?_, fun hreports hskipped => ?_, fun hreports => ?_⟩
  · rw [if_neg (fun hempty => allConds_isEmpty_iff.mp hempty hreports),
      if_pos (allConds_skipped_iff.mpr hskipped)]
  · rw [if_neg (fun hempty => allConds_isEmpty_iff.mp hempty hreports),
      if_neg (fun hany => hskipped (allConds_skipped_iff.mp hany))]
  · rw [if_pos (allConds_isEmpty_iff.mpr hreports)]

theorem ruleVerdict_of_not_matches {ep : PolicyEndpoint} {rule : PolicyRule} {cond : Condition}
    (hcond : rule.condition = some cond) (hmatches : (evalCondition ep cond).1 = false) :
    ruleVerdict ep rule = .skip := by
  have hrule : ruleMatches ep rule = false := by
    rw [ruleMatches, hcond]
    exact hmatches
  rw [ruleVerdict, if_pos hrule, ite_self]

/-- A rule without a condition is a last resort when it is enabled. -/
theorem ruleVerdict_of_none {ep : PolicyEndpoint} {rule : PolicyRule}
    (hcond : rule.condition = none) :
    ruleVerdict ep rule = if rule.state = "disabled" then .skip else .catchAll := by
  unfold ruleVerdict
  rw [ruleMatches, hcond]
  rfl

/-- An enabled rule with this condition, and the condition can hold when negation is overlooked. -/
def MayMatch (ep : PolicyEndpoint) (rule : PolicyRule) (cond : Condition) : Prop :=
  rule.state ≠ "disabled" ∧ rule.condition = some cond ∧ cond.PlainPossible (leafValue ep)

variable {ep : PolicyEndpoint} {rules before after : List PolicyRule} {rule : PolicyRule}
  {cond : Condition}

theorem evalCondition_eq_true_iff :
    (evalCondition ep cond).1 = true ↔ cond.PlainPossible (leafValue ep) := by
  rw [evalCondition_fst, AndOrTree.plainPossible_iff]

theorem HasSkipped.reports (h : HasSkipped ep cond) : Reports cond := by
  obtain ⟨leaf, hleaf, hreported, -⟩ := h
  exact ⟨leaf, hleaf, hreported⟩

theorem MayMatch.eq {other : Condition} (h : MayMatch ep rule cond)
    (hother : MayMatch ep rule other) : other = cond :=
  Option.some.inj (hother.2.1.symm.trans h.2.1)

theorem MayMatch.forall_iff (h : MayMatch ep rule cond) {P : Condition → Prop} :
    (∀ other, MayMatch ep rule other → P other) ↔ P cond :=
  ⟨fun hall => hall cond h, fun hcond other hother => by rw [h.eq hother]; exact hcond⟩

open Classical in
/-- The verdict of a rule that may match. -/
theorem MayMatch.ruleVerdict_eq (h : MayMatch ep rule cond) :
    ruleVerdict ep rule =
      if Reports cond then
        if HasSkipped ep cond then .tentative (evaluableMatched ep (some cond)) else .definitive
      else .catchAll := by
  obtain ⟨htentative, hdefinitive, hlast⟩ :=
    ruleVerdict_of_matches h.1 h.2.1 (evalCondition_eq_true_iff.mpr h.2.2)
  split_ifs with hreports hskipped
  · exact htentative hreports hskipped
  · exact hdefinitive hreports hskipped
  · exact hlast hreports

/-- Any other rule is a last resort without a condition, or skipped. -/
theorem ruleVerdict_of_not_mayMatch (h : ∀ cond, ¬ MayMatch ep rule cond) :
    ruleVerdict ep rule =
      if rule.state ≠ "disabled" ∧ rule.condition = none then .catchAll else .skip := by
  by_cases henabled : rule.state = "disabled"
  · rw [ruleVerdict, if_pos henabled, if_neg fun hlast => hlast.1 henabled]
  · cases hcond : rule.condition with
    | none => rw [ruleVerdict_of_none hcond, if_neg henabled, if_pos ⟨henabled, rfl⟩]
    | some cond =>
        have hmatches : (evalCondition ep cond).1 = false := by
          rw [← Bool.not_eq_true, evalCondition_eq_true_iff]
          exact fun hpossible => h cond ⟨henabled, hcond, hpossible⟩
        rw [ruleVerdict_of_not_matches hcond hmatches, if_neg fun hlast => by cases hlast.2]

/-- No definitive match, and no tentative one with a score outside `P`. -/
theorem ruleVerdict_tentative_iff {P : Nat → Prop} :
    (ruleVerdict ep rule ≠ .definitive ∧
        ∀ score, ruleVerdict ep rule = .tentative score → P score) ↔
      ∀ cond, MayMatch ep rule cond → Reports cond →
        HasSkipped ep cond ∧ P (evaluableMatched ep (some cond)) := by
  by_cases hmay : ∃ cond, MayMatch ep rule cond
  · obtain ⟨cond, hcond⟩ := hmay
    rw [hcond.forall_iff, hcond.ruleVerdict_eq]
    split_ifs with hreports hskipped <;> simp [*]
  · have hnever := not_exists.mp hmay
    rw [ruleVerdict_of_not_mayMatch hnever]
    split_ifs <;> simp [hnever]

theorem ruleVerdict_ne_definitive_iff :
    ruleVerdict ep rule ≠ .definitive ↔
      ∀ cond, MayMatch ep rule cond → Reports cond → HasSkipped ep cond := by
  have h : (ruleVerdict ep rule ≠ .definitive ∧
      ∀ score, ruleVerdict ep rule = .tentative score → True) ↔ _ := ruleVerdict_tentative_iff
  simpa using h

theorem ruleVerdict_skip_iff :
    ruleVerdict ep rule = .skip ↔
      (rule.state ≠ "disabled" → rule.condition ≠ none) ∧ ∀ cond, ¬ MayMatch ep rule cond := by
  by_cases hmay : ∃ cond, MayMatch ep rule cond
  · obtain ⟨cond, hcond⟩ := hmay
    rw [hcond.ruleVerdict_eq]
    refine iff_of_false ?_ fun hall => hall.2 cond hcond
    split_ifs <;> simp
  · have hnever := not_exists.mp hmay
    rw [ruleVerdict_of_not_mayMatch hnever]
    split_ifs with hlast <;> simpa [hnever] using hlast

theorem ruleVerdict_last_iff :
    ruleVerdict ep rule = .skip ∨ ruleVerdict ep rule = .catchAll ↔
      ∀ cond, MayMatch ep rule cond → ¬ Reports cond := by
  by_cases hmay : ∃ cond, MayMatch ep rule cond
  · obtain ⟨cond, hcond⟩ := hmay
    rw [hcond.forall_iff, hcond.ruleVerdict_eq]
    split_ifs with hreports hskipped <;> simp [*]
  · have hnever := not_exists.mp hmay
    rw [ruleVerdict_of_not_mayMatch hnever]
    split_ifs <;> simp [hnever]

/-! ## The rule that is selected -/

/-- When the simulator settles on a rule that may match, by what stands before and after it. -/
inductive SettledOn (ep : PolicyEndpoint) (before : List PolicyRule) (rule : PolicyRule)
    (cond : Condition) (after : List PolicyRule) : Prop where
  /-- No leaf is skipped, and no match before it is without skipped leaves. -/
  | definitive : Reports cond → ¬ HasSkipped ep cond →
      (∀ x ∈ before, ∀ other, MayMatch ep x other → Reports other → HasSkipped ep other) →
      SettledOn ep before rule cond after
  /-- Every match has skipped leaves, and none a better score and rank. -/
  | tentative : HasSkipped ep cond →
      (∀ x ∈ before, ∀ other, MayMatch ep x other → Reports other → HasSkipped ep other ∧
        (evaluableMatched ep (some other) < evaluableMatched ep (some cond) ∨
          (evaluableMatched ep (some other) = evaluableMatched ep (some cond) ∧
            rule.rank < x.rank))) →
      (∀ x ∈ after, ∀ other, MayMatch ep x other → Reports other → HasSkipped ep other ∧
        (evaluableMatched ep (some other) < evaluableMatched ep (some cond) ∨
          (evaluableMatched ep (some other) = evaluableMatched ep (some cond) ∧
            rule.rank ≤ x.rank))) →
      SettledOn ep before rule cond after
  /-- No match has leaves, and none stands before it. -/
  | lastResort : ¬ Reports cond →
      (∀ x ∈ before, (x.state ≠ "disabled" → x.condition ≠ none) ∧
        ∀ other, ¬ MayMatch ep x other) →
      (∀ x ∈ after, ∀ other, MayMatch ep x other → ¬ Reports other) →
      SettledOn ep before rule cond after

theorem settledOn_iff (h : MayMatch ep rule cond) :
    SettledOn ep before rule cond after ↔
      (∀ x ∈ before, merit ep x < merit ep rule) ∧ ∀ x ∈ after, merit ep x ≤ merit ep rule := by
  have hverdict := h.ruleVerdict_eq
  simp only [merit_lt_iff, merit_le_iff]
  split_ifs at hverdict with hreports hskipped
  · simp only [hverdict, ruleVerdict_tentative_iff]
    constructor
    · rintro (⟨-, hknown, -⟩ | ⟨-, hbefore, hafter⟩ | ⟨hleafless, -, -⟩)
      · exact absurd hskipped hknown
      · exact ⟨hbefore, hafter⟩
      · exact absurd hreports hleafless
    · rintro ⟨hbefore, hafter⟩
      exact .tentative hskipped hbefore hafter
  · simp only [hverdict, ruleVerdict_ne_definitive_iff]
    constructor
    · rintro (⟨-, -, hbefore⟩ | ⟨hunknown, -, -⟩ | ⟨hleafless, -, -⟩)
      · exact ⟨hbefore, fun _ _ => trivial⟩
      · exact absurd hunknown hskipped
      · exact absurd hreports hleafless
    · rintro ⟨hbefore, -⟩
      exact .definitive hreports hskipped hbefore
  · simp only [hverdict, ruleVerdict_last_iff]
    simp only [ruleVerdict_skip_iff]
    constructor
    · rintro (⟨hsome, -, -⟩ | ⟨hunknown, -, -⟩ | ⟨-, hbefore, hafter⟩)
      · exact absurd hsome hreports
      · exact absurd hunknown.reports hreports
      · exact ⟨hbefore, hafter⟩
    · rintro ⟨hbefore, hafter⟩
      exact .lastResort hreports hbefore hafter

/-- A rule with a condition is selected when it may match and the simulator settles on it. -/
theorem selectRule_iff_settledOn (hcond : rule.condition = some cond) :
    selectRule ep rules = some rule ↔ MayMatch ep rule cond ∧ ∃ before after,
      rules = before ++ rule :: after ∧ SettledOn ep before rule cond after := by
  rw [selectRule_eq_some_iff]
  by_cases hmay : MayMatch ep rule cond
  · have hmatch : ruleVerdict ep rule ≠ .skip := by
      intro hskip
      exact (ruleVerdict_skip_iff.mp hskip).2 cond hmay
    simp only [settledOn_iff hmay, hmay, hmatch, ne_eq, not_false_eq_true, true_and]
  · refine iff_of_false (fun hselect => hselect.1 (ruleVerdict_skip_iff.mpr ⟨?_, ?_⟩))
      fun hselect => hmay hselect.1
    · intro _ hnone
      rw [hcond] at hnone
      cases hnone
    · intro other hother
      rw [Option.some.inj (hcond.symm.trans hother.2.1)] at hmay
      exact hmay hother

end Verdicts

end IsePortal
