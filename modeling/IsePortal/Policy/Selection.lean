import Mathlib
import IsePortal.Policy.MatchEndpoint

/-!
# The selection as one search

The loop of `match_endpoint` keeps a tentative match and a last resort, and leaves at a
definitive match. It comes to one search: the first best rule of those that match, where a
definitive match is better than a tentative one and that is better than a last resort.
-/

namespace IsePortal

/-- `argmax` is better than what stands before it, and no worse than what stands after. -/
theorem argmax_eq_some_iff_append {α β : Type*} [LinearOrder β] {f : α → β} {l : List α} {m : α} :
    l.argmax f = some m ↔ ∃ before after, l = before ++ m :: after ∧
      (∀ x ∈ before, f x < f m) ∧ ∀ x ∈ after, f x ≤ f m := by
  induction l with
  | nil => simp
  | cons a l ih =>
      have hsplit : (∃ before after, a :: l = before ++ m :: after ∧
          (∀ x ∈ before, f x < f m) ∧ ∀ x ∈ after, f x ≤ f m) ↔
            (a = m ∧ ∀ x ∈ l, f x ≤ f m) ∨ (l.argmax f = some m ∧ f a < f m) := by
        rw [ih]
        constructor
        · rintro ⟨before, after, heq, hbefore, hafter⟩
          cases before with
          | nil =>
              cases heq
              exact .inl ⟨rfl, hafter⟩
          | cons b before =>
              cases heq
              exact .inr ⟨⟨before, after, rfl, fun x hx => hbefore x (List.mem_cons_of_mem a hx),
                hafter⟩, hbefore a List.mem_cons_self⟩
        · rintro (⟨rfl, hafter⟩ | ⟨⟨before, after, rfl, hbefore, hafter⟩, ha⟩)
          · exact ⟨[], l, rfl, List.forall_mem_nil _, hafter⟩
          · exact ⟨a :: before, after, rfl, List.forall_mem_cons.mpr ⟨ha, hbefore⟩, hafter⟩
      rw [hsplit, List.argmax_cons]
      cases hbest : l.argmax f with
      | none =>
          rw [List.argmax_eq_none] at hbest
          simp [hbest]
      | some best =>
          have hle : ∀ x ∈ l, f x ≤ f best := fun x hx => List.le_of_mem_argmax hx hbest
          have hmem : best ∈ l := List.argmax_mem hbest
          show (if f a < f best then some best else some a) = some m ↔ _
          split
          · next hlt =>
              constructor
              · intro heq
                cases heq
                exact .inr ⟨rfl, hlt⟩
              · rintro (⟨rfl, hall⟩ | ⟨heq, -⟩)
                · exact absurd (hall best hmem) (not_le.mpr hlt)
                · exact heq
          · next hnot =>
              constructor
              · intro heq
                cases heq
                exact .inl ⟨rfl, fun x hx => (hle x hx).trans (not_lt.mp hnot)⟩
              · rintro (⟨rfl, -⟩ | ⟨heq, hlt⟩)
                · rfl
                · cases heq
                  exact absurd hlt hnot

section Selection

variable [PyText] [PyRegex]

/-- The rules that match, in the order of the list. -/
def matchingRules (ep : PolicyEndpoint) (rules : List PolicyRule) : List PolicyRule :=
  rules.filter fun rule => ruleVerdict ep rule ≠ .skip

/-- What makes a match better: its kind, and among tentative ones the score, then a low rank. -/
def merit (ep : PolicyEndpoint) (rule : PolicyRule) : Nat ×ₗ Nat ×ₗ ℤᵒᵈ :=
  match ruleVerdict ep rule with
  | .skip => toLex (0, toLex (0, OrderDual.toDual 0))
  | .catchAll => toLex (1, toLex (0, OrderDual.toDual 0))
  | .tentative score => toLex (2, toLex (score, OrderDual.toDual rule.rank))
  | .definitive => toLex (3, toLex (0, OrderDual.toDual 0))

/-- The order of merit, verdict by verdict. -/
theorem merit_lt_iff {ep : PolicyEndpoint} {a b : PolicyRule} :
    merit ep a < merit ep b ↔
      match ruleVerdict ep b with
      | .skip => False
      | .catchAll => ruleVerdict ep a = .skip
      | .tentative score => ruleVerdict ep a ≠ .definitive ∧ ∀ other,
          ruleVerdict ep a = .tentative other → other < score ∨ (other = score ∧ b.rank < a.rank)
      | .definitive => ruleVerdict ep a ≠ .definitive := by
  unfold merit
  cases ruleVerdict ep a <;> cases ruleVerdict ep b <;>
    simp [Prod.Lex.toLex_lt_toLex]

theorem merit_le_iff {ep : PolicyEndpoint} {a b : PolicyRule} :
    merit ep a ≤ merit ep b ↔
      match ruleVerdict ep b with
      | .skip => ruleVerdict ep a = .skip
      | .catchAll => ruleVerdict ep a = .skip ∨ ruleVerdict ep a = .catchAll
      | .tentative score => ruleVerdict ep a ≠ .definitive ∧ ∀ other,
          ruleVerdict ep a = .tentative other → other < score ∨ (other = score ∧ b.rank ≤ a.rank)
      | .definitive => True := by
  unfold merit
  cases ruleVerdict ep a <;> cases ruleVerdict ep b <;>
    simp [Prod.Lex.toLex_le_toLex]

/-- The match the loop holds when it has seen the rules so far. -/
def held (best : Option (Nat × Int × PolicyRule)) (catchAll : Option PolicyRule) :
    Option PolicyRule :=
  (best.map fun candidate => candidate.2.2).or catchAll

/-- `best_partial` and `catch_all` are what their names say. -/
structure LoopState (ep : PolicyEndpoint) (best : Option (Nat × Int × PolicyRule))
    (catchAll : Option PolicyRule) : Prop where
  best_tentative : ∀ score rank rule, best = some (score, rank, rule) →
    ruleVerdict ep rule = .tentative score ∧ rank = rule.rank
  catchAll_verdict : ∀ rule, catchAll = some rule → ruleVerdict ep rule = .catchAll

theorem loopState_start (ep : PolicyEndpoint) : LoopState ep none none where
  best_tentative _ _ _ h := by cases h
  catchAll_verdict _ h := by cases h

/-- A definitive match is not held: the loop ends there. -/
theorem LoopState.held_ne_definitive {ep : PolicyEndpoint}
    {best : Option (Nat × Int × PolicyRule)} {catchAll : Option PolicyRule}
    (h : LoopState ep best catchAll) {rule : PolicyRule} (hheld : held best catchAll = some rule) :
    ruleVerdict ep rule ≠ .definitive := by
  cases best with
  | some candidate =>
      obtain ⟨score, rank, bestRule⟩ := candidate
      cases hheld
      rw [(h.best_tentative score rank bestRule rfl).1]
      exact Verdict.noConfusion
  | none =>
      rw [h.catchAll_verdict rule hheld]
      exact Verdict.noConfusion

theorem LoopState.catchAll {ep : PolicyEndpoint} {best : Option (Nat × Int × PolicyRule)}
    {catchAll : Option PolicyRule} (h : LoopState ep best catchAll) {rule : PolicyRule}
    (hverdict : ruleVerdict ep rule = .catchAll) :
    LoopState ep best (catchAll.or (some rule)) where
  best_tentative := h.best_tentative
  catchAll_verdict last hlast := by
    rcases Option.or_eq_some_iff.mp hlast with hlast | ⟨-, hlast⟩
    · exact h.catchAll_verdict last hlast
    · cases hlast
      exact hverdict

theorem LoopState.tentative {ep : PolicyEndpoint} {best : Option (Nat × Int × PolicyRule)}
    {catchAll : Option PolicyRule} (h : LoopState ep best catchAll) {rule : PolicyRule}
    {score : Nat} (hverdict : ruleVerdict ep rule = .tentative score) :
    LoopState ep (betterPartial best score rule) catchAll where
  best_tentative other rank bestRule hbest := by
    cases best with
    | none =>
        cases hbest
        exact ⟨hverdict, rfl⟩
    | some candidate =>
        obtain ⟨bestScore, bestRank, last⟩ := candidate
        rw [betterPartial] at hbest
        split at hbest <;> cases hbest
        · exact ⟨hverdict, rfl⟩
        · exact h.best_tentative _ _ _ rfl
  catchAll_verdict := h.catchAll_verdict

/-- Nothing is better than a definitive match. -/
theorem foldl_argAux_of_definitive {ep : PolicyEndpoint} {rule : PolicyRule}
    (hverdict : ruleVerdict ep rule = .definitive) (rules : List PolicyRule) :
    rules.foldl (List.argAux fun b c => merit ep c < merit ep b) (some rule) = some rule := by
  induction rules with
  | nil => rfl
  | cons other rules ih =>
      have hbest : ¬ merit ep rule < merit ep other := by
        rw [not_lt, merit_le_iff, hverdict]
        trivial
      have hstep : List.argAux (fun b c => merit ep c < merit ep b) (some rule) other =
          some rule := if_neg hbest
      rw [List.foldl_cons, hstep, ih]

/-- One rule without leaves, seen by the loop. -/
theorem argAux_catchAll {ep : PolicyEndpoint} {best : Option (Nat × Int × PolicyRule)}
    {catchAll : Option PolicyRule} (hstate : LoopState ep best catchAll) {rule : PolicyRule}
    (hverdict : ruleVerdict ep rule = .catchAll) :
    List.argAux (fun b c => merit ep c < merit ep b) (held best catchAll) rule =
      held best (catchAll.or (some rule)) := by
  cases best with
  | some candidate =>
      obtain ⟨score, rank, bestRule⟩ := candidate
      have hworse : ¬ merit ep bestRule < merit ep rule := by
        rw [merit_lt_iff, hverdict]
        simp [(hstate.best_tentative score rank bestRule rfl).1]
      exact if_neg hworse
  | none =>
      cases catchAll with
      | none => rfl
      | some last =>
          have hworse : ¬ merit ep last < merit ep rule := by
            rw [merit_lt_iff, hverdict]
            simp [hstate.catchAll_verdict last rfl]
          exact if_neg hworse

/-- One rule with skipped leaves, seen by the loop. -/
theorem argAux_tentative {ep : PolicyEndpoint} {best : Option (Nat × Int × PolicyRule)}
    {catchAll : Option PolicyRule} (hstate : LoopState ep best catchAll) {rule : PolicyRule}
    {score : Nat} (hverdict : ruleVerdict ep rule = .tentative score) :
    List.argAux (fun b c => merit ep c < merit ep b) (held best catchAll) rule =
      held (betterPartial best score rule) catchAll := by
  cases best with
  | none =>
      cases catchAll with
      | none => rfl
      | some last =>
          have hbetter : merit ep last < merit ep rule := by
            rw [merit_lt_iff, hverdict]
            simp [hstate.catchAll_verdict last rfl]
          exact if_pos hbetter
  | some candidate =>
      obtain ⟨bestScore, bestRank, bestRule⟩ := candidate
      obtain ⟨hbest, hrank⟩ := hstate.best_tentative bestScore bestRank bestRule rfl
      have hiff : merit ep bestRule < merit ep rule ↔
          bestScore < score ∨ (score = bestScore ∧ rule.rank < bestRank) := by
        rw [merit_lt_iff, hverdict]
        simp only [hbest, hrank]
        simp [eq_comm]
      show (if merit ep bestRule < merit ep rule then some rule else some bestRule) =
        held (if _ then _ else _) catchAll
      rw [apply_ite (held · catchAll)]
      exact if_congr hiff rfl rfl

/-- The search from any state of the loop. -/
theorem selectLoop_eq (ep : PolicyEndpoint) (rules : List PolicyRule)
    (best : Option (Nat × Int × PolicyRule)) (catchAll : Option PolicyRule)
    (hstate : LoopState ep best catchAll) :
    selectLoop ep rules best catchAll =
      (matchingRules ep rules).foldl (List.argAux fun b c => merit ep c < merit ep b)
        (held best catchAll) := by
  induction rules generalizing best catchAll with
  | nil => cases best <;> rfl
  | cons rule rules ih =>
      rw [selectLoop, matchingRules, List.filter_cons]
      cases hverdict : ruleVerdict ep rule with
      | skip => exact ih best catchAll hstate
      | catchAll =>
          refine (ih best _ (hstate.catchAll hverdict)).trans ?_
          rw [← argAux_catchAll hstate hverdict]
          rfl
      | definitive =>
          have htop : List.argAux (fun b c => merit ep c < merit ep b) (held best catchAll) rule =
              some rule := by
            cases hheld : held best catchAll with
            | none => rfl
            | some last =>
                have hbetter : merit ep last < merit ep rule := by
                  rw [merit_lt_iff, hverdict]
                  exact hstate.held_ne_definitive hheld
                exact if_pos hbetter
          show some rule = List.foldl _ (List.argAux _ _ rule) (matchingRules ep rules)
          rw [htop, foldl_argAux_of_definitive hverdict]
      | tentative score =>
          refine (ih _ catchAll (hstate.tentative hverdict)).trans ?_
          rw [← argAux_tentative hstate hverdict]
          rfl

/-- The loop returns the best of the rules that match, the first one among equals. -/
theorem selectRule_eq (ep : PolicyEndpoint) (rules : List PolicyRule) :
    selectRule ep rules = (matchingRules ep rules).argmax (merit ep) :=
  selectLoop_eq ep rules none none (loopState_start ep)

theorem merit_lt_of_skip {ep : PolicyEndpoint} {a b : PolicyRule} (ha : ruleVerdict ep a = .skip)
    (hb : ruleVerdict ep b ≠ .skip) : merit ep a < merit ep b := by
  rw [merit_lt_iff, ha]
  cases hverdict : ruleVerdict ep b with
  | skip => exact absurd hverdict hb
  | catchAll => rfl
  | tentative score => exact ⟨Verdict.noConfusion, fun _ h => by cases h⟩
  | definitive => exact Verdict.noConfusion

/-- A match is selected when it is better than every rule before it, and no worse than every rule
after it. -/
theorem selectRule_eq_some_iff {ep : PolicyEndpoint} {rules : List PolicyRule} {rule : PolicyRule} :
    selectRule ep rules = some rule ↔ ruleVerdict ep rule ≠ .skip ∧ ∃ before after,
      rules = before ++ rule :: after ∧ (∀ x ∈ before, merit ep x < merit ep rule) ∧
        ∀ x ∈ after, merit ep x ≤ merit ep rule := by
  rw [selectRule_eq, argmax_eq_some_iff_append, matchingRules]
  constructor
  · rintro ⟨before, after, hsplit, hbefore, hafter⟩
    obtain ⟨front, rest, rfl, rfl, hrest⟩ := List.filter_eq_append_iff.mp hsplit
    obtain ⟨skipped, back, rfl, hskipped, hmatch, rfl⟩ := List.filter_eq_cons_iff.mp hrest
    simp only [List.mem_filter, decide_eq_true_eq, not_not] at hbefore hafter hskipped hmatch
    refine ⟨hmatch, front ++ skipped, back, (List.append_assoc _ _ _).symm, fun x hx => ?_,
      fun x hx => ?_⟩
    · by_cases hverdict : ruleVerdict ep x = .skip
      · exact merit_lt_of_skip hverdict hmatch
      · rcases List.mem_append.mp hx with hx | hx
        · exact hbefore x ⟨hx, hverdict⟩
        · exact absurd (hskipped x hx) hverdict
    · by_cases hverdict : ruleVerdict ep x = .skip
      · exact (merit_lt_of_skip hverdict hmatch).le
      · exact hafter x ⟨hx, hverdict⟩
  · rintro ⟨hmatch, before, after, rfl, hbefore, hafter⟩
    refine ⟨matchingRules ep before, matchingRules ep after, ?_,
      fun x hx => hbefore x (List.mem_filter.mp hx).1,
      fun x hx => hafter x (List.mem_filter.mp hx).1⟩
    rw [List.filter_append, List.filter_cons, if_pos (decide_eq_true hmatch)]
    rfl

end Selection

end IsePortal
