import IsePortal.Library.Runs
import IsePortal.Policy.RuleCache

/-!
# Rule lists and the mutations that have returned

A mutation drops what is cached of its policy set, but a fetch on its way stores the list it was
given. `policy_read_your_writes_iff` says when that shows: a run never caches and never returns a
rule list that was requested before a mutation that had returned exactly when no such list is
delivered.
-/

namespace IsePortal

open Library

/-- The set whose rule list a call waits for. -/
def PolicyAwait.rulesOf : PolicyAwait → Option String
  | .rules policySetId _ => some policySetId
  | _ => none

namespace PolicyTraffic

/-- No rule list is older than a mutation it has to know: a cached one, than a mutation of its set
that has returned, and the list of an answer, than one that had returned when the call was made. -/
structure ReadsOwnMutations (traffic : PolicyTraffic) : Prop where
  cached : ∀ policySetId entry, traffic.caches.rules.get? policySetId = some entry →
    Knows traffic.returned (· = policySetId) entry.2.version
  answered : ∀ answer ∈ traffic.answers, ∀ policySetId rules,
    answer.rules = some (policySetId, rules) → Knows answer.floor (· = policySetId) rules.version

/-- The condition of a step: a rule list is delivered to a call whose request was sent after every
mutation of the set that has returned by then. -/
def NotOvertaken (traffic : PolicyTraffic) : PolicyStep → Prop
  | .deliver readId _ _ =>
      ∀ read issued policySetId, traffic.reads.find? (·.id = readId) = some read →
        read.issued = some issued → read.awaits.rulesOf = some policySetId →
          Knows traffic.returned (· = policySetId) issued
  | _ => True

/-- No call asks for a mutation that has not returned. -/
def Floors (traffic : PolicyTraffic) : Prop :=
  FloorsWithin PolicyRead.floor traffic.returned traffic.reads

variable {traffic next : PolicyTraffic} {floor : List (OwnWrite String)} {now : Time}
  {policySetId : String}

theorem freshHit_eq_some {α : Type} {entry : Option (Time × α)} {value : α}
    (h : freshHit now entry = some value) : ∃ storedAt, entry = some (storedAt, value) := by
  unfold freshHit at h
  split at h
  · next storedAt found =>
      split at h
      · exact ⟨storedAt, by rw [Option.some.inj h]⟩
      · cases h
  · cases h

/-! ## What a call leaves -/

/-- A call returns without a rule list, or with one that knows what it has to. -/
theorem ReadsOwnMutations.answer (h : ReadsOwnMutations traffic)
    {rules : Option (String × Stamped (List PolicyRule))} (result : PolicyResult)
    (hrules : ∀ id list, rules = some (id, list) → Knows floor (· = id) list.version) :
    ReadsOwnMutations (traffic.answer floor rules result) where
  cached := h.cached
  answered := List.forall_mem_cons.mpr ⟨hrules, h.answered⟩

theorem ReadsOwnMutations.cachedPolicySets (h : ReadsOwnMutations traffic) :
    ReadsOwnMutations (traffic.cachedPolicySets floor now) := by
  unfold PolicyTraffic.cachedPolicySets
  split
  · exact h.answer _ fun _ _ hnone => by cases hnone
  · exact ⟨h.cached, h.answered⟩

/-- An entry served from the cache knows every mutation that has returned, so those the call asks
for. -/
theorem ReadsOwnMutations.cachedRules (h : ReadsOwnMutations traffic)
    (hfloor : floor ⊆ traffic.returned) (after : List PolicyRule → PolicyResult) :
    ReadsOwnMutations (traffic.cachedRules floor now policySetId after) := by
  unfold PolicyTraffic.cachedRules
  split
  · next rules hhit =>
      obtain ⟨storedAt, hentry⟩ := freshHit_eq_some hhit
      refine h.answer _ fun id list heq => ?_
      cases heq
      exact (h.cached policySetId _ hentry).of_subset hfloor
  · exact ⟨h.cached, h.answered⟩

theorem ReadsOwnMutations.cachedPolicySet (h : ReadsOwnMutations traffic)
    (hfloor : floor ⊆ traffic.returned)
    (after : PolicySet → List PolicyRule → PolicyResult) :
    ReadsOwnMutations (traffic.cachedPolicySet floor now policySetId after) := by
  unfold PolicyTraffic.cachedPolicySet
  split
  · exact h.cachedRules hfloor _
  · exact ⟨h.cached, h.answered⟩

/-! The floors of the calls in flight. -/

theorem Floors.await (h : Floors traffic) (hfloor : floor ⊆ traffic.returned)
    (awaits : PolicyAwait) : Floors (traffic.await floor awaits now) :=
  FloorsWithin.cons h hfloor

theorem Floors.cachedPolicySets (h : Floors traffic) (hfloor : floor ⊆ traffic.returned) :
    Floors (traffic.cachedPolicySets floor now) := by
  unfold PolicyTraffic.cachedPolicySets
  split
  · exact h
  · exact h.await hfloor _

theorem Floors.cachedRules (h : Floors traffic) (hfloor : floor ⊆ traffic.returned)
    (after : List PolicyRule → PolicyResult) :
    Floors (traffic.cachedRules floor now policySetId after) := by
  unfold PolicyTraffic.cachedRules
  split
  · exact h
  · exact h.await hfloor _

theorem Floors.cachedPolicySet (h : Floors traffic) (hfloor : floor ⊆ traffic.returned)
    (after : PolicySet → List PolicyRule → PolicyResult) :
    Floors (traffic.cachedPolicySet floor now policySetId after) := by
  unfold PolicyTraffic.cachedPolicySet
  split
  · exact h.cachedRules hfloor _
  · exact h.await hfloor _

theorem Floors.leave (h : Floors traffic) (read : PolicyRead) : Floors (traffic.leave read) :=
  FloorsWithin.of_subset h (List.filter_subset_self _)

/-! ## What ISE's answers leave -/

/-- A delivery stores the rule list a call waits for and answers the call with it, or it stores
something else, and the call is answered or goes on to its rule list. -/
theorem store_cases {server : PolicyServer} {read : PolicyRead} {issued : Nat}
    (h : traffic.store server read issued now = some next) :
    (∃ id rules result, next = traffic.storeRules read id rules result ∧
        read.awaits.rulesOf = some id ∧ rules.version = issued) ∨
      (∃ caches result,
        next = { traffic.leave read with caches := caches }.answer read.floor none result ∧
          caches.rules = traffic.caches.rules ∧ read.awaits.rulesOf = none) ∨
      ∃ caches id after,
        next = { traffic.leave read with caches := caches }.cachedRules read.floor now id after ∧
          caches.rules = traffic.caches.rules ∧ read.awaits.rulesOf = none := by
  unfold store at h
  dsimp only at h
  split at h
  · cases h
  · next hawaits =>
      cases h
      exact Or.inr (Or.inl ⟨_, _, rfl, rfl, by rw [hawaits]; rfl⟩)
  · next id after hawaits =>
      obtain ⟨ps, _, rfl⟩ := Option.map_eq_some_iff.mp h
      exact Or.inr (Or.inr ⟨_, _, _, rfl, rfl, by rw [hawaits]; rfl⟩)
  · next id after hawaits =>
      cases h
      exact Or.inl ⟨id, _, _, rfl, by rw [hawaits]; rfl, rfl⟩

/-- A rule list that is stored and returned keeps the property exactly when it knows every mutation
of its set that has returned. -/
theorem reads_storeRules_iff (h : ReadsOwnMutations traffic) {read : PolicyRead}
    (hfloor : read.floor ⊆ traffic.returned) (rules : Stamped (List PolicyRule))
    (result : PolicyResult) :
    ReadsOwnMutations (traffic.storeRules read policySetId rules result) ↔
      Knows traffic.returned (· = policySetId) rules.version := by
  constructor
  · intro hnext
    exact hnext.cached policySetId (read.startedAt, rules) (Dict.get?_set_self _ _ _)
  · intro hknows
    refine ⟨fun id entry hentry => ?_, List.forall_mem_cons.mpr ⟨fun id list heq => ?_, h.answered⟩⟩
    · -- the entry of the set is the new one, the others are as they were
      have hset : (traffic.caches.rules.set policySetId (read.startedAt, rules)).get? id =
          some entry := hentry
      by_cases hid : id = policySetId
      · subst hid
        rw [Dict.get?_set_self] at hset
        cases hset
        exact hknows
      · rw [Dict.get?_set_ne _ _ hid] at hset
        exact h.cached id entry hset
    · cases heq
      exact hknows.of_subset hfloor

/-- A mutation returns over the entries of its set, which it has dropped. -/
theorem ReadsOwnMutations.finish (h : ReadsOwnMutations traffic) (mutation : RuleMutation) :
    ReadsOwnMutations (traffic.finish mutation) := by
  refine ⟨fun id entry hentry => ?_, h.answered⟩
  have hrules : (traffic.caches.rules.erase mutation.policySetId).get? id = some entry := hentry
  by_cases hid : id = mutation.policySetId
  · subst hid
    rw [Dict.get?_erase_self] at hrules
    cases hrules
  · rw [Dict.get?_erase_ne _ hid] at hrules
    exact (h.cached id entry hrules).cons_of_not fun hsame => hid hsame.symm

/-! ## The condition of one step -/

section Steps

variable [PyText] [PyRegex] {history : Nat → PolicyServer}

theorem ReadsOwnMutations.begin (h : ReadsOwnMutations traffic) (call : PolicyCall) :
    ReadsOwnMutations (traffic.begin call now) := by
  have hall : traffic.returned ⊆ traffic.returned := List.Subset.refl _
  cases call with
  | listPolicySets => exact h.cachedPolicySets
  | getPolicySetDetail policySetId => exact h.cachedPolicySet hall _
  | listAuthorizationRules policySetId => exact h.cachedRules hall _
  | matchEndpoint policySetId request =>
      simp only [PolicyTraffic.begin]
      split
      · exact h.cachedPolicySet hall _
      · exact ⟨h.cached, h.answered⟩

theorem Floors.begin (h : Floors traffic) (call : PolicyCall) :
    Floors (traffic.begin call now) := by
  have hall : traffic.returned ⊆ traffic.returned := List.Subset.refl _
  cases call with
  | listPolicySets => exact h.cachedPolicySets hall
  | getPolicySetDetail policySetId => exact h.cachedPolicySet hall _
  | listAuthorizationRules policySetId => exact h.cachedRules hall _
  | matchEndpoint policySetId request =>
      simp only [PolicyTraffic.begin]
      split
      · exact h.cachedPolicySet hall _
      · exact h.await hall _

/-- The endpoint of a simulation is there: the call goes on to the policy set. -/
theorem endpointDone_cases {readId : Nat} {ep : Option PolicyEndpoint}
    (h : traffic.step history (.endpointDone readId ep now) = some next) :
    ∃ read ∈ traffic.reads, ∃ id after,
      next = (traffic.leave read).cachedPolicySet read.floor now id after := by
  simp only [step] at h
  split at h
  · cases h
  · next read hread =>
      split at h
      · cases h
        exact ⟨read, List.mem_of_find?_eq_some hread, _, _, rfl⟩
      · cases h

/-- A delivery is the answer to a request that has been sent. -/
theorem deliver_read {readId version : Nat}
    (h : traffic.step history (.deliver readId version now) = some next) :
    ∃ read issued, traffic.reads.find? (·.id = readId) = some read ∧ read.issued = some issued ∧
      traffic.store (history version) read issued now = some next := by
  simp only [step] at h
  split at h
  · cases h
  · next read hread =>
      split at h
      · cases h
      · next issued hissued =>
          split at h
          · exact ⟨read, issued, hread, hissued, h⟩
          · cases h

/-- Every call in flight keeps asking for mutations that have returned. -/
theorem floors_step {label : PolicyStep} (h : traffic.step history label = some next)
    (hfloors : Floors traffic) : Floors next := by
  cases label with
  | call call now =>
      cases h
      exact hfloors.begin call
  | endpointDone readId ep now =>
      obtain ⟨read, hread, id, after, rfl⟩ := endpointDone_cases h
      exact (hfloors.leave read).cachedPolicySet (hfloors read hread) after
  | deliver readId version now =>
      obtain ⟨read, issued, hread, _, hstore⟩ := deliver_read h
      have hfloor : read.floor ⊆ traffic.returned :=
        hfloors read (List.mem_of_find?_eq_some hread)
      have hleft := hfloors.leave read
      rcases store_cases hstore with ⟨id, rules, result, rfl, _⟩ | ⟨caches, result, rfl, _⟩ |
        ⟨caches, id, after, rfl, _⟩
      · exact hleft
      · exact hleft
      · have hstored : Floors { traffic.leave read with caches := caches } := hleft
        exact hstored.cachedRules hfloor after
  | send readId =>
      cases h
      intro read hread
      obtain ⟨before, hbefore, rfl⟩ := List.mem_map.mp hread
      have hfloor := hfloors before hbefore
      split <;> exact hfloor
  | fail readId =>
      obtain ⟨read, _, rfl⟩ := Option.map_eq_some_iff.mp h
      exact hfloors.leave read
  | finish mutationId =>
      obtain ⟨mutation, _, rfl⟩ := Option.map_eq_some_iff.mp h
      exact FloorsWithin.returns hfloors _
  | commit policySetId | change | abandon mutationId =>
      cases h
      exact hfloors

/-- A step keeps the property exactly under its condition. -/
theorem reads_own_mutations_step {label : PolicyStep}
    (h : traffic.step history label = some next) (hfloors : Floors traffic)
    (hreads : ReadsOwnMutations traffic) : ReadsOwnMutations next ↔ NotOvertaken traffic label := by
  cases label with
  | deliver readId version now =>
      obtain ⟨read, issued, hread, hissued, hstore⟩ := deliver_read h
      have hfloor : read.floor ⊆ traffic.returned :=
        hfloors read (List.mem_of_find?_eq_some hread)
      have hcond : NotOvertaken traffic (.deliver readId version now) ↔
          ∀ id, read.awaits.rulesOf = some id → Knows traffic.returned (· = id) issued := by
        constructor
        · intro hcond id hawaits
          exact hcond read issued id hread hissued hawaits
        · intro hcond found at_ id hfound hat hawaits
          cases hread.symm.trans hfound
          cases hissued.symm.trans hat
          exact hcond id hawaits
      rw [hcond]
      rcases store_cases hstore with ⟨id, rules, result, rfl, hawaits, hversion⟩ |
        ⟨caches, result, rfl, hrules, hawaits⟩ | ⟨caches, id, after, rfl, hrules, hawaits⟩
      · rw [reads_storeRules_iff hreads hfloor, hawaits, hversion]
        simp
      -- the rule lists in the cache are the ones from before
      · have hleft : ReadsOwnMutations { traffic.leave read with caches := caches } :=
          ⟨fun id entry hentry => hreads.cached id entry (hrules ▸ hentry), hreads.answered⟩
        refine iff_of_true (hleft.answer result fun _ _ hnone => by cases hnone) ?_
        rw [hawaits]
        exact fun _ hnone => by cases hnone
      · have hleft : ReadsOwnMutations { traffic.leave read with caches := caches } :=
          ⟨fun id entry hentry => hreads.cached id entry (hrules ▸ hentry), hreads.answered⟩
        refine iff_of_true (hleft.cachedRules hfloor after) ?_
        rw [hawaits]
        exact fun _ hnone => by cases hnone
  | call call now =>
      cases h
      exact iff_of_true (hreads.begin call) trivial
  | endpointDone readId ep now =>
      obtain ⟨read, hread, id, after, rfl⟩ := endpointDone_cases h
      have hleft : ReadsOwnMutations (traffic.leave read) := ⟨hreads.cached, hreads.answered⟩
      exact iff_of_true (hleft.cachedPolicySet (hfloors read hread) after) trivial
  | fail readId =>
      obtain ⟨read, _, rfl⟩ := Option.map_eq_some_iff.mp h
      exact iff_of_true ⟨hreads.cached, hreads.answered⟩ trivial
  | finish mutationId =>
      obtain ⟨mutation, _, rfl⟩ := Option.map_eq_some_iff.mp h
      exact iff_of_true (hreads.finish mutation) trivial
  | send readId | commit policySetId | change | abandon mutationId =>
      cases h
      exact iff_of_true ⟨hreads.cached, hreads.answered⟩ trivial

/-! ## Whole runs -/

/-- In every run from empty caches: no rule list of a cache or an answer is older than a mutation
it has to know exactly when no list is delivered that was requested before a mutation of its set
that has returned. -/
theorem policy_read_your_writes_iff (history : Nat → PolicyServer) (labels : List PolicyStep) :
    Always (step · history) ReadsOwnMutations {} labels ↔
      Guarded (step · history) NotOvertaken {} labels := by
  refine always_iff_guarded (fun _ _ _ h => floors_step h)
    (fun _ _ _ h => reads_own_mutations_step h) ?_ ?_
  · exact fun read hread => by cases hread
  · exact ⟨fun _ _ hnone => (by cases hnone), fun _ hanswer => (by cases hanswer)⟩

end Steps

/-! ## An overtaken rule list -/

local instance overtakenText : PyText := asciiText

local instance overtakenRegex : PyRegex := noPatterns

/-- The policy before and after the first change: its only rule gets another name. -/
def renamedRule (version : Nat) : PolicyServer where
  policySets := [{ id := "ps-1", name := "Wired" }]
  rulesOf _ := [{ id := "rule-1", name := if version = 0 then "before" else "after", rank := 0 }]

/-- A list of the rules is on its way while a mutation takes place from beginning to end, and the
rules are listed again two seconds later. -/
def overtakenRun : List PolicyStep :=
  [.call (.listAuthorizationRules "ps-1") 0, .send 0, .commit "ps-1", .finish 1, .deliver 0 0 1,
    .call (.listAuthorizationRules "ps-1") 2]

/-- What is looked at of an answer: the mutations it had to know, how many changes its rules know,
and their names. -/
structure ObservedAnswer where
  floor : List (String × Nat)
  rules : Option (String × Nat)
  names : Option (List String)
  deriving DecidableEq

def observedAnswer (answer : PolicyAnswer) : ObservedAnswer where
  floor := answer.floor.map fun write => (write.key, write.version)
  rules := answer.rules.map fun rules => (rules.1, rules.2.version)
  names := answer.rules.map fun rules => rules.2.value.map PolicyRule.name

/-- The second call, made after the mutation had returned, lists the rule as it was before. -/
theorem overtaken_rules_are_listed :
    (run (step · renamedRule) {} overtakenRun).map (·.answers.map observedAnswer) =
        some [⟨[("ps-1", 1)], some ("ps-1", 0), some ["before"]⟩,
          ⟨[], some ("ps-1", 0), some ["before"]⟩] ∧
      ¬ Always (step · renamedRule) ReadsOwnMutations {} overtakenRun := by
  have hrun : (run (step · renamedRule) {} overtakenRun).map (·.answers.map observedAnswer) =
      some [⟨[("ps-1", 1)], some ("ps-1", 0), some ["before"]⟩,
        ⟨[], some ("ps-1", 0), some ["before"]⟩] := by
    with_unfolding_all decide
  refine ⟨hrun, ?_⟩
  intro halways
  obtain ⟨final, hfinal, hanswers⟩ := Option.map_eq_some_iff.mp hrun
  obtain ⟨answer, older, heq, hanswer, _⟩ := List.map_eq_cons_iff.mp hanswers
  simp only [observedAnswer, ObservedAnswer.mk.injEq] at hanswer
  obtain ⟨hfloor, hrules, _⟩ := hanswer
  obtain ⟨write, _, hwrites, hwrite, _⟩ := List.map_eq_cons_iff.mp hfloor
  obtain ⟨⟨policySetId, rules⟩, hlist, hversion⟩ := Option.map_eq_some_iff.mp hrules
  simp only [Prod.mk.injEq] at hwrite hversion
  -- the list knows no change, and the answer had to know the first one
  have hmem : answer ∈ final.answers := heq ▸ List.mem_cons_self
  have hknows := (halways.last hfinal).answered answer hmem policySetId rules hlist write
    (hwrites ▸ List.mem_cons_self) (hwrite.1.trans hversion.1.symm)
  omega

end PolicyTraffic

end IsePortal
