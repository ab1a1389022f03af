import IsePortal.Library.Origins
import IsePortal.Policy.RuleCache

/-!
# Where policy reads come from

The policy caches of `services/policy_service.py` with the source of every entry, and the reading
calls as the lookups they make one after the other. A call goes on for as long as the caches serve
its lookups, and then waits for ISE's answer, which is stored under the time the lookup was begun.

What a call is given and what the caches hold come from where the entries it was served come from,
and from the service it asks.
-/

namespace IsePortal.PolicyReads

open Library

variable {ω : Type}

/-- `_sets_cache`, `_ps_cache` and `_rules_cache`. -/
structure PolicyStore (ω : Type) where
  sets : Option (Time × Sourced ω (List PolicySet)) := none
  policySets : Dict String (Time × Sourced ω PolicySet) := Dict.empty
  rules : Dict String (Time × Sourced ω (List PolicyRule)) := Dict.empty

/-- `invalidate_policy_cache` -/
def PolicyStore.invalidate (store : PolicyStore ω) (policySetId : Option String) : PolicyStore ω :=
  match policySetId with
  | none => {}
  | some id =>
      { sets := none, policySets := store.policySets.erase id, rules := store.rules.erase id }

/-- What is left of a call to the service: its next lookup, with what it does with the result. -/
inductive PolicyPlan where
  | answer (result : PolicyResult)
  /-- `_fetch_ep_from_ise`; `none` is a fetch that raised. -/
  | endpoint (endpointId : String) (next : Option PolicyEndpoint → PolicyPlan)
  /-- `_cached_policy_sets` -/
  | sets (next : List PolicySet → PolicyPlan)
  /-- `_cached_policy_set` -/
  | policySet (policySetId : String) (next : PolicySet → PolicyPlan)
  /-- `_cached_rules` -/
  | rules (policySetId : String) (next : List PolicyRule → PolicyPlan)

/-- The result of a call that has nothing left to look up. -/
def PolicyPlan.result? : PolicyPlan → Option PolicyResult
  | .answer result => some result
  | _ => none

/-- The reading calls of the service. -/
inductive PolicyQuery where
  | listPolicySets
  | getPolicySetDetail (policySetId : String)
  | listAuthorizationRules (policySetId : String)
  | matchEndpoint (policySetId : String) (request : MatchRequest)
  | matchAll (request : MatchRequest)

section Queries

variable [PyText] [PyRegex]

/-- `match_endpoint` -/
def matchEndpointPlan (policySetId : String) (request : MatchRequest)
    (after : PolicyMatchResult → PolicyPlan) : PolicyPlan :=
  let matchWith (ep : Option PolicyEndpoint) : PolicyPlan :=
    .policySet policySetId fun ps => .rules policySetId fun rules =>
      after (IsePortal.matchEndpoint (fun _ => ep) policySetId ps.name rules request)
  if request.endpointId = "" then matchWith none else .endpoint request.endpointId matchWith

/-- The loop of `match_all`. -/
def matchSetsPlan (request : MatchRequest) :
    List PolicySet → List String → Option PolicyMatchResult → PolicyPlan
  | [], needed, last =>
      let base := last.getD { policySetId := "", policySetName := "" }
      .answer (.matched
        { base with
          matchedRule := base.matchedRule.map fun rule => { rule with id := "", name := "" }
          noRules := false
          radiusAttrsNeeded := sortedNames needed })
  | s :: rest, needed, _ =>
      matchEndpointPlan s.id request fun result =>
        let needed := needed ++ result.radiusAttrsNeeded
        if result.isHit then
          .answer (.matched { result with radiusAttrsNeeded := sortedNames needed })
        else matchSetsPlan request rest needed (some result)

/-- `match_all` -/
def matchAllPlan (request : MatchRequest) : PolicyPlan :=
  let matchIn (request : MatchRequest) : PolicyPlan :=
    .sets fun sets => matchSetsPlan request (orderedSets sets) [] none
  if request.endpointId = "" then matchIn request
  else .endpoint request.endpointId fun ep => matchIn (fetchedRequest (fun _ => ep) request)

/-- A call as its lookups. -/
def PolicyQuery.plan : PolicyQuery → PolicyPlan
  | .listPolicySets => .sets fun sets => .answer (.sets (listedSets sets))
  | .getPolicySetDetail policySetId =>
      .policySet policySetId fun ps => .rules policySetId fun rules => .answer (.detail ps rules)
  | .listAuthorizationRules policySetId => .rules policySetId fun rules => .answer (.rules rules)
  | .matchEndpoint policySetId request =>
      matchEndpointPlan policySetId request fun result => .answer (.matched result)
  | .matchAll request => matchAllPlan request

end Queries

/-- Go on with a call for as long as the caches serve its lookups, collecting the sources of what
they give. -/
def PolicyStore.serve (store : PolicyStore ω) (now : Time) :
    PolicyPlan → List ω → List ω × PolicyPlan
  | .answer result, used => (used, .answer result)
  | .endpoint endpointId next, used => (used, .endpoint endpointId next)
  | .sets next, used =>
      match freshHit now store.sets with
      | some sets => store.serve now (next sets.value) (sets.source :: used)
      | none => (used, .sets next)
  | .policySet policySetId next, used =>
      match freshHit now (store.policySets.get? policySetId) with
      | some ps => store.serve now (next ps.value) (ps.source :: used)
      | none => (used, .policySet policySetId next)
  | .rules policySetId next, used =>
      match freshHit now (store.rules.get? policySetId) with
      | some rules => store.serve now (next rules.value) (rules.source :: used)
      | none => (used, .rules policySetId next)

/-- What ISE answers to a lookup. -/
inductive PolicyData where
  | endpoint (ep : Option PolicyEndpoint)
  | sets (sets : List PolicySet)
  | policySet (ps : PolicySet)
  | rules (rules : List PolicyRule)

/-- A call in flight, waiting for the first lookup of its plan since `startedAt`. `used` has the
sources of what it has been given so far. -/
structure PolicyWait (ω : Type) where
  id : Nat
  service : ω
  plan : PolicyPlan
  startedAt : Time
  used : List ω

/-- The sources of what the call has been given, with the answer it waits for. -/
def PolicyWait.usedWith (read : PolicyWait ω) : PolicyData → List ω
  | .endpoint none => read.used
  | _ => read.service :: read.used

/-- ISE's answer is stored under the time the lookup was begun; the call goes on with it. -/
def PolicyStore.resume (store : PolicyStore ω) (read : PolicyWait ω) (data : PolicyData) :
    Option (PolicyStore ω × PolicyPlan) :=
  match read.plan, data with
  | .endpoint _ next, .endpoint ep => some (store, next ep)
  | .sets next, .sets sets =>
      some ({ store with sets := some (read.startedAt, { value := sets, source := read.service }) },
        next sets)
  | .policySet policySetId next, .policySet ps =>
      some ({ store with
          policySets := store.policySets.set policySetId
            (read.startedAt, { value := ps, source := read.service }) },
        next ps)
  | .rules policySetId next, .rules answered =>
      let rules := IsePortal.listAuthorizationRules answered
      some ({ store with
          rules := store.rules.set policySetId
            (read.startedAt, { value := rules, source := read.service }) },
        next rules)
  | _, _ => none

/-- The source of everything in the policy caches meets the condition. -/
structure PolicyStore.From (store : PolicyStore ω) (ok : ω → Prop) : Prop where
  sets : ∀ entry, store.sets = some entry → ok entry.2.source
  policySets : store.policySets.Each fun entry => ok entry.2.source
  rules : store.rules.Each fun entry => ok entry.2.source

variable {store : PolicyStore ω} {ok fine : ω → Prop}

theorem PolicyStore.From.mono (h : store.From ok) (himp : ∀ target, ok target → fine target) :
    store.From fine where
  sets entry hentry := himp _ (h.sets entry hentry)
  policySets := h.policySets.mono fun entry => himp entry.2.source
  rules := h.rules.mono fun entry => himp entry.2.source

theorem PolicyStore.From.invalidate (h : store.From ok) (policySetId : Option String) :
    (store.invalidate policySetId).From ok := by
  cases policySetId with
  | none => exact ⟨fun _ hentry => (nomatch hentry), Dict.each_empty, Dict.each_empty⟩
  | some id => exact ⟨fun _ hentry => (nomatch hentry), h.policySets.erase id, h.rules.erase id⟩

theorem mem_of_freshHit {β : Type} {now : Time} {entry : Option (Time × β)} {value : β}
    (h : freshHit now entry = some value) : ∃ storedAt, entry = some (storedAt, value) := by
  unfold freshHit at h
  split at h
  · split at h
    · cases h
      exact ⟨_, rfl⟩
    · cases h
  · cases h

/-- What the caches serve a call with comes from where their entries come from. -/
theorem PolicyStore.From.serve (h : store.From ok) (now : Time) (plan : PolicyPlan)
    {used : List ω} (hused : ∀ source ∈ used, ok source) :
    ∀ source ∈ (store.serve now plan used).1, ok source := by
  induction plan generalizing used with
  | answer result => exact hused
  | endpoint endpointId next _ => exact hused
  | sets next ih =>
      rw [PolicyStore.serve]
      split
      · rename_i sets hhit
        obtain ⟨storedAt, hentry⟩ := mem_of_freshHit hhit
        exact ih _ (List.forall_mem_cons.mpr ⟨h.sets _ hentry, hused⟩)
      · exact hused
  | policySet policySetId next ih =>
      rw [PolicyStore.serve]
      split
      · rename_i ps hhit
        obtain ⟨storedAt, hentry⟩ := mem_of_freshHit hhit
        exact ih _ (List.forall_mem_cons.mpr ⟨h.policySets _ _ hentry, hused⟩)
      · exact hused
  | rules policySetId next ih =>
      rw [PolicyStore.serve]
      split
      · rename_i rules hhit
        obtain ⟨storedAt, hentry⟩ := mem_of_freshHit hhit
        exact ih _ (List.forall_mem_cons.mpr ⟨h.rules _ _ hentry, hused⟩)
      · exact hused

end IsePortal.PolicyReads
